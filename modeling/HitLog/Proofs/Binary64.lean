import HitLog.Metric

/-!
# Words as floating-point numbers

A count is sent as the floating-point number nearest to it. On its way a negative zero loses its
sign, and no count is concerned: a word that is not zero does not become a zero of either sign, and
zero becomes the positive one.

A word becomes a mantissa and an exponent, which are shifted and rounded until they fit
(`Binary64.Fits`) and are then packed. Fitting is what rounding ends with, what packing needs and
what unpacking gives back, and nothing that is not zero is rounded to zero on the way, because the
exponents of words are nowhere near the least one.

## Main definitions

* `Binary64.Fits` — a mantissa and an exponent that can be packed
* `Binary64.Regular`, `Binary64.Nonzero` — numbers other than zero, unpacked and by their bits

## Main results

* `Binary64.regular_ofNat` — a number that is not zero is not rounded to zero
* `Binary64.nonzero_pack`, `Binary64.regular_unpack` — packing and unpacking keep that
* `Binary64.bits_ofInt64_ne` — no word becomes negative zero
-/

namespace HitLog

namespace Binary64

open Float.Model Float.Model.UnpackedFloat

/-! ### Rounding -/

/-- Shifting drops the last binary places of a mantissa. -/
theorem mantissa_shiftRight (em : ExtendedMantissa) (k : Nat) :
    (em >>> k).mantissa = em.mantissa >>> k := by
  induction k with
  | zero => rfl
  | succ k ih =>
    have hstep : (em >>> (k + 1)).mantissa = (em >>> k).mantissa / 2 := rfl
    rw [hstep, ih, Nat.shiftRight_succ]

theorem mantissa_le_roundedMantissa (em : ExtendedMantissa) : em.mantissa ≤ em.roundedMantissa := by
  obtain ⟨m, roundBit, stickyBit⟩ := em
  cases roundBit <;> cases stickyBit
  · exact Nat.le_refl m
  · exact Nat.le_refl m
  · exact Nat.le_add_right m (m % 2)
  · exact Nat.le_add_right m 1

/-- A mantissa of at most 53 binary places, with an exponent that is not below the least one. -/
structure Fits (m : Nat) (e : Int) : Prop where
  mantissa : m.log2 ≤ 52
  exponent : -1074 ≤ e

theorem targetExponent_eq (m : Nat) (e : Int) :
    Format.binary64.targetExponent (totalExponent m e) = max (m.log2 - 52 + e) (-1074) := by
  rw [Format.targetExponent, totalExponent]
  show max ((m.log2 : Int) + 1 + e - 53) (-1074) = _
  congr 1
  omega

/-- By how much a mantissa is shifted. -/
def places (m : Nat) (e : Int) : Nat := (max (m.log2 - 52 + e) (-1074) - e).toNat

theorem shiftToTargetExponent_eq (m : Nat) (e : Int) (accuracy : Accuracy) :
    (shiftToTargetExponent .binary64 m e accuracy).1.mantissa = m >>> places m e ∧
      (shiftToTargetExponent .binary64 m e accuracy).2 = e + places m e := by
  rw [shiftToTargetExponent, shiftToExponent, targetExponent_eq]
  refine ⟨?_, rfl⟩
  rw [mantissa_shiftRight]
  cases accuracy with
  | exact => rfl
  | inexact o => cases o <;> rfl

theorem log2_le_of_lt {m k : Nat} (h : m < Nat.pow 2 (k + 1)) : m.log2 ≤ k := by
  by_cases hm : m = 0
  · rw [hm]
    exact Nat.zero_le k
  · exact Nat.le_of_lt_succ ((Nat.log2_lt hm).mpr h)

/-- What was shifted to its target exponent fits. -/
theorem fits_shift (m : Nat) (e : Int) : Fits (m >>> places m e) (e + places m e) where
  mantissa := by
    have hplaces : m.log2 ≤ 52 + places m e := by rw [places]; omega
    rw [Nat.shiftRight_eq_div_pow]
    refine log2_le_of_lt (Nat.div_lt_of_lt_mul (Nat.lt_of_lt_of_le Nat.lt_log2_self ?_))
    show 2 ^ (m.log2 + 1) ≤ 2 ^ places m e * 2 ^ 53
    rw [← Nat.pow_add]
    exact Nat.pow_le_pow_right (by decide) (by omega)
  exponent := by rw [places]; omega

/-- An exponent that is not too small keeps the first place of a mantissa. -/
theorem shift_ne_zero {m : Nat} (hm : m ≠ 0) {e : Int} (he : -1074 ≤ e) :
    m >>> places m e ≠ 0 := by
  have hplaces : places m e ≤ m.log2 := by rw [places]; omega
  rw [Nat.shiftRight_eq_div_pow]
  refine Nat.ne_of_gt (Nat.div_pos ?_ (Nat.two_pow_pos _))
  exact Nat.le_trans (Nat.pow_le_pow_right (by decide) hplaces) (Nat.log2_self_le hm)

/-- A number that is not zero and can be packed, or no number. -/
def Regular : UnpackedFloat → Prop
  | .zero _ => False
  | .finite _ m e _ => Fits m e
  | _ => True

/-- Rounding ends with what fits. The mantissa is shifted, rounded and shifted once more, in case
rounding gave it another place. -/
theorem regular_roundWithAccuracy (s : Sign) {m : Nat} (hm : m ≠ 0) {e : Int} (he : -1074 ≤ e)
    (accuracy : Accuracy) : Regular (roundWithAccuracy .binary64 s m e accuracy) := by
  obtain ⟨hmantissa, hexponent⟩ := shiftToTargetExponent_eq m e accuracy
  rw [roundWithAccuracy]
  generalize shiftToTargetExponent .binary64 m e accuracy = shifted at hmantissa hexponent ⊢
  obtain ⟨em, e'⟩ := shifted
  dsimp only at hmantissa hexponent ⊢
  have hne : em.roundedMantissa ≠ 0 := by
    have := mantissa_le_roundedMantissa em
    have := shift_ne_zero hm he
    omega
  have he' : -1074 ≤ e' := hexponent ▸ (fits_shift m e).exponent
  obtain ⟨hmantissa', hexponent'⟩ := shiftToTargetExponent_eq em.roundedMantissa e' .exact
  rw [dif_neg (hmantissa' ▸ shift_ne_zero hne he')]
  have hfits := fits_shift em.roundedMantissa e'
  rwa [← hmantissa', ← hexponent'] at hfits

theorem regular_round (s : Sign) {m : Nat} (hm : m ≠ 0) {e : Int} (he : -1074 ≤ e) :
    Regular (UnpackedFloat.round .binary64 s m e) := by
  rw [UnpackedFloat.round, targetExponent_eq, decreaseExponent]
  refine regular_roundWithAccuracy s ?_ (by omega) .exact
  rw [Nat.shiftLeft_eq]
  exact Nat.mul_ne_zero hm (Nat.ne_of_gt (Nat.two_pow_pos _))

/-- **A number that is not zero is not rounded to zero.** -/
theorem regular_ofNat {n : Nat} (hn : n ≠ 0) : Regular (UnpackedFloat.ofNat .binary64 n) := by
  have hpos : compare (n : Int) 0 = .gt := by
    rw [Int.compare_eq_gt]
    omega
  rw [UnpackedFloat.ofNat, UnpackedFloat.ofInt, UnpackedFloat.normalize, hpos]
  exact regular_round .positive (by simpa using hn) (by decide)

theorem regular_neg {x : UnpackedFloat} (h : Regular x) : Regular x.neg := by
  cases x with
  | zero s => exact h
  | finite s m e hm => exact h
  | infinity s => trivial
  | notANumber => trivial

/-! ### Bits -/

/-- The bits are not those of a zero. -/
def Nonzero (b : BitVec 64) : Prop :=
  @unpackExponent .binary64 b ≠ 0#11 ∨ @unpackMantissa .binary64 b ≠ 0#52

theorem nonzero_packComponents {s : Sign} {exponent : BitVec 11} {mantissa : BitVec 52}
    (h : exponent ≠ 0#11 ∨ mantissa ≠ 0#52) :
    Nonzero (packComponents .binary64 s exponent mantissa) := by
  rwa [Nonzero, unpackExponent_packComponents, unpackMantissa_packComponents]

theorem exponentBias_eq : Format.binary64.exponentBias = 1023 := rfl

/-- **What can be packed and is not zero is not packed as zero.** -/
theorem nonzero_pack {x : UnpackedFloat} (h : Regular x) :
    Nonzero (UnpackedFloat.pack .binary64 x) := by
  cases x with
  | zero s => exact h.elim
  | infinity s => exact nonzero_packComponents (.inl (by decide))
  | notANumber => exact nonzero_packComponents (.inl (by decide))
  | finite s m e hm =>
    obtain ⟨hmantissa, hexponent⟩ := h
    delta UnpackedFloat.pack
    rw [exponentBias_eq]
    dsimp only
    split
    · exact nonzero_packComponents (.inl (by decide))
    next hlarge =>
    split
    · refine nonzero_packComponents (.inl fun hzero => ?_)
      have hbiased := congrArg BitVec.toNat hzero
      rw [BitVec.toNat_ofNat, BitVec.toNat_zero] at hbiased
      omega
    · next hsubnormal =>
      have hlog : m.log2 < 52 := Nat.lt_of_le_of_ne hmantissa fun h => hsubnormal (by rw [h]; rfl)
      have hlt : m < 2 ^ 52 := (Nat.log2_lt (Nat.ne_of_gt hm)).mp hlog
      refine nonzero_packComponents (.inr fun hzero => ?_)
      have hmod := congrArg BitVec.toNat hzero
      rw [BitVec.toNat_ofNat, Nat.mod_eq_of_lt hlt, BitVec.toNat_zero] at hmod
      omega

/-- What is unpacked can be packed. -/
theorem regular_unpack {b : BitVec 64} (h : Nonzero b) :
    Regular (UnpackedFloat.unpack .binary64 b) := by
  delta UnpackedFloat.unpack
  rw [exponentBias_eq]
  dsimp only
  by_cases hlargest : @unpackExponent .binary64 b = -1#11
  · rw [if_pos hlargest]
    split <;> trivial
  rw [if_neg hlargest]
  by_cases hexponent : @unpackExponent .binary64 b = 0#11
  · rw [if_pos hexponent, dif_neg (h.resolve_left (absurd hexponent))]
    exact ⟨log2_le_of_lt (Nat.lt_trans (BitVec.isLt _) (by decide)), by omega⟩
  · rw [if_neg hexponent]
    have hpos : 0 < (@unpackExponent .binary64 b).toNat :=
      Nat.pos_of_ne_zero fun hzero => hexponent (BitVec.eq_of_toNat_eq hzero)
    exact ⟨log2_le_of_lt (BitVec.isLt _), by omega⟩

theorem ne_of_nonzero {b : BitVec 64} (h : Nonzero b) : b ≠ 0x8000000000000000#64 := by
  rintro rfl
  exact absurd h (by rw [Nonzero]; decide)

theorem toUInt64_ne_zero {c : Int64} (h : c ≠ 0) : c.toUInt64 ≠ 0 := by
  intro hzero
  obtain ⟨n⟩ := c
  exact h (congrArg Int64.ofUInt64 hzero)

/-- **No word becomes negative zero.** -/
theorem bits_ofInt64_ne (c : Int64) : (ofInt64 c).bits ≠ 0x8000000000000000 := by
  have hword {n : UInt64} (hn : n ≠ 0) : Nonzero n.toFloat.toBits.toBitVec :=
    nonzero_pack (regular_ofNat fun hzero => hn (UInt64.toNat_inj.mp hzero))
  have hbits {x : Float} (h : Nonzero x.toBits.toBitVec) :
      (ofFloat x).bits ≠ 0x8000000000000000 :=
    fun heq => ne_of_nonzero h (congrArg UInt64.toBitVec heq)
  rw [ofInt64]
  split
  · next hneg =>
    have hne : -c ≠ 0 := by
      intro hzero
      have hc : c = 0 := by rw [← Int64.neg_neg (a := c), hzero]; rfl
      exact absurd (hc ▸ hneg) (by decide)
    exact hbits (nonzero_pack (regular_neg (regular_unpack (hword (toUInt64_ne_zero hne)))))
  · by_cases hzero : c = 0
    · rw [hzero]
      decide +kernel
    · exact hbits (hword (toUInt64_ne_zero hzero))

theorem dropZeroSign_ofInt64 (c : Int64) : (ofInt64 c).dropZeroSign = ofInt64 c :=
  if_neg (bits_ofInt64_ne c)

end Binary64

end HitLog
