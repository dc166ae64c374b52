import HitLog.Text.Blank

/-!
# Blank texts

A line is blank when the decoder finds white space characters only. Said without the decoder: it is
the encoding of white space characters. The two agree because reading a character and writing it
undo each other, and that is shown through a third description of a sequence, `Utf8.Octets`, which
has one case per length and names the numbers that the octets carry. Neither the decoder nor the
encoder is taken apart anywhere else.

## Main definitions

* `Utf8.IsScalar` — the code points that have octets of their own
* `Utf8.Octets` — a code point with its octets, by their number

## Main results

* `Utf8.octets_encode`, `Utf8.sequence?_eq_some_iff` — what is written, and what is read
* `Blank.isBlank_iff` — blank texts are encodings of white space
* `Blank.isBlank_eq_false_of_mem` — a text with a visible character is not blank
* `Blank.isBlank_concat` — white space of one octet may follow
-/

namespace HitLog

namespace Utf8

/-- The code points that have octets of their own. -/
def IsScalar (code : Nat) : Prop := code < 0xD800 ∨ 0xDFFF < code ∧ code ≤ 0x10FFFF

/-- A code point with its octets. Each octet carries a number behind a mark that tells its place; a
code point has only its shortest form, and surrogates have none. -/
inductive Octets : Nat → Text → Prop where
  | one {n : Nat} : n < 0x80 → Octets n [n.toUInt8]
  | two {k n : Nat} : 2 ≤ k → k < 32 → n < 64 →
    Octets (k * 64 + n) [(0xC0 + k).toUInt8, (0x80 + n).toUInt8]
  | three {k m n : Nat} : k < 16 → m < 64 → n < 64 → (k = 0 → 32 ≤ m) → (k = 13 → m < 32) →
    Octets ((k * 64 + m) * 64 + n) [(0xE0 + k).toUInt8, (0x80 + m).toUInt8, (0x80 + n).toUInt8]
  | four {j k m n : Nat} : j < 5 → k < 64 → m < 64 → n < 64 → (j = 0 → 16 ≤ k) →
    (j = 4 → k < 16) → Octets (((j * 64 + k) * 64 + m) * 64 + n)
      [(0xF0 + j).toUInt8, (0x80 + k).toUInt8, (0x80 + m).toUInt8, (0x80 + n).toUInt8]

/-! ### Single octets -/

theorem toNat_toUInt8 {n : Nat} (h : n < 256) : n.toUInt8.toNat = n := UInt8.toNat_ofNat_of_lt h

theorem toUInt8_toNat (a : UInt8) : a.toNat.toUInt8 = a := UInt8.ofNat_toNat

theorem between_iff {lo hi a : UInt8} :
    (lo ≤ a && a ≤ hi) = true ↔ lo.toNat ≤ a.toNat ∧ a.toNat ≤ hi.toNat := by
  simp [UInt8.le_iff_toNat_le]

theorem not_between {lo hi a : UInt8} (h : hi.toNat < a.toNat) :
    ¬ (lo ≤ a && a ≤ hi) = true := by
  rw [between_iff]
  omega

theorem not_lt_of_le_toNat {a : UInt8} (h : 0x80 ≤ a.toNat) : ¬ a < 0x80 :=
  UInt8.not_lt.mpr (UInt8.le_iff_toNat_le.mpr h)

theorem low_toUInt8 {n : Nat} (h : n < 64) : low (0x80 + n).toUInt8 = n := by
  have hn : (0x80 + n).toUInt8.toNat = 0x80 + n := toNat_toUInt8 (by omega)
  unfold low
  omega

theorem isContinuation_toUInt8 {n : Nat} (h : n < 64) :
    isContinuation (0x80 + n).toUInt8 = true := by
  rw [isContinuation, between_iff, toNat_toUInt8 (by omega)]
  simp
  omega

theorem isContinuation_iff {b : UInt8} :
    isContinuation b = true ↔ 0x80 ≤ b.toNat ∧ b.toNat ≤ 0xBF := between_iff

theorem isSecond_iff {a b : UInt8} : isSecond a b = true ↔ isContinuation b = true ∧
    (a.toNat = 0xE0 → 0xA0 ≤ b.toNat) ∧ (a.toNat = 0xF0 → 0x90 ≤ b.toNat) ∧
      (a.toNat = 0xED → b.toNat ≤ 0x9F) ∧ (a.toNat = 0xF4 → b.toNat ≤ 0x8F) := by
  have hite : isSecond a b = true ↔
      (if a.toNat = 0xE0 then 0xA0 else if a.toNat = 0xF0 then 0x90 else 0x80) ≤ b.toNat ∧
        b.toNat ≤ (if a.toNat = 0xED then 0x9F else if a.toNat = 0xF4 then 0x8F else 0xBF) := by
    simp only [isSecond, between_iff, ← UInt8.toNat_inj, apply_ite UInt8.toNat]
    rfl
  rw [hite, isContinuation_iff]
  grind

theorem exists_of_isContinuation {b : UInt8} (h : isContinuation b = true) :
    ∃ n, n < 64 ∧ b = (0x80 + n).toUInt8 := by
  rw [isContinuation_iff] at h
  refine ⟨b.toNat - 0x80, by omega, ?_⟩
  rw [show 0x80 + (b.toNat - 0x80) = b.toNat by omega, toUInt8_toNat]

/-! ### Reading -/

/-- The octets of a code point are read as it, whatever stands behind them. -/
theorem Octets.sequence?_append {code : Nat} {s : Text} (h : Octets code s) (t : Text) :
    sequence? (s ++ t) = some (code, t) := by
  cases h with
  | one hn =>
    have ha : code.toUInt8.toNat = code := toNat_toUInt8 (by omega)
    unfold sequence?
    simp only [List.cons_append, List.nil_append, UInt8.lt_iff_toNat_lt, ha]
    exact if_pos hn
  | @two k n hk hk' hn =>
    have ha : (0xC0 + k).toUInt8.toNat = 0xC0 + k := toNat_toUInt8 (by omega)
    have hlead : (0xC0 + k).toUInt8.toNat - 0xC0 = k := by omega
    unfold sequence?
    simp only [List.cons_append, List.nil_append]
    rw [if_neg (not_lt_of_le_toNat (by omega)), if_pos (between_iff.mpr (by rw [ha]; simp; omega)),
      if_pos (isContinuation_toUInt8 hn), hlead, low_toUInt8 hn]
  | @three k m n hk hm hn hlow hsur =>
    have ha : (0xE0 + k).toUInt8.toNat = 0xE0 + k := toNat_toUInt8 (by omega)
    have hb : (0x80 + m).toUInt8.toNat = 0x80 + m := toNat_toUInt8 (by omega)
    have hlead : (0xE0 + k).toUInt8.toNat - 0xE0 = k := by omega
    have hsecond : isSecond (0xE0 + k).toUInt8 (0x80 + m).toUInt8 = true :=
      isSecond_iff.mpr ⟨isContinuation_toUInt8 hm, by omega⟩
    unfold sequence?
    simp only [List.cons_append, List.nil_append]
    rw [if_neg (not_lt_of_le_toNat (by omega)), if_neg (not_between (by rw [ha]; simp; omega)),
      if_pos (between_iff.mpr (by rw [ha]; simp; omega)), hsecond, isContinuation_toUInt8 hn,
      Bool.and_self, if_pos rfl, hlead, low_toUInt8 hm, low_toUInt8 hn]
  | @four j k m n hj hk hm hn hlow hhigh =>
    have ha : (0xF0 + j).toUInt8.toNat = 0xF0 + j := toNat_toUInt8 (by omega)
    have hb : (0x80 + k).toUInt8.toNat = 0x80 + k := toNat_toUInt8 (by omega)
    have hlead : (0xF0 + j).toUInt8.toNat - 0xF0 = j := by omega
    have hsecond : isSecond (0xF0 + j).toUInt8 (0x80 + k).toUInt8 = true :=
      isSecond_iff.mpr ⟨isContinuation_toUInt8 hk, by omega⟩
    unfold sequence?
    simp only [List.cons_append, List.nil_append]
    rw [if_neg (not_lt_of_le_toNat (by omega)), if_neg (not_between (by rw [ha]; simp; omega)),
      if_neg (not_between (by rw [ha]; simp; omega)),
      if_pos (between_iff.mpr (by rw [ha]; simp; omega)), hsecond, isContinuation_toUInt8 hm,
      isContinuation_toUInt8 hn, Bool.and_self, Bool.and_self, if_pos rfl, hlead, low_toUInt8 hk,
      low_toUInt8 hm, low_toUInt8 hn]

/-- An octet below 128 is a character of its own wherever it stands: the longer sequences hold only
larger octets. -/
theorem Octets.toNat_eq_of_mem {code : Nat} {s : Text} (h : Octets code s) {b : UInt8} (hb : b ∈ s)
    (hsmall : b < 0x80) : b.toNat = code := by
  have hlarge : ∀ n : Nat, 0x80 ≤ n → n < 256 → b ≠ n.toUInt8 := by
    rintro n hle hlt rfl
    exact not_lt_of_le_toNat (by rwa [toNat_toUInt8 hlt]) hsmall
  cases h with
  | one hn =>
    rw [List.mem_singleton.mp hb]
    exact toNat_toUInt8 (by omega)
  | two hk hk' hn =>
    simp only [List.mem_cons, List.not_mem_nil, or_false] at hb
    rcases hb with hb | hb <;> exact absurd hb (hlarge _ (by omega) (by omega))
  | three hk hm hn =>
    simp only [List.mem_cons, List.not_mem_nil, or_false] at hb
    rcases hb with hb | hb | hb <;> exact absurd hb (hlarge _ (by omega) (by omega))
  | four hj hk hm hn =>
    simp only [List.mem_cons, List.not_mem_nil, or_false] at hb
    rcases hb with hb | hb | hb | hb <;> exact absurd hb (hlarge _ (by omega) (by omega))

theorem Octets.ne_nil {code : Nat} {s : Text} (h : Octets code s) : s ≠ [] := by
  cases h <;> simp

/-- Only the octets of a code point are read as it. -/
theorem exists_octets_of_sequence? {t rest : Text} {code : Nat}
    (h : sequence? t = some (code, rest)) : ∃ s, Octets code s ∧ t = s ++ rest := by
  unfold sequence? at h
  split at h
  · cases h
  rename_i a t
  split at h
  · rename_i ha
    cases h
    exact ⟨[a], by simpa [toUInt8_toNat] using Octets.one (UInt8.lt_iff_toNat_lt.mp ha), rfl⟩
  split at h
  · rename_i ha
    have ha : 0xC2 ≤ a.toNat ∧ a.toNat ≤ 0xDF := between_iff.mp ha
    have hlead : (0xC0 + (a.toNat - 0xC0)).toUInt8 = a := by
      rw [show 0xC0 + (a.toNat - 0xC0) = a.toNat by omega, toUInt8_toNat]
    split at h
    · split at h
      · rename_i hb
        obtain ⟨n, hn, rfl⟩ := exists_of_isContinuation hb
        obtain ⟨rfl, rfl⟩ := Prod.mk.inj (Option.some.inj h)
        rw [low_toUInt8 hn]
        exact ⟨_, Octets.two (by omega) (by omega) hn, by rw [hlead]; rfl⟩
      · cases h
    · cases h
  split at h
  · rename_i ha
    have ha : 0xE0 ≤ a.toNat ∧ a.toNat ≤ 0xEF := between_iff.mp ha
    have hlead : (0xE0 + (a.toNat - 0xE0)).toUInt8 = a := by
      rw [show 0xE0 + (a.toNat - 0xE0) = a.toNat by omega, toUInt8_toNat]
    split at h
    · split at h
      · rename_i hbc
        rw [Bool.and_eq_true, isSecond_iff] at hbc
        obtain ⟨⟨hb, hsecond⟩, hc⟩ := hbc
        obtain ⟨m, hm, rfl⟩ := exists_of_isContinuation hb
        obtain ⟨n, hn, rfl⟩ := exists_of_isContinuation hc
        rw [toNat_toUInt8 (by omega)] at hsecond
        obtain ⟨rfl, rfl⟩ := Prod.mk.inj (Option.some.inj h)
        rw [low_toUInt8 hm, low_toUInt8 hn]
        exact ⟨_, Octets.three (by omega) hm hn (by omega) (by omega), by rw [hlead]; rfl⟩
      · cases h
    · cases h
  split at h
  · rename_i ha
    have ha : 0xF0 ≤ a.toNat ∧ a.toNat ≤ 0xF4 := between_iff.mp ha
    have hlead : (0xF0 + (a.toNat - 0xF0)).toUInt8 = a := by
      rw [show 0xF0 + (a.toNat - 0xF0) = a.toNat by omega, toUInt8_toNat]
    split at h
    · split at h
      · rename_i hbcd
        rw [Bool.and_eq_true, Bool.and_eq_true, isSecond_iff] at hbcd
        obtain ⟨⟨⟨hb, hsecond⟩, hc⟩, hd⟩ := hbcd
        obtain ⟨k, hk, rfl⟩ := exists_of_isContinuation hb
        obtain ⟨m, hm, rfl⟩ := exists_of_isContinuation hc
        obtain ⟨n, hn, rfl⟩ := exists_of_isContinuation hd
        rw [toNat_toUInt8 (by omega)] at hsecond
        obtain ⟨rfl, rfl⟩ := Prod.mk.inj (Option.some.inj h)
        rw [low_toUInt8 hk, low_toUInt8 hm, low_toUInt8 hn]
        exact ⟨_, Octets.four (by omega) hk hm hn (by omega) (by omega), by rw [hlead]; rfl⟩
      · cases h
    · cases h
  · cases h

/-- **What is read**: the octets of a code point. -/
theorem sequence?_eq_some_iff {t rest : Text} {code : Nat} :
    sequence? t = some (code, rest) ↔ ∃ s, Octets code s ∧ t = s ++ rest := by
  constructor
  · exact exists_octets_of_sequence?
  · rintro ⟨s, hs, rfl⟩
    exact hs.sequence?_append rest

/-! ### Writing -/

theorem encode_eq_of_lt {code : Nat} (h : IsScalar code) (hle : 0x800 ≤ code)
    (hlt : code < 0x10000) :
    encode code = [(0xE0 + code / 4096).toUInt8, (0x80 + code / 64 % 64).toUInt8,
      (0x80 + code % 64).toUInt8] := by
  have hown : ¬ ((0xD800 ≤ code && code ≤ 0xDFFF) || 0x10FFFF < code) = true := by
    rw [IsScalar] at h
    simp
    omega
  rw [encode, if_neg (by omega), if_neg (by omega), if_neg hown, if_pos hlt]

theorem encode_eq_of_le {code : Nat} (hle : 0x10000 ≤ code) (hlt : code ≤ 0x10FFFF) :
    encode code = [(0xF0 + code / 262144).toUInt8, (0x80 + code / 4096 % 64).toUInt8,
      (0x80 + code / 64 % 64).toUInt8, (0x80 + code % 64).toUInt8] := by
  have hown : ¬ ((0xD800 ≤ code && code ≤ 0xDFFF) || 0x10FFFF < code) = true := by
    simp
    omega
  rw [encode, if_neg (by omega), if_neg (by omega), if_neg hown, if_neg (by omega)]

theorem Octets.isScalar {code : Nat} {s : Text} (h : Octets code s) : IsScalar code := by
  cases h <;> rw [IsScalar] <;> omega

/-- Only what is written for a code point are its octets. -/
theorem Octets.eq_encode {code : Nat} {s : Text} (h : Octets code s) : s = encode code := by
  have hscalar : IsScalar code := h.isScalar
  cases h with
  | one hn => rw [encode, if_pos hn]
  | @two k n hk hk' hn =>
    rw [encode, if_neg (by omega), if_pos (by omega), show (k * 64 + n) / 64 = k by omega,
      show (k * 64 + n) % 64 = n by omega]
  | @three k m n hk hm hn hlow hsur =>
    rw [encode_eq_of_lt hscalar (by omega) (by omega),
      show ((k * 64 + m) * 64 + n) / 4096 = k by omega,
      show ((k * 64 + m) * 64 + n) / 64 % 64 = m by omega,
      show ((k * 64 + m) * 64 + n) % 64 = n by omega]
  | @four j k m n hj hk hm hn hlow hhigh =>
    rw [encode_eq_of_le (by omega) (by omega),
      show (((j * 64 + k) * 64 + m) * 64 + n) / 262144 = j by omega,
      show (((j * 64 + k) * 64 + m) * 64 + n) / 4096 % 64 = k by omega,
      show (((j * 64 + k) * 64 + m) * 64 + n) / 64 % 64 = m by omega,
      show (((j * 64 + k) * 64 + m) * 64 + n) % 64 = n by omega]

theorem exists_octets {code : Nat} (h : IsScalar code) : ∃ s, Octets code s := by
  rw [IsScalar] at h
  by_cases h1 : code < 0x80
  · exact ⟨_, .one h1⟩
  by_cases h2 : code < 0x800
  · have hs := Octets.two (k := code / 64) (n := code % 64) (by omega) (by omega) (by omega)
    rw [show code / 64 * 64 + code % 64 = code by omega] at hs
    exact ⟨_, hs⟩
  by_cases h3 : code < 0x10000
  · have hs := Octets.three (k := code / 4096) (m := code / 64 % 64) (n := code % 64) (by omega)
      (by omega) (by omega) (by omega) (by omega)
    rw [show (code / 4096 * 64 + code / 64 % 64) * 64 + code % 64 = code by omega] at hs
    exact ⟨_, hs⟩
  · have hs := Octets.four (j := code / 262144) (k := code / 4096 % 64) (m := code / 64 % 64)
      (n := code % 64) (by omega) (by omega) (by omega) (by omega) (by omega) (by omega)
    rw [show ((code / 262144 * 64 + code / 4096 % 64) * 64 + code / 64 % 64) * 64 + code % 64 = code
      by omega] at hs
    exact ⟨_, hs⟩

/-- **What is written**: the octets of a code point that has any of its own. -/
theorem octets_encode {code : Nat} (h : IsScalar code) : Octets code (encode code) := by
  obtain ⟨s, hs⟩ := exists_octets h
  rwa [hs.eq_encode] at hs

end Utf8

/-! ### Glyphs -/

namespace Utf8

theorem next_eq_none {t : Text} : next t = none ↔ t = [] := by
  cases t with
  | nil => simp [next]
  | cons a t =>
    rw [next]
    split <;> simp

/-- The first character of a text is the one whose octets it starts with. -/
theorem next_eq_scalar_iff {t rest : Text} {code : Nat} :
    next t = some (.scalar code, rest) ↔ IsScalar code ∧ t = encode code ++ rest := by
  have hsequence : next t = some (.scalar code, rest) ↔ sequence? t = some (code, rest) := by
    cases t with
    | nil => simp [next, sequence?]
    | cons a t =>
      rw [next]
      split <;> simp_all
  rw [hsequence, sequence?_eq_some_iff]
  constructor
  · rintro ⟨s, hs, rfl⟩
    exact ⟨hs.isScalar, by rw [hs.eq_encode]⟩
  · rintro ⟨hcode, rfl⟩
    exact ⟨encode code, octets_encode hcode, rfl⟩

end Utf8

namespace Blank

open Utf8

theorem isScalar_of_isSpace {code : Nat} (h : isSpace code = true) : IsScalar code := by
  simp [isSpace] at h
  rw [IsScalar]
  omega

theorem isBlank_of_next {t rest : Text} {g : Glyph} (h : next t = some (g, rest)) :
    isBlank t = if isSpaceGlyph g then isBlank rest else false := by
  rw [isBlank]
  split
  · rename_i hnone
    rw [h] at hnone
    cases hnone
  · rename_i hsome
    rw [h] at hsome
    cases hsome
    rfl

/-- **Blank texts are the encodings of white space.** -/
theorem isBlank_iff {t : Text} : isBlank t = true ↔
    ∃ codes : List Nat, (∀ c ∈ codes, isSpace c = true) ∧ t = encodeAll codes := by
  constructor
  · intro h
    fun_induction isBlank t with
    | case1 t hnext => exact ⟨[], by simp, next_eq_none.mp hnext⟩
    | case2 t g rest hnext hspace ih =>
      cases g with
      | stray => cases hspace
      | scalar code =>
        obtain ⟨codes, hcodes, hrest⟩ := ih h
        obtain ⟨-, ht⟩ := next_eq_scalar_iff.mp hnext
        exact ⟨code :: codes, List.forall_mem_cons.mpr ⟨hspace, hcodes⟩, by
          rw [ht, hrest, encodeAll, encodeAll, List.flatMap_cons]⟩
    | case3 => cases h
  · rintro ⟨codes, hcodes, rfl⟩
    induction codes with
    | nil =>
      rw [isBlank]
      rfl
    | cons c codes ih =>
      obtain ⟨hc, hcodes⟩ := List.forall_mem_cons.mp hcodes
      have hnext : next (encodeAll (c :: codes)) = some (.scalar c, encodeAll codes) :=
        next_eq_scalar_iff.mpr ⟨isScalar_of_isSpace hc, List.flatMap_cons⟩
      rw [isBlank_of_next hnext, isSpaceGlyph, if_pos hc, ih hcodes]

/-- **A visible octet keeps a text from being blank**, whatever the octets around it are. -/
theorem isBlank_eq_false_of_mem {t : Text} {b : UInt8} (hb : b ∈ t) (hsmall : b < 0x80)
    (hvisible : isSpace b.toNat = false) : isBlank t = false := by
  rw [← Bool.not_eq_true, isBlank_iff]
  rintro ⟨codes, hcodes, rfl⟩
  obtain ⟨c, hc, hbc⟩ := List.mem_flatMap.mp hb
  have hspace : isSpace c = true := hcodes c hc
  rw [(octets_encode (isScalar_of_isSpace hspace)).toNat_eq_of_mem hbc hsmall, hspace] at hvisible
  cases hvisible

theorem encodeAll_concat (codes : List Nat) (c : Nat) :
    encodeAll (codes ++ [c]) = encodeAll codes ++ encode c := by
  rw [encodeAll, encodeAll, List.flatMap_append, List.flatMap_singleton]

/-- **White space of one octet at the end does not count**, as no longer sequence ends in it. -/
theorem isBlank_concat (t : Text) {b : UInt8} (hsmall : b < 0x80)
    (hspace : isSpace b.toNat = true) : isBlank (t ++ [b]) = isBlank t := by
  have hencode : encode b.toNat = [b] := by
    have hlt : b.toNat < 0x80 := UInt8.lt_iff_toNat_lt.mp hsmall
    rw [encode, if_pos hlt, toUInt8_toNat]
  rw [Bool.eq_iff_iff, isBlank_iff, isBlank_iff]
  constructor
  · rintro ⟨codes, hcodes, ht⟩
    rcases List.eq_nil_or_concat codes with rfl | ⟨front, c, rfl⟩
    · simp [encodeAll] at ht
    rw [List.concat_eq_append] at hcodes ht
    obtain ⟨hfront, hc⟩ := List.forall_mem_append.mp hcodes
    have hoctets : Octets c (encode c) := octets_encode (isScalar_of_isSpace (hc c (by simp)))
    rw [encodeAll_concat] at ht
    -- the octet belongs to the last character, and so is all of it
    have hlast : (encode c).getLast? = some b := by
      have hends := congrArg List.getLast? ht
      rw [List.getLast?_concat, List.getLast?_append,
        List.getLast?_eq_some_getLast hoctets.ne_nil, Option.some_or] at hends
      rw [List.getLast?_eq_some_getLast hoctets.ne_nil, hends]
    have hcb : b.toNat = c := hoctets.toNat_eq_of_mem (List.mem_of_getLast? hlast) hsmall
    rw [← hcb, hencode] at ht
    exact ⟨front, hfront, List.append_cancel_right ht⟩
  · rintro ⟨codes, hcodes, rfl⟩
    refine ⟨codes ++ [b.toNat], List.forall_mem_append.mpr ⟨hcodes, ?_⟩, ?_⟩
    · simpa using hspace
    · rw [encodeAll_concat, hencode]

end Blank

end HitLog
