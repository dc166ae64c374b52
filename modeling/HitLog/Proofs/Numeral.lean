import HitLog.Numeral

/-!
# Reading numerals back

The reader compares with its limit at every digit, not once at the end, so it has to be shown that
no prefix of a numeral within the limit exceeds it. Prefixes of `decimal n` are the numerals of
`n / 10`, `n / 100` and so on, which is why the induction follows the writer and not the reader.

## Main results

* `Numeral.readUpTo_eq_ok_iff`, `Numeral.readUpTo_eq_tooLarge_iff` — what is read, and what is too
  large
* `Numeral.readUpTo_decimal` — a numeral within the limit is read as its number
* `Numeral.decimal_injective` — different numbers have different numerals
* `Numeral.isDigit_of_mem_decimal` — a numeral consists of digits
-/

namespace HitLog

namespace Numeral

/-! ### Digits -/

theorem isDigit_digit {n : Nat} (h : n < 10) : Text.isDigit (digit n) = true := by
  revert n
  decide

theorem digitValue_digit {n : Nat} (h : n < 10) : digitValue (digit n) = n := by
  revert n
  decide

/-! ### Writing -/

theorem decimal_of_lt {n : Nat} (h : n < 10) : decimal n = [digit n] := by
  rw [decimal, if_pos h]

theorem decimal_of_le {n : Nat} (h : 10 ≤ n) :
    decimal n = decimal (n / 10) ++ [digit (n % 10)] := by
  rw [decimal, if_neg (by omega)]

theorem decimal_ne_nil (n : Nat) : decimal n ≠ [] := by
  rcases Nat.lt_or_ge n 10 with h | h
  · simp [decimal_of_lt h]
  · simp [decimal_of_le h]

theorem isDigit_of_mem_decimal {n : Nat} {b : UInt8} (hb : b ∈ decimal n) :
    Text.isDigit b = true := by
  fun_induction decimal n with
  | case1 n h =>
    rw [List.mem_singleton.mp hb]
    exact isDigit_digit h
  | case2 n h ih =>
    rcases List.mem_append.mp hb with hb | hb
    · exact ih hb
    · rw [List.mem_singleton.mp hb]
      exact isDigit_digit (Nat.mod_lt n (by omega))

theorem signed_of_nonneg {i : Int} (h : 0 ≤ i) : signed i = decimal i.toNat := by
  rw [signed, if_neg (by omega), show i.natAbs = i.toNat by omega]

/-! ### Reading -/

/-- The number that digits behind a number stand for. -/
def valueOnto (value : Nat) (t : Text) : Nat := t.foldl (fun v b => 10 * v + digitValue b) value

/-- The number that digits stand for. -/
def value (t : Text) : Nat := valueOnto 0 t

theorem valueOnto_cons (v : Nat) (b : UInt8) (t : Text) :
    valueOnto v (b :: t) = valueOnto (10 * v + digitValue b) t := by
  simp only [valueOnto, List.foldl_cons]

theorem le_valueOnto (v : Nat) (t : Text) : v ≤ valueOnto v t := by
  induction t generalizing v with
  | nil => exact Nat.le_refl v
  | cons b t ih =>
    rw [valueOnto_cons]
    have := ih (10 * v + digitValue b)
    omega

/-- Reading goes on as long as there are digits and the number stays within the limit. -/
theorem readOnto_eq_ok_iff {limit v n : Nat} {t : Text} (hv : v ≤ limit) :
    readOnto limit v t = .ok n ↔
      (∀ b ∈ t, Text.isDigit b = true) ∧ valueOnto v t = n ∧ n ≤ limit := by
  induction t generalizing v with
  | nil =>
    show Except.ok v = Except.ok n ↔ _
    simp only [Except.ok.injEq, List.not_mem_nil, false_implies, implies_true, true_and]
    constructor
    · rintro rfl
      exact ⟨rfl, hv⟩
    · exact fun h => h.1
  | cons b t ih =>
    rw [readOnto, valueOnto_cons, List.forall_mem_cons]
    by_cases hb : Text.isDigit b = true
    · rw [if_pos hb]
      by_cases hlimit : limit < 10 * v + digitValue b
      · rw [if_pos hlimit]
        have hle := le_valueOnto (10 * v + digitValue b) t
        constructor
        · intro h
          cases h
        · rintro ⟨-, rfl, hn⟩
          omega
      · rw [if_neg hlimit, ih (by omega)]
        simp only [hb, true_and]
    · rw [if_neg hb]
      simp [hb]

/-- A text starts with digits whose number, behind `v`, is above the limit. -/
def Exceeds (limit v : Nat) (t : Text) : Prop :=
  ∃ p, p <+: t ∧ (∀ b ∈ p, Text.isDigit b = true) ∧ limit < valueOnto v p

theorem not_exceeds_nil {limit v : Nat} (hv : v ≤ limit) : ¬ Exceeds limit v [] := by
  rintro ⟨p, hp, -, hlimit⟩
  rw [List.prefix_nil.mp hp] at hlimit
  exact Nat.not_lt.mpr hv hlimit

theorem exceeds_cons_iff {limit v : Nat} (hv : v ≤ limit) {b : UInt8} {t : Text} :
    Exceeds limit v (b :: t) ↔
      Text.isDigit b = true ∧ Exceeds limit (10 * v + digitValue b) t := by
  constructor
  · rintro ⟨p, hp, hdigits, hlimit⟩
    rcases List.prefix_cons_iff.mp hp with rfl | ⟨q, rfl, hq⟩
    · exact absurd hlimit (Nat.not_lt.mpr hv)
    · obtain ⟨hb, hdigits⟩ := List.forall_mem_cons.mp hdigits
      exact ⟨hb, q, hq, hdigits, by rwa [valueOnto_cons] at hlimit⟩
  · rintro ⟨hb, p, hp, hdigits, hlimit⟩
    exact ⟨b :: p, (List.prefix_cons_inj b).mpr hp, List.forall_mem_cons.mpr ⟨hb, hdigits⟩, by
      rwa [valueOnto_cons]⟩

/-- Reading stops at the first digit that takes the number above the limit, even where something
else than a digit follows. -/
theorem readOnto_eq_tooLarge_iff {limit v : Nat} {t : Text} (hv : v ≤ limit) :
    readOnto limit v t = .error .tooLarge ↔ Exceeds limit v t := by
  induction t generalizing v with
  | nil =>
    refine iff_of_false ?_ (not_exceeds_nil hv)
    intro h
    cases h
  | cons b t ih =>
    rw [readOnto, exceeds_cons_iff hv]
    by_cases hb : Text.isDigit b = true
    · rw [if_pos hb]
      by_cases hlimit : limit < 10 * v + digitValue b
      · rw [if_pos hlimit]
        exact iff_of_true rfl ⟨hb, [], List.nil_prefix, by simp, hlimit⟩
      · rw [if_neg hlimit, ih (by omega)]
        simp only [hb, true_and]
    · rw [if_neg hb]
      simp [hb]

/-- **What is read**: a run of digits whose number is within the limit. -/
theorem readUpTo_eq_ok_iff {limit n : Nat} {t : Text} :
    readUpTo limit t = .ok n ↔
      t ≠ [] ∧ (∀ b ∈ t, Text.isDigit b = true) ∧ value t = n ∧ n ≤ limit := by
  rw [readUpTo]
  by_cases ht : t = []
  · simp [ht]
  · rw [if_neg (by simpa using ht), readOnto_eq_ok_iff (Nat.zero_le limit), value]
    simp only [ht, ne_eq, not_false_eq_true, true_and]

/-- **What is too large**: a text that starts with digits whose number is above the limit. -/
theorem readUpTo_eq_tooLarge_iff {limit : Nat} {t : Text} :
    readUpTo limit t = .error .tooLarge ↔
      ∃ p, p <+: t ∧ (∀ b ∈ p, Text.isDigit b = true) ∧ limit < value p := by
  show _ ↔ Exceeds limit 0 t
  rw [readUpTo]
  by_cases ht : t = []
  · subst ht
    refine iff_of_false ?_ (not_exceeds_nil (Nat.zero_le limit))
    intro h
    cases h
  · rw [if_neg (by simpa using ht), readOnto_eq_tooLarge_iff (Nat.zero_le limit)]

/-- Reading goes on behind a part where reading that part ended. -/
theorem readOnto_append {limit value n : Nat} {s : Text} (h : readOnto limit value s = .ok n)
    (t : Text) : readOnto limit value (s ++ t) = readOnto limit n t := by
  induction s generalizing value with
  | nil =>
    cases h
    rfl
  | cons b s ih =>
    simp only [readOnto] at h
    simp only [List.cons_append, readOnto]
    split at h
    · rename_i hb
      split at h
      · cases h
      · rename_i hle
        rw [if_pos hb, if_neg hle, ih h]
    · cases h

theorem readOnto_digit {limit value d : Nat} (hd : d < 10) (h : 10 * value + d ≤ limit) :
    readOnto limit value [digit d] = .ok (10 * value + d) := by
  rw [readOnto, if_pos (isDigit_digit hd), digitValue_digit hd, if_neg (by omega), readOnto]

theorem readOnto_decimal {limit n : Nat} (h : n ≤ limit) :
    readOnto limit 0 (decimal n) = .ok n := by
  fun_induction decimal n with
  | case1 n hn => simpa using @readOnto_digit limit 0 n hn (by omega)
  | case2 n hn ih =>
    -- the limit binds the number, hence its first digits too
    have hfirst : readOnto limit 0 (decimal (n / 10)) = .ok (n / 10) := ih (by omega)
    have hlast : 10 * (n / 10) + n % 10 = n := Nat.div_add_mod n 10
    rw [readOnto_append hfirst, readOnto_digit (Nat.mod_lt n (by omega)) (by omega), hlast]

/-- **Reading after writing.** -/
theorem readUpTo_decimal {limit n : Nat} (h : n ≤ limit) :
    readUpTo limit (decimal n) = .ok n := by
  rw [readUpTo, if_neg (by simp [decimal_ne_nil]), readOnto_decimal h]

theorem value_decimal (n : Nat) : value (decimal n) = n :=
  (readUpTo_eq_ok_iff.mp (readUpTo_decimal (Nat.le_refl n))).2.2.1

/-- Different numbers have different numerals. -/
theorem decimal_injective {m n : Nat} (h : decimal m = decimal n) : m = n := by
  rw [← value_decimal m, h, value_decimal n]

end Numeral

end HitLog
