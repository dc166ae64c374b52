import HitLog.Duration
import HitLog.Proofs.Numeral

/-!
# The grammar of a duration

Which texts are durations is said here without the reader: behind an optional sign stands a lone
zero or a sequence of parts, and a part is digits, an optional point with digits, and the name of a
unit. Nothing separates the parts. They can still be told apart, as no name of a unit holds a digit
or a point, while every part starts with one of these.

What a part stands for is not bounded by the digits but by the word that the parts are added up in:
no number and no sum on the way may be above half its range.

## Main definitions

* `Duration.Part.text`, `Duration.Part.Spells` — the text of a part and its nanoseconds
* `Duration.Adds` — the sum of parts
* `Duration.Spells` — the durations and their nanoseconds

## Main results

* `Duration.Part.Spells.scan_append` — the first part of a text is found
* `Duration.parts_eq_ok_iff` — the reader takes exactly the sequences of parts
* `Duration.parse_eq_ok_iff` — the reader takes exactly the durations
-/

namespace HitLog

/-- A run of octets ends where it ends, if the next octet does not belong to it. -/
theorem Text.takeWhile_append_of_head {p : UInt8 → Bool} {s t : Text}
    (hs : ∀ b ∈ s, p b = true) (ht : ∀ b, t.head? = some b → p b = false) :
    (s ++ t).takeWhile p = s ∧ (s ++ t).dropWhile p = t := by
  rw [List.takeWhile_append_of_pos hs, List.dropWhile_append_of_pos hs]
  cases t with
  | nil => simp
  | cons b t => simp [ht b rfl]

namespace Duration

/-! ### Octets and units -/

theorem isNumberOctet_iff {b : UInt8} :
    isNumberOctet b = true ↔ b = 46 ∨ Text.isDigit b = true := by
  simp [isNumberOctet]

theorem isNumberOctet_eq_false_iff {b : UInt8} :
    isNumberOctet b = false ↔ b ≠ 46 ∧ Text.isDigit b = false := by
  rw [← Bool.not_eq_true, isNumberOctet_iff, not_or, Bool.not_eq_true]

/-- The name of a unit is not empty and holds nothing that could stand in a number. -/
theorem name_of_mem_units {name : Text} {unit : Nat} (h : (name, unit) ∈ units) :
    name ≠ [] ∧ (∀ b ∈ name, isNumberOctet b = false) ∧ 0 < unit := by
  have hall : units.all (fun u => !u.1.isEmpty && u.1.all (!isNumberOctet ·) && 0 < u.2) = true :=
    by decide
  have hname := List.all_eq_true.mp hall _ h
  simpa [and_assoc] using hname

theorem lookup_units_eq_some_iff {name : Text} {unit : Nat} :
    units.lookup name = some unit ↔ (name, unit) ∈ units := by
  constructor
  · intro h
    obtain ⟨before, after, hunits, -⟩ := List.lookup_eq_some_iff.mp h
    rw [hunits]
    simp
  · intro h
    have hall : ∀ u ∈ units, units.lookup u.1 = some u.2 := by decide
    exact hall _ h

/-! ### One part -/

namespace Part

/-- The text of a part. -/
def text (p : Part) : Text := p.whole ++ (p.fraction.elim [] (46 :: ·) ++ p.name)

/-- A part of a duration, with its nanoseconds: there is a digit in front of the point or behind it,
and the unit exists. -/
structure Spells (p : Part) (n : Nat) : Prop where
  whole : ∀ b ∈ p.whole, Text.isDigit b = true
  fraction : ∀ b ∈ p.fractionDigits, Text.isDigit b = true
  digits : p.whole ≠ [] ∨ p.fractionDigits ≠ []
  measured : ∃ unit, (p.name, unit) ∈ units ∧ n = p.amount (Numeral.value p.whole) unit
  fits : n ≤ bound

variable {p : Part} {n : Nat} {t : Text}

theorem Spells.name_ne_nil (h : p.Spells n) : p.name ≠ [] := by
  obtain ⟨unit, hunit, -⟩ := h.measured
  exact (name_of_mem_units hunit).1

theorem Spells.name_plain (h : p.Spells n) : ∀ b ∈ p.name, isNumberOctet b = false := by
  obtain ⟨unit, hunit, -⟩ := h.measured
  exact (name_of_mem_units hunit).2.1

/-- A part starts with a digit or a point, and something follows that. -/
theorem Spells.exists_text_eq (h : p.Spells n) :
    ∃ b u, p.text = b :: u ∧ u ≠ [] ∧ isNumberOctet b = true := by
  obtain ⟨c, name, hname⟩ := List.exists_cons_of_ne_nil h.name_ne_nil
  cases hwhole : p.whole with
  | cons b whole =>
    have hb : Text.isDigit b = true := h.whole b (by simp [hwhole])
    exact ⟨b, _, by rw [text, hwhole, List.cons_append], by simp [hname],
      isNumberOctet_iff.mpr (.inr hb)⟩
  | nil =>
    cases hfraction : p.fraction with
    | none =>
      have hdigits := h.digits
      simp [hwhole, fractionDigits, hfraction] at hdigits
    | some f =>
      exact ⟨46, f ++ p.name, by simp [text, hwhole, hfraction], by simp [hname],
        isNumberOctet_iff.mpr (.inl rfl)⟩

/-- The fraction is found, if what follows it is neither digit nor point. -/
theorem scanFraction_append {fraction : Option Text}
    (hf : ∀ b ∈ fraction.getD [], Text.isDigit b = true)
    (ht : ∀ b, t.head? = some b → isNumberOctet b = false) :
    scanFraction (fraction.elim [] (46 :: ·) ++ t) = (fraction, t) := by
  have hnumber : ∀ b, t.head? = some b → b ≠ 46 ∧ Text.isDigit b = false := fun b hb =>
    isNumberOctet_eq_false_iff.mp (ht b hb)
  cases fraction with
  | none =>
    show scanFraction t = (none, t)
    rw [scanFraction.eq_2]
    rintro u rfl
    exact (hnumber 46 rfl).1 rfl
  | some f =>
    have hf : ∀ b ∈ f, Text.isDigit b = true := hf
    obtain ⟨htake, hdrop⟩ := Text.takeWhile_append_of_head hf fun b hb => (hnumber b hb).2
    show (some ((f ++ t).takeWhile Text.isDigit), (f ++ t).dropWhile Text.isDigit) = (some f, t)
    rw [htake, hdrop]

/-- **The first part of a text is found**, if what follows it starts like a part. -/
theorem Spells.scan_append (h : p.Spells n) (ht : ∀ b, t.head? = some b → isNumberOctet b = true) :
    scan (p.text ++ t) = (p, t) := by
  have hname : ∀ b, (p.name ++ t).head? = some b → isNumberOctet b = false := by
    intro b hb
    obtain ⟨c, name, hp⟩ := List.exists_cons_of_ne_nil h.name_ne_nil
    rw [hp] at hb
    exact h.name_plain b (by simp [hp, Option.some.inj hb])
  have hfraction : ∀ b, (p.fraction.elim [] (46 :: ·) ++ (p.name ++ t)).head? = some b →
      Text.isDigit b = false := by
    intro b hb
    cases hp : p.fraction with
    | none =>
      rw [hp] at hb
      exact (isNumberOctet_eq_false_iff.mp (hname b hb)).2
    | some f =>
      rw [hp] at hb
      exact Option.some.inj hb ▸ by decide
  obtain ⟨hwhole, hwhole'⟩ := Text.takeWhile_append_of_head h.whole hfraction
  obtain ⟨hunit, hunit'⟩ : (p.name ++ t).takeWhile (!isNumberOctet ·) = p.name ∧
      (p.name ++ t).dropWhile (!isNumberOctet ·) = t :=
    Text.takeWhile_append_of_head (fun b hb => by simp [h.name_plain b hb])
      fun b hb => by simp [ht b hb]
  rw [text, List.append_assoc, List.append_assoc, scan, hwhole, hwhole',
    scanFraction_append h.fraction hname]
  simp only [hunit, hunit']

/-- Scanning loses nothing, what it finds has digits where they should be, and it stops where a part
could start. -/
theorem scan_eq (t : Text) :
    (scan t).1.text ++ (scan t).2 = t ∧ (∀ b ∈ (scan t).1.whole, Text.isDigit b = true) ∧
      (∀ b ∈ (scan t).1.fractionDigits, Text.isDigit b = true) ∧
      ∀ b, (scan t).2.head? = some b → isNumberOctet b = true := by
  have hfraction : ∀ u : Text, (scanFraction u).1.elim [] (46 :: ·) ++ (scanFraction u).2 = u ∧
      ∀ b ∈ (scanFraction u).1.getD [], Text.isDigit b = true := by
    intro u
    rw [scanFraction.eq_def]
    split
    · exact ⟨by simp, fun b hb => List.all_eq_true.mp List.all_takeWhile b hb⟩
    · exact ⟨by simp, by simp⟩
  obtain ⟨hjoin, hdigits⟩ := hfraction (t.dropWhile Text.isDigit)
  refine ⟨?_, fun b hb => List.all_eq_true.mp List.all_takeWhile b hb, hdigits, fun b hb => ?_⟩
  · simp only [scan, text, List.append_assoc, List.takeWhile_append_dropWhile, hjoin]
  · have hhead := List.head?_dropWhile_not (!isNumberOctet ·)
      (scanFraction (t.dropWhile Text.isDigit)).2
    simp only [scan] at hb
    rw [hb] at hhead
    simpa using hhead

/-! ### The nanoseconds of a part -/

theorem wholePart_eq_some_iff {v : Nat} (hv : v ≤ bound) :
    wholePart v t = some n ↔ Numeral.valueOnto v t = n ∧ n ≤ bound := by
  induction t generalizing v with
  | nil =>
    rw [wholePart, Option.some.injEq]
    constructor
    · rintro rfl
      exact ⟨rfl, hv⟩
    · exact fun h => h.1
  | cons b t ih =>
    rw [wholePart, Numeral.valueOnto_cons]
    by_cases hb : bound < 10 * v + Numeral.digitValue b
    · have hle := Numeral.le_valueOnto (10 * v + Numeral.digitValue b) t
      rw [if_pos hb]
      refine iff_of_false (by simp) ?_
      rintro ⟨rfl, hn⟩
      omega
    · rw [if_neg hb, ih (by omega)]

theorem le_amount (p : Part) (value : Nat) {unit : Nat} (hunit : 0 < unit) :
    value ≤ p.amount value unit :=
  Nat.le_trans (Nat.le_mul_of_pos_right value hunit) (Nat.le_add_right _ _)

/-- **What a part is read as.** The reader looks at the number in front of the point before it knows
the unit, and at the product before it adds the fraction. Both are bounded by the result. -/
theorem nanoseconds_eq_ok_iff (hwhole : ∀ b ∈ p.whole, Text.isDigit b = true)
    (hfraction : ∀ b ∈ p.fractionDigits, Text.isDigit b = true) (whole : Text) :
    p.nanoseconds whole = .ok n ↔ p.Spells n := by
  have hdigits : (p.whole.isEmpty && p.fractionDigits.isEmpty) = false ↔
      p.whole ≠ [] ∨ p.fractionDigits ≠ [] := by
    rw [Bool.and_eq_false_iff, List.isEmpty_eq_false_iff, List.isEmpty_eq_false_iff]
  rw [nanoseconds]
  constructor
  · intro h
    split at h
    · cases h
    rename_i value hvalue
    split at h
    · cases h
    rename_i hsome
    split at h
    · cases h
    split at h
    · cases h
    rename_i unit hunit
    split at h
    · cases h
    rename_i hfits
    cases h
    obtain ⟨rfl, -⟩ := (wholePart_eq_some_iff (Nat.zero_le _)).mp hvalue
    simp only [Bool.or_eq_true, decide_eq_true_eq, not_or, Nat.not_lt] at hfits
    exact ⟨hwhole, hfraction, hdigits.mp (by simpa using hsome),
      ⟨unit, lookup_units_eq_some_iff.mp hunit, rfl⟩, hfits.2⟩
  · rintro ⟨-, -, hsome, ⟨unit, hunit, rfl⟩, hfits⟩
    obtain ⟨hname, -, hpos⟩ := name_of_mem_units hunit
    have hvalue : wholePart 0 p.whole = some (Numeral.value p.whole) :=
      (wholePart_eq_some_iff (Nat.zero_le _)).mpr ⟨rfl, Nat.le_trans (le_amount p _ hpos) hfits⟩
    have hproduct : Numeral.value p.whole ≤ bound / unit := by
      rw [Nat.le_div_iff_mul_le hpos]
      exact Nat.le_trans (Nat.le_add_right _ _) hfits
    rw [hvalue]
    simp only [hdigits.mpr hsome, lookup_units_eq_some_iff.mpr hunit]
    rw [if_neg (by simp), if_neg (by simpa using hname), if_neg]
    simp only [Bool.or_eq_true, decide_eq_true_eq, not_or, Nat.not_lt]
    exact ⟨hproduct, hfits⟩

end Part

/-! ### Parts in a row -/

/-- The sum of parts behind a sum so far. The sum is kept in a word of 64 bits, and at no point it
may be above half the range of that. -/
inductive Adds : Nat → List Part → Nat → Prop where
  | nil (sum : Nat) : Adds sum [] sum
  | cons {sum amount n : Nat} {p : Part} {ps : List Part} (hp : p.Spells amount)
      (hsum : (sum + amount) % (2 * bound) ≤ bound)
      (h : Adds ((sum + amount) % (2 * bound)) ps n) : Adds sum (p :: ps) n

/-- A text of parts. -/
def textOf (ps : List Part) : Text := ps.flatMap Part.text

/-- Parts start like the first of them. -/
theorem Adds.exists_textOf_eq {sum n : Nat} {ps : List Part} (h : Adds sum ps n) (hps : ps ≠ []) :
    ∃ b u, textOf ps = b :: u ∧ u ≠ [] ∧ isNumberOctet b = true := by
  cases h with
  | nil => exact absurd rfl hps
  | cons hp _ _ =>
    obtain ⟨b, u, htext, hu, hb⟩ := hp.exists_text_eq
    exact ⟨b, _, by rw [textOf, List.flatMap_cons, htext, List.cons_append], by simp [hu], hb⟩

theorem Adds.head_textOf {sum n : Nat} {ps : List Part} (h : Adds sum ps n) {b : UInt8}
    (hb : (textOf ps).head? = some b) : isNumberOctet b = true := by
  have hps : ps ≠ [] := by
    rintro rfl
    cases hb
  obtain ⟨c, u, htext, -, hc⟩ := h.exists_textOf_eq hps
  rw [htext] at hb
  exact Option.some.inj hb ▸ hc

theorem Adds.le {sum n : Nat} {ps : List Part} (h : Adds sum ps n) (hsum : sum ≤ bound) :
    n ≤ bound := by
  induction h with
  | nil => exact hsum
  | cons _ hstep _ ih => exact ih hstep

theorem exists_adds_nil_iff {sum n : Nat} :
    (∃ ps, [] = textOf ps ∧ Adds sum ps n) ↔ sum = n := by
  constructor
  · rintro ⟨ps, htext, h⟩
    by_cases hps : ps = []
    · subst hps
      cases h
      rfl
    · obtain ⟨b, u, hparts, -⟩ := h.exists_textOf_eq hps
      rw [hparts] at htext
      cases htext
  · rintro rfl
    exact ⟨[], rfl, .nil sum⟩

/-- **One step of the reader** takes one part. -/
theorem parts_cons_eq_ok_iff {whole t : Text} {b : UInt8} {fuel sum n : Nat} :
    parts whole (fuel + 1) sum (b :: t) = .ok n ↔
      ∃ (p : Part) (amount : Nat) (rest : Text), b :: t = p.text ++ rest ∧
        (∀ c, rest.head? = some c → isNumberOctet c = true) ∧ p.Spells amount ∧
        (sum + amount) % (2 * bound) ≤ bound ∧
        parts whole fuel ((sum + amount) % (2 * bound)) rest = .ok n := by
  rw [parts]
  constructor
  · intro h
    split at h
    · cases h
    obtain ⟨hjoin, hwhole, hfraction, hhead⟩ := Part.scan_eq (b :: t)
    rcases hscan : Part.scan (b :: t) with ⟨p, rest⟩
    rw [hscan] at h hjoin hwhole hfraction hhead
    dsimp only at h
    split at h
    · cases h
    rename_i amount hamount
    split at h
    · cases h
    rename_i hsum
    exact ⟨p, amount, rest, hjoin.symm, hhead,
      (Part.nanoseconds_eq_ok_iff hwhole hfraction whole).mp hamount, Nat.not_lt.mp hsum, h⟩
  · rintro ⟨p, amount, rest, htext, hhead, hp, hsum, h⟩
    have hb : isNumberOctet b = true := by
      obtain ⟨c, u, hc, -, hnumber⟩ := hp.exists_text_eq
      rw [hc] at htext
      rwa [(List.cons.inj htext).1]
    have hscan : Part.scan (b :: t) = (p, rest) := by
      rw [htext]
      exact hp.scan_append hhead
    rw [hb, hscan]
    simp only [(Part.nanoseconds_eq_ok_iff hp.whole hp.fraction whole).mpr hp]
    rw [if_neg (by simp), if_neg (Nat.not_lt.mpr hsum), h]

/-- **The reader takes exactly the sequences of parts**, if it may look at as many parts as the text
has octets. -/
theorem parts_eq_ok_iff {whole t : Text} {fuel sum n : Nat} (hfuel : t.length ≤ fuel) :
    parts whole fuel sum t = .ok n ↔ ∃ ps, t = textOf ps ∧ Adds sum ps n := by
  induction fuel generalizing sum t with
  | zero =>
    obtain rfl : t = [] := List.length_eq_zero_iff.mp (Nat.le_zero.mp hfuel)
    rw [exists_adds_nil_iff, parts, Except.ok.injEq]
  | succ fuel ih =>
    -- a part is not empty, so what follows it needs one part less
    have hless : ∀ {p : Part} {amount : Nat} {rest : Text}, p.Spells amount →
        t = p.text ++ rest → rest.length ≤ fuel := by
      rintro p amount rest hp rfl
      obtain ⟨c, u, hc, -⟩ := hp.exists_text_eq
      rw [hc, List.length_append, List.length_cons] at hfuel
      omega
    cases t with
    | nil => rw [exists_adds_nil_iff, parts, Except.ok.injEq]
    | cons b t =>
      rw [parts_cons_eq_ok_iff]
      constructor
      · rintro ⟨p, amount, rest, htext, -, hp, hsum, h⟩
        obtain ⟨ps, rfl, hps⟩ := (ih (hless hp htext)).mp h
        exact ⟨p :: ps, htext, .cons hp hsum hps⟩
      · rintro ⟨ps, htext, h⟩
        cases h with
        | nil => cases htext
        | @cons _ amount _ p ps hp hsum hps =>
          exact ⟨p, amount, textOf ps, htext, fun c hc => hps.head_textOf hc, hp, hsum,
            (ih (hless hp htext)).mpr ⟨ps, rfl, hps⟩⟩

/-! ### Durations -/

/-- What stands behind the sign of a duration, with the nanoseconds of the whole. -/
inductive Unsigned (negative : Bool) : Text → Int64 → Prop where
  | zero : Unsigned negative [48] 0
  | parts {ps : List Part} (hps : ps ≠ []) {n : Nat} (h : Adds 0 ps n) {d : Int64}
      (hd : d.toInt = if negative then -(n : Int) else n) : Unsigned negative (textOf ps) d

/-- The durations, with their nanoseconds. -/
inductive Spells : Text → Int64 → Prop where
  | plain {t : Text} {d : Int64} (h : Unsigned false t d) : Spells t d
  | plus {t : Text} {d : Int64} (h : Unsigned false t d) : Spells (43 :: t) d
  | minus {t : Text} {d : Int64} (h : Unsigned true t d) : Spells (45 :: t) d

/-- Behind a sign there is no other sign. -/
theorem Unsigned.head {negative : Bool} {b : UInt8} {t : Text} {d : Int64}
    (h : Unsigned negative (b :: t) d) : isNumberOctet b = true := by
  generalize ht : b :: t = u at h
  cases h with
  | zero =>
    rw [(List.cons.inj ht).1]
    decide
  | parts hps h _ =>
    obtain ⟨c, v, htext, -, hc⟩ := h.exists_textOf_eq hps
    rw [htext] at ht
    rwa [(List.cons.inj ht).1]

/-- The word of a sum of parts, negated behind a minus sign. Half the range fits only there. -/
theorem toInt_eq_iff {negative : Bool} {n : Nat} (hn : n ≤ bound) {d : Int64} :
    (d.toInt = if negative then -(n : Int) else n) ↔
      if negative then d = Int64.ofInt (-n) else n < bound ∧ d = Int64.ofInt n := by
  have hbound : bound = 9223372036854775808 := rfl
  have hlt := d.toInt_lt
  cases negative with
  | true =>
    have hofInt : (Int64.ofInt (-n)).toInt = -n := Int64.toInt_ofInt_of_le (by omega) (by omega)
    simp only [if_true]
    constructor
    · exact fun h => Int64.toInt_inj.mp (h.trans hofInt.symm)
    · rintro rfl
      exact hofInt
  | false =>
    simp only [Bool.false_eq_true, if_false]
    constructor
    · intro h
      have hn : n < bound := by omega
      have hofInt : (Int64.ofInt n).toInt = n := Int64.toInt_ofInt_of_le (by omega) (by omega)
      exact ⟨hn, Int64.toInt_inj.mp (h.trans hofInt.symm)⟩
    · rintro ⟨hlt, rfl⟩
      exact Int64.toInt_ofInt_of_le (by omega) (by omega)

theorem unsigned_zero_iff {negative : Bool} {d : Int64} : Unsigned negative [48] d ↔ d = 0 := by
  constructor
  · intro h
    generalize ht : ([48] : Text) = t at h
    cases h with
    | zero => rfl
    | parts hps h _ =>
      obtain ⟨b, u, htext, hu, -⟩ := h.exists_textOf_eq hps
      rw [htext] at ht
      exact absurd (List.cons.inj ht).2.symm hu
  · rintro rfl
    exact .zero

theorem unsigned_iff {t : Text} (ht : t ≠ [48]) {negative : Bool} {d : Int64} (whole : Text) :
    Unsigned negative t d ↔ t ≠ [] ∧ ∃ n, parts whole t.length 0 t = .ok n ∧
      if negative then d = Int64.ofInt (-n) else n < bound ∧ d = Int64.ofInt n := by
  have hparts : ∀ n, parts whole t.length 0 t = .ok n ↔ ∃ ps, t = textOf ps ∧ Adds 0 ps n :=
    fun n => parts_eq_ok_iff (Nat.le_refl _)
  constructor
  · intro h
    cases h with
    | zero => exact absurd rfl ht
    | @parts ps hps n h _ hd =>
      refine ⟨?_, n, (hparts n).mpr ⟨ps, rfl, h⟩, (toInt_eq_iff (h.le (Nat.zero_le _))).mp hd⟩
      obtain ⟨b, u, htext, -⟩ := h.exists_textOf_eq hps
      rw [htext]
      exact List.cons_ne_nil b u
  · rintro ⟨hne, n, hn, hd⟩
    obtain ⟨ps, rfl, h⟩ := (hparts n).mp hn
    have hps : ps ≠ [] := by
      rintro rfl
      exact hne rfl
    exact .parts hps h ((toInt_eq_iff (h.le (Nat.zero_le _))).mpr hd)

theorem parse_eq_ok_iff_unsigned {whole t : Text} {negative : Bool} {d : Int64}
    (h : dropSign whole = (negative, t)) : parse whole = .ok d ↔ Unsigned negative t d := by
  rw [parse, h]
  simp only
  by_cases hzero : t = [48]
  · rw [if_pos hzero, hzero, unsigned_zero_iff, Except.ok.injEq, eq_comm]
  rw [if_neg hzero, unsigned_iff hzero whole]
  by_cases hempty : t = []
  · simp [hempty]
  rw [if_neg (by simpa using hempty)]
  cases parts whole t.length 0 t with
  | error e => simp
  | ok n =>
    cases negative with
    | true => simp [hempty, eq_comm]
    | false =>
      by_cases hn : bound ≤ n
      · simp [hn, Nat.not_lt.mpr hn]
      · simp [hn, hempty, Nat.not_le.mp hn, eq_comm]

/-- **The reader takes exactly the durations.** -/
theorem parse_eq_ok_iff {t : Text} {d : Int64} : parse t = .ok d ↔ Spells t d := by
  have hsign : ∀ {b : UInt8} {u : Text}, isNumberOctet b = false → ¬ Unsigned false (b :: u) d := by
    intro b u hb h
    rw [h.head] at hb
    cases hb
  constructor
  · intro h
    rcases hdrop : dropSign t with ⟨negative, u⟩
    rw [parse_eq_ok_iff_unsigned hdrop] at h
    rw [dropSign.eq_def] at hdrop
    split at hdrop <;> cases hdrop
    · exact .minus h
    · exact .plus h
    · exact .plain h
  · intro h
    cases h with
    | plain h =>
      refine (parse_eq_ok_iff_unsigned (dropSign.eq_3 t ?_ ?_)).mpr h
      · rintro u rfl
        exact hsign (by decide) h
      · rintro u rfl
        exact hsign (by decide) h
    | plus h => exact (parse_eq_ok_iff_unsigned rfl).mpr h
    | minus h => exact (parse_eq_ok_iff_unsigned rfl).mpr h

end Duration

end HitLog
