import HitLog.Proofs.Codec
import Mathlib.Data.List.Forall2
import Mathlib.Data.List.Induction

/-!
# Canonical lines

A record has one written form, but many lines are read as it: behind a line there may be any line
ends, and before a count there may be any zeros. Writing what was read removes these and nothing
else. So what is written is a canonical form of the line, and two lines are read as one record
exactly if their canonical forms are the same text.

Which text is the canonical form of a line is said without the reader and the writer, in
`Record.Canonical`. The heart of the matter is that the numeral of a number is its only numeral
without superfluous zeros.

## Main definitions

* `Numeral.Shortest` — digits without superfluous zeros in front, as what is left of others
* `Record.Canonical` — a text as the canonical form of a line

## Main results

* `Numeral.decimal_value` — digits without superfluous zeros are the numeral of their number
* `Numeral.shortest_iff` — what is left of digits is the numeral of their number
* `Record.canonical_iff` — the canonical form of a line is what is written for its record
* `Record.text_of_parse_canonical` — reading a line and writing it
-/

namespace HitLog

open scoped Text

namespace Numeral

/-- The digits `g` are what is left of the digits `f` without the superfluous zeros in front of
them. A zero is superfluous if a digit follows it. -/
structure Shortest (f g : Text) : Prop where
  zeros : ∃ n, f = List.replicate n 48 ++ g
  nonempty : g ≠ []
  leading : g.head? = some 48 → g = [48]

/-! ### Numbers of digits -/

theorem value_concat (t : Text) (b : UInt8) : value (t ++ [b]) = 10 * value t + digitValue b := by
  simp only [value, valueOnto, List.foldl_append, List.foldl_cons, List.foldl_nil]

/-- Zeros in front of digits do not count. -/
theorem value_replicate_append (n : Nat) (t : Text) :
    value (List.replicate n 48 ++ t) = value t := by
  induction n with
  | zero => rfl
  | succ n ih =>
    rw [List.replicate_succ, List.cons_append, value, valueOnto_cons]
    exact ih

theorem digitValue_lt {b : UInt8} (h : Text.isDigit b = true) : digitValue b < 10 := by
  simp only [Text.isDigit, Bool.and_eq_true, decide_eq_true_eq, UInt8.le_iff_toNat_le] at h
  rw [digitValue]
  have : (57 : UInt8).toNat = 57 := rfl
  omega

theorem digit_digitValue {b : UInt8} (h : Text.isDigit b = true) : digit (digitValue b) = b := by
  simp only [Text.isDigit, Bool.and_eq_true, decide_eq_true_eq, UInt8.le_iff_toNat_le] at h
  have hlow : 48 ≤ b.toNat := h.1
  rw [digit, digitValue, Nat.add_sub_cancel' hlow]
  exact UInt8.ofNat_toNat

/-- **Digits without superfluous zeros are the numeral of their number.** -/
theorem decimal_value {t : Text} (hdigits : ∀ b ∈ t, Text.isDigit b = true) (hne : t ≠ [])
    (hleading : t.head? = some 48 → t = [48]) : decimal (value t) = t := by
  -- the writer puts the last digit behind the others, so the digits grow at their end
  induction t using List.reverseRecOn with
  | nil => exact absurd rfl hne
  | append_singleton t b ih =>
    have hb : Text.isDigit b = true := hdigits b (by simp)
    have hlt := digitValue_lt hb
    rw [value_concat]
    by_cases ht : t = []
    · subst ht
      rw [show value [] = 0 from rfl, Nat.mul_zero, Nat.zero_add, decimal_of_lt hlt,
        digit_digitValue hb, List.nil_append]
    · have hhead : t.head? ≠ some 48 := by
        intro hzero
        have hsingle := hleading (by rw [List.head?_append, hzero, Option.some_or])
        have hlength := congrArg List.length hsingle
        rw [List.length_append, List.length_singleton, List.length_singleton] at hlength
        exact ht (List.length_eq_zero_iff.mp (by omega))
      have hfirst : decimal (value t) = t :=
        ih (fun c hc => hdigits c (by simp [hc])) ht fun hzero => absurd hzero hhead
      -- a number of no digits but zeros would be written as one zero
      have hpos : 0 < value t := by
        refine Nat.pos_of_ne_zero fun hzero => hhead ?_
        rw [← hfirst, hzero, decimal_of_lt (by omega)]
        rfl
      rw [decimal_of_le (by omega), show (10 * value t + digitValue b) / 10 = value t by omega,
        show (10 * value t + digitValue b) % 10 = digitValue b by omega, hfirst,
        digit_digitValue hb]

theorem exists_shortest {f : Text} (h : f ≠ []) : ∃ g, Shortest f g := by
  induction f with
  | nil => exact absurd rfl h
  | cons b f ih =>
    by_cases hzero : b = 48 ∧ f ≠ []
    · obtain ⟨rfl, hf⟩ := hzero
      obtain ⟨g, ⟨n, hn⟩, hne, hleading⟩ := ih hf
      exact ⟨g, ⟨n + 1, by rw [List.replicate_succ, List.cons_append, ← hn]⟩, hne, hleading⟩
    · refine ⟨b :: f, ⟨0, rfl⟩, by simp, fun hhead => ?_⟩
      have hb : b = 48 := by simpa using hhead
      rw [hb, show f = [] from Classical.not_not.mp fun hf => hzero ⟨hb, hf⟩]

/-- **What is left of digits without their superfluous zeros is the numeral of their number.** -/
theorem shortest_iff {f g : Text} (hdigits : ∀ b ∈ f, Text.isDigit b = true) (hne : f ≠ []) :
    Shortest f g ↔ g = decimal (value f) := by
  have hnumeral : ∀ {g}, Shortest f g → g = decimal (value f) := by
    rintro g ⟨⟨n, rfl⟩, hg, hleading⟩
    rw [value_replicate_append, decimal_value (fun b hb => hdigits b (by simp [hb])) hg hleading]
  constructor
  · exact hnumeral
  · rintro rfl
    obtain ⟨g, hg⟩ := exists_shortest hne
    rwa [← hnumeral hg]

theorem Shortest.length_le {f g : Text} (h : Shortest f g) : g.length ≤ f.length := by
  obtain ⟨n, rfl⟩ := h.zeros
  simp

end Numeral

theorem Text.length_intercalate_le {sep : UInt8} {fs gs : List Text}
    (h : List.Forall₂ (fun f g => g.length ≤ f.length) fs gs) :
    ([sep].intercalate gs).length ≤ ([sep].intercalate fs).length := by
  induction h with
  | nil => exact Nat.le_refl _
  | @cons f g fs gs hfg h ih =>
    cases h with
    | nil => simpa using hfg
    | cons hfg' h' =>
      rw [List.intercalate_cons_cons, List.intercalate_cons_cons]
      simp only [List.length_append]
      omega

namespace Record

/-- The canonical form of a line that spells a record: the line ends behind the line are gone, and
so are superfluous zeros in front of each count. Everything else is as it was. -/
def Canonical (line t : Text) : Prop :=
  ∃ (l ends identifier : Text) (fs gs : List Text),
    line = l ++ ends ∧ (∀ b ∈ ends, Text.isLineEnd b = true) ∧
      (∀ b, l.getLast? = some b → Text.isLineEnd b = false) ∧
      Spells l identifier fs ∧ List.Forall₂ Numeral.Shortest fs gs ∧
      t = identifier ++ Text.colon :: [Text.comma].intercalate gs

variable {l line identifier t : Text} {fs gs : List Text} {r r' : Record}

/-! ### What is written for a line -/

theorem signed_countOf {f : Text} (h : IsCount f) :
    Numeral.signed (countOf f).toInt = Numeral.decimal (Numeral.value f) := by
  rw [toInt_countOf h, Numeral.signed_of_nonneg (Int.natCast_nonneg _), Int.toNat_natCast]

theorem forall₂_shortest_iff (h : ∀ f ∈ fs, IsCount f) :
    List.Forall₂ Numeral.Shortest fs gs ↔
      gs = (fs.map countOf).map fun c => Numeral.signed c.toInt := by
  induction fs generalizing gs with
  | nil => simp
  | cons f fs ih =>
    obtain ⟨hf, hfs⟩ := List.forall_mem_cons.mp h
    have hshortest := fun g => Numeral.shortest_iff (g := g) hf.2.1 hf.1
    cases gs with
    | nil => simp
    | cons g gs =>
      rw [List.forall₂_cons, hshortest, ih hfs, List.map_cons,
        List.map_cons, signed_countOf hf, List.cons.injEq]

theorem nonneg_countOf {f : Text} (h : IsCount f) : 0 ≤ countOf f := by
  rw [Int64.le_iff_toInt_le, toInt_countOf h]
  exact Int.natCast_nonneg _

/-- **The canonical form of a line is what is written for its record.** -/
theorem canonical_iff (h : parse line = .ok r) : Canonical line t ↔ t = r.text := by
  obtain ⟨l, ends, rfl, hends, hl⟩ := Text.exists_append_lineEnds line
  obtain ⟨fs, hspells, hcounts⟩ := (parse_append_eq_ok_iff hl hends).mp h
  have htext : r.text = r.identifier ++ Text.colon ::
      [Text.comma].intercalate ((fs.map countOf).map fun c => Numeral.signed c.toInt) := by
    rw [text, countsText, hcounts]
  constructor
  · rintro ⟨l', ends', identifier, fs', gs, hline, hends', hl', hspells', hgs, rfl⟩
    -- a line has one part in front of its line ends, and that is cut in one way
    have hpart : l' = l := by
      rw [← Text.trimLineEnds_append hl' hends', ← hline, Text.trimLineEnds_append hl hends]
    subst hpart
    obtain ⟨rfl, rfl⟩ := hspells.cut.unique hspells'.cut
    rw [htext, ← (forall₂_shortest_iff hspells.counts).mp hgs]
  · rintro rfl
    exact ⟨l, ends, r.identifier, fs, _, rfl, hends, hl, hspells,
      (forall₂_shortest_iff hspells.counts).mpr rfl, htext⟩

theorem Canonical.length_le (h : Canonical line t) : t.length ≤ line.length := by
  obtain ⟨l, ends, identifier, fs, gs, rfl, -, -, hspells, hgs, rfl⟩ := h
  have hle : ([Text.comma].intercalate gs).length ≤ ([Text.comma].intercalate fs).length :=
    Text.length_intercalate_le (hgs.imp fun _ _ => Numeral.Shortest.length_le)
  rw [hspells.joined]
  simp only [List.length_append, List.length_cons]
  omega

/-! ### Reading what is written -/

theorem parse_text_of_parse (h : parse line = .ok r) : parse r.text = .ok r := by
  obtain ⟨l, ends, rfl, hends, hl⟩ := Text.exists_append_lineEnds line
  obtain ⟨fs, hspells, hcounts⟩ := (parse_append_eq_ok_iff hl hends).mp h
  have hcounted : r.counts ≠ [] := by
    rw [hcounts]
    simpa using hspells.fielded
  have hnonneg : ∀ c ∈ r.counts, 0 ≤ c := by
    intro c hc
    rw [hcounts] at hc
    obtain ⟨f, hf, rfl⟩ := List.mem_map.mp hc
    exact nonneg_countOf (hspells.counts f hf)
  have hnone : ∀ b ∈ ([] : Text), Text.isLineEnd b = true := by simp
  simpa using parse_text_append hspells.named hcounted hnonneg hnone

/-- Records of lines are told apart by what is written for them. -/
theorem text_inj_of_parse {line' : Text} (h : parse line = .ok r) (h' : parse line' = .ok r')
    (htext : r.text = r'.text) : r = r' := by
  have hparse := parse_text_of_parse h
  rw [htext, parse_text_of_parse h'] at hparse
  exact (Except.ok.inj hparse).symm

/-- **Reading a line and writing it makes it canonical.** What is written is read as the same record
again. It is the canonical form of the line, which has no other, and it is never longer than the
line. Two lines are read as one record exactly if they have a canonical form in common. -/
theorem text_of_parse_canonical (line : Text) (r : Record) (h : parse line = .ok r) :
    parse r.text = .ok r ∧ (∀ t, Canonical line t ↔ t = r.text) ∧
      r.text.length ≤ line.length ∧
      ∀ line' r', parse line' = .ok r' →
        (r = r' ↔ ∃ t, Canonical line t ∧ Canonical line' t) := by
  refine ⟨parse_text_of_parse h, fun t => canonical_iff h,
    ((canonical_iff h).mpr rfl).length_le, fun line' r' h' => ?_⟩
  simp only [canonical_iff h, canonical_iff h']
  constructor
  · rintro rfl
    exact ⟨r.text, rfl, rfl⟩
  · rintro ⟨t, rfl, htext⟩
    exact text_inj_of_parse h h' htext

/-- A unit named by a colon and a line feed, with counts behind zeros, one of which is zero itself:
the zeros and the line ends go, and the line feed of the name stays. -/
theorem text_of_parse_canonical_of_zeros :
    let line : Text := ":\n:007,000,10\r\n\n"
    let r : Record := ⟨":\n", [7, 0, 10]⟩
    let written : Text := ":\n:7,0,10"
    parse line = .ok r ∧ r.text = written ∧ Canonical line written ∧ parse written = .ok r := by
  intro line r written
  have hline : parse line = .ok r := by decide
  have htext : r.text = written := by decide +kernel
  obtain ⟨hparse, hcanonical, -⟩ := text_of_parse_canonical line r hline
  exact ⟨hline, htext, (hcanonical written).mpr htext.symm, htext ▸ hparse⟩

end Record

end HitLog
