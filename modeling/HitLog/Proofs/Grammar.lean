import HitLog.Record.Parser
import HitLog.Proofs.Numeral
import HitLog.Proofs.Text

/-!
# The grammar of a line

Which lines are records is said here without the reader: an identifier, a colon, and fields of
digits between commas. Nothing is escaped, so a line could be cut at any of its colons; it is the
fields that decide, as they hold neither colon nor comma. A line is therefore cut in one way only,
and everything about reading follows from how it is cut (`Record.Cut`): there is no cut, or some
field is the first that is no count, or all fields are counts.

## Main definitions

* `Record.IsCount` — the fields that stand for counts
* `Record.Cut` — an identifier and fields, whatever the fields are
* `Record.Spells` — an identifier and counts, which is the grammar
* `Record.Faulty`, `Record.Reading` — the first field that is no count, and all outcomes together

## Main results

* `Record.Cut.unique`, `Record.exists_cut_iff` — a line is cut in at most one way, and when it is
* `Record.reading_parse` — each line has one of the outcomes
* `Record.parse_append_eq_ok_iff`, `Record.parse_append_eq_count_iff` — when it has which
* `Record.parse_eq_grammar` — all outcomes of reading a line
-/

namespace HitLog

/-- What does not hold everywhere in a list fails somewhere for the first time. -/
theorem exists_first_not {α : Type} {p : α → Prop} {xs : List α} (h : ¬ ∀ x ∈ xs, p x) :
    ∃ before x after, xs = before ++ x :: after ∧ (∀ y ∈ before, p y) ∧ ¬ p x := by
  induction xs with
  | nil => exact absurd (by simp) h
  | cons x xs ih =>
    by_cases hx : p x
    · obtain ⟨before, y, after, rfl, hbefore, hy⟩ := ih fun hall =>
        h (List.forall_mem_cons.mpr ⟨hx, hall⟩)
      exact ⟨x :: before, y, after, rfl, List.forall_mem_cons.mpr ⟨hx, hbefore⟩, hy⟩
    · exact ⟨[], x, xs, rfl, by simp, hx⟩

namespace Record

open scoped Text

/-- The largest count. -/
def largestCount : Nat := 9223372036854775807

/-- A field that stands for a count: digits, be there leading zeros or not, whose number is not
above the largest count. -/
def IsCount (f : Text) : Prop :=
  f ≠ [] ∧ (∀ b ∈ f, Text.isDigit b = true) ∧ Numeral.value f ≤ largestCount

/-- The count that a field stands for. -/
def countOf (f : Text) : Int64 := Int64.ofNat (Numeral.value f)

/-- A line as a named unit with fields between commas behind its last colon. -/
structure Cut (l identifier : Text) (fs : List Text) : Prop where
  named : identifier ≠ []
  joined : l = identifier ++ Text.colon :: [Text.comma].intercalate fs
  fielded : fs ≠ []
  plain : ∀ f ∈ fs, Text.colon ∉ f ∧ Text.comma ∉ f

/-- A line as a named unit with counts between commas behind a colon. -/
structure Spells (l identifier : Text) (fs : List Text) : Prop where
  named : identifier ≠ []
  joined : l = identifier ++ Text.colon :: [Text.comma].intercalate fs
  fielded : fs ≠ []
  counts : ∀ f ∈ fs, IsCount f

/-- A line whose field at an index is the first that is no count, with the reader's reason. -/
def Faulty (l : Text) (i : Nat) (f : Text) (cause : Numeral.Error) : Prop :=
  ∃ identifier before after, Cut l identifier (before ++ f :: after) ∧ before.length = i ∧
    (∀ g ∈ before, IsCount g) ∧ Numeral.readUpTo maxCount f = .error cause

/-- What is made of a line. -/
inductive Reading (l : Text) : Except ParseError Record → Prop where
  | uncut : (¬ ∃ identifier fs, Cut l identifier fs) → Reading l (.error .missingSeparator)
  | faulty {i : Nat} {f : Text} {cause : Numeral.Error} :
    Faulty l i f cause → Reading l (.error (.count i f cause))
  | record {identifier : Text} {fs : List Text} :
    Spells l identifier fs → Reading l (.ok ⟨identifier, fs.map countOf⟩)

variable {l identifier : Text} {fs : List Text}

/-! ### Cutting -/

/-- Counts hold neither colon nor comma, so a line of the grammar is cut at its last colon. -/
theorem Spells.cut (h : Spells l identifier fs) : Cut l identifier fs where
  named := h.named
  joined := h.joined
  fielded := h.fielded
  plain f hf := by
    obtain ⟨-, hdigits, -⟩ := h.counts f hf
    have hnot : ∀ b, Text.isDigit b = false → b ∉ f := by
      intro b hb hmem
      rw [hdigits b hmem] at hb
      cases hb
    exact ⟨hnot Text.colon (by decide), hnot Text.comma (by decide)⟩

theorem Cut.splitAtLast (h : Cut l identifier fs) :
    Text.splitAtLast Text.colon l = some (identifier, [Text.comma].intercalate fs) := by
  rw [h.joined]
  refine Text.splitAtLast_append_cons identifier fun hmem => ?_
  rcases Text.mem_intercalate hmem with hcomma | ⟨f, hf, hcolon⟩
  · exact absurd hcomma (by decide)
  · exact (h.plain f hf).1 hcolon

theorem Cut.fields (h : Cut l identifier fs) :
    Text.fields Text.comma ([Text.comma].intercalate fs) = fs :=
  Text.fields_intercalate h.fielded fun f hf => (h.plain f hf).2

/-- A line is cut in one way only. -/
theorem Cut.unique {identifier' : Text} {fs' : List Text} (h : Cut l identifier fs)
    (h' : Cut l identifier' fs') : identifier' = identifier ∧ fs' = fs := by
  have hsplit := h'.splitAtLast
  rw [h.splitAtLast] at hsplit
  obtain ⟨hid, hjoined⟩ := Prod.mk.inj (Option.some.inj hsplit)
  exact ⟨hid.symm, by rw [← h'.fields, ← hjoined, h.fields]⟩

/-- A line can be cut exactly if it has a colon that is not its first octet. -/
theorem exists_cut_iff :
    (∃ identifier fs, Cut l identifier fs) ↔ ∃ i, 0 < i ∧ l[i]? = some Text.colon := by
  constructor
  · rintro ⟨identifier, fs, h⟩
    refine ⟨identifier.length, List.length_pos_iff.mpr h.named, ?_⟩
    rw [h.joined, List.getElem?_append_right (Nat.le_refl _), Nat.sub_self]
    rfl
  · rintro ⟨i, hi, hcolon⟩
    cases l with
    | nil => cases hcolon
    | cons b l =>
      -- behind the first octet there is a colon, so the part before the last one is not empty
      obtain ⟨i, rfl⟩ := Nat.exists_eq_add_of_lt hi
      have hmem : Text.colon ∈ l := List.mem_of_getElem? (by simpa using hcolon)
      obtain ⟨front, rest, rfl, hrest⟩ := Text.exists_eq_append_cons_last hmem
      have hjoined : [Text.comma].intercalate (Text.fields Text.comma rest) = rest :=
        Text.intercalate_fields Text.comma rest
      exact ⟨b :: front, Text.fields Text.comma rest,
        { named := by simp
          joined := by rw [hjoined, List.cons_append]
          fielded := Text.fields_ne_nil Text.comma rest
          plain := fun f hf => ⟨fun hc => hrest (hjoined ▸ Text.mem_intercalate_of_mem hf hc),
            Text.not_mem_of_mem_fields hf⟩ }⟩

/-! ### Fields -/

theorem maxCount_eq : maxCount = largestCount := rfl

theorem le_largestCount_iff {n : Nat} : n ≤ largestCount ↔ n < Nat.pow 2 63 :=
  Nat.lt_succ_iff.symm

theorem readUpTo_of_isCount {f : Text} (h : IsCount f) :
    Numeral.readUpTo maxCount f = .ok (Numeral.value f) := by
  obtain ⟨hne, hdigits, hle⟩ := h
  exact Numeral.readUpTo_eq_ok_iff.mpr ⟨hne, hdigits, rfl, hle⟩

/-- A field that is no count is refused, for the one reason or the other. -/
theorem exists_cause_of_not_isCount {f : Text} (h : ¬ IsCount f) :
    ∃ cause, Numeral.readUpTo maxCount f = .error cause := by
  cases hread : Numeral.readUpTo maxCount f with
  | error cause => exact ⟨cause, rfl⟩
  | ok n =>
    obtain ⟨hne, hdigits, rfl, hle⟩ := Numeral.readUpTo_eq_ok_iff.mp hread
    exact absurd ⟨hne, hdigits, hle⟩ h

theorem readUpTo_eq_error_iff {f : Text} {cause : Numeral.Error} :
    Numeral.readUpTo maxCount f = .error cause ↔ ¬ IsCount f ∧
      (cause = .tooLarge ↔ ∃ p, p <+: f ∧ (∀ b ∈ p, Text.isDigit b = true) ∧
        largestCount < Numeral.value p) := by
  rw [← maxCount_eq, ← Numeral.readUpTo_eq_tooLarge_iff]
  constructor
  · intro hread
    refine ⟨fun hf => ?_, by rw [hread, Except.error.injEq]⟩
    rw [readUpTo_of_isCount hf] at hread
    cases hread
  · rintro ⟨hf, hcause⟩
    obtain ⟨cause', hread⟩ := exists_cause_of_not_isCount hf
    rw [hread, Except.error.injEq] at hcause ⊢
    -- of two reasons, both are or are not the same one
    cases cause <;> cases cause' <;> simp_all

theorem toInt_countOf {f : Text} (h : IsCount f) : (countOf f).toInt = Numeral.value f := by
  obtain ⟨-, -, hle⟩ := h
  rw [countOf, Int64.toInt_ofNat_of_lt (le_largestCount_iff.mp hle)]

theorem eq_map_countOf_iff {counts : List Int64} (h : ∀ f ∈ fs, IsCount f) :
    counts = fs.map countOf ↔
      counts.map Int64.toInt = fs.map fun f => (Numeral.value f : Int) := by
  have hvalues : (fs.map countOf).map Int64.toInt = fs.map fun f => (Numeral.value f : Int) := by
    rw [List.map_map]
    exact List.map_congr_left fun f hf => toInt_countOf (h f hf)
  rw [← hvalues, List.map_inj_right fun _ _ => Int64.toInt_inj.mp]

/-- Counts at the start are taken, and reading goes on behind them. -/
theorem parseCounts_append (h : ∀ f ∈ fs, IsCount f) (i : Nat) (acc : List Int64)
    (gs : List Text) :
    parseCounts i acc (fs ++ gs)
      = parseCounts (i + fs.length) ((fs.map countOf).reverse ++ acc) gs := by
  induction fs generalizing i acc with
  | nil => rfl
  | cons f fs ih =>
    obtain ⟨hf, hfs⟩ := List.forall_mem_cons.mp h
    rw [List.cons_append, parseCounts, readUpTo_of_isCount hf]
    show parseCounts (i + 1) (countOf f :: acc) (fs ++ gs) = _
    rw [ih hfs, List.map_cons, List.reverse_cons, List.append_assoc, List.singleton_append,
      List.length_cons, Nat.add_assoc, Nat.add_comm 1]

theorem parseCounts_eq_ok (h : ∀ f ∈ fs, IsCount f) :
    parseCounts 0 [] fs = .ok (fs.map countOf) := by
  have happend := parseCounts_append h 0 [] []
  rw [List.append_nil, List.append_nil] at happend
  rw [happend, parseCounts, List.reverse_reverse]

theorem parseCounts_eq_error {f : Text} {cause : Numeral.Error} (h : ∀ g ∈ fs, IsCount g)
    (hf : Numeral.readUpTo maxCount f = .error cause) (gs : List Text) :
    parseCounts 0 [] (fs ++ f :: gs) = .error (.count fs.length f cause) := by
  rw [parseCounts_append h, parseCounts, hf, Nat.zero_add]

/-! ### Lines -/

section Lines

variable {ends : Text} (hl : ∀ b, l.getLast? = some b → Text.isLineEnd b = false)
  (hends : ∀ b ∈ ends, Text.isLineEnd b = true)

include hl hends

theorem Cut.parse_append (h : Cut l identifier fs) :
    parse (l ++ ends) = (parseCounts 0 [] fs).map (Record.mk identifier) := by
  rw [parse, Text.trimLineEnds_append hl hends, h.splitAtLast]
  simp only
  rw [if_neg (by simpa using h.named), h.fields]

theorem parse_append_of_not_cut (h : ¬ ∃ identifier fs, Cut l identifier fs) :
    parse (l ++ ends) = .error .missingSeparator := by
  rw [parse, Text.trimLineEnds_append hl hends]
  by_cases hmem : Text.colon ∈ l
  · obtain ⟨front, rest, rfl, hrest⟩ := Text.exists_eq_append_cons_last hmem
    rw [Text.splitAtLast_append_cons front hrest]
    cases front with
    | nil => rfl
    | cons b front =>
      refine absurd (exists_cut_iff.mpr ⟨front.length + 1, by omega, ?_⟩) h
      rw [List.cons_append, List.getElem?_cons_succ, List.getElem?_append_right (Nat.le_refl _),
        Nat.sub_self]
      rfl
  · rw [Text.splitAtLast_of_not_mem hmem]

theorem Spells.parse_append (h : Spells l identifier fs) :
    parse (l ++ ends) = .ok ⟨identifier, fs.map countOf⟩ := by
  rw [h.cut.parse_append hl hends, parseCounts_eq_ok h.counts]
  rfl

theorem Faulty.parse_append {i : Nat} {f : Text} {cause : Numeral.Error} (h : Faulty l i f cause) :
    parse (l ++ ends) = .error (.count i f cause) := by
  obtain ⟨identifier, before, after, hcut, rfl, hbefore, hcause⟩ := h
  rw [hcut.parse_append hl hends, parseCounts_eq_error hbefore hcause]
  rfl

/-- **A line is read in one of three ways.** -/
theorem reading_parse : Reading l (parse (l ++ ends)) := by
  by_cases hcut : ∃ identifier fs, Cut l identifier fs
  · obtain ⟨identifier, fs, hcut⟩ := hcut
    by_cases hcounts : ∀ f ∈ fs, IsCount f
    · have hspells : Spells l identifier fs := ⟨hcut.named, hcut.joined, hcut.fielded, hcounts⟩
      rw [hspells.parse_append hl hends]
      exact .record hspells
    · obtain ⟨before, f, after, rfl, hbefore, hf⟩ := exists_first_not hcounts
      obtain ⟨cause, hcause⟩ := exists_cause_of_not_isCount hf
      have hfaulty : Faulty l before.length f cause :=
        ⟨identifier, before, after, hcut, rfl, hbefore, hcause⟩
      rw [hfaulty.parse_append hl hends]
      exact .faulty hfaulty
  · rw [parse_append_of_not_cut hl hends hcut]
    exact .uncut hcut

theorem parse_append_eq_ok_iff {r : Record} :
    parse (l ++ ends) = .ok r ↔ ∃ fs, Spells l r.identifier fs ∧ r.counts = fs.map countOf := by
  have hreading := reading_parse hl hends
  constructor
  · intro hparse
    rw [hparse] at hreading
    cases hreading with
    | record hspells => exact ⟨_, hspells, rfl⟩
  · rintro ⟨fs, hspells, hcounts⟩
    rw [hspells.parse_append hl hends, ← hcounts]

theorem parse_append_eq_missingSeparator_iff :
    parse (l ++ ends) = .error .missingSeparator ↔ ¬ ∃ identifier fs, Cut l identifier fs := by
  have hreading := reading_parse hl hends
  constructor
  · intro hparse
    rw [hparse] at hreading
    cases hreading with
    | uncut hcut => exact hcut
  · exact parse_append_of_not_cut hl hends

theorem parse_append_eq_count_iff {i : Nat} {f : Text} {cause : Numeral.Error} :
    parse (l ++ ends) = .error (.count i f cause) ↔ Faulty l i f cause := by
  have hreading := reading_parse hl hends
  constructor
  · intro hparse
    rw [hparse] at hreading
    cases hreading with
    | faulty hfaulty => exact hfaulty
  · exact fun hfaulty => hfaulty.parse_append hl hends

end Lines

/-- **The reader accepts the grammar and reports the first departure from it.** Let `l` be a line
without the line ends behind it. It is read as a record exactly if it spells one; it then does so in
one way, and the counts are the numbers of its fields. Otherwise the separator is missing exactly if
no colon stands behind the first octet, and else the first field that is no count is reported, as
too large exactly if digits at its start already make a number above the largest count. -/
theorem parse_eq_grammar (s : Text) :
    ∃ l ends : Text, s = l ++ ends ∧ (∀ b ∈ ends, Text.isLineEnd b = true) ∧
      (∀ b, l.getLast? = some b → Text.isLineEnd b = false) ∧
      (∀ r, parse s = .ok r ↔ ∃ fs, Spells l r.identifier fs ∧
        r.counts.map Int64.toInt = fs.map fun f => (Numeral.value f : Int)) ∧
      (∀ identifier fs identifier' fs', Spells l identifier fs → Spells l identifier' fs' →
        identifier' = identifier ∧ fs' = fs) ∧
      (parse s = .error .missingSeparator ↔ ¬ ∃ i, 0 < i ∧ l[i]? = some Text.colon) ∧
      (∀ i f cause, parse s = .error (.count i f cause) ↔
        ∃ identifier before after, Cut l identifier (before ++ f :: after) ∧ before.length = i ∧
          (∀ g ∈ before, IsCount g) ∧ ¬ IsCount f ∧
          (cause = .tooLarge ↔ ∃ p, p <+: f ∧ (∀ b ∈ p, Text.isDigit b = true) ∧
            largestCount < Numeral.value p)) ∧
      ∀ e, parse s = .error e → e.kinds = [.malformedRecord] ∧
        e.message = match e with
          | .missingSeparator => ("malformed record: missing identifier separator" : Text)
          | .count i f cause =>
            "malformed record: count " ++ Numeral.decimal i ++ ": strconv.ParseUint: parsing " ++
              Quoted.quote f ++ ": " ++
              if cause = .tooLarge then ("value out of range" : Text) else "invalid syntax" := by
  obtain ⟨l, ends, rfl, hends, hl⟩ := Text.exists_append_lineEnds s
  refine ⟨l, ends, rfl, hends, hl, fun r => ?_, fun identifier fs identifier' fs' h h' => ?_, ?_,
    fun i f cause => ?_, fun e _ => ⟨rfl, ?_⟩⟩
  · rw [parse_append_eq_ok_iff hl hends]
    refine exists_congr fun fs => and_congr_right fun hspells => ?_
    exact eq_map_countOf_iff hspells.counts
  · exact h.cut.unique h'.cut
  · rw [parse_append_eq_missingSeparator_iff hl hends, exists_cut_iff]
  · rw [parse_append_eq_count_iff hl hends, Faulty]
    simp only [readUpTo_eq_error_iff]
  · cases e with
    | missingSeparator => rfl
    | count i f cause => cases cause <;> rfl

end Record

end HitLog
