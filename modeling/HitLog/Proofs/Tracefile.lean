import HitLog.Tracefile
import HitLog.Proofs.Codec
import HitLog.Proofs.Merge
import HitLog.Proofs.Output
import Mathlib.Algebra.BigOperators.Group.List.Basic

/-!
# What a tracefile shows

A consumer of a tracefile reads it line by line: it remembers the source of the section it is in and
adds up the hits of each line of each source, over all sections. What it finds are the counts of the
records, added up over all records shown under one source name.

Records of one unit are shown under one name, and sites without hits are not shown at all, so it is
the same to such a consumer whether records are merged before they are shown or not, as long as no
sum is too large for a word. Units that share a name make no difference: adding up over a name's
records is adding up over its units first and over the records of each unit second.

## Main definitions

* `Tracefile.consume` — the entries a consumer finds
* `Tracefile.hitsAt`, `Tracefile.Shows` — the hits of a line, and whether it has an entry
* `Tracefile.written` — the file as it reaches a sink without bound
* `Tracefile.total` — the hits of a line by the records' counts

## Main results

* `Tracefile.consume_text` — a consumer finds the hits of each record
* `Tracefile.hitsAt_text` — and adds them up
* `Tracefile.total_of_sums` — merging keeps the totals
* `Tracefile.hitsAt_written_merge` — merging is invisible to a consumer
* `Tracefile.writeTo_bounded` — what a sink has of a file when it fails
-/

namespace HitLog

namespace Numeral

/-- The number that a run of digits stands for, however large. -/
def number? (t : Text) : Option Nat := (readUpTo (Nat.pow 10 t.length) t).toOption

theorem lt_pow_length_decimal (n : Nat) : n < Nat.pow 10 (decimal n).length := by
  fun_induction decimal n with
  | case1 n h => simpa using h
  | case2 n h ih =>
    rw [List.length_append, List.length_singleton]
    have hpow : Nat.pow 10 ((decimal (n / 10)).length + 1)
        = Nat.pow 10 (decimal (n / 10)).length * 10 := Nat.pow_succ 10 _
    omega

theorem number?_decimal (n : Nat) : number? (decimal n) = some n := by
  rw [number?, readUpTo_decimal (Nat.le_of_lt (lt_pow_length_decimal n))]
  rfl

theorem not_mem_decimal {b : UInt8} (h : Text.isDigit b = false) (n : Nat) : b ∉ decimal n :=
  fun hb => Record.ne_of_isDigit (isDigit_of_mem_decimal hb) h rfl

theorem lineFeed_not_mem_signed (i : Int) : Text.lineFeed ∉ signed i := by
  have hdecimal := not_mem_decimal (b := Text.lineFeed) rfl i.natAbs
  rw [signed]
  split
  · simpa [Text.lineFeed] using hdecimal
  · exact hdecimal

end Numeral

namespace Tracefile

open scoped Text

/-! ### Consumers -/

/-- What a line of a file is to a consumer that adds up hits. -/
inductive Line where
  /-- A section about a source begins. -/
  | source (name : Text)
  /-- A line of the source was hit. -/
  | hits (line count : Nat)
  /-- The section ends. -/
  | done
  /-- Anything else. -/
  | other

/-- What stands behind a tag. -/
def behind? (tag t : Text) : Option Text :=
  if tag.isPrefixOf t then some (t.drop tag.length) else none

/-- The hits that an entry's body tells. -/
def readHits (body : Text) : Option (Nat × Nat) := do
  let (line, count) ← Text.splitAtFirst Text.comma body
  return (← Numeral.number? line, ← Numeral.number? count)

/-- Read a line. -/
def Line.read (t : Text) : Line :=
  match behind? "SF:" t with
  | some name => .source name
  | none =>
    match (behind? "DA:" t).bind readHits with
    | some (line, count) => .hits line count
    | none => if t = "end_of_record" then .done else .other

/-- How often a line of a source was hit, by one entry of a file. -/
structure Entry where
  /-- The source's name. -/
  source : Text
  /-- The line. -/
  line : Nat
  /-- How often it was hit. -/
  hits : Nat
  deriving DecidableEq

/-- The entries among lines that stand in a section about `current`, or in none. -/
def entriesOf (current : Option Text) : List Text → List Entry
  | [] => []
  | t :: ts =>
    match Line.read t with
    | .source name => entriesOf (some name) ts
    | .hits line count => (current.map (⟨·, line, count⟩)).toList ++ entriesOf current ts
    | .done => entriesOf none ts
    | .other => entriesOf current ts

/-- The entries of a file. -/
def consume (file : Text) : List Entry := entriesOf none (Text.fields Text.lineFeed file)

/-- The hits of a source's line, added up over entries. -/
def hitsIn (es : List Entry) (source : Text) (line : Nat) : Nat :=
  ((es.filter fun e => e.source = source ∧ e.line = line).map Entry.hits).sum

/-- The hits of a source's line, added up over a file. -/
def hitsAt (file source : Text) (line : Nat) : Nat := hitsIn (consume file) source line

/-- A file has an entry for a source's line. -/
def Shows (file source : Text) (line : Nat) : Prop :=
  ∃ e ∈ consume file, e.source = source ∧ e.line = line

theorem hitsIn_append (es es' : List Entry) (source : Text) (line : Nat) :
    hitsIn (es ++ es') source line = hitsIn es source line + hitsIn es' source line := by
  simp [hitsIn]

/-! ### The lines of a file -/

/-- The line that tells a hit. -/
def hitLine (x : Nat × Int64) : Text :=
  "DA:" ++ (Numeral.decimal x.1 ++ Text.comma :: Numeral.signed x.2.toInt)

/-- The lines of a section. -/
def Section.lines (s : Section) : List Text :=
  ["TN:" ++ s.test, "SF:" ++ s.source] ++ s.hits.map hitLine ++
    ["LH:" ++ Numeral.decimal s.hit, "LF:" ++ Numeral.signed s.found, "end_of_record"]

theorem Section.entries_eq (s : Section) : s.entries = s.lines.map (· ++ [Text.lineFeed]) := by
  simp [Section.entries, Section.lines, entry, hitLine, Function.comp_def]

/-- No line feed is among the texts to be shown. -/
structure Unbroken (o : Options) (rs : List Record) : Prop where
  test : Text.lineFeed ∉ o.testName
  rename : ∀ p ∈ o.rename, Text.lineFeed ∉ p.2
  identifiers : ∀ r ∈ rs, Text.lineFeed ∉ r.identifier

/-- The name under which a unit is shown. -/
def sourceOf (o : Options) (identifier : Text) : Text :=
  (o.rename.lookup identifier).getD identifier

variable {o : Options} {rs : List Record}

theorem Unbroken.sourceOf (h : Unbroken o rs) {r : Record} (hr : r ∈ rs) :
    Text.lineFeed ∉ sourceOf o r.identifier := by
  rw [Tracefile.sourceOf]
  cases hlookup : o.rename.lookup r.identifier with
  | none => exact h.identifiers r hr
  | some name =>
    obtain ⟨before, behind, hsplit, -⟩ := List.lookup_eq_some_iff.mp hlookup
    exact h.rename (r.identifier, name) (by simp [hsplit])

theorem hitsFrom_cons (first : Nat) (c : Int64) (counts : List Int64) :
    hitsFrom first (c :: counts)
      = if 0 < c then (first, c) :: hitsFrom (first + 1) counts
        else hitsFrom (first + 1) counts := by
  simp only [hitsFrom, List.zipIdx_cons, List.filterMap_cons]
  split <;> simp_all

/-- **Counting the hits and listing them agree**, though each goes through the counts itself. -/
theorem length_hitsFrom (first : Nat) (counts : List Int64) :
    (hitsFrom first counts).length = hitCount counts := by
  induction counts generalizing first with
  | nil => rfl
  | cons c counts ih =>
    rw [hitsFrom_cons, hitCount, List.countP_cons, ← hitCount, ← ih (first + 1)]
    by_cases hc : 0 < c
    · simp [hc]
    · simp [hc]

/-- What the section of a record says. -/
theorem section?_eq_some_iff {r : Record} {s : Section} :
    Tracefile.section? o r = some s ↔ hitCount r.counts ≠ 0 ∧ s = {
      test := o.test
      source := sourceOf o r.identifier
      hits := hitsFrom 1 r.counts
      hit := hitCount r.counts
      found := ((o.found.lookup r.identifier).map Int64.toInt).getD r.counts.length } := by
  simp only [section?, sourceOf]
  by_cases hhit : hitCount r.counts = 0
  · simp [hhit]
  · simp [hhit, eq_comm (b := s)]

theorem section?_eq_none {r : Record} (h : section? o r = none) : hitsFrom 1 r.counts = [] := by
  rw [section?] at h
  split at h
  · exact List.length_eq_zero_iff.mp ((length_hitsFrom 1 r.counts).trans ‹_›)
  · cases h

/-- No line of a section is broken. -/
theorem lineFeed_not_mem_lines {s : Section} (htest : Text.lineFeed ∉ s.test)
    (hsource : Text.lineFeed ∉ s.source) : ∀ t ∈ s.lines, Text.lineFeed ∉ t := by
  have hdecimal : ∀ n, Text.lineFeed ∉ Numeral.decimal n := Numeral.not_mem_decimal rfl
  have htags : ∀ tag ∈ ["TN:", "SF:", "DA:", "LH:", "LF:", "end_of_record"],
      Text.lineFeed ∉ (Text.ofString tag) := by decide
  intro t ht
  simp only [Section.lines, List.mem_append, List.mem_cons, List.not_mem_nil, or_false,
    List.mem_map] at ht
  rcases ht with ((rfl | rfl) | ⟨x, -, rfl⟩) | (rfl | rfl | rfl)
  · simpa [htest] using htags "TN:" (by simp)
  · simpa [hsource] using htags "SF:" (by simp)
  · have hcomma : Text.lineFeed ≠ Text.comma := by decide
    simpa [hitLine, hdecimal, hcomma, Numeral.lineFeed_not_mem_signed] using htags "DA:" (by simp)
  · simpa [hdecimal] using htags "LH:" (by simp)
  · simpa [Numeral.lineFeed_not_mem_signed] using htags "LF:" (by simp)
  · exact htags "end_of_record" (by simp)

/-- A file consists of the lines of its sections, each with its end. -/
theorem text_eq_lines (o : Options) (rs : List Record) :
    text o rs
      = ((sections o rs).flatMap Section.lines).flatMap fun t => t ++ [Text.lineFeed] := by
  rw [text, entries, List.flatten_eq_flatMap, List.flatMap_assoc, List.flatMap_assoc]
  congr 1
  funext s
  rw [Section.entries_eq, List.flatMap_map]
  rfl

theorem Unbroken.lines (h : Unbroken o rs) :
    ∀ t ∈ (sections o rs).flatMap Section.lines, Text.lineFeed ∉ t := by
  intro t ht
  obtain ⟨s, hs, ht⟩ := List.mem_flatMap.mp ht
  obtain ⟨r, hr, hsection⟩ := List.mem_filterMap.mp hs
  obtain ⟨-, rfl⟩ := section?_eq_some_iff.mp hsection
  refine lineFeed_not_mem_lines ?_ (h.sourceOf hr) t ht
  show Text.lineFeed ∉ o.test
  rw [Options.test]
  split
  · decide
  · exact h.test

/-- **A file is taken apart into the lines of its sections.** -/
theorem fields_text (h : Unbroken o rs) :
    Text.fields Text.lineFeed (text o rs) = (sections o rs).flatMap Section.lines ++ [[]] := by
  rw [text_eq_lines, Text.fields_flatMap_append h.lines, List.map_id']

/-! ### What a consumer finds -/

theorem behind?_append (tag t : Text) : behind? tag (tag ++ t) = some t := by
  simp [behind?]

theorem read_source (name : Text) : Line.read ("SF:" ++ name) = .source name := by
  rw [Line.read, behind?_append]

theorem readHits_body {x : Nat × Int64} (h : 0 ≤ x.2) :
    readHits (Numeral.decimal x.1 ++ Text.comma :: Numeral.signed x.2.toInt)
      = some (x.1, x.2.toNatClampNeg) := by
  have hcomma : Text.comma ∉ Numeral.decimal x.1 := Numeral.not_mem_decimal rfl x.1
  rw [readHits, Text.splitAtFirst_append_cons hcomma, Record.signed_toInt h]
  simp [Numeral.number?_decimal]

theorem read_hitLine {x : Nat × Int64} (h : 0 ≤ x.2) :
    Line.read (hitLine x) = .hits x.1 x.2.toNatClampNeg := by
  have hnot (t : Text) : behind? "SF:" (Text.ofString "DA:" ++ t) = none := rfl
  rw [Line.read, hitLine, hnot, behind?_append, Option.bind_some, readHits_body h]

/-- The entry of a hit. -/
def Entry.ofHit (source : Text) (x : Nat × Int64) : Entry := ⟨source, x.1, x.2.toNatClampNeg⟩

/-- The entries of a record. -/
def shown (o : Options) (r : Record) : List Entry :=
  (hitsFrom 1 r.counts).map (Entry.ofHit (sourceOf o r.identifier))

theorem pos_of_mem_hitsFrom {first : Nat} {counts : List Int64} {x : Nat × Int64}
    (h : x ∈ hitsFrom first counts) : 0 < x.2 := by
  obtain ⟨⟨c, i⟩, -, hx⟩ := List.mem_filterMap.mp h
  dsimp only at hx
  split at hx
  · cases hx
    assumption
  · cases hx

/-- Inside a section, each hit is an entry of its source. -/
theorem entriesOf_hits (source : Text) {hits : List (Nat × Int64)} (h : ∀ x ∈ hits, 0 < x.2)
    (rest : List Text) :
    entriesOf (some source) (hits.map hitLine ++ rest)
      = hits.map (Entry.ofHit source) ++ entriesOf (some source) rest := by
  induction hits with
  | nil => rfl
  | cons x hits ih =>
    have hx : 0 ≤ x.2 := Int64.le_of_lt (h x (by simp))
    rw [List.map_cons, List.cons_append, entriesOf, read_hitLine hx,
      ih fun y hy => h y (List.mem_cons_of_mem x hy)]
    rfl

/-- **One section**: its hits are found, and the section is left again. -/
theorem entriesOf_section {s : Section} (h : ∀ x ∈ s.hits, 0 < x.2) (current : Option Text)
    (rest : List Text) :
    entriesOf current (s.lines ++ rest)
      = s.hits.map (Entry.ofHit s.source) ++ entriesOf none rest := by
  have hother (t : Text) : Line.read ("TN:" ++ t) = .other ∧ Line.read ("LH:" ++ t) = .other ∧
      Line.read ("LF:" ++ t) = .other := ⟨rfl, rfl, rfl⟩
  have hdone : Line.read "end_of_record" = .done := rfl
  simp only [Section.lines, List.cons_append, List.nil_append, List.append_assoc, entriesOf,
    (hother _).1, read_source, entriesOf_hits s.source h, (hother _).2.1, (hother _).2.2, hdone]

/-- **All sections.** A record without hits has no section, and no entries either. -/
theorem entriesOf_sections (o : Options) (rs : List Record) (rest : List Text) :
    entriesOf none ((sections o rs).flatMap Section.lines ++ rest)
      = rs.flatMap (shown o) ++ entriesOf none rest := by
  induction rs with
  | nil => rfl
  | cons r rs ih =>
    rw [sections] at ih ⊢
    rw [List.filterMap_cons, List.flatMap_cons, shown]
    cases hr : section? o r with
    | none =>
      rw [section?_eq_none hr]
      exact ih
    | some s =>
      obtain ⟨-, rfl⟩ := section?_eq_some_iff.mp hr
      rw [List.flatMap_cons, List.append_assoc, List.append_assoc,
        entriesOf_section fun x hx => pos_of_mem_hitsFrom hx, ih]

/-- **A consumer finds the hits of each record.** -/
theorem consume_text (h : Unbroken o rs) : consume (text o rs) = rs.flatMap (shown o) := by
  rw [consume, fields_text h, entriesOf_sections o rs [[]]]
  exact List.append_nil _

/-! ### Totals -/

/-- The hits of a line by a record's counts. -/
def lineHits (r : Record) : Nat → Nat
  | 0 => 0
  | site + 1 => (r.counts.getD site 0).toNatClampNeg

/-- The hits of a source's line, added up over the records shown under its name. -/
def total (o : Options) (rs : List Record) (source : Text) (line : Nat) : Nat :=
  ((rs.filter fun r => sourceOf o r.identifier = source).map (lineHits · line)).sum

/-- The hits of a record on one line are the count of its site. -/
theorem sum_hitsFrom (first line : Nat) (counts : List Int64) :
    (((hitsFrom first counts).filter fun x => x.1 = line).map fun x => x.2.toNatClampNeg).sum
      = if first ≤ line then (counts.getD (line - first) 0).toNatClampNeg else 0 := by
  induction counts generalizing first with
  | nil => simp [hitsFrom]
  | cons c counts ih =>
    -- the first count is that of the line exactly if the line is the first one
    have hstep : (((hitsFrom first (c :: counts)).filter fun x => x.1 = line).map fun x =>
        x.2.toNatClampNeg).sum = (if first = line then c.toNatClampNeg else 0) +
          if first + 1 ≤ line then (counts.getD (line - (first + 1)) 0).toNatClampNeg else 0 := by
      rw [hitsFrom_cons, ← ih (first + 1)]
      by_cases hc : 0 < c
      · by_cases hline : first = line <;> simp [hc, hline]
      · simp [hc, Int64.toNatClampNeg_eq_zero_iff.mpr (Int64.not_lt.mp hc)]
    rw [hstep]
    rcases Nat.lt_trichotomy first line with hlt | rfl | hgt
    · obtain ⟨site, rfl⟩ : ∃ site, line = first + (site + 1) := ⟨line - first - 1, by omega⟩
      have hsite : first + (site + 1) - (first + 1) = site := by omega
      simp [hsite]
    · rw [if_pos rfl, if_neg (by omega), if_pos (Nat.le_refl first), Nat.sub_self]
      rfl
    · rw [if_neg (by omega), if_neg (by omega), if_neg (by omega)]

theorem hitsIn_shown (o : Options) (r : Record) (source : Text) (line : Nat) :
    hitsIn (shown o r) source line
      = if sourceOf o r.identifier = source then lineHits r line else 0 := by
  have hline : lineHits r line
      = (((hitsFrom 1 r.counts).filter fun x => x.1 = line).map fun x =>
        x.2.toNatClampNeg).sum := by
    rw [sum_hitsFrom]
    cases line <;> simp [lineHits]
  have hwanted : (fun e : Entry => decide (e.source = source ∧ e.line = line)) ∘
      Entry.ofHit (sourceOf o r.identifier)
        = fun x => decide (sourceOf o r.identifier = source ∧ x.1 = line) := rfl
  rw [hitsIn, shown, List.filter_map, List.map_map, hline, hwanted]
  by_cases hsource : sourceOf o r.identifier = source <;>
    simp [hsource, Entry.ofHit, Function.comp_def]

/-- **A consumer adds up the counts of the records shown under a name.** -/
theorem hitsAt_text (h : Unbroken o rs) (source : Text) (line : Nat) :
    hitsAt (text o rs) source line = total o rs source line := by
  rw [hitsAt, consume_text h]
  clear h
  induction rs with
  | nil => rfl
  | cons r rs ih =>
    rw [List.flatMap_cons, hitsIn_append, hitsIn_shown, ih, total, total]
    by_cases hsource : sourceOf o r.identifier = source <;> simp [hsource]

/-- A line is shown exactly if it was hit. -/
theorem shows_text_iff (h : Unbroken o rs) (source : Text) (line : Nat) :
    Shows (text o rs) source line ↔ 0 < hitsAt (text o rs) source line := by
  have hpos : ∀ e ∈ consume (text o rs), 0 < e.hits := by
    intro e he
    rw [consume_text h] at he
    obtain ⟨r, -, he⟩ := List.mem_flatMap.mp he
    obtain ⟨x, hx, rfl⟩ := List.mem_map.mp he
    have hx : (0 : Int64).toInt < x.2.toInt := Int64.lt_iff_toInt_lt.mp (pos_of_mem_hitsFrom hx)
    rw [Entry.ofHit, ← Int64.toNat_toInt]
    exact Int.lt_toNat.mpr hx
  rw [Shows, hitsAt, hitsIn, List.sum_pos_iff_exists_pos_nat]
  constructor
  · rintro ⟨e, he, hat⟩
    have hfound : e ∈ (consume (text o rs)).filter fun e => e.source = source ∧ e.line = line :=
      List.mem_filter.mpr ⟨he, by simpa using hat⟩
    exact ⟨e.hits, List.mem_map.mpr ⟨e, hfound, rfl⟩, hpos e he⟩
  · rintro ⟨k, hk, -⟩
    obtain ⟨e, hfound, -⟩ := List.mem_map.mp hk
    obtain ⟨he, hat⟩ := List.mem_filter.mp hfound
    exact ⟨e, he, by simpa using hat⟩

/-! ### Merging -/

theorem hitSum_cons (r : Record) (rs : List Record) (identifier : Text) (site : Nat) :
    Record.hitSum (r :: rs) identifier site
      = (if r.identifier = identifier then (r.counts.getD site 0).toNatClampNeg else 0)
        + Record.hitSum rs identifier site := by
  by_cases h : r.identifier = identifier <;> simp [Record.hitSum, h]

theorem sum_ite_of_not_mem {ids : List Text} {id : Text} (h : id ∉ ids) (k : Nat) :
    (ids.map fun x => if id = x then k else 0).sum = 0 := by
  rw [List.sum_eq_zero_iff_forall_eq_nat]
  intro n hn
  obtain ⟨x, hx, rfl⟩ := List.mem_map.mp hn
  exact if_neg fun hc : id = x => h (hc ▸ hx)

theorem sum_ite_of_mem {ids : List Text} (hnodup : ids.Nodup) {id : Text} (h : id ∈ ids) (k : Nat) :
    (ids.map fun x => if id = x then k else 0).sum = k := by
  obtain ⟨before, behind, rfl⟩ := List.append_of_mem h
  obtain ⟨-, hbehind, hdisjoint⟩ := List.nodup_append.mp hnodup
  have hbefore : id ∉ before := fun hc => hdisjoint id hc id (by simp) rfl
  rw [List.map_append, List.map_cons, List.sum_append, List.sum_cons, if_pos rfl,
    sum_ite_of_not_mem hbefore, sum_ite_of_not_mem (List.nodup_cons.mp hbehind).1, Nat.zero_add,
    Nat.add_zero]

/-- Adding up over the records of a name is adding up over its units first. -/
theorem total_eq_sum_hitSum {ids : List Text} (hnodup : ids.Nodup)
    (hall : ∀ r ∈ rs, r.identifier ∈ ids) (o : Options) (source : Text) (site : Nat) :
    total o rs source (site + 1)
      = ((ids.filter fun id => sourceOf o id = source).map (Record.hitSum rs · site)).sum := by
  induction rs with
  | nil => simp [total, Record.hitSum]
  | cons r rs ih =>
    have hone : ((ids.filter fun id => sourceOf o id = source).map fun id =>
        if r.identifier = id then (r.counts.getD site 0).toNatClampNeg else 0).sum
          = if sourceOf o r.identifier = source then (r.counts.getD site 0).toNatClampNeg
            else 0 := by
      by_cases hsource : sourceOf o r.identifier = source
      · have hmem : r.identifier ∈ ids.filter fun id => sourceOf o id = source :=
          List.mem_filter.mpr ⟨hall r (by simp), by simpa using hsource⟩
        rw [sum_ite_of_mem (hnodup.filter _) hmem, if_pos hsource]
      · have hnot : r.identifier ∉ ids.filter fun id => sourceOf o id = source := fun hc =>
          hsource (by simpa using (List.mem_filter.mp hc).2)
        rw [sum_ite_of_not_mem hnot, if_neg hsource]
    simp only [hitSum_cons, List.sum_map_add]
    rw [hone, ← ih fun x hx => hall x (List.mem_cons_of_mem r hx), total, total]
    by_cases hsource : sourceOf o r.identifier = source <;> simp [hsource, lineHits]

/-- **Merging keeps the totals**, if the sums fit a word. -/
theorem total_of_sums {merged : List Record} (h : Record.Sums rs merged)
    (hcounts : ∀ r ∈ rs, ∀ c ∈ r.counts, 0 ≤ c)
    (hfits : ∀ r ∈ rs, ∀ site < r.counts.length, Record.hitSum rs r.identifier site < 2 ^ 63)
    (o : Options) (source : Text) (line : Nat) :
    total o merged source line = total o rs source line := by
  cases line with
  | zero => simp [total, lineHits]
  | succ site =>
    have hmerged : ∀ m ∈ merged, lineHits m (site + 1) = Record.hitSum rs m.identifier site := by
      intro m hm
      refine h.toNatClampNeg_getD hcounts hm ?_
      rcases Nat.lt_or_ge site m.counts.length with hsite | hsite
      · obtain ⟨r, hr, hid⟩ := List.mem_map.mp (h.mem_iff.mp (List.mem_map.mpr ⟨m, hm, rfl⟩))
        rw [← h.length m hm r hr hid] at hsite
        exact hid ▸ hfits r hr site hsite
      · rw [h.hitSum_of_le hm hsite]
        exact Nat.two_pow_pos 63
    have hall : ∀ r ∈ rs, r.identifier ∈ merged.map Record.identifier := fun r hr =>
      h.mem_iff.mpr (List.mem_map.mpr ⟨r, hr, rfl⟩)
    calc total o merged source (site + 1)
        = ((merged.filter fun m => sourceOf o m.identifier = source).map fun m =>
            Record.hitSum rs m.identifier site).sum := by
          rw [total, List.map_congr_left fun m hm => hmerged m (List.mem_of_mem_filter hm)]
      _ = (((merged.map Record.identifier).filter fun id => sourceOf o id = source).map
            (Record.hitSum rs · site)).sum := by
          rw [List.filter_map, List.map_map]
          rfl
      _ = total o rs source (site + 1) := (total_eq_sum_hitSum h.nodup hall o source site).symm

/-- The file as it reaches a sink without bound. -/
def written (o : Options) (rs : List Record) : Text :=
  (Output.writeAll ⟨none, []⟩ (entries o rs)).2

theorem written_eq (o : Options) (rs : List Record) : written o rs = text o rs := by
  rw [written, Output.writeAll_unbounded, text]

/-- **Merging is invisible to a consumer that adds up hits.** Records with counts of at least zero
whose sums fit a word give, merged or not, a file with the same hits on every line of every source,
and with entries for the same lines. -/
theorem hitsAt_written_merge (o : Options) (rs merged : List Record)
    (hmerge : Record.merge rs = .ok merged) (hcounts : ∀ r ∈ rs, ∀ c ∈ r.counts, 0 ≤ c)
    (hfits : ∀ r ∈ rs, ∀ site < r.counts.length, Record.hitSum rs r.identifier site < 2 ^ 63)
    (hunbroken : Unbroken o rs) (source : Text) (line : Nat) :
    hitsAt (written o merged) source line = hitsAt (written o rs) source line ∧
      (Shows (written o merged) source line ↔ Shows (written o rs) source line) := by
  have hsums := Record.sums_of_merge hmerge
  have hmerged : Unbroken o merged := by
    refine ⟨hunbroken.test, hunbroken.rename, fun m hm => ?_⟩
    obtain ⟨r, hr, hid⟩ := List.mem_map.mp (hsums.mem_iff.mp (List.mem_map.mpr ⟨m, hm, rfl⟩))
    exact hid ▸ hunbroken.identifiers r hr
  have hhits : hitsAt (text o merged) source line = hitsAt (text o rs) source line := by
    rw [hitsAt_text hmerged, hitsAt_text hunbroken, total_of_sums hsums hcounts hfits]
  rw [written_eq, written_eq, shows_text_iff hmerged, shows_text_iff hunbroken, hhits]
  exact ⟨rfl, Iff.rfl⟩

/-- Two units are shown under one name. One of them has two records, and a third unit was not hit;
merging leaves two sections of three. -/
theorem hitsAt_written_merge_of_shared_name :
    let o : Options := ⟨"", [("parse", "core"), ("print", "core")], []⟩
    let rs : List Record :=
      [⟨"parse", [1, 0, 2]⟩, ⟨"print", [0, 0, 5]⟩, ⟨"parse", [0, 0, 1]⟩, ⟨"idle", [0]⟩]
    let merged : List Record := [⟨"parse", [1, 0, 3]⟩, ⟨"print", [0, 0, 5]⟩, ⟨"idle", [0]⟩]
    Record.merge rs = .ok merged ∧ (∀ r ∈ rs, ∀ c ∈ r.counts, 0 ≤ c) ∧
      (∀ r ∈ rs, ∀ site < r.counts.length, Record.hitSum rs r.identifier site < 2 ^ 63) ∧
      Unbroken o rs ∧ written o merged ≠ written o rs ∧
      hitsAt (written o rs) "core" 3 = 8 ∧ hitsAt (written o merged) "core" 3 = 8 ∧
      Shows (written o merged) "core" 3 ∧ ¬ Shows (written o merged) "core" 2 := by
  intro o rs merged
  have hmerge : Record.merge rs = .ok merged := by decide
  have hall : rs.all (fun r => r.counts.all (0 ≤ ·)) = true := by decide
  have hcounts : ∀ r ∈ rs, ∀ c ∈ r.counts, 0 ≤ c := fun r hr c hc => by
    simpa using List.all_eq_true.mp (List.all_eq_true.mp hall r hr) c hc
  have hfits : ∀ r ∈ rs, ∀ site < r.counts.length,
      Record.hitSum rs r.identifier site < 2 ^ 63 := by decide
  have hunbroken : Unbroken o rs := ⟨by decide, by decide, by decide⟩
  have hinvisible := hitsAt_written_merge o rs merged hmerge hcounts hfits hunbroken "core"
  have hhits (line : Nat) : hitsAt (written o rs) "core" line = total o rs "core" line := by
    rw [written_eq, hitsAt_text hunbroken]
  have hshows (line : Nat) : Shows (written o rs) "core" line ↔ 0 < total o rs "core" line := by
    rw [written_eq, shows_text_iff hunbroken, hitsAt_text hunbroken]
  have hthree : total o rs "core" 3 = 8 := by decide
  have htwo : total o rs "core" 2 = 0 := by decide
  refine ⟨hmerge, hcounts, hfits, hunbroken, ?_, (hhits 3).trans hthree, ?_, ?_, ?_⟩
  · intro hc
    rw [written_eq, written_eq] at hc
    have hentries := congrArg consume hc
    rw [consume_text ⟨by decide, by decide, by decide⟩, consume_text hunbroken] at hentries
    exact absurd hentries (by decide)
  · rw [(hinvisible 3).1, hhits, hthree]
  · rw [(hinvisible 3).2, hshows, hthree]
    decide
  · rw [(hinvisible 2).2, hshows, htwo]
    decide

/-! ### Sinks that fail -/

/-- **A sink that fails.** Let a file be written to a sink with room for `n` octets. The failure is
reported exactly if the file is longer than that, and the sink has taken the first `n` octets of the
file, or all of it if it is shorter. What the sink was offered goes through the file in order: each
offer begins where the octets taken before it end, and behind a failed one there is no other. A sink
without bound takes the file whole and does not fail. -/
theorem writeTo_bounded (o : Options) (rs : List Record) (n : Nat) :
    let t := written o rs
    let b := Output.writeTo ⟨some n, []⟩ (entries o rs)
    (b.failed = true ↔ n < t.length) ∧
      b.sink.taken = t.take (min n t.length) ∧
      Output.InOrder b.sink.offers t ∧
      (Output.writeTo ⟨none, []⟩ (entries o rs)).failed = false := by
  intro t b
  have ht : t = (entries o rs).flatten := written_eq o rs
  have hall := Output.writeAll_eq (some n) (entries o rs)
  rw [← ht] at hall
  have hfailed : b.failed = decide (t.take n ≠ t) := congrArg Prod.fst hall
  have htaken : b.sink.taken = t.take n := congrArg Prod.snd hall
  refine ⟨?_, ?_, ?_, congrArg Prod.fst (Output.writeAll_unbounded (entries o rs))⟩
  · rw [hfailed, decide_eq_true_iff, Ne, List.take_eq_self_iff, Nat.not_le]
  · rw [htaken, ← List.take_eq_take_min]
  · rw [ht]
    exact (Output.reached_writeTo (some n) (entries o rs)).1.inOrder

end Tracefile

end HitLog
