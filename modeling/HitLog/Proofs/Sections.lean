import HitLog.Proofs.Tracefile
import Mathlib.Data.List.Forall2

/-!
# What a tracefile says

A file consists of sections, and a section of entries in a fixed order: the test, the source, any
number of hits, how many these are, and how many there could be. Nothing is said here about how such
a file comes about. A passage is a section as it stands in the file, with the text of each entry,
and `Tracefile.SplitsInto` says that a file is made of passages. Entries begin with tags, and the
tag of a hit is not that of what follows the hits. So no file can be split in two ways.

The numbers in a passage can then be read, and what they say is compared with the counts of a
record, site by site (`Tracefile.Describes`). Sites that were not hit are not shown, but the number
of all sites is, unless another one is given. That is enough to find the counts again, as long as
none of them is negative.

## Main definitions

* `Tracefile.Passage`, `Tracefile.SplitsInto` — a section in a file, and a file made of them
* `Tracefile.Summary`, `Tracefile.Passage.read?` — what a section says, and how it is read
* `Tracefile.Describes` — a summary says what there is to say about a record

## Main results

* `Tracefile.SplitsInto.unique` — a file is split in one way
* `Tracefile.describes_sections` — there is one section for each record with a hit
* `Tracefile.Describes.record_eq` — a record is told from its summary
* `Tracefile.written_decodes` — all this for a file that was written
-/

namespace HitLog

namespace Numeral

/-- The integer that digits stand for, with or without a sign before them. -/
def integer? : Text → Option Int
  | 45 :: t => (number? t).map fun n : Nat => -(n : Int)
  | t => (number? t).map Int.ofNat

theorem integer?_signed (i : Int) : integer? (signed i) = some i := by
  rw [signed]
  split
  · rw [integer?, number?_decimal, Option.map_some]
    congr 1
    omega
  · have hhead : ∀ t, decimal i.natAbs ≠ 45 :: t := by
      intro t ht
      have hdigit := isDigit_of_mem_decimal (n := i.natAbs) (b := 45) (by rw [ht]; simp)
      cases hdigit
    rw [integer?.eq_2 _ hhead, number?_decimal, Option.map_some, Int.ofNat_eq_natCast]
    congr 1
    omega

end Numeral

namespace Tracefile

open scoped Text

/-! ### Passages -/

/-- A section as it stands in a file: what is behind the tags of its entries. -/
structure Passage where
  test : Text
  source : Text
  /-- The entries of hits. -/
  hits : List Text
  /-- The number of lines that were hit. -/
  hit : Text
  /-- The number of lines that there are. -/
  found : Text

/-- The lines of a passage. -/
def Passage.lines (p : Passage) : List Text :=
  ["TN:" ++ p.test, "SF:" ++ p.source] ++ p.hits.map (Text.ofString "DA:" ++ ·) ++
    ["LH:" ++ p.hit, "LF:" ++ p.found, "end_of_record"]

/-- A file made of passages. -/
structure SplitsInto (file : Text) (ps : List Passage) : Prop where
  unbroken : ∀ t ∈ ps.flatMap Passage.lines, Text.lineFeed ∉ t
  joined : file = (ps.flatMap Passage.lines).flatMap fun t => t ++ [Text.lineFeed]

/-- The entries of hits end where the number of them is told. -/
theorem hits_append_inj {hits hits' : List Text} {hit hit' : Text} {rest rest' : List Text}
    (h : hits.map (Text.ofString "DA:" ++ ·) ++ ("LH:" ++ hit) :: rest
      = hits'.map (Text.ofString "DA:" ++ ·) ++ ("LH:" ++ hit') :: rest') :
    hits = hits' ∧ hit = hit' ∧ rest = rest' := by
  have htags : ∀ t t' : Text, Text.ofString "DA:" ++ t ≠ Text.ofString "LH:" ++ t' := by
    intro t t' ht
    have hfirst : (68 : UInt8) = 76 := Option.some.inj (congrArg List.head? ht)
    exact absurd hfirst (by decide)
  induction hits generalizing hits' with
  | nil =>
    cases hits' with
    | nil =>
      obtain ⟨hhead, htail⟩ := List.cons.inj h
      exact ⟨rfl, List.append_cancel_left hhead, htail⟩
    | cons t' hits' => exact absurd (List.cons.inj h).1.symm (htags t' hit)
  | cons t hits ih =>
    cases hits' with
    | nil => exact absurd (List.cons.inj h).1 (htags t hit')
    | cons t' hits' =>
      obtain ⟨hhead, htail⟩ := List.cons.inj h
      obtain ⟨rfl, hhit, hrest⟩ := ih htail
      exact ⟨by rw [List.append_cancel_left hhead], hhit, hrest⟩

/-- **A passage ends where its last entry says so.** -/
theorem Passage.lines_append_inj {p q : Passage} {rest rest' : List Text}
    (h : p.lines ++ rest = q.lines ++ rest') : p = q ∧ rest = rest' := by
  obtain ⟨test, source, hits, hit, found⟩ := p
  obtain ⟨test', source', hits', hit', found'⟩ := q
  simp only [lines, List.cons_append, List.nil_append, List.append_assoc, List.cons.injEq] at h
  obtain ⟨htest, hsource, h⟩ := h
  obtain ⟨rfl, rfl, hrest⟩ := hits_append_inj h
  obtain ⟨hfound, hrest⟩ := List.cons.inj hrest
  rw [List.append_cancel_left htest, List.append_cancel_left hsource,
    List.append_cancel_left hfound]
  exact ⟨rfl, (List.cons.inj hrest).2⟩

theorem flatMap_lines_injective {ps qs : List Passage}
    (h : ps.flatMap Passage.lines = qs.flatMap Passage.lines) : ps = qs := by
  induction ps generalizing qs with
  | nil =>
    cases qs with
    | nil => rfl
    | cons q qs => cases h
  | cons p ps ih =>
    cases qs with
    | nil => cases h
    | cons q qs =>
      rw [List.flatMap_cons, List.flatMap_cons] at h
      obtain ⟨rfl, hrest⟩ := Passage.lines_append_inj h
      rw [ih hrest]

/-- **A file is split in one way.** -/
theorem SplitsInto.unique {file : Text} {ps qs : List Passage} (hp : SplitsInto file ps)
    (hq : SplitsInto file qs) : ps = qs := by
  have hfields : ∀ {xs}, SplitsInto file xs →
      Text.fields Text.lineFeed file = xs.flatMap Passage.lines ++ [[]] := by
    intro xs hx
    rw [hx.joined, Text.fields_flatMap_append hx.unbroken, List.map_id']
  exact flatMap_lines_injective
    (List.append_cancel_right ((hfields hp).symm.trans (hfields hq)))

/-! ### Reading -/

/-- What a section says, in numbers. -/
structure Summary where
  test : Text
  source : Text
  /-- Lines that were hit, with how often. -/
  hits : List (Nat × Nat)
  /-- The number of lines that were hit. -/
  hit : Nat
  /-- The number of lines that there are. -/
  found : Int
  deriving DecidableEq

/-- Read the numbers of a passage. -/
def Passage.read? (p : Passage) : Option Summary := do
  let hits ← p.hits.mapM readHits
  return ⟨p.test, p.source, hits, ← Numeral.number? p.hit, ← Numeral.integer? p.found⟩

/-- The passage of a section. -/
def Section.passage (s : Section) : Passage where
  test := s.test
  source := s.source
  hits := s.hits.map fun x => Numeral.decimal x.1 ++ Text.comma :: Numeral.signed x.2.toInt
  hit := Numeral.decimal s.hit
  found := Numeral.signed s.found

/-- The summary of a section. -/
def Section.summary (s : Section) : Summary where
  test := s.test
  source := s.source
  hits := s.hits.map fun x => (x.1, x.2.toNatClampNeg)
  hit := s.hit
  found := s.found

theorem Section.lines_passage (s : Section) : s.passage.lines = s.lines := by
  rw [Passage.lines, Section.lines, passage, List.map_map]
  rfl

theorem mapM_readHits {hits : List (Nat × Int64)} (h : ∀ x ∈ hits, 0 < x.2) :
    (hits.map fun x => Numeral.decimal x.1 ++ Text.comma :: Numeral.signed x.2.toInt).mapM readHits
      = some (hits.map fun x => (x.1, x.2.toNatClampNeg)) := by
  induction hits with
  | nil => rfl
  | cons x hits ih =>
    rw [List.map_cons, List.mapM_cons, readHits_body (Int64.le_of_lt (h x (by simp))),
      ih fun y hy => h y (List.mem_cons_of_mem x hy)]
    rfl

/-- What is written can be read. -/
theorem Section.read?_passage {s : Section} (h : ∀ x ∈ s.hits, 0 < x.2) :
    s.passage.read? = some s.summary := by
  simp only [Passage.read?, passage, mapM_readHits h, Numeral.number?_decimal,
    Numeral.integer?_signed]
  rfl

variable {o : Options} {rs : List Record}

/-- **A file that was written is split into its sections.** -/
theorem splitsInto_text (h : Unbroken o rs) :
    SplitsInto (text o rs) ((sections o rs).map Section.passage) := by
  have hlines : ((sections o rs).map Section.passage).flatMap Passage.lines
      = (sections o rs).flatMap Section.lines := by
    rw [List.flatMap_map]
    congr 1
    funext s
    exact s.lines_passage
  exact ⟨hlines ▸ h.lines, by rw [hlines, text_eq_lines]⟩

/-! ### Hits -/

theorem mem_hitsFrom_iff {first line : Nat} {c : Int64} {counts : List Int64} :
    (line, c) ∈ hitsFrom first counts ↔
      0 < c ∧ ∃ i, counts[i]? = some c ∧ line = first + i := by
  rw [hitsFrom, List.mem_filterMap]
  constructor
  · rintro ⟨⟨d, k⟩, hmem, hd⟩
    obtain ⟨hk, hget⟩ := List.mem_zipIdx_iff_le_and_getElem?_sub.mp hmem
    dsimp only at hd
    split at hd
    · cases hd
      exact ⟨by assumption, line - first, hget, by omega⟩
    · cases hd
  · rintro ⟨hpos, i, hget, rfl⟩
    refine ⟨(c, first + i), List.mem_zipIdx_iff_le_and_getElem?_sub.mpr ⟨by omega, ?_⟩, ?_⟩
    · rwa [Nat.add_sub_cancel_left]
    · exact if_pos hpos

/-- Lines come in order. -/
theorem pairwise_hitsFrom (first : Nat) (counts : List Int64) :
    (hitsFrom first counts).Pairwise (·.1 < ·.1) := by
  induction counts generalizing first with
  | nil => exact .nil
  | cons c counts ih =>
    rw [hitsFrom_cons]
    split
    · refine List.pairwise_cons.mpr ⟨?_, ih (first + 1)⟩
      rintro ⟨line, d⟩ hmem
      obtain ⟨-, i, -, rfl⟩ := mem_hitsFrom_iff.mp hmem
      show first < first + 1 + i
      omega
    · exact ih (first + 1)

/-- A record has a section exactly if one of its counts is positive. -/
theorem hitCount_ne_zero_iff {counts : List Int64} :
    hitCount counts ≠ 0 ↔ counts.any (0 < ·) = true := by
  rw [hitCount, ← Nat.pos_iff_ne_zero, List.countP_pos_iff, List.any_eq_true]

/-! ### Summaries of records -/

/-- A summary says what there is to say about a record. -/
structure Describes (o : Options) (r : Record) (s : Summary) : Prop where
  test : s.test = if o.testName = [] then Text.ofString "test" else o.testName
  source : s.source = (o.rename.lookup r.identifier).getD r.identifier
  /-- The hits are the positive counts, with the lines of their sites. -/
  mem_hits : ∀ line count, (line, count) ∈ s.hits ↔
    ∃ i c, r.counts[i]? = some c ∧ 0 < c ∧ line = i + 1 ∧ (count : Int) = c.toInt
  increasing : s.hits.Pairwise (·.1 < ·.1)
  hit : s.hit = s.hits.length
  hit_pos : 1 ≤ s.hit
  found_of_some : ∀ n, o.found.lookup r.identifier = some n → s.found = n.toInt
  found_of_none : o.found.lookup r.identifier = none →
    s.found = r.counts.length ∧ (s.hit : Int) ≤ s.found

/-- **The section of a record describes it.** -/
theorem describes_summary {r : Record} (h : hitCount r.counts ≠ 0) :
    ∃ s, section? o r = some s ∧ Describes o r s.summary := by
  refine ⟨_, section?_eq_some_iff.mpr ⟨h, rfl⟩, ?_, rfl, ?_, ?_, ?_, ?_, ?_, ?_⟩
  · simp only [Section.summary, Options.test, List.isEmpty_iff]
  · intro line count
    simp only [Section.summary, List.mem_map, Prod.mk.injEq, Prod.exists]
    constructor
    · rintro ⟨line, c, hmem, rfl, rfl⟩
      obtain ⟨hpos, i, hget, rfl⟩ := mem_hitsFrom_iff.mp hmem
      refine ⟨i, c, hget, hpos, Nat.add_comm 1 i, ?_⟩
      rw [← Int64.toNat_toInt, Int.toNat_of_nonneg]
      exact Int.le_of_lt (Int64.lt_iff_toInt_lt.mp hpos)
    · rintro ⟨i, c, hget, hpos, rfl, hcount⟩
      refine ⟨i + 1, c, mem_hitsFrom_iff.mpr ⟨hpos, i, hget, Nat.add_comm i 1⟩, rfl, ?_⟩
      rw [← Int64.toNat_toInt, ← hcount, Int.toNat_natCast]
  · exact List.pairwise_map.mpr (pairwise_hitsFrom 1 r.counts)
  · simp only [Section.summary, List.length_map, length_hitsFrom]
  · exact Nat.one_le_iff_ne_zero.mpr h
  · intro n hn
    simp only [Section.summary, hn]
    rfl
  · intro hn
    simp only [Section.summary, hn]
    exact ⟨rfl, Int.ofNat_le.mpr List.countP_le_length⟩

/-- **There is one section for each record with a hit**, in the order of the records. -/
theorem describes_sections (o : Options) (rs : List Record) :
    List.Forall₂ (Describes o) (rs.filter fun r => r.counts.any (0 < ·))
      ((sections o rs).map Section.summary) := by
  induction rs with
  | nil => exact .nil
  | cons r rs ih =>
    rw [sections, List.filterMap_cons]
    by_cases hhit : r.counts.any (0 < ·) = true
    · obtain ⟨s, hs, hdescribes⟩ := describes_summary (o := o) (hitCount_ne_zero_iff.mpr hhit)
      rw [List.filter_cons, if_pos hhit, hs]
      exact .cons hdescribes ih
    · have hnone : section? o r = none := by
        exact if_pos (not_ne_iff.mp (mt hitCount_ne_zero_iff.mp hhit))
      rw [List.filter_cons, if_neg hhit, hnone]
      exact ih

/-! ### Records from summaries -/

namespace Describes

variable {o' : Options} {r r' : Record} {s : Summary}

/-- A count that is shown is the count of the site in every record with the summary. -/
theorem count_eq (h : Describes o r s) (h' : Describes o' r' s) {i : Nat} {c c' : Int64}
    (hc : r.counts[i]? = some c) (hc' : r'.counts[i]? = some c') (hpos : 0 < c) : c' = c := by
  have hnonneg : 0 ≤ c.toInt := Int.le_of_lt (Int64.lt_iff_toInt_lt.mp hpos)
  have hmem : (i + 1, c.toInt.toNat) ∈ s.hits :=
    (h.mem_hits _ _).mpr ⟨i, c, hc, hpos, rfl, Int.toNat_of_nonneg hnonneg⟩
  obtain ⟨k, d, hd, -, hline, hcount⟩ := (h'.mem_hits _ _).mp hmem
  obtain rfl : i = k := by omega
  obtain rfl : c' = d := Option.some.inj (hc'.symm.trans hd)
  rw [Int.toNat_of_nonneg hnonneg] at hcount
  exact (Int64.toInt_inj.mp hcount).symm

/-- **A record is told from its summary**, if its counts are not negative and nothing is shown in
the place of its name and of the number of its sites. -/
theorem record_eq (h : Describes o r s) (h' : Describes o' r' s) (hrename : o.rename = [])
    (hfound : o.found = []) (hrename' : o'.rename = []) (hfound' : o'.found = [])
    (hcounts : ∀ c ∈ r.counts, 0 ≤ c) (hcounts' : ∀ c ∈ r'.counts, 0 ≤ c) : r = r' := by
  have hid : r.identifier = r'.identifier := by
    have hsource := h.source.symm.trans h'.source
    rwa [hrename, hrename'] at hsource
  have hlength : r.counts.length = r'.counts.length := by
    have hnone := (h.found_of_none (by rw [hfound]; rfl)).1
    have hnone' := (h'.found_of_none (by rw [hfound']; rfl)).1
    omega
  have hsame : r.counts = r'.counts := by
    refine List.ext_getElem hlength fun i hi hi' => ?_
    have hget := List.getElem?_eq_getElem hi
    have hget' := List.getElem?_eq_getElem hi'
    by_cases hpos : 0 < r.counts[i]
    · exact (h.count_eq h' hget hget' hpos).symm
    by_cases hpos' : 0 < r'.counts[i]
    · exact h'.count_eq h hget' hget hpos'
    -- neither is shown, so both are zero
    rw [Int64.le_antisymm (Int64.not_lt.mp hpos) (hcounts _ (List.getElem_mem hi)),
      Int64.le_antisymm (Int64.not_lt.mp hpos') (hcounts' _ (List.getElem_mem hi'))]
  rw [Record.mk.injEq]
  exact ⟨hid, hsame⟩

end Describes

/-- Records that can be found again in a file: each has a hit, and nothing is shown in the place of
their names and of the numbers of their sites. -/
structure Recoverable (o : Options) (rs : List Record) : Prop where
  unbroken : Unbroken o rs
  rename : o.rename = []
  found : o.found = []
  nonneg : ∀ r ∈ rs, ∀ c ∈ r.counts, 0 ≤ c
  hit : ∀ r ∈ rs, ∃ c ∈ r.counts, 0 < c

theorem Recoverable.describes (h : Recoverable o rs) :
    List.Forall₂ (Describes o) rs ((sections o rs).map Section.summary) := by
  have hall : rs.filter (fun r => r.counts.any (0 < ·)) = rs := by
    rw [List.filter_eq_self]
    intro r hr
    obtain ⟨c, hc, hpos⟩ := h.hit r hr
    exact List.any_eq_true.mpr ⟨c, hc, by simpa using hpos⟩
  have hdescribes := describes_sections o rs
  rwa [hall] at hdescribes

theorem Recoverable.tail {r : Record} (h : Recoverable o (r :: rs)) : Recoverable o rs where
  unbroken := ⟨h.unbroken.test, h.unbroken.rename, fun x hx =>
    h.unbroken.identifiers x (List.mem_cons_of_mem r hx)⟩
  rename := h.rename
  found := h.found
  nonneg x hx := h.nonneg x (List.mem_cons_of_mem r hx)
  hit x hx := h.hit x (List.mem_cons_of_mem r hx)

/-- Records are told from their summaries one by one. -/
theorem Recoverable.eq_of_describes {o' : Options} {rs' : List Record} {ss : List Summary}
    (h : Recoverable o rs) (h' : Recoverable o' rs') (hss : List.Forall₂ (Describes o) rs ss)
    (hss' : List.Forall₂ (Describes o') rs' ss) : rs = rs' := by
  induction hss generalizing rs' with
  | nil =>
    cases hss'
    rfl
  | cons hs hss ih =>
    cases hss' with
    | cons hs' hss' =>
      rw [ih h.tail h'.tail hss', hs.record_eq hs' h.rename h.found h'.rename h'.found
        (h.nonneg _ (by simp)) (h'.nonneg _ (by simp))]

/-- All passages of a file that was written can be read. -/
theorem map_read?_passages (o : Options) (rs : List Record) :
    ((sections o rs).map Section.passage).map Passage.read?
      = ((sections o rs).map Section.summary).map some := by
  rw [List.map_map, List.map_map]
  refine List.map_congr_left fun s hs => ?_
  obtain ⟨r, -, hsection⟩ := List.mem_filterMap.mp hs
  obtain ⟨-, rfl⟩ := section?_eq_some_iff.mp hsection
  exact Section.read?_passage fun x hx => pos_of_mem_hitsFrom hx

/-- Records that give the same file are the same. -/
theorem Recoverable.eq_of_text_eq {o' : Options} {rs' : List Record} (h : Recoverable o rs)
    (h' : Recoverable o' rs') (htext : text o rs = text o' rs') : rs = rs' := by
  have hpassages := (splitsInto_text h.unbroken).unique (htext ▸ splitsInto_text h'.unbroken)
  have hread := congrArg (List.map Passage.read?) hpassages
  rw [map_read?_passages, map_read?_passages] at hread
  have hsummaries := List.map_injective_iff.mpr (fun _ _ => Option.some.inj) hread
  exact h.eq_of_describes h' h.describes (hsummaries ▸ h'.describes)

/-- **A file says what the records say.** A file of unbroken names is split into sections in exactly
one way. There is a section for each record with a hit, in the order of the records, and its numbers
can be read. They are those of `Describes`: the lines of the sites that were hit, in order and with
their counts; how many these are, which is at least one; and how many sites there are, which is
either given or the number of counts, and then no less. So records with hits and without negative
counts are told from their file, if nothing else is shown in the place of names and numbers of
sites. -/
theorem written_decodes (o : Options) (rs : List Record) (h : Unbroken o rs) :
    (∃ ps ss, SplitsInto (written o rs) ps ∧ (∀ qs, SplitsInto (written o rs) qs → qs = ps) ∧
        ps.map Passage.read? = ss.map some ∧
        List.Forall₂ (Describes o) (rs.filter fun r => r.counts.any (0 < ·)) ss) ∧
      ∀ o' rs', Recoverable o rs → Recoverable o' rs' → written o rs = written o' rs' →
        rs = rs' := by
  refine ⟨⟨(sections o rs).map Section.passage, (sections o rs).map Section.summary, ?_, ?_,
    map_read?_passages o rs, describes_sections o rs⟩, ?_⟩
  · rw [written_eq]
    exact splitsInto_text h
  · rw [written_eq]
    exact fun qs hqs => hqs.unique (splitsInto_text h)
  · intro o' rs' hrs hrs' hwritten
    rw [written_eq, written_eq] at hwritten
    exact hrs.eq_of_text_eq hrs' hwritten

/-- A renamed unit, one that only has a negative count and one whose number of sites is given: two
sections. And a unit whose last site was not hit, which is told from one without that site. -/
theorem written_decodes_of_three_units :
    let o : Options := ⟨"", [("parse", "core")], [("print", 7)]⟩
    let rs : List Record := [⟨"parse", [0, 3, 0]⟩, ⟨"idle", [0, -1]⟩, ⟨"print", [5]⟩]
    let plain : Options := ⟨"night", [], []⟩
    let long : List Record := [⟨"parse", [0, 3, 0]⟩]
    let short : List Record := [⟨"parse", [0, 3]⟩]
    Unbroken o rs ∧ Recoverable plain long ∧ Recoverable plain short ∧
      (∃ ps ss, SplitsInto (written o rs) ps ∧ ps.map Passage.read? = ss.map some ∧
        List.Forall₂ (Describes o) [⟨"parse", [0, 3, 0]⟩, ⟨"print", [5]⟩] ss) ∧
      written plain long ≠ written plain short := by
  intro o rs plain long short
  have hunbroken : Unbroken o rs := ⟨by decide, by decide, by decide⟩
  have hlong : Recoverable plain long :=
    ⟨⟨by decide, by decide, by decide⟩, rfl, rfl, by simp [long], by simp [long]⟩
  have hshort : Recoverable plain short :=
    ⟨⟨by decide, by decide, by decide⟩, rfl, rfl, by simp [short], by simp [short]⟩
  obtain ⟨⟨ps, ss, hsplits, -, hread, hdescribes⟩, -⟩ := written_decodes o rs hunbroken
  have hhit : rs.filter (fun r => r.counts.any (0 < ·))
      = [⟨"parse", [0, 3, 0]⟩, ⟨"print", [5]⟩] := by decide
  refine ⟨hunbroken, hlong, hshort, ⟨ps, ss, hsplits, hread, hhit ▸ hdescribes⟩, fun hsame => ?_⟩
  have heq := (written_decodes plain long hlong.unbroken).2 plain short hlong hshort hsame
  exact absurd heq (by decide)

end Tracefile

end HitLog
