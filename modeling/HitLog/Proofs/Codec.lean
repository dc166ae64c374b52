import HitLog.Proofs.Reading

/-!
# Reading a written log

A line is written without any escaping, and still it can be read back. What makes that true is an
alphabet argument: behind the last colon of a line stand only digits and commas, and no line holds
a line end. So the last colon is the one that was written, each comma separates two counts, and each
line feed ends a line. The identifier may hold anything else, colons and stray octets included.

`Record.Readable` collects what a record needs for this. Its first two conditions are those that a
valid configuration puts on identifiers.

## Main results

* `Record.parse_text`, `Record.parse_line` — one line
* `Record.exists_parse_line_iff` — which records have a line that can be read
* `Log.read_block` — a whole log
* `Log.read_block_eq_and_parse_eq` — a whole log with each of its lines
-/

namespace HitLog

open scoped Text

namespace Record

/-- A record whose line can be read back. -/
structure Readable (r : Record) : Prop where
  /-- The unit has a name. -/
  named : r.identifier ≠ []
  /-- The name does not break the line. -/
  unbroken : ∀ b ∈ r.identifier, Text.isLineEnd b = false
  /-- The unit has a site. -/
  counted : r.counts ≠ []
  /-- No count is negative. -/
  nonneg : ∀ c ∈ r.counts, 0 ≤ c

instance (r : Record) : Decidable r.Readable :=
  decidable_of_iff
    (r.identifier ≠ [] ∧ r.identifier.any Text.isLineEnd = false ∧ r.counts ≠ [] ∧
      r.counts.all (0 ≤ ·) = true)
    ⟨fun ⟨h₁, h₂, h₃, h₄⟩ => ⟨h₁, by simpa using h₂, h₃, by simpa using h₄⟩,
      fun h => ⟨h.1, by simpa using h.2, h.3, by simpa using h.4⟩⟩

/-! ### The alphabet of a line -/

theorem ne_of_isDigit {b c : UInt8} (h : Text.isDigit b = true) (hc : Text.isDigit c = false) :
    b ≠ c := by
  rintro rfl
  rw [h] at hc
  cases hc

/-- A written number consists of digits, with a minus sign before them if it is negative. -/
theorem not_mem_signed {c : UInt8} (hdigit : Text.isDigit c = false) (hminus : c ≠ 45) (i : Int) :
    c ∉ Numeral.signed i := by
  have hdecimal : c ∉ Numeral.decimal i.natAbs := fun hc =>
    ne_of_isDigit (Numeral.isDigit_of_mem_decimal hc) hdigit rfl
  rw [Numeral.signed]
  split
  · simpa [hminus] using hdecimal
  · exact hdecimal

/-- Behind the colon of a line stand digits, minus signs and commas. -/
theorem not_mem_countsText {c : UInt8} (hdigit : Text.isDigit c = false) (hminus : c ≠ 45)
    (hcomma : c ≠ Text.comma) (counts : List Int64) : c ∉ countsText counts := by
  intro hc
  rcases Text.mem_intercalate hc with hc | ⟨numeral, hn, hc⟩
  · exact hcomma hc
  · obtain ⟨x, -, rfl⟩ := List.mem_map.mp hn
    exact not_mem_signed hdigit hminus x.toInt hc

theorem colon_not_mem_countsText (counts : List Int64) : Text.colon ∉ countsText counts :=
  not_mem_countsText (by decide) (by decide) (by decide) counts

theorem isLineEnd_of_mem_countsText {counts : List Int64} {b : UInt8}
    (hb : b ∈ Text.colon :: countsText counts) : Text.isLineEnd b = false := by
  rcases List.mem_cons.mp hb with rfl | hb
  · decide
  have hfeed : b ≠ Text.lineFeed := fun h =>
    not_mem_countsText (by decide) (by decide) (by decide) counts (h ▸ hb)
  have hreturn : b ≠ Text.carriageReturn := fun h =>
    not_mem_countsText (by decide) (by decide) (by decide) counts (h ▸ hb)
  simp [Text.isLineEnd, hfeed, hreturn]

/-- No line ends in a line end before its line feed, whatever the identifier is. -/
theorem isLineEnd_getLast?_text (r : Record) (b : UInt8) (hb : r.text.getLast? = some b) :
    Text.isLineEnd b = false := by
  have hlast : (Text.colon :: countsText r.counts).getLast? = some b := by
    simpa [text, List.getLast?_append, List.getLast?_cons] using hb
  exact isLineEnd_of_mem_countsText (List.mem_of_getLast? hlast)

namespace Readable

variable {r : Record}

/-- No octet of a line but its last ends a line. -/
theorem isLineEnd_text (h : r.Readable) {b : UInt8} (hb : b ∈ r.text) :
    Text.isLineEnd b = false := by
  rcases List.mem_append.mp hb with hb | hb
  · exact h.unbroken b hb
  · exact isLineEnd_of_mem_countsText hb

theorem lineFeed_not_mem (h : r.Readable) : Text.lineFeed ∉ r.text := fun hb =>
  absurd (h.isLineEnd_text hb) (by decide)

end Readable

/-! ### One line -/

/-- The numeral of a count that is not negative. -/
theorem signed_toInt {c : Int64} (h : 0 ≤ c) :
    Numeral.signed c.toInt = Numeral.decimal c.toNatClampNeg := by
  have hc : 0 ≤ c.toInt := by simpa using Int64.le_iff_toInt_le.mp h
  rw [Numeral.signed_of_nonneg hc, Int64.toNat_toInt]

/-- What is written for a count is a count of the grammar exactly if it is not negative. -/
theorem isCount_signed_iff {c : Int64} : IsCount (Numeral.signed c.toInt) ↔ 0 ≤ c := by
  constructor
  · rintro ⟨-, hdigits, -⟩
    rw [Int64.le_iff_toInt_le]
    refine Int.not_lt.mp fun hneg : c.toInt < 0 => ?_
    have hminus : (45 : UInt8) ∈ Numeral.signed c.toInt := by
      rw [Numeral.signed, if_pos hneg]
      simp
    exact absurd (hdigits 45 hminus) (by decide)
  · intro h
    rw [signed_toInt h, IsCount, Numeral.value_decimal]
    exact ⟨Numeral.decimal_ne_nil _, fun b => Numeral.isDigit_of_mem_decimal,
      le_largestCount_iff.mpr c.toNatClampNeg_lt⟩

theorem countOf_signed {c : Int64} (h : 0 ≤ c) : countOf (Numeral.signed c.toInt) = c := by
  rw [countOf, signed_toInt h, Numeral.value_decimal, Int64.ofNat_toNatClampNeg c h]

/-- A line of a named unit is cut where its parts were joined. -/
theorem cut_text {r : Record} (hnamed : r.identifier ≠ []) (hcounted : r.counts ≠ []) :
    Cut r.text r.identifier (r.counts.map fun c => Numeral.signed c.toInt) where
  named := hnamed
  joined := rfl
  fielded := by simpa using hcounted
  plain f hf := by
    obtain ⟨c, -, rfl⟩ := List.mem_map.mp hf
    exact ⟨not_mem_signed (by decide) (by decide) _, not_mem_signed (by decide) (by decide) _⟩

/-- Behind the line of a record, only line ends change nothing. -/
theorem parse_text_append {r : Record} (hnamed : r.identifier ≠ []) (hcounted : r.counts ≠ [])
    (hnonneg : ∀ c ∈ r.counts, 0 ≤ c) {ends : Text}
    (hends : ∀ b ∈ ends, Text.isLineEnd b = true) : parse (r.text ++ ends) = .ok r := by
  have hcut := cut_text hnamed hcounted
  have hspells : Spells r.text r.identifier (r.counts.map fun c => Numeral.signed c.toInt) :=
    { named := hcut.named
      joined := hcut.joined
      fielded := hcut.fielded
      counts := fun f hf => by
        obtain ⟨c, hc, rfl⟩ := List.mem_map.mp hf
        exact isCount_signed_iff.mpr (hnonneg c hc) }
  have hcounts : (r.counts.map fun c => Numeral.signed c.toInt).map countOf = r.counts := by
    rw [List.map_map]
    refine (List.map_congr_left fun c hc => ?_).trans r.counts.map_id
    exact countOf_signed (hnonneg c hc)
  rw [hspells.parse_append (isLineEnd_getLast?_text r) hends, hcounts]

theorem parse_text {r : Record} (h : r.Readable) : parse r.text = .ok r := by
  have hnone : ∀ b ∈ ([] : Text), Text.isLineEnd b = true := by simp
  simpa using parse_text_append h.named h.counted h.nonneg hnone

theorem parse_line {r : Record} (h : r.Readable) : parse r.line = .ok r :=
  parse_text_append h.named h.counted h.nonneg fun b hb => by
    rw [List.mem_singleton.mp hb]
    rfl

/-- A line is a record again exactly if it has a name and counts, none of them negative. What else
stands in the name does not matter. -/
theorem exists_parse_line_iff {r : Record} :
    (∃ r', parse r.line = .ok r') ↔
      r.identifier ≠ [] ∧ r.counts ≠ [] ∧ ∀ c ∈ r.counts, 0 ≤ c := by
  have hends : ∀ b ∈ [Text.lineFeed], Text.isLineEnd b = true := by simp [Text.isLineEnd]
  constructor
  · rintro ⟨r', hparse⟩
    obtain ⟨fs, hspells, -⟩ :=
      (parse_append_eq_ok_iff (isLineEnd_getLast?_text r) hends).mp hparse
    have hnamed : r.identifier ≠ [] := by
      -- the colon of the cut would stand among the counts
      intro hid
      obtain ⟨b, rest, hb⟩ := List.exists_cons_of_ne_nil hspells.named
      have hjoined := hspells.joined
      rw [text, hid, hb] at hjoined
      have hcolon : Text.colon ∈ countsText r.counts := by
        rw [(List.cons.inj hjoined).2]
        simp
      exact colon_not_mem_countsText r.counts hcolon
    have hcounted : r.counts ≠ [] := by
      intro hnone
      have hcut : Cut r.text r.identifier [[]] :=
        ⟨hnamed, by rw [text, hnone]; rfl, by simp, by simp⟩
      have hempty : IsCount [] := hspells.counts [] (by rw [(hcut.unique hspells.cut).2]; simp)
      exact hempty.1 rfl
    refine ⟨hnamed, hcounted, fun c hc => isCount_signed_iff.mp (hspells.counts _ ?_)⟩
    rw [((cut_text hnamed hcounted).unique hspells.cut).2]
    exact List.mem_map_of_mem hc
  · rintro ⟨hnamed, hcounted, hnonneg⟩
    exact ⟨r, parse_text_append hnamed hcounted hnonneg hends⟩

end Record

namespace Log

/-! ### A whole log -/

/-- The line of a record is not blank, as it holds a colon. -/
theorem isBlank_text (r : Record) : Blank.isBlank r.text = false :=
  Blank.isBlank_eq_false_of_mem (b := Text.colon) (by simp [Record.text]) (by decide) (by decide)

theorem dropReturn_text (r : Record) : dropReturn r.text = r.text := by
  rw [dropReturn, if_neg]
  intro hlast
  exact absurd (r.isLineEnd_getLast?_text _ hlast) (by decide)

theorem lines_block {rs : List Record} (h : ∀ r ∈ rs, r.Readable) :
    lines (Record.block rs) = rs.map Record.text := by
  have hfields : Text.fields Text.lineFeed (Record.block rs) = rs.map Record.text ++ [[]] :=
    Text.fields_flatMap_append fun r hr => (h r hr).lineFeed_not_mem
  simp [lines, hfields]

theorem fine_text {r : Record} (h : r.Readable) (hlen : r.text.length < bufferSize) :
    Fine r.text :=
  ⟨hlen, .inr ⟨r, by rw [dropReturn_text, Record.parse_text h]⟩⟩

theorem recordOf?_text {r : Record} (h : r.Readable) : recordOf? r.text = some r := by
  have hblank : ¬ IsBlank r.text := by
    intro h
    have hspaces := Blank.isBlank_iff.mpr h
    rw [dropReturn_text, isBlank_text] at hspaces
    cases hspaces
  rw [recordOf?, if_neg hblank, dropReturn_text, Record.parse_text h]
  rfl

theorem filterMap_recordOf?_map_text {rs : List Record} (h : ∀ r ∈ rs, r.Readable) :
    (rs.map Record.text).filterMap recordOf? = rs := by
  induction rs with
  | nil => rfl
  | cons r rs ih =>
    obtain ⟨hr, hrs⟩ := List.forall_mem_cons.mp h
    rw [List.map_cons, List.filterMap_cons_some (recordOf?_text hr), ih hrs]

theorem read_block {rs : List Record} (h : ∀ r ∈ rs, r.Readable)
    (hlen : ∀ r ∈ rs, r.text.length < bufferSize) : read (Record.block rs) none = .ok rs := by
  rw [read_eq_ok_iff, lines_block h, filterMap_recordOf?_map_text h]
  refine ⟨rfl, fun l hl => ?_, rfl⟩
  obtain ⟨r, hr, rfl⟩ := List.mem_map.mp hl
  exact fine_text (h r hr) (hlen r hr)

/-- **The codec loses nothing.** A log written from records whose lines fit the buffer is read as
these records, in order, and each line is read as its record with and without its line feed. -/
theorem read_block_eq_and_parse_eq (rs : List Record) (h : ∀ r ∈ rs, r.Readable)
    (hlen : ∀ r ∈ rs, r.text.length ≤ 16777215) :
    read (Record.block rs) none = .ok rs ∧
      ∀ r ∈ rs, Record.parse r.text = .ok r ∧ Record.parse r.line = .ok r := by
  refine ⟨read_block h fun r hr => ?_, fun r hr => ?_⟩
  · have := hlen r hr
    rw [bufferSize]
    omega
  · exact ⟨Record.parse_text (h r hr), Record.parse_line (h r hr)⟩

/-- An identifier of a colon, a stray octet, a comma and a space, with the least and the greatest
count, twice, and an identifier that looks like a line. -/
theorem read_block_eq_and_parse_eq_of_colons :
    let r : Record := ⟨Text.colon :: 255 :: ", ", [0, Int64.maxValue]⟩
    let rs : List Record := [r, ⟨"1:2", [10]⟩, r]
    (∀ r ∈ rs, r.Readable) ∧ (∀ r ∈ rs, r.text.length ≤ 16777215) ∧
      read (Record.block rs) none = .ok rs ∧
        ∀ r ∈ rs, Record.parse r.text = .ok r ∧ Record.parse r.line = .ok r := by
  intro r rs
  have hreadable : ∀ r ∈ rs, r.Readable := by decide
  have hlen : ∀ r ∈ rs, r.text.length ≤ 16777215 := by decide +kernel
  exact ⟨hreadable, hlen, read_block_eq_and_parse_eq rs hreadable hlen⟩

end Log

end HitLog
