import HitLog.Record

/-!
# Coverage tracefiles

A tracefile shows records to coverage tools. Each record with a hit becomes a section; site `i` is
shown as line `i + 1`, and only sites that were hit have an entry. A record without any hit has no
section. A negative count, which only wrapped arithmetic can make, is no hit.

The file is built in two steps, sections first and their text second, so that what a file says can
be stated without reading its text.

## Main definitions

* `Tracefile.Options` — the test's name, source names for units, and site totals
* `Tracefile.Section` — what the file says about one record
* `Tracefile.sections` — the sections of a list of records
* `Tracefile.text` — the file
-/

namespace HitLog

namespace Tracefile

open scoped Text

/-- How records are presented. -/
structure Options where
  /-- The name of the test; an empty name stands for `test`. -/
  testName : Text
  /-- Source names shown in place of identifiers. -/
  rename : List (Text × Text)
  /-- Site totals shown in place of the number of counts, by identifier. -/
  found : List (Text × Int64)

/-- The test name in use. -/
def Options.test (o : Options) : Text := if o.testName.isEmpty then "test" else o.testName

/-- What the file says about one record. -/
structure Section where
  /-- The test's name. -/
  test : Text
  /-- The source's name. -/
  source : Text
  /-- Lines that were hit, with how often. -/
  hits : List (Nat × Int64)
  /-- The number of sites that were hit. -/
  hit : Nat
  /-- The total of sites. -/
  found : Int
  deriving DecidableEq

/-- The number of counts that are hits. -/
def hitCount (counts : List Int64) : Nat := counts.countP (0 < ·)

/-- The lines that were hit; `n` is the number of the first count's line. -/
def hitsFrom (n : Nat) (counts : List Int64) : List (Nat × Int64) :=
  (counts.zipIdx n).filterMap fun (c, i) => if 0 < c then some (i, c) else none

/-- The section of a record, if it has a hit. -/
def section? (o : Options) (r : Record) : Option Section :=
  let hit := hitCount r.counts
  if hit = 0 then none
  else some {
    test := o.test
    source := (o.rename.lookup r.identifier).getD r.identifier
    hits := hitsFrom 1 r.counts
    hit
    found := ((o.found.lookup r.identifier).map Int64.toInt).getD r.counts.length }

/-- The sections of the records with hits, in order. -/
def sections (o : Options) (records : List Record) : List Section := records.filterMap (section? o)

/-- The text of one entry, ended by a line feed. -/
def entry (tag body : Text) : Text := tag ++ body ++ [Text.lineFeed]

/-- The entries of a section, each with its end. -/
def Section.entries (s : Section) : List Text :=
  [entry "TN:" s.test, entry "SF:" s.source] ++
    s.hits.map (fun (n, c) =>
      entry "DA:" (Numeral.decimal n ++ Text.comma :: Numeral.signed c.toInt)) ++
    [entry "LH:" (Numeral.decimal s.hit), entry "LF:" (Numeral.signed s.found),
      entry "end_of_record" []]

/-- The entries of all sections, which are written one by one. -/
def entries (o : Options) (records : List Record) : List Text :=
  (sections o records).flatMap Section.entries

/-- The whole file. -/
def text (o : Options) (records : List Record) : Text := (entries o records).flatten

end Tracefile

end HitLog
