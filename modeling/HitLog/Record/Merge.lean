import HitLog.Record
import HitLog.Text.Quoted

/-!
# Merging records

A log that several runs appended to holds several records of one unit. Merging adds them up site by
site. The merged records stand in the order in which their identifiers first occur, and all records
of one unit must have the same number of sites. Sums are words of 64 bits and wrap around.

## Main definitions

* `Record.merge` — one record per identifier
* `Record.absorb` — merge one more record into merged ones
* `Record.MergeError` — two records of one unit differ in size
-/

namespace HitLog

namespace Record

open scoped Text

/-- A record has another number of sites than the first one of its unit. -/
structure MergeError where
  /-- The unit's identifier. -/
  identifier : Text
  /-- The number of sites of the unit's first record. -/
  expected : Nat
  /-- The number of sites of the offending record. -/
  actual : Nat
  deriving DecidableEq

/-- The wording of a difference in size. -/
def MergeError.message (e : MergeError) : Text :=
  "unit " ++ Quoted.quote e.identifier ++ ": " ++ Numeral.decimal e.expected ++
    " sites, record has " ++ Numeral.decimal e.actual

/-- Merge one more record into records that are merged already. -/
def absorb (merged : List Record) (r : Record) : Except MergeError (List Record) :=
  match merged with
  | [] => .ok [r]
  | m :: ms =>
    if m.identifier = r.identifier then
      if m.counts.length = r.counts.length then
        .ok ({ m with counts := List.zipWith (· + ·) m.counts r.counts } :: ms)
      else .error ⟨r.identifier, m.counts.length, r.counts.length⟩
    else (absorb ms r).map (m :: ·)

/-- One record per identifier, holding the sums of the counts of all records with it. -/
def merge (records : List Record) : Except MergeError (List Record) :=
  records.foldlM absorb []

end Record

end HitLog
