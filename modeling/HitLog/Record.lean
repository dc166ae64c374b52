import HitLog.Numeral

/-!
# Records

A record is one line of the log: the identifier of a unit, a colon, and the counts of its sites
separated by commas. Counts are words of 64 bits; a record made of arbitrary words can be written,
though only counts that are not negative can be read back (`HitLog.Record.Parser`).

## Main definitions

* `Record` — a unit's identifier with the counts of its sites
* `Record.text` — the line without its end
* `Record.line` — the line with its end
-/

namespace HitLog

/-- The counts of one unit at one moment. -/
structure Record where
  /-- The unit's name. -/
  identifier : Text
  /-- How often each site was executed. -/
  counts : List Int64
  deriving DecidableEq

namespace Record

/-- Counts separated by commas. -/
def countsText (counts : List Int64) : Text :=
  [Text.comma].intercalate (counts.map fun c => Numeral.signed c.toInt)

/-- The record as a line without its end. -/
def text (r : Record) : Text := r.identifier ++ Text.colon :: countsText r.counts

/-- The record as a line of the log. -/
def line (r : Record) : Text := r.text ++ [Text.lineFeed]

/-- The lines of several records in order. -/
def block (rs : List Record) : Text := rs.flatMap line

end Record

end HitLog
