import HitLog.Toml.Quoted

/-!
# Dates and times of a document

A configuration has no use for a moment, but a document that holds one is only well-formed if the
moment exists: the month has the day, the day has the hour. The texts checked here come from
`Toml.tokens`, which has put digits and separators at their places.

## Main definitions

* `Toml.Moment.isDate`, `Toml.Moment.isTime`, `Toml.Moment.isOffset`
-/

namespace HitLog

namespace Toml

namespace Moment

/-- The number that digits stand for. -/
def value (cs : List Char) : Nat := cs.foldl (fun n c => 10 * n + Quoted.hexValue c) 0

/-- The number at a position of a text. -/
def field (start length : Nat) (cs : List Char) : Nat := value ((cs.drop start).take length)

/-- Whether a year has a leap day. -/
def isLeap (year : Nat) : Bool := year % 4 = 0 && (year % 100 ≠ 0 || year % 400 = 0)

/-- The number of days of a month. -/
def daysIn (year month : Nat) : Nat :=
  if month = 2 then (if isLeap year then 29 else 28)
  else if month = 4 || month = 6 || month = 9 || month = 11 then 30
  else 31

/-- Whether a date exists. -/
def isDate (cs : List Char) : Bool :=
  let month := field 5 2 cs
  let day := field 8 2 cs
  1 ≤ month && month ≤ 12 && 1 ≤ day && day ≤ daysIn (field 0 4 cs) month

/-- Whether a time of day exists. -/
def isTime (cs : List Char) : Bool :=
  field 0 2 cs < 24 && field 3 2 cs < 60 && field 6 2 cs < 60

/-- Whether an offset is at most a day. -/
def isOffset (cs : List Char) : Bool :=
  cs == ['Z'] || (field 1 2 cs ≤ 24 && field 4 2 cs ≤ 60)

end Moment

end Toml

end HitLog
