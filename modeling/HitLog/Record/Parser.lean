import HitLog.ErrorKind
import HitLog.Record
import HitLog.Text.Quoted

/-!
# Reading a record

The identifier may hold colons, so the last colon separates it from the counts; it may not be empty.
A trailing run of line ends belongs to the line, not to the record.

## Main definitions

* `Record.parse` — the record of a line
* `Record.ParseError` — the first thing that is wrong with a line
-/

namespace HitLog

namespace Record

open scoped Text

/-- The largest count a line may hold. -/
def maxCount : Nat := Nat.pow 2 63 - 1

/-- The first thing that is wrong with a line. -/
inductive ParseError where
  /-- There is no colon behind a non-empty identifier. -/
  | missingSeparator
  /-- The field at an index is not the numeral of a count. -/
  | count (index : Nat) (field : Text) (cause : Numeral.Error)
  deriving DecidableEq

/-- The wording of a numeral's fault. -/
def causeText : Numeral.Error → Text
  | .malformed => "invalid syntax"
  | .tooLarge => "value out of range"

/-- The wording of a line's fault. -/
def ParseError.message : ParseError → Text
  | .missingSeparator => "malformed record: missing identifier separator"
  | .count i field cause =>
    "malformed record: count " ++ Numeral.decimal i ++ ": strconv.ParseUint: parsing " ++
      Quoted.quote field ++ ": " ++ causeText cause

/-- The kinds of a line's fault. -/
def ParseError.kinds (_ : ParseError) : List ErrorKind := [.malformedRecord]

/-- The counts of the fields, `i` being the index of the first; `acc` holds the earlier ones in
reverse. -/
def parseCounts (i : Nat) (acc : List Int64) : List Text → Except ParseError (List Int64)
  | [] => .ok acc.reverse
  | f :: fs =>
    match Numeral.readUpTo maxCount f with
    | .ok n => parseCounts (i + 1) (Int64.ofNat n :: acc) fs
    | .error cause => .error (.count i f cause)

/-- The record that a line stands for. -/
def parse (line : Text) : Except ParseError Record :=
  match Text.splitAtLast Text.colon line.trimLineEnds with
  | none => .error .missingSeparator
  | some (identifier, rest) =>
    if identifier.isEmpty then .error .missingSeparator
    else (parseCounts 0 [] (Text.fields Text.comma rest)).map (Record.mk identifier)

end Record

end HitLog
