import HitLog.Journal
import HitLog.Numeral

/-!
# The console

The console shows an entry as one line that holds an object: its level and message first, then its
fields by name. An error made of several has a second field, whose name ends in `Causes`, with one
object for each part. Texts are quoted, and control characters, quotes and backslashes in them are
escaped.

## Main definitions

* `Journal.quoted` — a quoted text
* `Journal.Entry.line` — the line of an entry
-/

namespace HitLog

namespace Journal

open scoped Text

/-- An octet inside quotes. -/
def escaped (b : UInt8) : Text :=
  if b = 34 || b = 92 then [92, b]
  else if b = 10 then "\\n"
  else if b = 13 then "\\r"
  else if b = 9 then "\\t"
  else if b < 32 then Text.ofString "\\u" ++ Text.hex 4 b.toNat
  else [b]

/-- A quoted text. -/
def quoted (t : Text) : Text := 34 :: t.flatMap escaped ++ [34]

/-- Items with commas between them, inside an opening and a closing octet. -/
def enclosed (opening closing : UInt8) (items : List Text) : Text :=
  opening :: List.intercalate [Text.comma] items ++ [closing]

/-- A name with its value. -/
def member (name : String) (value : Text) : Text := quoted name ++ Text.colon :: value

/-- An object of members. -/
def object (members : List Text) : Text := enclosed 123 125 members

/-- A part of an error. -/
def part (message : Text) : Text := object [member "error" (quoted message)]

/-- The members of a field. -/
def Field.members (name : String) : Field → List Text
  | text value => [member name (quoted value)]
  | number value => [member name (Numeral.decimal value)]
  | texts values => [member name (enclosed 91 93 (values.map quoted))]
  | error message parts =>
    member name (quoted message) ::
      if parts.isEmpty then []
      else [member (name ++ "Causes") (enclosed 91 93 (parts.map part))]

/-- The name of a level. -/
def Level.name : Level → String
  | debug => "debug"
  | info => "info"
  | warn => "warn"
  | error => "error"

/-- The line of an entry. -/
def Entry.line (e : Entry) : Text :=
  object (member "level" (quoted e.level.name) :: member "msg" (quoted e.message) ::
    e.fields.flatMap fun (name, value) => value.members name) ++ [Text.lineFeed]

end Journal

end HitLog
