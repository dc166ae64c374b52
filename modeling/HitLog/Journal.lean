import HitLog.Text.Utf8

/-!
# The journal

What a run does is told to a journal as entries with a level, a fixed message and named fields. A
program that wants no journal gets none. The console shows entries from `info` upwards, as
characters: octets that are none show as the replacement character, and an error made of several is
shown whole and by its parts.

## Main definitions

* `Journal.Entry` — one event
* `Journal.Entry.forConsole?` — what the console shows of it
-/

namespace HitLog

namespace Journal

open scoped Text

/-- How much an entry matters. -/
inductive Level where
  | debug
  | info
  | warn
  | error
  deriving DecidableEq

/-- The value of a field. -/
inductive Field where
  /-- A text. -/
  | text (value : Text)
  /-- A number. -/
  | number (value : Nat)
  /-- A list of texts. -/
  | texts (values : List Text)
  /-- The wording of an error, and the wordings of its parts if it is made of several. -/
  | error (message : Text) (parts : List Text)

/-- One event. -/
structure Entry where
  level : Level
  message : String
  fields : List (String × Field)

/-- An entry about an error, which comes behind other fields. -/
def failure (level : Level) (message : String) (fields : List (String × Field)) (error : Text) :
    Entry :=
  ⟨level, message, fields ++ [("error", .error error [])]⟩

/-- The field with its octets shown as characters. -/
def Field.scrub : Field → Field
  | text value => text (Utf8.scrub value)
  | number value => number value
  | texts values => texts (values.map Utf8.scrub)
  | error message parts => error (Utf8.scrub message) (parts.map Utf8.scrub)

/-- What the console shows of an entry, if it shows it at all. -/
def Entry.forConsole? (e : Entry) : Option Entry :=
  if e.level = .debug then none
  else some { e with fields := e.fields.map fun (name, value) => (name, value.scrub) }

end Journal

end HitLog
