import HitLog.Record.Parser
import HitLog.Text.Blank

/-!
# The log

A log is a text of lines. Each line that is not blank is a record, and one malformed line makes the
whole log unreadable: the error names the first such line. Lines are delivered through a buffer of
16 MiB, so a line that fills the buffer before its line feed cannot be read at all; lines before it
are looked at first.

## Main definitions

* `Log.lines` — the lines of a text
* `Log.read` — the records of a log
* `Log.ReadError` — why a log cannot be read
-/

namespace HitLog

namespace Log

open scoped Text

/-- The octets the line buffer holds. A line must be shorter. -/
def bufferSize : Nat := 16 * 1024 * 1024

/-- Why a log cannot be read. -/
inductive ReadError where
  /-- The line with this number, counted from 1, is malformed. -/
  | malformed (line : Nat) (cause : Record.ParseError)
  /-- A line fills the buffer. -/
  | lineTooLong
  /-- The source of the text failed behind its last octet. -/
  | source (cause : Text)
  deriving DecidableEq

/-- The wording of a reading error. -/
def ReadError.message : ReadError → Text
  | .malformed n cause => "line " ++ Numeral.decimal n ++ ": " ++ cause.message
  | .lineTooLong => "reading log: bufio.Scanner: token too long"
  | .source cause => "reading log: " ++ cause

/-- The kinds of a reading error. -/
def ReadError.kinds : ReadError → List ErrorKind
  | .malformed _ cause => cause.kinds
  | _ => []

/-- The lines of a text without their line feeds. A last line without line feed counts if it is not
empty. -/
def lines (t : Text) : List Text :=
  let pieces := t.fields Text.lineFeed
  if pieces.getLast? = some [] then pieces.dropLast else pieces

/-- The line without one carriage return at its end. -/
def dropReturn (line : Text) : Text :=
  if line.getLast? = some Text.carriageReturn then line.dropLast else line

/-- What reading has found so far. -/
structure Progress where
  /-- The number of lines read. -/
  lineCount : Nat
  /-- The records found, the latest first. -/
  found : List Record

/-- Read one more line. -/
def Progress.step (p : Progress) (line : Text) : Except ReadError Progress :=
  if bufferSize ≤ line.length then .error .lineTooLong
  else if Blank.isBlank (dropReturn line) then .ok { p with lineCount := p.lineCount + 1 }
  else match Record.parse (dropReturn line) with
    | .ok r => .ok ⟨p.lineCount + 1, r :: p.found⟩
    | .error cause => .error (.malformed (p.lineCount + 1) cause)

/-- The records of a log, in order. The source may fail once all of the text is delivered. -/
def read (t : Text) (failure : Option Text) : Except ReadError (List Record) :=
  match (lines t).foldlM Progress.step ⟨0, []⟩ with
  | .error e => .error e
  | .ok p =>
    match failure with
    | some cause => .error (.source cause)
    | none => .ok p.found.reverse

end Log

end HitLog
