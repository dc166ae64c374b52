import HitLog.FileSystem
import HitLog.Journal
import HitLog.Record

/-!
# Flushing records

The records of one flush go to the end of the log as one block with a single write, so blocks of
several processes do not mix. Without records nothing is opened. What was opened is closed, whether
the write failed or not, and both may fail.

## Main definitions

* `Flush.flush` — append records to a log
* `FlushError` — what failed of that
-/

namespace HitLog

open scoped Text

/-- What failed when records were appended to a log at a path. -/
inductive FlushError where
  /-- The log could not be opened. -/
  | opening (path : Text) (cause : FileError)
  /-- Writing failed. -/
  | writing (path : Text) (cause : FileError)
  /-- Closing failed. -/
  | closing (path : Text) (cause : FileError)
  /-- Both writing and closing failed. -/
  | writingAndClosing (path : Text) (write close : FileError)
  deriving DecidableEq

namespace FlushError

/-- The error of what failed behind opening, if something did. -/
def ofParts (path : Text) : (write close : Option FileError) → Option FlushError
  | none, none => none
  | some w, none => some (.writing path w)
  | none, some c => some (.closing path c)
  | some w, some c => some (.writingAndClosing path w c)

/-- The wording of a failed step. -/
def partMessage (doing path : Text) (cause : FileError) : Text :=
  doing ++ " instrumentation log " ++ path ++ ": " ++ cause.message

/-- The wordings of what failed. -/
def parts : FlushError → List Text
  | opening path cause => [partMessage "opening" path cause]
  | writing path cause => [partMessage "writing" path cause]
  | closing path cause => [partMessage "closing" path cause]
  | writingAndClosing path w c => [partMessage "writing" path w, partMessage "closing" path c]

/-- The wording of a failed flush. -/
def message (e : FlushError) : Text := List.intercalate (Text.ofString "; ") e.parts

/-- The kinds of a failed flush: those of everything that failed. -/
def kinds : FlushError → List ErrorKind
  | opening _ cause => cause.kinds
  | writing _ cause => cause.kinds
  | closing _ cause => cause.kinds
  | writingAndClosing _ w c => w.kinds ++ c.kinds

end FlushError

namespace Flush

/-- The outcome of a flush. -/
structure Outcome where
  /-- How it failed, if it did. -/
  failure : Option FlushError
  files : FileSystem
  /-- The events of the flush. -/
  events : List Journal.Entry

/-- The event of a successful flush. -/
def flushedEvent (path : Text) (count : Nat) : Journal.Entry :=
  ⟨.debug, "Flushed instrumentation counters", [("path", .text path), ("records", .number count)]⟩

/-- The event of a failed step. -/
def failedEvent (verb : String) (path : Text) (cause : FileError) : Journal.Entry :=
  Journal.failure .error ("Failed to " ++ verb ++ " instrumentation log") [("path", .text path)]
    cause.message

/-- Append the block of some records to the log at a path. If it cannot be opened or written, the
files are left alone. -/
def flush (path : Text) (records : List Record) (files : FileSystem) : Outcome :=
  if records.isEmpty then ⟨none, files, []⟩
  else match files.openForAppend path with
    | .error why =>
      let cause : FileError := ⟨.open_, path, why⟩
      ⟨some (.opening path cause), files, [failedEvent "open" path cause]⟩
    | .ok target =>
      let closed := files.close path target
      let closedEvents := closed.toList.map (failedEvent "close" path)
      match files.write path (Record.block records) target with
      | .ok files =>
        ⟨FlushError.ofParts path none closed, files,
          flushedEvent path records.length :: closedEvents⟩
      | .error cause =>
        ⟨FlushError.ofParts path (some cause) closed, files,
          failedEvent "write" path cause :: closedEvents⟩

end Flush

end HitLog
