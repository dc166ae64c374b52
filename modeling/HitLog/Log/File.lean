import HitLog.FileSystem
import HitLog.Log

/-!
# Log files

Reading a log from a file can fail in two ways: the file cannot be opened, or what it delivers is no
log.

## Main definitions

* `Log.load` — the records of a log file
* `Log.FileReadError` — why it cannot be read
-/

namespace HitLog

namespace Log

/-- Why a log file cannot be read. -/
inductive FileReadError where
  /-- The file cannot be opened. -/
  | opening (cause : FileError)
  /-- Its content cannot be read. -/
  | reading (cause : ReadError)
  deriving DecidableEq

/-- The wording of the error. -/
def FileReadError.message : FileReadError → Text
  | opening cause => cause.message
  | reading cause => cause.message

/-- The kinds of the error. -/
def FileReadError.kinds : FileReadError → List ErrorKind
  | opening cause => cause.kinds
  | reading cause => cause.kinds

/-- The records of a log file, in order. A file that never ends is a line that is too long. -/
def load (files : FileSystem) (path : Text) : Except FileReadError (List Record) :=
  if files.isEndless path then .error (.reading .lineTooLong)
  else match files.read path with
    | .ok text => (read text none).mapError .reading
    | .error cause =>
      if cause.operation = .read then .error (.reading (.source cause.message))
      else .error (.opening cause)

end Log

end HitLog
