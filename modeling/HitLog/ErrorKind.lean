import HitLog.Text

/-!
# Kinds of errors

Whoever receives an error decides by its kinds what to do, not by its wording. An error made of
several, or wrapped around another, has the kinds of all its parts. A workload may return errors
with kinds of its own, so that there is no end of kinds.

## Main definitions

* `FileCause` — why an operation on files fails
* `ErrorKind` — the kinds that are told apart
-/

namespace HitLog

/-- Why an operation on files fails. -/
inductive FileCause where
  | notFound
  | isDirectory
  | notDirectory
  | nameTooLong
  | invalidArgument
  | noSpace
  | inputOutput
  deriving DecidableEq

/-- What an error can be recognised as. -/
inductive ErrorKind where
  /-- The configuration is not valid. -/
  | invalidConfig
  /-- A log line is malformed. -/
  | malformedRecord
  /-- The finaliser could not be registered. -/
  | registration
  /-- Finalising a session failed. -/
  | flush
  /-- A file does not exist. -/
  | notFound
  /-- An operation on files failed for this cause. -/
  | system (cause : FileCause)
  /-- The workload returned an error. -/
  | workload
  /-- The registration was refused. -/
  | hook
  /-- The time for a request ran out. -/
  | expired
  /-- The caller of a request gave up. -/
  | cancelled
  /-- A kind that a workload's error brings with it, by its name. -/
  | other (name : Text)
  deriving DecidableEq

end HitLog
