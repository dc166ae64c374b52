import HitLog.Config
import HitLog.ErrorKind
import HitLog.Text.Quoted

/-!
# Valid configurations

A run needs a log and at least one unit, and the units' records must be readable later: identifiers
are neither empty nor broken over lines, no two are alike, and each unit has a site. The check
reports the first violation, unit by unit.

## Main definitions

* `Config.Violation` — what is wrong
* `Config.violation?` — the first violation of a configuration
-/

namespace HitLog

namespace Config

open scoped Text

/-- What is wrong with a configuration. -/
inductive Violation where
  | emptyLogPath
  | noUnits
  | emptyIdentifier
  | lineBreak (identifier : Text)
  | noSite (identifier : Text)
  | duplicate (identifier : Text)
  deriving DecidableEq

/-- The wording of a violation. -/
def Violation.message : Violation → Text
  | emptyLogPath => "invalid config: log path cannot be empty"
  | noUnits => "invalid config: no instrumented units"
  | emptyIdentifier => "invalid config: unit identifier cannot be empty"
  | lineBreak u => "invalid config: unit identifier " ++ Quoted.quote u ++ " contains a line break"
  | noSite u => "invalid config: unit " ++ Quoted.quote u ++ " must have at least one site"
  | duplicate u => "invalid config: duplicate unit " ++ Quoted.quote u

/-- The kinds of a violation. -/
def Violation.kinds (_ : Violation) : List ErrorKind := [.invalidConfig]

/-- What is wrong with a unit behind units with the given identifiers. -/
def unitViolation? (seen : List Text) (u : UnitSpec) : Option Violation :=
  if u.identifier.isEmpty then some .emptyIdentifier
  else if u.identifier.any Text.isLineEnd then some (.lineBreak u.identifier)
  else if u.sites ≤ 0 then some (.noSite u.identifier)
  else if u.identifier ∈ seen then some (.duplicate u.identifier)
  else none

/-- The first violation among units behind units with the given identifiers. -/
def unitsViolation? (seen : List Text) : List UnitSpec → Option Violation
  | [] => none
  | u :: us =>
    match unitViolation? seen u with
    | some v => some v
    | none => unitsViolation? (u.identifier :: seen) us

/-- The first violation of a configuration. -/
def violation? (c : Config) : Option Violation :=
  if c.logPath.isEmpty then some .emptyLogPath
  else if c.units.isEmpty then some .noUnits
  else unitsViolation? [] c.units

end Config

end HitLog
