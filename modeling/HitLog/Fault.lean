import HitLog.Numeral

/-!
# Faults

A fault stops a workload on the spot. It is not an error that the workload returns: nobody inside
the workload sees it, the session is still finalised, and the fault then goes on to whoever started
the run. Running out of stack is different in kind, because it ends the whole process at once and
nothing is finalised.

## Main definitions

* `Fault` — what can stop a workload
* `Fault.message` — its wording
* `Fault.endsProcess` — whether it leaves no room for finalisation
-/

namespace HitLog

open scoped Text

/-- What stops a workload on the spot. -/
inductive Fault where
  /-- A site outside its table. -/
  | siteOutOfRange (site : Int) (sites : Nat)
  /-- A table of a size that cannot be made. -/
  | tableSize
  /-- A fault raised on purpose. -/
  | raised (message : Text)
  /-- A recursion without end. -/
  | stackExhausted
  deriving DecidableEq

namespace Fault

/-- The wording of a fault. -/
def message : Fault → Text
  | siteOutOfRange site sites =>
    "runtime error: index out of range [" ++ Numeral.signed site ++ "]" ++
      (if site < 0 then [] else Text.ofString " with length " ++ Numeral.decimal sites)
  | tableSize => "runtime error: makeslice: len out of range"
  | raised message => message
  | stackExhausted => "stack overflow"

/-- Whether the fault ends the process before anything can be finalised. -/
def endsProcess : Fault → Bool
  | stackExhausted => true
  | _ => false

end Fault

end HitLog
