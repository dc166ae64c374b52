import HitLog.FileSystem
import HitLog.Journal
import HitLog.Remote.Network
import HitLog.Usage

/-!
# The surroundings of a run

A run finds some things given, such as the name of its host; others it changes: files, the network
and the journal.

## Main definitions

* `Environment` — what a run finds given
* `World` — what a run changes
-/

namespace HitLog

/-- What a run finds given. -/
structure Environment where
  /-- The name of the host. -/
  hostName : Text
  /-- The moment at which metrics are taken, in nanoseconds. -/
  now : Int64
  /-- What the process has used by then. -/
  usage : Usage

/-- What a run changes. -/
structure World where
  files : FileSystem
  network : Network
  /-- The events so far, in order. -/
  journal : List Journal.Entry

namespace World

/-- Add events to the journal, if there is one. -/
def tell (w : World) (journaling : Bool) (events : List Journal.Entry) : World :=
  if journaling then { w with journal := w.journal ++ events } else w

/-- The world with an empty journal and no traffic. -/
def forget (w : World) : World :=
  { w with journal := [], network := { w.network with traffic := .none } }

end World

end HitLog
