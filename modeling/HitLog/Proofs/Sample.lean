import HitLog.Run

/-!
# A small setting

One configuration with two units and one world with a log that already holds a line. Statements
about all runs are shown to be about some run here.

## Main definitions

* `Sample.env`, `Sample.world` — the surroundings
* `Sample.config` — two units, `u` with two sites and `v` with one
-/

namespace HitLog

namespace Sample

open scoped Text

/-- A host that has used nothing. -/
def env : Environment := ⟨"host", 0, ⟨0, 0, 0, 0, 0, 0, 0⟩⟩

/-- A working directory with the log `l`. -/
def files : FileSystem where
  nodes := [(["w"], .directory), (["w", "l"], .file "x:1\n")]
  closing := []
  workingDirectory := ["w"]

/-- Nobody answers to names, and the endpoint accepts everything. -/
def network : Network where
  endpoint := .ofList []
  nameServers := []
  system := .finds []
  clock := 0
  traffic := .none

/-- The files with that network. -/
def world : World := ⟨files, network, []⟩

/-- The units `u` and `v`, without an export. -/
def config : Config := ⟨"l", [⟨"u", 2⟩, ⟨"v", 1⟩], .default, true⟩

end Sample

end HitLog
