import HitLog.Duration
import HitLog.Metric

/-!
# Configurations

A configuration says where the log is, which units are instrumented with how many sites, and where
the final counts are exported to, if at all.

## Main definitions

* `UnitSpec` — one instrumented unit
* `ExportConfig` — the target of the export
* `Config` — the configuration of a run
* `Config.default` — what holds where nothing else is said
* `Config.zero` — no configuration at all
-/

namespace HitLog

open scoped Text

/-- One instrumented unit. -/
structure UnitSpec where
  /-- Its name. -/
  identifier : Text
  /-- Its number of sites. -/
  sites : Int64
  deriving DecidableEq

/-- Where and how counts are exported. -/
structure ExportConfig where
  /-- The address that takes the counts. Empty if there is no export. -/
  url : Text
  /-- First part of each metric's full name. -/
  namespace_ : Text
  /-- Second part of each metric's full name. -/
  subsystem : Text
  /-- The value of the label `job`. -/
  service : Text
  /-- The value of the label `instance`. Empty for the host's name. -/
  instanceName : Text
  /-- Labels put on every metric. -/
  labels : Labels
  /-- How long an export may take, in nanoseconds. -/
  timeout : Int64
  /-- Name servers to ask, in this order. -/
  nameServers : List Text
  /-- How long a resolution may take, in nanoseconds. -/
  nameTimeout : Int64

namespace ExportConfig

/-- Whether counts are exported at all. -/
def enabled (e : ExportConfig) : Bool := !e.url.isEmpty

/-- The time an export takes at most unless said otherwise. -/
def defaultTimeout : Int64 := Duration.seconds 15

/-- The time a resolution takes at most unless said otherwise. -/
def defaultNameTimeout : Int64 := Duration.milliseconds 800

/-- No export, with the usual names. -/
def default : ExportConfig where
  url := []
  namespace_ := "bench"
  subsystem := "sites"
  service := "benchmark"
  instanceName := []
  labels := .empty
  timeout := defaultTimeout
  nameServers := []
  nameTimeout := defaultNameTimeout

/-- Nothing said about the export, not even its times. -/
def zero : ExportConfig := ⟨[], [], [], [], [], .empty, 0, [], 0⟩

end ExportConfig

/-- The configuration of a run. -/
structure Config where
  /-- The log that counts are appended to. -/
  logPath : Text
  /-- The instrumented units, in the order of their records. -/
  units : List UnitSpec
  /-- The export. -/
  exporting : ExportConfig
  /-- Whether events go to the journal. -/
  journaling : Bool

namespace Config

/-- The log of runs that name none. -/
def defaultLogPath : Text := "instrumentation_info.txt"

/-- What holds where nothing else is said. It has no units and is therefore not valid as it
stands. -/
def default : Config where
  logPath := defaultLogPath
  units := []
  exporting := .default
  journaling := false

/-- No configuration at all, which is what comes with an error. -/
def zero : Config := ⟨[], [], .zero, false⟩

end Config

end HitLog
