import HitLog.Config.Valid
import HitLog.Counting
import HitLog.Flush
import HitLog.Remote.Exporter
import HitLog.World

/-!
# Sessions

A session holds the tables of one run, one for each unit in the order of the configuration.
Finalising it appends its records to the log and then exports its metrics if there is an export.
Only the first finalisation does anything: every later one gives the verdict of the first. A failed
flush does not keep the export from happening.

## Main definitions

* `Session.start` — the session of a configuration
* `Session.table?`, `Session.count?` — look at a unit's table, and count in it
* `Session.finalize` — flush and export, once
* `FinalizeError` — what failed of the two
-/

namespace HitLog

open scoped Text

/-- What failed when a session was finalised. -/
inductive FinalizeError where
  /-- The flush. -/
  | flush (cause : FlushError)
  /-- The export. -/
  | remote (cause : ExportError)
  /-- Both. -/
  | both (flush : FlushError) (remote : ExportError)
  deriving DecidableEq

namespace FinalizeError

/-- The error of what failed, if something did. -/
def ofParts : Option FlushError → Option ExportError → Option FinalizeError
  | none, none => none
  | some f, none => some (.flush f)
  | none, some r => some (.remote r)
  | some f, some r => some (.both f r)

/-- The wordings of what failed. -/
def parts : FinalizeError → List Text
  | flush f => f.parts
  | remote r => [r.message]
  | both f r => f.parts ++ [r.message]

/-- The wording of the error. -/
def message (e : FinalizeError) : Text :=
  "flushing counters: " ++ List.intercalate (Text.ofString "; ") e.parts

/-- The kinds of the error: that of a failed finalisation, and those of what failed. -/
def kinds : FinalizeError → List ErrorKind
  | flush f => .flush :: f.kinds
  | remote r => .flush :: r.kinds
  | both f r => .flush :: (f.kinds ++ r.kinds)

end FinalizeError

/-- The tables of one run, with what is needed to finalise them. -/
structure Session where
  config : Config
  /-- One table for each unit, in order. -/
  tables : List Table
  /-- The exporter, if there is an export. -/
  exporter : Option Exporter
  /-- The verdict of the first finalisation, once there was one. -/
  verdict : Option (Option FinalizeError)

/-- Why a session does not start. -/
inductive StartError where
  /-- The configuration is not valid. -/
  | invalid (violation : Config.Violation)
  /-- A table cannot be made. -/
  | fault (fault : Fault)

namespace Session

/-! ### Starting -/

/-- Zeroed tables for units. -/
def makeTables (units : List UnitSpec) : Except Fault (List Table) :=
  units.mapM fun u => Table.make u.identifier u.sites

/-- The session of a configuration. -/
def start (config : Config) (hostName : Text) : Except StartError Session :=
  match config.violation? with
  | some v => .error (.invalid v)
  | none =>
    match makeTables config.units with
    | .error f => .error (.fault f)
    | .ok tables =>
      .ok {
        config, tables
        exporter :=
          if config.exporting.enabled then some (.make config.exporting hostName) else none
        verdict := none }

/-! ### Tables -/

/-- The table of a unit. -/
def table? (s : Session) (identifier : Text) : Option Table :=
  s.tables.find? (·.identifier = identifier)

/-- The records of all tables. -/
def records (s : Session) : List Record := s.tables.map Table.record

/-- Put a table in the place of the one with its identifier. -/
def setTable (t : Table) : List Table → List Table
  | [] => []
  | u :: us => if u.identifier = t.identifier then t :: us else u :: setTable t us

/-- Run counting code on the table of a unit, if there is one. -/
def count? (s : Session) (identifier : Text) (code : Counting α) :
    Option (Except Fault α × Session) :=
  (s.table? identifier).map fun t =>
    let (result, t) := code t
    (result, { s with tables := setTable t s.tables })

/-- The metrics of all sites. -/
def siteMetrics (s : Session) (now : Int64) : List Metric := s.tables.flatMap (·.metrics now)

/-! ### Finalising -/

/-- The outcome of an export that a session makes. -/
structure Exported where
  /-- How it failed, if it did. -/
  failure : Option ExportError
  exporter : Option Exporter
  net : Network
  events : List Journal.Entry

/-- The event of a failed export. -/
def exportFailedEvent (e : ExportError) : Journal.Entry :=
  Journal.failure .error "Failed to export counters" [] e.message

/-- How long a session waits for its export. -/
def lifetime (s : Session) (net : Network) : Lifetime :=
  Lifetime.live.within net.clock
    (Duration.orDefault s.config.exporting.timeout ExportConfig.defaultTimeout).toNatClampNeg

/-- Export the metrics of all sites and those of the process, if there is an export. -/
def exportMetrics (s : Session) (env : Environment) (net : Network) : Exported :=
  match s.exporter with
  | none => ⟨none, none, net, []⟩
  | some e =>
    let ⟨failure, state⟩ :=
      e.exportAll (s.siteMetrics env.now ++ env.usage.metrics env.now) (s.lifetime net) net
    ⟨failure, some state.exporter, state.net, state.events ++ failure.toList.map exportFailedEvent⟩

/-- The outcome of a finalisation. -/
structure Finalized where
  /-- What failed, if something did. -/
  verdict : Option FinalizeError
  session : Session
  world : World

/-- Flush and export. The log sees nothing of the network, and the network nothing of the log. -/
def finalizeNow (s : Session) (env : Environment) (w : World) : Finalized :=
  let flushed := Flush.flush s.config.logPath s.records w.files
  let exported := s.exportMetrics env w.network
  let verdict := FinalizeError.ofParts flushed.failure exported.failure
  let w : World := { w with files := flushed.files, network := exported.net }
  ⟨verdict, { s with exporter := exported.exporter, verdict := some verdict },
    w.tell s.config.journaling (flushed.events ++ exported.events)⟩

/-- Finalise a session. Only the first time something is done. -/
def finalize (s : Session) (env : Environment) (w : World) : Finalized :=
  match s.verdict with
  | some verdict => ⟨verdict, s, w⟩
  | none => s.finalizeNow env w

end Session

end HitLog
