import HitLog.CommandLine.Flags
import HitLog.Config.Draft
import HitLog.Run

/-!
# The command

The command runs both benchmarks in a session and prints their results. Its exit status tells how
the benchmarks fared: a log that could not be written or an export that failed is only told to the
journal.

## Main definitions

* `CommandLine.execute` — the command, and `CommandLine.Exit`
-/

namespace HitLog

namespace CommandLine

open scoped Text

/-- How the command ends. -/
structure Exit where
  /-- The exit status, or the fault that ended it. -/
  status : Except Fault Nat
  /-- What it printed. -/
  output : Text
  world : World

/-- The configuration as the command runs it: without units of its own it has those of the
benchmarks, and events go to the journal. -/
def forBenchmarks (config : Config) : Config :=
  { config with
    units := if config.units.isEmpty then Benchmark.units else config.units
    journaling := true }

/-- The configuration that flags ask for. -/
def configure (flags : Flags) (files : FileSystem) : Except Config.LoadError Config :=
  let loaded : Config.Loaded :=
    if flags.config.isEmpty then ⟨.default, none⟩ else Config.load files flags.config
  match loaded.error? with
  | some e => .error e
  | none => .ok (forBenchmarks loaded.config)

/-- The benchmarks as a workload, which fails if their units are missing. -/
def workload (flags : Flags) : Workload where
  actions := [.benchmark flags.fib flags.fact]
  ending
    | [.benchmark (.error e)] => .fail ⟨e.message, []⟩
    | _ => .finish

/-- The results of the benchmarks among the answers. -/
def results : List Answer → Int64 × Int64
  | [.benchmark (.ok pair)] => pair
  | _ => (0, 0)

/-- Whether the benchmarks returned an error. -/
def workloadFailed : List Answer → Bool
  | [.benchmark (.error _)] => true
  | _ => false

/-- A line of output. -/
def resultLine (name : Text) (argument result : Int64) : Text :=
  name ++ "(" ++ Numeral.signed argument.toInt ++ ") = " ++ Numeral.signed result.toInt ++ "\n"

/-- What the command prints. -/
def resultText (flags : Flags) (pair : Int64 × Int64) : Text :=
  resultLine "fib" flags.fib pair.1 ++ resultLine "fact" flags.fact pair.2

/-- The event of a configuration that cannot be loaded. -/
def loadFailedEvent (path : Text) (e : Config.LoadError) : Journal.Entry :=
  Journal.failure .error "Failed to load config" [("path", .text path)] e.message

/-- An event about the error of the run. -/
def runEvent (message : String) (e : RunError) : Journal.Entry :=
  ⟨.error, message, [("error", .error e.message e.parts)]⟩

/-- How the command ends after the run. -/
def conclude (flags : Flags) (r : RunReport) : Exit :=
  let tell (events : List Journal.Entry) : World := r.world.tell true events
  let printed := resultText flags (results r.answers)
  match r.outcome with
  | .fault f => ⟨.error f, [], r.world⟩
  | .returned none => ⟨.ok 0, printed, r.world⟩
  | .returned (some e) =>
    if workloadFailed r.answers || ErrorKind.flush ∉ e.kinds then
      ⟨.ok 1, [], tell [runEvent "Benchmark run failed" e]⟩
    else ⟨.ok 0, printed, tell [runEvent "Counters were not persisted" e]⟩

/-- The command with its arguments. -/
def execute (env : Environment) (arguments : List Text) (w : World) : Exit :=
  match Flags.parse? arguments with
  | none => ⟨.ok 2, [], w⟩
  | some flags =>
    match configure flags w.files with
    | .error e => ⟨.ok 1, [], w.tell true [loadFailedEvent flags.config e]⟩
    | .ok config => conclude flags (run env config none (workload flags) w)

/-- The exit status as a process has it: a fault ends a process with 2. -/
def Exit.code (e : Exit) : Nat :=
  match e.status with
  | .ok n => n
  | .error _ => 2

/-- What the console shows of the journal. -/
def Exit.console (e : Exit) : List Journal.Entry := e.world.journal.filterMap (·.forConsole?)

end CommandLine

end HitLog
