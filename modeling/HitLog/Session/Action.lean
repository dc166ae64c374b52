import HitLog.Benchmark
import HitLog.Session

/-!
# Actions on sessions

What is done with a session is data: a list of actions, each of which gives an answer or stops with
a fault. A workload is such a list, so that statements can speak about all workloads.

## Main definitions

* `TableAction`, `Action` — what is done with a table, and with a session
* `Answer` — what an action gives
* `Stage` — a session with its surroundings, and `Stage.perform`
-/

namespace HitLog

open scoped Text

/-! ### Actions and answers -/

/-- What is done with a table. -/
inductive TableAction where
  /-- Count a site once. -/
  | inc (site : Int64)
  /-- Count a site several times. -/
  | add (site delta : Int64)
  /-- Ask for the count of a site. -/
  | get (site : Int64)
  /-- Ask for all counts. -/
  | counts
  /-- Ask for the number of sites. -/
  | size
  /-- Ask for the identifier. -/
  | identifier
  /-- Ask for the record. -/
  | record
  /-- Ask for the metrics. -/
  | metrics
  /-- Run the Fibonacci benchmark on the table. -/
  | fibonacci (n : Int64)
  /-- Run the factorial benchmark on the table. -/
  | factorial (n : Int64)

/-- What is done with a session. -/
inductive Action where
  /-- Something with the table of a unit. -/
  | table (unit : Text) (action : TableAction)
  /-- Ask whether a unit has a table. -/
  | hasTable (unit : Text)
  /-- Ask for the identifiers and sizes of all tables. -/
  | tables
  /-- Ask for the number of tables. -/
  | tableCount
  /-- Ask for all records. -/
  | records
  /-- Ask for the metrics of all tables. -/
  | metrics
  /-- Finalise the session. -/
  | finalize
  /-- Call the finaliser that was registered. -/
  | hook
  /-- Run both benchmarks. -/
  | benchmark (fib fact : Int64)
  /-- Ask for the content of the log. -/
  | readLog
  /-- Make a directory. -/
  | makeDirectory (path : Text)

/-- The error of benchmarks whose units are missing. -/
structure MissingUnits where
  deriving DecidableEq

/-- The wording of missing units. -/
def MissingUnits.message (_ : MissingUnits) : Text :=
  "config must declare units " ++ Quoted.quote Benchmark.fiboUnit ++ " and " ++
    Quoted.quote Benchmark.factUnit

/-- What an action gives. -/
inductive Answer where
  /-- Nothing but that it is done. -/
  | done
  /-- A word. -/
  | word (n : Int64)
  /-- Words. -/
  | words (ns : List Int64)
  /-- A number of things. -/
  | size (n : Nat)
  /-- A text. -/
  | text (t : Text)
  /-- A truth value. -/
  | truth (b : Bool)
  /-- A record. -/
  | record (r : Record)
  /-- Records. -/
  | records (rs : List Record)
  /-- Metrics. -/
  | metrics (ms : List Metric)
  /-- Identifiers and sizes of tables. -/
  | tables (ts : List (Text × Nat))
  /-- The verdict of a finalisation. -/
  | verdict (v : Option FinalizeError)
  /-- The content of a log, if it is a regular file. -/
  | log (content : Option Text)
  /-- The results of both benchmarks, or why there are none. -/
  | benchmark (result : Except MissingUnits (Int64 × Int64))
  /-- The unit has no table. -/
  | noTable
  /-- No finaliser was registered. -/
  | noHook

/-! ### Actions on tables -/

namespace TableAction

/-- An answer that only looks at the table. -/
def look (f : Table → Answer) : Counting Answer := fun t => (.ok (f t), t)

/-- Perform an action on a table. Metrics are taken at the moment `now`. -/
def perform (now : Int64) : TableAction → Counting Answer
  | inc site => do
    Counting.ofTable (·.inc site.toInt)
    return .done
  | add site delta => do
    Counting.ofTable (·.add site.toInt delta)
    return .done
  | get site => fun t => ((t.get site.toInt).map .word, t)
  | counts => look (.words ·.counts)
  | size => look (.size ·.size)
  | identifier => look (.text ·.identifier)
  | record => look (.record ·.record)
  | metrics => look (.metrics <| ·.metrics now)
  | fibonacci n => .word <$> Benchmark.fibonacci n
  | factorial n => .word <$> Benchmark.factorial n

end TableAction

/-! ### Benchmarks on sessions -/

namespace Session

/-- Both benchmarks on the tables of their units. The main site is counted first, once. -/
def benchmark (s : Session) (fib fact : Int64) :
    Except Fault (Except MissingUnits (Int64 × Int64)) × Session :=
  match s.table? Benchmark.fiboUnit, s.table? Benchmark.factUnit with
  | some fiboTable, some factTable =>
    let fiboCode : Counting Int64 := do
      Counting.hit Benchmark.fiboMain
      Benchmark.fibonacci fib
    let (fibResult, fiboTable) := fiboCode fiboTable
    let s := { s with tables := setTable fiboTable s.tables }
    match fibResult with
    | .error f => (.error f, s)
    | .ok a =>
      let (factResult, factTable) := Benchmark.factorial fact factTable
      let s := { s with tables := setTable factTable s.tables }
      match factResult with
      | .error f => (.error f, s)
      | .ok b => (.ok (.ok (a, b)), s)
  | _, _ => (.ok (.error ⟨⟩), s)

end Session

/-! ### Actions on sessions -/

/-- A session with its surroundings. -/
structure Stage where
  session : Session
  /-- Whether a finaliser was registered. -/
  hooked : Bool
  world : World

namespace Stage

/-- Finalise the session on the stage. -/
def finalize (env : Environment) (s : Stage) : Option FinalizeError × Stage :=
  let ⟨verdict, session, world⟩ := s.session.finalize env s.world
  (verdict, { s with session, world })

/-- Perform an action. A fault leaves what was done before it. -/
def perform (env : Environment) (a : Action) (s : Stage) : Except Fault Answer × Stage :=
  match a with
  | .table unit action =>
    match s.session.count? unit (action.perform env.now) with
    | none => (.ok .noTable, s)
    | some (result, session) => (result, { s with session })
  | .hasTable unit => (.ok (.truth (s.session.table? unit).isSome), s)
  | .tables => (.ok (.tables (s.session.tables.map fun t => (t.identifier, t.size))), s)
  | .tableCount => (.ok (.size s.session.tables.length), s)
  | .records => (.ok (.records s.session.records), s)
  | .metrics => (.ok (.metrics (s.session.siteMetrics env.now)), s)
  | .finalize =>
    let (verdict, s) := s.finalize env
    (.ok (.verdict verdict), s)
  | .hook => if s.hooked then (.ok .done, (s.finalize env).2) else (.ok .noHook, s)
  | .benchmark fib fact =>
    let (result, session) := s.session.benchmark fib fact
    (result.map .benchmark, { s with session })
  | .readLog => (.ok (.log (s.world.files.content? s.session.config.logPath)), s)
  | .makeDirectory path =>
    (.ok .done, { s with world := { s.world with files := s.world.files.makeDirectories path } })

/-- The outcome of a list of actions. -/
structure Performed where
  /-- The answers of the actions that gave one. -/
  answers : List Answer
  /-- The fault that stopped the list, if one did. -/
  fault : Option Fault
  stage : Stage

/-- Perform actions in order, up to the first fault. -/
def performAll (env : Environment) (s : Stage) : List Action → Performed
  | [] => ⟨[], none, s⟩
  | a :: as =>
    match s.perform env a with
    | (.error f, s) => ⟨[], some f, s⟩
    | (.ok answer, s) =>
      let rest := performAll env s as
      { rest with answers := answer :: rest.answers }

end Stage

end HitLog
