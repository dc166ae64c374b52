import HitLog.Run
import HitLog.Proofs.Benchmark
import HitLog.Proofs.FileSystem
import HitLog.Proofs.Hits

/-!
# What an action does to a session

Whatever is done with a session, only three things can happen: counters change, a finalisation takes
place, or the surroundings are changed by hand. The statements here say which actions do which, so
that later proofs never look into an action again.

A finalised session has a verdict, and from then on finalising it does nothing.

## Main definitions

* `Action.finalizes` — the actions that finalise
* `Action.Ordinary` — the actions that leave files alone and cannot end the process
* `Action.hits` — the sites that an action executes

## Main results

* `Session.files_finalize` — the files behind the first finalisation
* `Stage.finalize_finalize` — a second finalisation does nothing
* `Stage.perform_of_finalizes`, `Stage.perform_eq_hit` — one action finalises, or makes its hits
* `Stage.perform_frame` — an action that does not finalise changes tables and files at most
-/

namespace HitLog

/-- Telling changes no files. -/
theorem World.files_tell (w : World) (journaling : Bool) (events : List Journal.Entry) :
    (w.tell journaling events).files = w.files := by
  rw [tell]
  split <;> rfl

/-! ### Kinds of actions -/

namespace Action

/-- Whether an action finalises the session, given whether a finaliser was registered. -/
def finalizes (hooked : Bool) : Action → Bool
  | .finalize => true
  | .hook => hooked
  | _ => false

/-- An action that makes no directory and does not recurse without end. -/
def Ordinary : Action → Prop
  | .table _ (.fibonacci n) => 0 ≤ n
  | .benchmark fib _ => 0 ≤ fib
  | .makeDirectory _ => False
  | _ => True

end Action

/-! ### Hits -/

open Benchmark (once fiboPath factPath fiboUnit factUnit fiboMain)

namespace TableAction

/-- The sites that an action on a table touches, in order. Looking at a site touches it without
counting it. -/
def touches : TableAction → List Table.Touch
  | inc site => [(site.toInt, 1)]
  | add site delta => if delta ≤ 0 then [] else [(site.toInt, delta.toNatClampNeg)]
  | get site => [(site.toInt, 0)]
  | fibonacci n => once (fiboPath n.toNatClampNeg)
  | factorial n => once (factPath n.toNatClampNeg)
  | _ => []

/-- The code of an ordinary action on a table follows its touches. -/
theorem perform_follows (now : Int64) {a : TableAction} {unit : Text}
    (h : (Action.table unit a).Ordinary) : Counting.Follows (a.perform now) a.touches := by
  cases a with
  | inc site => exact (Counting.Follows.bump _ rfl).bind fun _ => .pure _
  | add site delta =>
    rw [touches, ← List.append_nil (if delta ≤ 0 then _ else _)]
    exact (Counting.Follows.add _ delta).bind fun _ => .pure _
  | get site => exact .get site.toInt Answer.word
  | fibonacci n => exact (Benchmark.fibonacci_follows h).map _
  | factorial n => exact (Benchmark.factorial_follows n).map _
  | _ => exact .look _

end TableAction

/-- The hits of an action, given the units that have a table. -/
def Action.hits (units : List Text) : Action → List Hit
  | .table unit a => if units.contains unit then a.touches.map (Hit.on unit) else []
  | .benchmark fib fact =>
    if units.contains fiboUnit && units.contains factUnit then
      (once (fiboMain :: fiboPath fib.toNatClampNeg)).map (Hit.on fiboUnit) ++
        (once (factPath fact.toNatClampNeg)).map (Hit.on factUnit)
    else []
  | _ => []

/-- Benchmarks that miss a unit make no hits. -/
theorem Action.hits_benchmark_of_missing {units : List Text}
    (h : fiboUnit ∉ units ∨ factUnit ∉ units) (fib fact : Int64) :
    (Action.benchmark fib fact).hits units = [] := by
  rw [hits, if_neg]
  rw [Bool.and_eq_true, List.contains_iff_mem, List.contains_iff_mem]
  exact not_and_or.mpr h

namespace Session

variable {s : Session} {env : Environment} {w : World}

/-! ### Tables -/

/-- The session with other tables. -/
def withTables (s : Session) (tables : List Table) : Session := { s with tables }

/-- The units of the tables with their numbers of sites. -/
def shape (s : Session) : List (Text × Nat) := s.tables.map Table.shape

/-- The units of the tables. -/
def units (s : Session) : List Text := s.tables.map Table.identifier

/-- The units are those whose table is found. -/
theorem contains_units (s : Session) (unit : Text) :
    s.units.contains unit = (s.table? unit).isSome := by
  rw [Bool.eq_iff_iff, List.contains_iff_mem, table?, List.find?_isSome, units]
  simp

/-- The session with hits made on its tables. -/
def hit (s : Session) (hs : List Hit) : Session := s.withTables (hitAll s.tables hs).2

theorem shape_hit (s : Session) (hs : List Hit) : (s.hit hs).shape = s.shape :=
  map_shape_hitAll s.tables hs

theorem units_hit (s : Session) (hs : List Hit) : (s.hit hs).units = s.units := by
  have h := congrArg (List.map Prod.fst) (s.shape_hit hs)
  rwa [shape, shape, List.map_map, List.map_map] at h

/-- Hits go on where those before them ended, if they did not stop. -/
theorem hit_append (s : Session) (hs ks : List Hit) :
    s.hit (hs ++ ks) =
      match (hitAll s.tables hs).1 with
      | none => (s.hit hs).hit ks
      | some _ => s.hit hs := by
  simp only [hit, hitAll_append]
  rcases hitAll s.tables hs with ⟨_ | f, tables⟩ <;> rfl

/-- Code on the table of a unit makes the hits that it follows. -/
theorem count?_eq_some {α : Type} {unit : Text} {code : Counting α} {xs : List Table.Touch}
    (hcode : code.Follows xs) {result : Except Fault α} {s' : Session}
    (h : s.count? unit code = some (result, s')) :
    Counting.faultOf result = (hitAll s.tables (xs.map (Hit.on unit))).1 ∧
      s' = s.hit (xs.map (Hit.on unit)) := by
  rw [count?, Option.map_eq_some_iff] at h
  obtain ⟨t, ht, h⟩ := h
  cases h
  rw [hit, hitAll_on ht, ← hcode t]
  exact ⟨rfl, rfl⟩

/-- The benchmarks make hits in two tables. -/
theorem benchmark_spec {fib : Int64} (hfib : 0 ≤ fib) (fact : Int64) :
    Counting.faultOf (s.benchmark fib fact).1
        = (hitAll s.tables ((Action.benchmark fib fact).hits s.units)).1 ∧
      (s.benchmark fib fact).2 = s.hit ((Action.benchmark fib fact).hits s.units) := by
  have hfibo : Counting.Follows (do
      Counting.hit fiboMain
      Benchmark.fibonacci fib) (once (fiboMain :: fiboPath fib.toNatClampNeg)) :=
    (Counting.Follows.hit _).bind fun _ => Benchmark.fibonacci_follows hfib
  have hfact := Benchmark.factorial_follows fact
  rw [benchmark, hit, Action.hits]
  split
  · rename_i fiboTable factTable hfiboTable hfactTable
    have hboth : (s.units.contains fiboUnit && s.units.contains factUnit) = true := by
      rw [contains_units, contains_units, hfiboTable, hfactTable]
      rfl
    rw [if_pos hboth, hitAll_append, hitAll_on hfiboTable, ← hfibo]
    have hfiboShape := hfibo.shape fiboTable
    dsimp only
    revert hfiboShape
    generalize (do
      Counting.hit fiboMain
      Benchmark.fibonacci fib : Counting Int64) fiboTable = fiboRun
    intro hfiboShape
    rcases fiboRun with ⟨_ | a, fiboTable'⟩
    · exact ⟨rfl, rfl⟩
    -- the first benchmark left the table of the second alone
    have hne : fiboTable'.identifier ≠ factUnit := by
      have hid : fiboTable'.identifier = fiboTable.identifier := congrArg Prod.fst hfiboShape
      rw [hid, identifier_of_find? hfiboTable]
      decide
    have hfind : (setTable fiboTable' s.tables).find? (·.identifier = factUnit)
        = some factTable := (find?_setTable_of_ne hne s.tables).trans hfactTable
    dsimp only [Counting.faultOf]
    rw [hitAll_on hfind, ← hfact]
    generalize Benchmark.factorial fact factTable = factRun
    rcases factRun with ⟨_ | b, factTable'⟩
    · exact ⟨rfl, rfl⟩
    · exact ⟨rfl, rfl⟩
  · rename_i hmissing
    rw [contains_units, contains_units, if_neg]
    · exact ⟨rfl, rfl⟩
    · intro hboth
      rw [Bool.and_eq_true, Option.isSome_iff_exists, Option.isSome_iff_exists] at hboth
      obtain ⟨⟨fiboTable, hfiboTable⟩, factTable, hfactTable⟩ := hboth
      exact hmissing fiboTable factTable hfiboTable hfactTable

/-- What the benchmarks do is decided by the tables, and they change nothing else. -/
theorem benchmark_congr {s₁ s₂ : Session} (htables : s₁.tables = s₂.tables)
    (fib fact : Int64) :
    ∃ result tables, s₁.benchmark fib fact = (result, s₁.withTables tables) ∧
      s₂.benchmark fib fact = (result, s₂.withTables tables) := by
  simp only [benchmark, table?, htables]
  split
  · rename_i fiboTable factTable _ _
    generalize (do
      Counting.hit Benchmark.fiboMain
      Benchmark.fibonacci fib : Counting Int64) fiboTable = fiboRun
    rcases fiboRun with ⟨_ | a, fiboTable'⟩
    · exact ⟨_, _, rfl, rfl⟩
    · rcases Benchmark.factorial fact factTable with ⟨_ | b, factTable'⟩ <;>
        exact ⟨_, _, rfl, rfl⟩
  · exact ⟨_, s₂.tables, by rw [← htables]; rfl, rfl⟩

/-- The benchmarks change no names. -/
theorem units_benchmark (s : Session) (fib fact : Int64) :
    (s.benchmark fib fact).2.units = s.units := by
  rw [benchmark]
  split
  · rename_i fiboTable factTable _ _
    dsimp only
    generalize (do
      Counting.hit Benchmark.fiboMain
      Benchmark.fibonacci fib : Counting Int64) fiboTable = fiboRun
    rcases fiboRun with ⟨_ | a, fiboTable'⟩
    · exact map_identifier_setTable ..
    · rcases Benchmark.factorial fact factTable with ⟨_ | b, factTable'⟩ <;>
        exact (map_identifier_setTable ..).trans (map_identifier_setTable ..)
  · rfl

/-! ### Finalising -/

theorem finalize_of_some {verdict : Option FinalizeError} (h : s.verdict = some verdict) :
    s.finalize env w = ⟨verdict, s, w⟩ := by
  rw [finalize, h]

theorem finalize_of_none (h : s.verdict = none) : s.finalize env w = s.finalizeNow env w := by
  rw [finalize, h]

theorem verdict_finalize (s : Session) (env : Environment) (w : World) :
    (s.finalize env w).session.verdict = some (s.finalize env w).verdict := by
  cases h : s.verdict with
  | some verdict => rw [finalize_of_some h, h]
  | none => rw [finalize_of_none h, finalizeNow]

/-- The first finalisation flushes the records of all tables. -/
theorem files_finalize (h : s.verdict = none) :
    (s.finalize env w).world.files = (Flush.flush s.config.logPath s.records w.files).files := by
  rw [finalize_of_none h, finalizeNow, World.files_tell]

end Session

/-! ### Flushing -/

namespace Flush

variable {path : Text} {records : List Record} {files : FileSystem}

theorem files_flush_of_file (hne : records ≠ []) {place : Place} {content : Text}
    (h : files.openForAppend path = .ok (.file place content)) :
    (flush path records files).files
      = files.set place (.file (content ++ records.flatMap Record.line)) := by
  rw [flush, if_neg (by simpa using hne), h]
  rfl

/-- A log that cannot be opened or written is left alone. -/
theorem files_flush_of_not_file
    (h : ∀ place content, files.openForAppend path ≠ .ok (.file place content)) :
    (flush path records files).files = files := by
  rw [flush]
  split
  · rfl
  cases hopen : files.openForAppend path with
  | error cause => rfl
  | ok target =>
    cases target with
    | file place content => exact absurd hopen (h place content)
    | fullDevice place => rfl

end Flush

namespace Stage

variable {s : Stage} {env : Environment} {a : Action}

/-- Whether the session on the stage is finalised. -/
def Finalized (s : Stage) : Prop := s.session.verdict.isSome

/-- The stage with other tables. -/
def withTables (s : Stage) (tables : List Table) : Stage :=
  { s with session := s.session.withTables tables }

theorem finalize_of_finalized (h : s.Finalized) : (s.finalize env).2 = s := by
  obtain ⟨verdict, hv⟩ := Option.isSome_iff_exists.mp h
  rw [finalize, Session.finalize_of_some hv]

theorem finalized_finalize (s : Stage) (env : Environment) : (s.finalize env).2.Finalized := by
  rw [Finalized, finalize, Session.verdict_finalize]
  rfl

/-- **A second finalisation does nothing.** -/
theorem finalize_finalize (s : Stage) (env : Environment) :
    ((s.finalize env).2.finalize env).2 = (s.finalize env).2 :=
  finalize_of_finalized (finalized_finalize s env)

/-- A finalisation leaves counters and configuration alone. -/
theorem finalize_frame (s : Stage) (env : Environment) :
    ∃ exporter verdict, (s.finalize env).2.session = { s.session with exporter, verdict } := by
  rw [finalize]
  cases h : s.session.verdict with
  | some verdict =>
    rw [Session.finalize_of_some h]
    exact ⟨s.session.exporter, s.session.verdict, rfl⟩
  | none =>
    rw [Session.finalize_of_none h]
    exact ⟨_, _, rfl⟩

/-! ### One action -/

/-- An action that finalises does nothing else, and does not fail. -/
theorem perform_of_finalizes (env : Environment) (h : a.finalizes s.hooked = true) :
    ∃ answer, s.perform env a = (.ok answer, (s.finalize env).2) := by
  cases a with
  | finalize => exact ⟨_, rfl⟩
  | hook => exact ⟨.done, if_pos h⟩
  | _ => cases h

/-- **Any other ordinary action makes its hits and nothing else.** -/
theorem perform_eq_hit (env : Environment) (h : a.finalizes s.hooked = false) (ha : a.Ordinary) :
    Counting.faultOf (s.perform env a).1
        = (Session.hitAll s.session.tables (a.hits s.session.units)).1 ∧
      (s.perform env a).2 = { s with session := s.session.hit (a.hits s.session.units) } := by
  cases a with
  | table unit action =>
    rw [perform, Action.hits]
    cases hcount : s.session.count? unit (action.perform env.now) with
    | none =>
      have ht : s.session.table? unit = none := Option.map_eq_none_iff.mp hcount
      rw [Session.contains_units, ht]
      exact ⟨rfl, rfl⟩
    | some outcome =>
      obtain ⟨t, ht, -⟩ := Option.map_eq_some_iff.mp hcount
      obtain ⟨hfault, hsession⟩ :=
        Session.count?_eq_some (TableAction.perform_follows env.now ha) hcount
      rw [Session.contains_units, ht, if_pos Option.isSome_some, ← hsession]
      exact ⟨hfault, rfl⟩
  | benchmark fib fact =>
    obtain ⟨hfault, hsession⟩ :=
      Session.benchmark_spec (s := s.session) (show 0 ≤ fib from ha) fact
    rw [perform]
    rcases hrun : s.session.benchmark fib fact with ⟨result, session⟩
    rw [hrun] at hfault hsession
    obtain rfl : session = _ := hsession
    refine ⟨.trans ?_ hfault, rfl⟩
    cases result <;> rfl
  | hook =>
    have hp : s.perform env .hook = (.ok .noHook, s) := if_neg (by simpa [Action.finalizes] using h)
    rw [hp]
    exact ⟨rfl, rfl⟩
  | finalize => cases h
  | makeDirectory path => exact ha.elim
  | _ => exact ⟨rfl, rfl⟩

/-- Whatever does not finalise can change counters and files, and nothing else. -/
theorem perform_frame (env : Environment) (h : a.finalizes s.hooked = false) :
    ∃ tables files, (s.perform env a).2
      = ⟨s.session.withTables tables, s.hooked, { s.world with files }⟩ := by
  cases a with
  | table unit action =>
    rw [perform]
    cases hcount : s.session.count? unit (action.perform env.now) with
    | none => exact ⟨s.session.tables, s.world.files, rfl⟩
    | some outcome =>
      obtain ⟨t, -, rfl⟩ := Option.map_eq_some_iff.mp hcount
      exact ⟨_, s.world.files, rfl⟩
  | benchmark fib fact =>
    obtain ⟨result, tables, hrun, -⟩ :=
      Session.benchmark_congr (rfl : s.session.tables = s.session.tables) fib fact
    rw [perform, hrun]
    exact ⟨tables, s.world.files, rfl⟩
  | hook =>
    have hp : s.perform env .hook = (.ok .noHook, s) := if_neg (by simpa [Action.finalizes] using h)
    rw [hp]
    exact ⟨s.session.tables, s.world.files, rfl⟩
  | finalize => cases h
  | makeDirectory path => exact ⟨s.session.tables, _, rfl⟩
  | _ => exact ⟨s.session.tables, s.world.files, rfl⟩

/-- Hits change counters only. -/
theorem perform_of_not_finalizes (env : Environment) (h : a.finalizes s.hooked = false)
    (ha : a.Ordinary) :
    (∃ tables, (s.perform env a).2 = s.withTables tables ∧
        (s.session.withTables tables).shape = s.session.shape) ∧
      ∀ f, (s.perform env a).1 = .error f → f.endsProcess = false := by
  obtain ⟨hfault, hstage⟩ := perform_eq_hit env h ha
  refine ⟨⟨_, hstage, Session.map_shape_hitAll _ _⟩, fun f hf => ?_⟩
  rw [hf] at hfault
  exact Session.endsProcess_hitAll hfault.symm

/-- No action changes the names of tables. -/
theorem units_perform (s : Stage) (env : Environment) (a : Action) :
    (s.perform env a).2.session.units = s.session.units := by
  cases hf : a.finalizes s.hooked with
  | true =>
    obtain ⟨answer, hp⟩ := perform_of_finalizes env hf
    obtain ⟨exporter, verdict, hframe⟩ := s.finalize_frame env
    rw [hp, hframe]
    rfl
  | false =>
    cases a with
    | table unit action =>
      rw [perform]
      cases hcount : s.session.count? unit (action.perform env.now) with
      | none => rfl
      | some outcome =>
        obtain ⟨t, -, rfl⟩ := Option.map_eq_some_iff.mp hcount
        exact Session.map_identifier_setTable ..
    | benchmark fib fact => exact s.session.units_benchmark fib fact
    | hook =>
      have hp : s.perform env .hook = (.ok .noHook, s) :=
        if_neg (by simpa [Action.finalizes] using hf)
      rw [hp]
    | finalize => cases hf
    | _ => rfl

/-! ### Several actions -/

theorem performAll_cons_error {a : Action} {f : Fault} (h : (s.perform env a).1 = .error f)
    (as : List Action) :
    s.performAll env (a :: as) = ⟨[], some f, (s.perform env a).2⟩ := by
  rw [performAll]
  rcases hp : s.perform env a with ⟨result, s'⟩
  rw [hp] at h
  cases h
  rfl

theorem performAll_cons_ok {a : Action} {answer : Answer} (h : (s.perform env a).1 = .ok answer)
    (as : List Action) :
    s.performAll env (a :: as)
      = { (s.perform env a).2.performAll env as with
          answers := answer :: ((s.perform env a).2.performAll env as).answers } := by
  rw [performAll]
  rcases hp : s.perform env a with ⟨result, s'⟩
  rw [hp] at h
  cases h
  rfl

/-- Where the first action did not stop, the others decide the stage. -/
theorem stage_performAll_cons {a : Action} {answer : Answer}
    (h : (s.perform env a).1 = .ok answer) (as : List Action) :
    (s.performAll env (a :: as)).stage = ((s.perform env a).2.performAll env as).stage := by
  rw [performAll_cons_ok h]

/-- No run of actions changes the names of tables. -/
theorem units_performAll (s : Stage) (env : Environment) (as : List Action) :
    (s.performAll env as).stage.session.units = s.session.units := by
  induction as generalizing s with
  | nil => rfl
  | cons a as ih =>
    cases hr : (s.perform env a).1 with
    | error f =>
      rw [performAll_cons_error hr]
      exact s.units_perform env a
    | ok answer =>
      rw [stage_performAll_cons hr, ih]
      exact s.units_perform env a

end Stage

end HitLog
