import HitLog.Proofs.Config
import HitLog.Proofs.Sample
import HitLog.Proofs.Session

/-!
# The log is written exactly once

A session may be finalised from anywhere: by the registration, by the workload, by the finaliser
that was registered, at the end of the run and behind it. The workload may return, fail or stop with
a fault. In whatever order this happens, the log gets one block, and that block shows the tables as
they were at the first finalisation.

The moment of the first finalisation is found in the workload itself, as the place of its first
action that finalises; `Workload.firstFinalize` is the stage at that place. It does not depend on
what stands behind it, which is why later counting cannot show in the log.

## Main definitions

* `Stage.atFirstFinalize` — a list of actions, performed up to the first that finalises
* `Workload.firstFinalize` — the same for a run
* `RunReport.afterAll` — actions behind a run

## Main results

* `Stage.atFirstFinalize_eq_hit` — what happens up to the first finalisation
* `Stage.world_finalize_performAll` — finalising behind actions, and at the first of them that
  finalises
* `run_log_eq_block_of_firstFinalize` — the log after a run, and after anything behind it
-/

namespace HitLog

open scoped Text

/-- The hits of actions up to the first that finalises. -/
def Action.hitsBefore (hooked : Bool) (units : List Text) (as : List Action) : List Hit :=
  (as.takeWhile fun a => !a.finalizes hooked).flatMap (·.hits units)

namespace Stage

variable {s : Stage} {env : Environment}

/-- Behind a finalisation, an ordinary action changes nothing but counters. -/
theorem world_perform_of_finalized (env : Environment) {a : Action} (hs : s.Finalized)
    (ha : a.Ordinary) :
    (s.perform env a).2.world = s.world ∧ (s.perform env a).2.Finalized := by
  cases hf : a.finalizes s.hooked with
  | true =>
    obtain ⟨answer, hp⟩ := perform_of_finalizes env hf
    rw [hp, finalize_of_finalized hs]
    exact ⟨rfl, hs⟩
  | false =>
    obtain ⟨⟨tables, htables, -⟩, -⟩ := perform_of_not_finalizes env hf ha
    rw [htables]
    exact ⟨rfl, hs⟩

theorem world_performAll_of_finalized (env : Environment) (hs : s.Finalized) {as : List Action}
    (has : ∀ a ∈ as, a.Ordinary) :
    (s.performAll env as).stage.world = s.world ∧ (s.performAll env as).stage.Finalized := by
  induction as generalizing s with
  | nil => exact ⟨rfl, hs⟩
  | cons a as ih =>
    obtain ⟨hworld, hs'⟩ := world_perform_of_finalized env hs (has a (by simp))
    cases hr : (s.perform env a).1 with
    | error f =>
      rw [performAll_cons_error hr]
      exact ⟨hworld, hs'⟩
    | ok answer =>
      rw [stage_performAll_cons hr]
      obtain ⟨hrest, hend⟩ := ih hs' fun b hb => has b (by simp [hb])
      exact ⟨hrest.trans hworld, hend⟩

/-! ### The first finalisation -/

/-- The actions performed up to the first that finalises. -/
def atFirstFinalize (env : Environment) (s : Stage) (as : List Action) : Stage :=
  (s.performAll env (as.takeWhile fun a => !a.finalizes s.hooked)).stage

theorem atFirstFinalize_of_finalizes {a : Action} (h : a.finalizes s.hooked = true)
    (as : List Action) : s.atFirstFinalize env (a :: as) = s := by
  rw [atFirstFinalize, List.takeWhile_cons_of_neg (by simp [h])]
  rfl

/-- Up to the first finalisation an action stops everything or leaves the others to go on. -/
theorem atFirstFinalize_of_not_finalizes {a : Action} (h : a.finalizes s.hooked = false)
    (as : List Action) :
    s.atFirstFinalize env (a :: as) =
      match (s.perform env a).1 with
      | .error _ => (s.perform env a).2
      | .ok _ => (s.perform env a).2.atFirstFinalize env as := by
  obtain ⟨tables, files, hframe⟩ := perform_frame env h
  have hhooked : (s.perform env a).2.hooked = s.hooked := by rw [hframe]
  rw [atFirstFinalize, List.takeWhile_cons_of_pos (by simp [h])]
  cases hr : (s.perform env a).1 with
  | error f => rw [performAll_cons_error hr]
  | ok answer => rw [stage_performAll_cons hr, atFirstFinalize, hhooked]

/-- **Up to the first finalisation, ordinary actions make their hits and nothing else.** -/
theorem atFirstFinalize_eq_hit {as : List Action} (has : ∀ a ∈ as, a.Ordinary) :
    s.atFirstFinalize env as
      = { s with session := s.session.hit (Action.hitsBefore s.hooked s.session.units as) } := by
  induction as generalizing s with
  | nil => rfl
  | cons a as ih =>
    have ha : a.Ordinary := has a (by simp)
    have has' : ∀ b ∈ as, b.Ordinary := fun b hb => has b (by simp [hb])
    cases hf : a.finalizes s.hooked with
    | true =>
      rw [atFirstFinalize_of_finalizes hf, Action.hitsBefore,
        List.takeWhile_cons_of_neg (by simp [hf])]
      rfl
    | false =>
      obtain ⟨hfault, hstage⟩ := perform_eq_hit env hf ha
      have hhits : Action.hitsBefore s.hooked s.session.units (a :: as)
          = a.hits s.session.units ++ Action.hitsBefore s.hooked s.session.units as := by
        rw [Action.hitsBefore, List.takeWhile_cons_of_pos (by simp [hf])]
        rfl
      rw [atFirstFinalize_of_not_finalizes hf, hhits, Session.hit_append, ← hfault, hstage]
      cases (s.perform env a).1 with
      | error f => rfl
      | ok answer =>
        refine (ih has').trans ?_
        rw [Session.units_hit]
        rfl

/-- **Finalising at the end comes to the same as finalising once, at the first occasion.** -/
theorem world_finalize_performAll {as : List Action} (has : ∀ a ∈ as, a.Ordinary) :
    ((s.performAll env as).stage.finalize env).2.world
      = ((s.atFirstFinalize env as).finalize env).2.world := by
  induction as generalizing s with
  | nil => rfl
  | cons a as ih =>
    have ha : a.Ordinary := has a (by simp)
    have has' : ∀ b ∈ as, b.Ordinary := fun b hb => has b (by simp [hb])
    cases hf : a.finalizes s.hooked with
    | true =>
      -- this is the first finalisation, and nothing behind it reaches the world
      obtain ⟨answer, hp⟩ := perform_of_finalizes env hf
      have hstage : (s.performAll env (a :: as)).stage
          = ((s.finalize env).2.performAll env as).stage := by
        rw [stage_performAll_cons (by rw [hp]), hp]
      obtain ⟨hworld, hend⟩ :=
        world_performAll_of_finalized env (finalized_finalize s env) has'
      rw [hstage, finalize_of_finalized hend, hworld, atFirstFinalize_of_finalizes hf]
    | false =>
      rw [atFirstFinalize_of_not_finalizes hf]
      cases hr : (s.perform env a).1 with
      | error f => rw [performAll_cons_error hr]
      | ok answer =>
        rw [stage_performAll_cons hr]
        exact ih has'

/-- Ordinary actions leave room for the finalisation. -/
theorem fault_performAll {as : List Action} (has : ∀ a ∈ as, a.Ordinary) {f : Fault}
    (h : (s.performAll env as).fault = some f) : f.endsProcess = false := by
  induction as generalizing s with
  | nil => cases h
  | cons a as ih =>
    cases hr : (s.perform env a).1 with
    | ok answer =>
      rw [performAll_cons_ok hr] at h
      exact ih (fun b hb => has b (by simp [hb])) h
    | error e =>
      rw [performAll_cons_error hr] at h
      cases h
      cases hf : a.finalizes s.hooked with
      | true =>
        obtain ⟨answer, hp⟩ := perform_of_finalizes env hf
        rw [hp] at hr
        cases hr
      | false => exact (perform_of_not_finalizes env hf (has a (by simp))).2 f hr

end Stage

/-! ### Runs -/

theorem callFinalizer_zero (env : Environment) (s : Stage) : callFinalizer env s 0 = s := rfl

/-- Of the calls of a finaliser, one counts. -/
theorem callFinalizer_succ (env : Environment) (s : Stage) (n : Nat) :
    callFinalizer env s (n + 1) = (s.finalize env).2 := by
  induction n with
  | zero => rfl
  | succ n ih =>
    have hstep : callFinalizer env s (n + 2) = ((callFinalizer env s (n + 1)).finalize env).2 := rfl
    rw [hstep, ih, Stage.finalize_finalize]

/-- How often a registration calls the finaliser right away. -/
def Registration.callsOf (registration : Option Registration) : Nat :=
  registration.elim 0 Registration.calls

namespace Workload

/-- A workload of ordinary actions whose end leaves room for the finalisation. -/
structure Ordinary (load : Workload) : Prop where
  actions : ∀ a ∈ load.actions, a.Ordinary
  ending : ∀ answers f, load.ending answers = .raise f → f.endsProcess = false

/-- The stage of a run at the first finalisation, which may come before the workload, within it or
behind it. -/
def firstFinalize (env : Environment) (registration : Option Registration) (load : Workload)
    (s : Stage) : Stage :=
  if Registration.callsOf registration = 0 then s.atFirstFinalize env load.actions else s

theorem endsProcess_of_result {env : Environment} {s : Stage} {load : Workload}
    (hload : load.Ordinary) {f : Fault}
    (h : load.result (s.performAll env load.actions) = .error f) : f.endsProcess = false := by
  rw [result] at h
  split at h
  · rename_i hfault
    cases h
    exact Stage.fault_performAll hload.actions hfault
  · split at h
    · cases h
    · cases h
    · rename_i hraise
      cases h
      exact hload.ending _ f hraise

end Workload

/-- What a workload leaves is finalised, whichever way it ended. -/
theorem runWorkload_spec (env : Environment) (registered : Bool) {load : Workload}
    (hload : load.Ordinary) (s : Stage) :
    let s' := ((s.performAll env load.actions).stage.finalize env).2
    (runWorkload env registered load s).session = some s'.session ∧
      (runWorkload env registered load s).world = s'.world := by
  rw [runWorkload]
  cases hr : load.result (s.performAll env load.actions) with
  | ok error => exact ⟨rfl, rfl⟩
  | error f =>
    simp only [Workload.endsProcess_of_result hload hr]
    exact ⟨rfl, rfl⟩

/-- An accepted registration leads to the workload, with the finaliser called as often as the
registration does. -/
theorem run_eq_runWorkload (env : Environment) {config : Config}
    {registration : Option Registration} (load : Workload) (w : World) (hvalid : config.Valid)
    (hroom : config.Roomy) (haccepted : ∀ r ∈ registration, r.refusal = none) :
    run env config registration load w =
      runWorkload env registration.isSome load
        (callFinalizer env ⟨Session.initial config env.hostName, registration.isSome, w⟩
          (Registration.callsOf registration)) := by
  rw [run, Session.start_eq_ok hvalid hroom]
  cases registration with
  | none => rfl
  | some r =>
    have hr : r.refusal = none := haccepted r rfl
    simp only [hr]
    rfl

/-- A configuration that does not start leaves everything alone. -/
theorem run_of_not_started (env : Environment) {config : Config}
    (registration : Option Registration) (load : Workload) (w : World)
    (h : ¬ (config.Valid ∧ config.Roomy)) :
    (run env config registration load w).called = false ∧
      (run env config registration load w).world = w := by
  rw [run]
  cases hstart : Session.start config env.hostName with
  | error e => cases e <;> exact ⟨rfl, rfl⟩
  | ok session =>
    obtain ⟨hvalid, hroom, -⟩ := Session.start_eq_ok_iff.mp hstart
    exact absurd ⟨hvalid, hroom⟩ h

/-- A refused registration leaves what it did itself. -/
theorem run_of_refused (env : Environment) {config : Config} {r : Registration} {refusal : Text}
    (load : Workload) (w : World) (hvalid : config.Valid) (hroom : config.Roomy)
    (hrefused : r.refusal = some refusal) :
    let start : Stage := ⟨Session.initial config env.hostName, true, w⟩
    (run env config (some r) load w).called = false ∧
      (run env config (some r) load w).world.files
        = (callFinalizer env start r.calls).world.files := by
  intro start
  rw [run, Session.start_eq_ok hvalid hroom]
  simp only [hrefused]
  exact ⟨trivial, World.files_tell _ _ _⟩

theorem called_runWorkload (env : Environment) (registered : Bool) (load : Workload) (s : Stage) :
    (runWorkload env registered load s).called = true := by
  rw [runWorkload]
  cases load.result (s.performAll env load.actions) <;> rfl

namespace RunReport

/-- What is left of a run is finalised. -/
def Finalized (r : RunReport) : Prop := ∃ session, r.session = some session ∧ session.verdict.isSome

/-- Actions behind a run. -/
def afterAll (env : Environment) (r : RunReport) (as : List Action) : RunReport :=
  as.foldl (fun r a => (r.after env a).2) r

/-- Behind a finalised run, an ordinary action changes nothing but counters. -/
theorem world_after (env : Environment) {r : RunReport} {a : Action} (hr : r.Finalized)
    (ha : a.Ordinary) : (r.after env a).2.world = r.world ∧ (r.after env a).2.Finalized := by
  obtain ⟨session, hsession, hverdict⟩ := hr
  obtain ⟨hworld, hfinal⟩ :=
    Stage.world_perform_of_finalized (s := ⟨session, r.registered, r.world⟩) env hverdict ha
  simp only [after, hsession]
  -- whether the action is let through does not matter
  generalize (r.called || _) = allowed
  cases allowed with
  | true => exact ⟨hworld, _, rfl, hfinal⟩
  | false => exact ⟨rfl, session, hsession, hverdict⟩

theorem world_afterAll {env : Environment} {r : RunReport} {as : List Action} (hr : r.Finalized)
    (has : ∀ a ∈ as, a.Ordinary) : (r.afterAll env as).world = r.world := by
  induction as generalizing r with
  | nil => rfl
  | cons a as ih =>
    obtain ⟨hworld, hr'⟩ := world_after env hr (has a (by simp))
    exact (ih hr' fun b hb => has b (by simp [hb])).trans hworld

end RunReport

/-- A run whose registration is accepted finalises at the first occasion. -/
theorem run_spec (env : Environment) {config : Config} {registration : Option Registration}
    {load : Workload} (w : World) (hvalid : config.Valid) (hroom : config.Roomy)
    (haccepted : ∀ r ∈ registration, r.refusal = none) (hload : load.Ordinary) :
    let start : Stage := ⟨Session.initial config env.hostName, registration.isSome, w⟩
    (run env config registration load w).Finalized ∧
      (run env config registration load w).world
        = ((load.firstFinalize env registration start).finalize env).2.world := by
  intro start
  rw [run_eq_runWorkload env load w hvalid hroom haccepted]
  obtain ⟨hsession, hworld⟩ := runWorkload_spec env registration.isSome hload
    (callFinalizer env start (Registration.callsOf registration))
  refine ⟨⟨_, hsession, Stage.finalized_finalize _ env⟩, hworld.trans ?_⟩
  rw [Workload.firstFinalize]
  cases Registration.callsOf registration with
  | zero =>
    rw [callFinalizer_zero, if_pos rfl]
    exact Stage.world_finalize_performAll hload.actions
  | succ n =>
    obtain ⟨hkept, hfinal⟩ := Stage.world_performAll_of_finalized env
      (Stage.finalized_finalize start env) hload.actions
    rw [callFinalizer_succ, if_neg (by omega), Stage.finalize_of_finalized hfinal, hkept]

/-- The hits of a workload before the first finalisation. -/
def Workload.hits (registration : Option Registration) (units : List Text) (load : Workload) :
    List Hit :=
  if Registration.callsOf registration = 0 then
    Action.hitsBefore registration.isSome units load.actions
  else []

/-- Up to the first finalisation of a run, there are the hits of its workload. -/
theorem Workload.firstFinalize_eq_hit {load : Workload} (hload : load.Ordinary) (env : Environment)
    (registration : Option Registration) (session : Session) (w : World) :
    load.firstFinalize env registration ⟨session, registration.isSome, w⟩
      = ⟨session.hit (load.hits registration session.units), registration.isSome, w⟩ := by
  rw [firstFinalize, hits]
  split
  · exact Stage.atFirstFinalize_eq_hit hload.actions
  · rfl

/-- What a run leaves is what the flush at the first finalisation left. -/
theorem files_run (env : Environment) {config : Config} {registration : Option Registration}
    {load : Workload} (w : World) (hvalid : config.Valid) (hroom : config.Roomy)
    (haccepted : ∀ r ∈ registration, r.refusal = none) (hload : load.Ordinary) :
    let session := Session.initial config env.hostName
    (run env config registration load w).world.files
      = (Flush.flush config.logPath (session.hit (load.hits registration session.units)).records
          w.files).files := by
  intro session
  rw [(run_spec env w hvalid hroom haccepted hload).2,
    Workload.firstFinalize_eq_hit hload env registration]
  exact Session.files_finalize (s := session.hit (load.hits registration session.units)) rfl

theorem Session.shape_initial {config : Config} (hostName : Text) :
    (Session.initial config hostName).shape
      = config.units.map fun u => (u.identifier, u.sites.toNatClampNeg) := by
  simp [shape, initial, zeroTable, Table.shape, Table.size]

theorem Session.units_initial (config : Config) (hostName : Text) :
    (initial config hostName).units = config.units.map UnitSpec.identifier := by
  rw [units, initial, List.map_map]
  rfl

/-- **The log is written exactly once.**

Whatever finalises the session, and however the workload ends, the run leaves the log with one block
behind its old content, and nothing that is done behind the run adds to it. The block holds the
record of each unit, in the order of the configuration, as it was at the first finalisation. A log
that cannot be opened leaves all files as they were. -/
theorem run_log_eq_block_of_firstFinalize (env : Environment) (config : Config)
    (registration : Option Registration) (load : Workload) (w : World) (later : List Action)
    (hvalid : config.violation? = none) (hroom : config.Roomy)
    (haccepted : ∀ r ∈ registration, r.refusal = none) (hload : load.Ordinary)
    (hlater : ∀ a ∈ later, a.Ordinary) :
    ∃ session, Session.start config env.hostName = .ok session ∧
      let first := load.firstFinalize env registration ⟨session, registration.isSome, w⟩
      let records := first.session.records
      let files := ((run env config registration load w).afterAll env later).world.files
      records.map (fun r => (r.identifier, r.counts.length))
          = config.units.map (fun u => (u.identifier, u.sites.toNatClampNeg)) ∧
        (∀ place content, w.files.openForAppend config.logPath = .ok (.file place content) →
          files = w.files.set place (.file (content ++ records.flatMap Record.line)) ∧
            files.content? config.logPath = some (content ++ records.flatMap Record.line)) ∧
        ∀ cause, w.files.openForAppend config.logPath = .error cause → files = w.files := by
  have hconfig : config.Valid := Config.violation?_eq_none_iff.mp hvalid
  refine ⟨_, Session.start_eq_ok hconfig hroom env.hostName, ?_⟩
  intro first records files
  have hfirst : first = _ := Workload.firstFinalize_eq_hit hload env registration _ w
  have hunits : records.map (fun r => (r.identifier, r.counts.length))
      = config.units.map (fun u => (u.identifier, u.sites.toNatClampNeg)) := by
    rw [← Session.shape_initial env.hostName, ← Session.shape_hit]
    simp only [records, hfirst, Session.records, List.map_map]
    rfl
  have hfiles : files = (Flush.flush config.logPath records w.files).files := by
    obtain ⟨hfinal, -⟩ := run_spec env w hconfig hroom haccepted hload
    simp only [files, records, hfirst]
    rw [RunReport.world_afterAll hfinal hlater]
    exact files_run env w hconfig hroom haccepted hload
  refine ⟨hunits, fun place content hopen => ?_, fun cause hopen => ?_⟩
  · have hne : records ≠ [] := by
      intro hc
      rw [hc] at hunits
      exact hconfig.units (List.map_eq_nil_iff.mp hunits.symm)
    have hset := hfiles.trans (Flush.files_flush_of_file hne hopen)
    exact ⟨hset, by rw [hset, FileSystem.content?_set hopen]⟩
  · exact hfiles.trans (Flush.files_flush_of_not_file (by simp [hopen]))

/-- A finaliser called in the middle, counting behind it, a site that is not there, and two more
finalisations: the log shows the count before the call. -/
theorem run_log_eq_block_of_hook_and_fault :
    let load : Workload :=
      ⟨[.table "u" (.add 1 3), .hook, .table "u" (.inc 0), .table "u" (.inc 7)],
        fun _ => .finish⟩
    let report := run Sample.env Sample.config (some ⟨0, none⟩) load Sample.world
    (report.afterAll Sample.env [.finalize, .hook]).world.files.content? Sample.config.logPath
      = some (Text.ofString "x:1\nu:0,3\nv:0\n") := by
  intro load report
  have hvalid : Sample.config.violation? = none := by decide
  have hroom : Sample.config.Roomy := by decide
  have hload : load.Ordinary := ⟨by simp [load, Action.Ordinary], fun _ _ h => by cases h⟩
  obtain ⟨session, hstart, -, hlog, -⟩ :=
    run_log_eq_block_of_firstFinalize Sample.env Sample.config (some ⟨0, none⟩) load Sample.world
      [.finalize, .hook] hvalid hroom (by simp) hload (by simp [Action.Ordinary])
  obtain rfl : Session.initial Sample.config Sample.env.hostName = session := by
    rw [Session.start_eq_ok (Config.violation?_eq_none_iff.mp hvalid) hroom] at hstart
    exact Except.ok.inj hstart
  exact (hlog ["w", "l"] "x:1\n" rfl).2.trans (by decide +kernel)

end HitLog
