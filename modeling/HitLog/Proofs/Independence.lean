import HitLog.Run
import HitLog.Proofs.Sample
import HitLog.Proofs.Session

/-!
# The log and the export do not interfere

A finalisation flushes and exports. Neither half sees the other: the log is the same whatever the
network does, and what is sent is the same whatever happens to the log. This is a statement about
two runs, so it is carried by a relation between two stages, `Stage.Agree`, that every action keeps.
The relation is for one half at a time and forgets the state of the other.

What a finalisation tells its caller has two parts, one for each half. `FinalizeError.only` keeps
one of them, and `Answer.only` and `RunOutcome.only` do so for whatever holds such a verdict. A
workload that acts on the verdict of a finalisation could of course act on the other half;
`Workload.Script` are those that do not.

## Main definitions

* `Half` — the log or the export
* `Stage.Agree` — two stages with the same counters and the same state of one half
* `Workload.Script` — workloads that do not act on verdicts or on the log

## Main results

* `Stage.Agree.perform`, `Stage.Agree.performAll` — actions keep the agreement
* `RunReport.Agree` and `run_agree` — so do runs
* `run_log_and_export_independent` — both halves
-/

namespace HitLog

open scoped Text

/-- The two things that a finalisation does. -/
inductive Half where
  | log
  | remote
  deriving DecidableEq

/-! ### Errors by halves -/

/-- The part of an error that is about one half. -/
def FinalizeError.only : Half → FinalizeError → Option FinalizeError
  | .log, .flush f => some (.flush f)
  | .log, .remote _ => none
  | .log, .both f _ => some (.flush f)
  | .remote, .flush _ => none
  | .remote, .remote r => some (.remote r)
  | .remote, .both _ r => some (.remote r)

theorem FinalizeError.only_log_ofParts (f : Option FlushError) (r : Option ExportError) :
    (ofParts f r).bind (only .log) = f.map .flush := by
  cases f <;> cases r <;> rfl

theorem FinalizeError.only_remote_ofParts (f : Option FlushError) (r : Option ExportError) :
    (ofParts f r).bind (only .remote) = r.map .remote := by
  cases f <;> cases r <;> rfl

/-- An answer without what it tells about the other half. -/
def Answer.only : Half → Answer → Answer
  | half, .verdict v => .verdict (v.bind (·.only half))
  | .remote, .log _ => .log none
  | _, a => a

/-- A run's error without its part about the other half. -/
def RunError.only : Half → RunError → Option RunError
  | half, .finalize f => (f.only half).map .finalize
  | half, .both w f => ofParts (some w) (f.only half)
  | _, e => some e

theorem RunError.only_ofParts (half : Half) (w : Option WorkloadError) (v : Option FinalizeError) :
    (ofParts w v).bind (only half) = ofParts w (v.bind (·.only half)) := by
  cases w with
  | none =>
    cases v with
    | none => rfl
    | some f =>
      change (f.only half).map .finalize = ofParts none (f.only half)
      cases f.only half <;> rfl
  | some w => cases v <;> rfl

/-- The end of a run without what it tells about the other half. -/
def RunOutcome.only (half : Half) : RunOutcome → RunOutcome
  | .returned error => .returned (error.bind (·.only half))
  | .fault f => .fault f

/-! ### Stages that agree -/

/-- What one half changes is the same in two worlds. -/
def World.Same : Half → World → World → Prop
  | .log, w₁, w₂ => w₁.files = w₂.files
  | .remote, w₁, w₂ => w₁.network = w₂.network

namespace Stage

/-- The state of one half is the same on two stages. -/
def SameState : Half → Stage → Stage → Prop
  | .log, s₁, s₂ =>
    s₁.session.config.logPath = s₂.session.config.logPath ∧ World.Same .log s₁.world s₂.world
  | .remote, s₁, s₂ =>
    (s₁.session.exporter = s₂.session.exporter ∧
      s₁.session.config.exporting = s₂.session.config.exporting) ∧
      World.Same .remote s₁.world s₂.world

/-- Two stages agree on the counters and on one half. -/
structure Agree (half : Half) (s₁ s₂ : Stage) : Prop where
  tables : s₁.session.tables = s₂.session.tables
  hooked : s₁.hooked = s₂.hooked
  /-- Both are finalised or none is, with verdicts that tell the same of the half. -/
  verdict : s₁.session.verdict.map (·.bind (·.only half))
    = s₂.session.verdict.map (·.bind (·.only half))
  state : SameState half s₁ s₂

variable {half : Half} {s₁ s₂ : Stage} {env : Environment}

theorem SameState.world (h : SameState half s₁ s₂) : World.Same half s₁.world s₂.world := by
  cases half <;> exact h.2

theorem SameState.withTables (h : SameState half s₁ s₂) (tables : List Table) :
    SameState half (s₁.withTables tables) (s₂.withTables tables) := by
  cases half <;> exact h

theorem Agree.withTables (h : Agree half s₁ s₂) (tables : List Table) :
    Agree half (s₁.withTables tables) (s₂.withTables tables) :=
  ⟨rfl, h.hooked, h.verdict, h.state.withTables tables⟩

end Stage

/-! ### Finalising -/

/-- What is exported depends on the counters, the exporter, the time for it and the network. -/
theorem Session.exportMetrics_congr {s₁ s₂ : Session} (htables : s₁.tables = s₂.tables)
    (hexporter : s₁.exporter = s₂.exporter)
    (hexporting : s₁.config.exporting = s₂.config.exporting) (env : Environment) (net : Network) :
    s₁.exportMetrics env net = s₂.exportMetrics env net := by
  rw [exportMetrics, exportMetrics, siteMetrics, siteMetrics, lifetime, lifetime, htables,
    hexporter, hexporting]

theorem World.network_tell (w : World) (journaling : Bool) (events : List Journal.Entry) :
    (w.tell journaling events).network = w.network := by
  rw [tell]
  split <;> rfl

namespace Stage

variable {half : Half} {s₁ s₂ : Stage} {env : Environment}

/-- **The first finalisation keeps the halves apart.** -/
theorem Agree.finalize_of_none (h : Agree half s₁ s₂) (h₁ : s₁.session.verdict = none)
    (h₂ : s₂.session.verdict = none) :
    (s₁.finalize env).1.bind (·.only half) = (s₂.finalize env).1.bind (·.only half) ∧
      Agree half (s₁.finalize env).2 (s₂.finalize env).2 := by
  have hrecords : s₁.session.records = s₂.session.records := by
    rw [Session.records, Session.records, h.tables]
  simp only [Stage.finalize, Session.finalize_of_none h₁, Session.finalize_of_none h₂,
    Session.finalizeNow]
  cases half with
  | log =>
    obtain ⟨hpath, hfiles⟩ := h.state
    have hflush : Flush.flush s₁.session.config.logPath s₁.session.records s₁.world.files
        = Flush.flush s₂.session.config.logPath s₂.session.records s₂.world.files := by
      rw [hpath, hrecords, show s₁.world.files = s₂.world.files from hfiles]
    have hverdict := FinalizeError.only_log_ofParts
    refine ⟨by rw [hverdict, hverdict, hflush], h.tables, h.hooked, ?_, hpath, ?_⟩
    · rw [Option.map_some, Option.map_some, hverdict, hverdict, hflush]
    · rw [World.Same, World.files_tell, World.files_tell, hflush]
  | remote =>
    obtain ⟨⟨hexporter, hexporting⟩, hnetwork⟩ := h.state
    have hexport : s₁.session.exportMetrics env s₁.world.network
        = s₂.session.exportMetrics env s₂.world.network := by
      rw [show s₁.world.network = s₂.world.network from hnetwork,
        Session.exportMetrics_congr h.tables hexporter hexporting]
    have hverdict := FinalizeError.only_remote_ofParts
    refine ⟨by rw [hverdict, hverdict, hexport], h.tables, h.hooked, ?_,
      ⟨by rw [hexport], hexporting⟩, ?_⟩
    · rw [Option.map_some, Option.map_some, hverdict, hverdict, hexport]
    · rw [World.Same, World.network_tell, World.network_tell, hexport]

theorem Agree.finalize (h : Agree half s₁ s₂) (env : Environment) :
    (s₁.finalize env).1.bind (·.only half) = (s₂.finalize env).1.bind (·.only half) ∧
      Agree half (s₁.finalize env).2 (s₂.finalize env).2 := by
  have hverdict := h.verdict
  cases h₁ : s₁.session.verdict with
  | none =>
    cases h₂ : s₂.session.verdict with
    | none => exact h.finalize_of_none h₁ h₂
    | some v₂ =>
      rw [h₁, h₂] at hverdict
      cases hverdict
  | some v₁ =>
    cases h₂ : s₂.session.verdict with
    | none =>
      rw [h₁, h₂] at hverdict
      cases hverdict
    | some v₂ =>
      rw [h₁, h₂, Option.map_some, Option.map_some, Option.some.injEq] at hverdict
      simp only [Stage.finalize, Session.finalize_of_some h₁, Session.finalize_of_some h₂]
      exact ⟨hverdict, h⟩

/-! ### Actions -/

/-- The results of two actions tell the same of one half. -/
def SameResult (half : Half) (r₁ r₂ : Except Fault Answer) : Prop :=
  r₁.map (·.only half) = r₂.map (·.only half)

/-- Counting sees nothing but the counters. -/
theorem perform_table_congr (env : Environment)
    (htables : s₁.session.tables = s₂.session.tables) (unit : Text) (action : TableAction) :
    ∃ result tables, s₁.perform env (.table unit action) = (result, s₁.withTables tables) ∧
      s₂.perform env (.table unit action) = (result, s₂.withTables tables) := by
  simp only [Stage.perform, Session.count?, Session.table?, htables]
  cases s₂.session.tables.find? (·.identifier = unit) with
  | none => exact ⟨.ok .noTable, s₂.session.tables, by rw [← htables]; rfl, rfl⟩
  | some t => exact ⟨_, _, rfl, rfl⟩

theorem perform_benchmark_congr (env : Environment)
    (htables : s₁.session.tables = s₂.session.tables) (fib fact : Int64) :
    ∃ result tables, s₁.perform env (.benchmark fib fact) = (result, s₁.withTables tables) ∧
      s₂.perform env (.benchmark fib fact) = (result, s₂.withTables tables) := by
  obtain ⟨result, tables, h₁, h₂⟩ := Session.benchmark_congr htables fib fact
  rw [Stage.perform, Stage.perform, h₁, h₂]
  exact ⟨_, tables, rfl, rfl⟩

/-- **An action keeps the agreement**, and its answers tell the same of the half. -/
theorem Agree.perform (h : Agree half s₁ s₂) (env : Environment) (a : Action) :
    SameResult half (s₁.perform env a).1 (s₂.perform env a).1 ∧
      Agree half (s₁.perform env a).2 (s₂.perform env a).2 := by
  cases a with
  | table unit action =>
    obtain ⟨result, tables, h₁, h₂⟩ := perform_table_congr env h.tables unit action
    rw [h₁, h₂]
    exact ⟨rfl, h.withTables tables⟩
  | benchmark fib fact =>
    obtain ⟨result, tables, h₁, h₂⟩ := perform_benchmark_congr env h.tables fib fact
    rw [h₁, h₂]
    exact ⟨rfl, h.withTables tables⟩
  | finalize =>
    obtain ⟨hverdict, hagree⟩ := h.finalize env
    exact ⟨congrArg (fun v => Except.ok (Answer.verdict v)) hverdict, hagree⟩
  | hook =>
    rw [Stage.perform, Stage.perform, h.hooked]
    split
    · exact ⟨rfl, (h.finalize env).2⟩
    · exact ⟨rfl, h⟩
  | readLog =>
    refine ⟨?_, h⟩
    cases half with
    | log =>
      obtain ⟨hpath, hfiles⟩ := h.state
      rw [Stage.perform, Stage.perform, hpath, show s₁.world.files = s₂.world.files from hfiles]
      rfl
    | remote => rfl
  | makeDirectory path =>
    refine ⟨rfl, h.tables, h.hooked, h.verdict, ?_⟩
    cases half with
    | log =>
      obtain ⟨hpath, hfiles⟩ := h.state
      exact ⟨hpath, congrArg (fun files : FileSystem => files.makeDirectories path) hfiles⟩
    | remote => exact h.state
  | _ =>
    refine ⟨?_, h⟩
    simp only [Stage.perform, Session.table?, Session.records, Session.siteMetrics, h.tables]
    rfl

/-- **Actions keep the agreement.** -/
theorem Agree.performAll (h : Agree half s₁ s₂) (env : Environment) (as : List Action) :
    (s₁.performAll env as).answers.map (·.only half)
        = (s₂.performAll env as).answers.map (·.only half) ∧
      (s₁.performAll env as).fault = (s₂.performAll env as).fault ∧
      Agree half (s₁.performAll env as).stage (s₂.performAll env as).stage := by
  induction as generalizing s₁ s₂ with
  | nil => exact ⟨rfl, rfl, h⟩
  | cons a as ih =>
    obtain ⟨hresult, hagree⟩ := h.perform env a
    rw [SameResult] at hresult
    cases h₁ : (s₁.perform env a).1 with
    | error f₁ =>
      cases h₂ : (s₂.perform env a).1 with
      | error f₂ =>
        rw [h₁, h₂] at hresult
        cases hresult
        rw [performAll_cons_error h₁, performAll_cons_error h₂]
        exact ⟨rfl, rfl, hagree⟩
      | ok a₂ =>
        rw [h₁, h₂] at hresult
        cases hresult
    | ok a₁ =>
      cases h₂ : (s₂.perform env a).1 with
      | error f₂ =>
        rw [h₁, h₂] at hresult
        cases hresult
      | ok a₂ =>
        rw [h₁, h₂] at hresult
        have hanswer : a₁.only half = a₂.only half := Except.ok.inj hresult
        obtain ⟨hanswers, hfault, hend⟩ := ih hagree
        rw [performAll_cons_ok h₁, performAll_cons_ok h₂]
        refine ⟨?_, hfault, hend⟩
        rw [List.map_cons, List.map_cons, hanswer, hanswers]

theorem Agree.callFinalizer (h : Agree half s₁ s₂) (env : Environment) (n : Nat) :
    Agree half (HitLog.callFinalizer env s₁ n) (HitLog.callFinalizer env s₂ n) := by
  induction n with
  | zero => exact h
  | succ n ih => exact (ih.finalize env).2

end Stage

/-! ### Runs -/

/-- A workload whose end does not depend on what finalisations say or on what the log holds. -/
def Workload.Script (load : Workload) : Prop :=
  ∀ half as bs, as.map (Answer.only half) = bs.map (Answer.only half) →
    load.ending as = load.ending bs

/-- Two runs that went the same way as far as one half can tell. -/
structure RunReport.Agree (half : Half) (r₁ r₂ : RunReport) : Prop where
  registered : r₁.registered = r₂.registered
  called : r₁.called = r₂.called
  /-- The workloads got the same answers. -/
  answers : r₁.answers.map (·.only half) = r₂.answers.map (·.only half)
  /-- The runs ended the same way. -/
  outcome : r₁.outcome.only half = r₂.outcome.only half
  /-- The counters are the same. -/
  tables : r₁.session.map Session.tables = r₂.session.map Session.tables
  /-- What the half changed is the same. -/
  world : World.Same half r₁.world r₂.world

theorem Workload.result_congr {load : Workload} (hload : load.Script) {half : Half}
    {p₁ p₂ : Stage.Performed}
    (hanswers : p₁.answers.map (·.only half) = p₂.answers.map (·.only half))
    (hfault : p₁.fault = p₂.fault) : load.result p₁ = load.result p₂ := by
  rw [result, result, hfault, hload half p₁.answers p₂.answers hanswers]

theorem runWorkload_agree {half : Half} {s₁ s₂ : Stage} (h : Stage.Agree half s₁ s₂)
    (env : Environment) (registered : Bool) {load : Workload} (hload : load.Script) :
    RunReport.Agree half (runWorkload env registered load s₁)
      (runWorkload env registered load s₂) := by
  obtain ⟨hanswers, hfault, hagree⟩ := h.performAll env load.actions
  obtain ⟨hverdict, hfinal⟩ := hagree.finalize env
  rw [runWorkload, runWorkload, Workload.result_congr hload hanswers hfault]
  cases load.result (s₂.performAll env load.actions) with
  | ok error =>
    refine ⟨rfl, rfl, hanswers, ?_, congrArg some hfinal.tables, hfinal.state.world⟩
    simp only [RunOutcome.only]
    rw [RunError.only_ofParts, RunError.only_ofParts, hverdict]
  | error f =>
    cases hf : f.endsProcess with
    | true =>
      simp only [hf, if_true]
      exact ⟨rfl, rfl, hanswers, rfl, congrArg some hagree.tables, hagree.state.world⟩
    | false =>
      simp only [hf, Bool.false_eq_true, if_false]
      exact ⟨rfl, rfl, hanswers, rfl, congrArg some hfinal.tables, hfinal.state.world⟩

/-- Whether a session starts, and with which counters, is decided by log and units. -/
theorem Session.start_congr {c₁ c₂ : Config} (hpath : c₁.logPath = c₂.logPath)
    (hunits : c₁.units = c₂.units) (hostName : Text) :
    (∃ e, start c₁ hostName = .error e ∧ start c₂ hostName = .error e) ∨
      ∃ s₁ s₂, start c₁ hostName = .ok s₁ ∧ start c₂ hostName = .ok s₂ ∧
        s₁.tables = s₂.tables ∧ s₁.verdict = none ∧ s₂.verdict = none ∧
        s₁.config = c₁ ∧ s₂.config = c₂ ∧
        (c₁.exporting = c₂.exporting → s₁.exporter = s₂.exporter) := by
  have hviolation : c₁.violation? = c₂.violation? := by
    rw [Config.violation?, Config.violation?, hpath, hunits]
  rw [start, start, hviolation, hunits]
  cases c₂.violation? with
  | some v => exact .inl ⟨.invalid v, rfl, rfl⟩
  | none =>
    cases makeTables c₂.units with
    | error f => exact .inl ⟨.fault f, rfl, rfl⟩
    | ok tables =>
      refine .inr ⟨_, _, rfl, rfl, rfl, rfl, rfl, rfl, rfl, fun hexporting => ?_⟩
      rw [hexporting]

/-- What two runs must have in common so that one half cannot tell them apart. -/
def SameFor : Half → Config → Config → World → World → Prop
  | .log, _, _, w₁, w₂ => World.Same .log w₁ w₂
  | .remote, c₁, c₂, w₁, w₂ => c₁.exporting = c₂.exporting ∧ World.Same .remote w₁ w₂

theorem SameFor.world {half : Half} {c₁ c₂ : Config} {w₁ w₂ : World}
    (h : SameFor half c₁ c₂ w₁ w₂) : World.Same half w₁ w₂ := by
  cases half with
  | log => exact h
  | remote => exact h.2

/-- **Runs keep the agreement**, from the registration to the last finalisation. -/
theorem run_agree {half : Half} {c₁ c₂ : Config} {w₁ w₂ : World}
    (hpath : c₁.logPath = c₂.logPath) (hunits : c₁.units = c₂.units)
    (hsame : SameFor half c₁ c₂ w₁ w₂) (env : Environment)
    (registration : Option Registration) {load : Workload} (hload : load.Script) :
    RunReport.Agree half (run env c₁ registration load w₁) (run env c₂ registration load w₂) := by
  rw [run, run]
  obtain ⟨e, h₁, h₂⟩ | ⟨s₁, s₂, h₁, h₂, htables, hnone₁, hnone₂, hc₁, hc₂, hexporter⟩ :=
    Session.start_congr hpath hunits env.hostName
  · rw [h₁, h₂]
    cases e <;> exact ⟨rfl, rfl, rfl, rfl, rfl, hsame.world⟩
  · have hstart : ∀ hooked, Stage.Agree half ⟨s₁, hooked, w₁⟩ ⟨s₂, hooked, w₂⟩ := by
      intro hooked
      refine ⟨htables, rfl, by rw [hnone₁, hnone₂], ?_⟩
      cases half with
      | log => exact ⟨by rw [hc₁, hc₂, hpath], hsame⟩
      | remote => exact ⟨⟨hexporter hsame.1, by rw [hc₁, hc₂, hsame.1]⟩, hsame.2⟩
    rw [h₁, h₂]
    cases registration with
    | none => exact runWorkload_agree (hstart false) env false hload
    | some r =>
      have hcalled := (hstart true).callFinalizer env r.calls
      cases hr : r.refusal with
      | none =>
        simp only [hr]
        exact runWorkload_agree hcalled env true hload
      | some refusal =>
        simp only [hr]
        refine ⟨rfl, rfl, rfl, rfl, congrArg some hcalled.tables, ?_⟩
        cases half with
        | log =>
          rw [World.Same, World.files_tell, World.files_tell]
          exact hcalled.state.world
        | remote =>
          rw [World.Same, World.network_tell, World.network_tell]
          exact hcalled.state.world

/-- **The log and the export do not interfere.**

Two runs of one script over the same files end with the same files, the same counters, the same
answers and the same outcome but for what is told of the export, whatever the export and the network
are. Two runs with the same export and the same network end with the same network, so they sent the
same requests with the same series, whatever the files were. -/
theorem run_log_and_export_independent (env : Environment) (config : Config)
    (registration : Option Registration) (load : Workload) (hload : load.Script) :
    (∀ files exporting₁ exporting₂ net₁ net₂ journal,
      RunReport.Agree .log
        (run env { config with exporting := exporting₁ } registration load ⟨files, net₁, journal⟩)
        (run env { config with exporting := exporting₂ } registration load
          ⟨files, net₂, journal⟩)) ∧
    ∀ net files₁ files₂ journal,
      RunReport.Agree .remote (run env config registration load ⟨files₁, net, journal⟩)
        (run env config registration load ⟨files₂, net, journal⟩) := by
  refine ⟨fun files exporting₁ exporting₂ net₁ net₂ journal => ?_,
    fun net files₁ files₂ journal => ?_⟩
  · have hsame : SameFor .log { config with exporting := exporting₁ }
        { config with exporting := exporting₂ } ⟨files, net₁, journal⟩ ⟨files, net₂, journal⟩ := rfl
    exact run_agree (by rfl) (by rfl) hsame env registration hload
  · have hsame : SameFor .remote config config ⟨files₁, net, journal⟩ ⟨files₂, net, journal⟩ :=
      ⟨rfl, rfl⟩
    exact run_agree rfl rfl hsame env registration hload

/-- A script that finalises in the middle and fails: beside an endpoint that hangs and one that
accepts, and beside a log that can be written and one in a directory that is not there. -/
theorem run_log_and_export_independent_of_hang_and_missing :
    let load : Workload :=
      ⟨[.table "u" (.inc 0), .finalize, .readLog], fun _ => .fail ⟨"e", []⟩⟩
    let exporting : ExportConfig := { ExportConfig.default with url := "http://h" }
    let config : Config := { Sample.config with logPath := "d/l" }
    let hanging : Network := { Sample.network with endpoint := ⟨.hang, []⟩ }
    load.Script ∧
      RunReport.Agree .log
        (run Sample.env { config with exporting } (some ⟨0, none⟩) load ⟨Sample.files, hanging, []⟩)
        (run Sample.env { config with exporting } (some ⟨0, none⟩) load
          ⟨Sample.files, Sample.network, []⟩) ∧
      RunReport.Agree .remote
        (run Sample.env { config with exporting } (some ⟨0, none⟩) load ⟨Sample.files, hanging, []⟩)
        (run Sample.env { config with exporting } (some ⟨0, none⟩) load
          ⟨Sample.files.makeDirectories "d", hanging, []⟩) := by
  intro load exporting config hanging
  have hload : load.Script := fun _ _ _ _ => rfl
  obtain ⟨hlog, hremote⟩ := run_log_and_export_independent Sample.env { config with exporting }
    (some ⟨0, none⟩) load hload
  exact ⟨hload, hlog _ _ _ _ _ _, hremote _ _ _ _⟩

end HitLog
