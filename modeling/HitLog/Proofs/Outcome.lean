import HitLog.Proofs.ExactlyOnce

/-!
# How a run ends

A run can fail in several places at once: its registration is refused, its workload returns an error
or stops with a fault, its log cannot be written, its export is not accepted. Whoever called the run
tells these apart by the kinds of the one error that it gets. So an error made of several must have
all the kinds of its parts and no others, also where the finalisation that failed took place long
before the run ended.

A finalisation is made of a flush and an export, and the first one decides. Its verdict stays, by
`Stage.verdict_performAll`, and is what the run ends with, by `Stage.fst_finalize_performAll`. This
needs no assumption on the workload.

A registration that is refused is the one case in which a run leaves the log to somebody else. The
finaliser has been handed out by then, and it works: a registration that calls it before it refuses
has the log written by a run that failed.

## Main results

* `Stage.fst_finalize_performAll` — the verdict at the end is that of the first finalisation
* `FinalizeError.mem_kinds_ofParts`, `RunError.mem_kinds_ofParts` — the kinds of joined errors
* `run_refused_files_eq_iff` — when a refused registration leaves the files alone
* `run_error_classified` — the kinds of a run's error
-/

namespace HitLog

open scoped Text

/-! ### Joined errors -/

namespace FinalizeError

variable {f : Option FlushError} {r : Option ExportError}

theorem ofParts_eq_none_iff : ofParts f r = none ↔ f = none ∧ r = none := by
  cases f <;> cases r <;> simp [ofParts]

/-- **A failed finalisation** has its own kind and the kinds of what failed. -/
theorem mem_kinds_ofParts {k : ErrorKind} :
    k ∈ (ofParts f r).elim [] kinds ↔
      (k = .flush ∧ ofParts f r ≠ none) ∨ k ∈ f.elim [] FlushError.kinds ∨
        k ∈ r.elim [] ExportError.kinds := by
  cases f <;> cases r <;> simp [ofParts, kinds]

end FinalizeError

namespace RunError

variable {w : Option WorkloadError} {f : Option FinalizeError}

theorem ofParts_eq_none_iff : ofParts w f = none ↔ w = none ∧ f = none := by
  cases w <;> cases f <;> simp [ofParts]

/-- **A failed run** has the kinds of what failed, and no others. -/
theorem mem_kinds_ofParts {k : ErrorKind} :
    k ∈ (ofParts w f).elim [] kinds ↔
      k ∈ w.elim [] WorkloadError.kinds ∨ k ∈ f.elim [] FinalizeError.kinds := by
  cases w <;> cases f <;> simp [ofParts, kinds]

end RunError

/-! ### The verdict -/

/-- The verdict of the first finalisation, by its two halves. -/
theorem Session.verdict_finalize_of_none {s : Session} (h : s.verdict = none) (env : Environment)
    (w : World) :
    (s.finalize env w).verdict
      = FinalizeError.ofParts (Flush.flush s.config.logPath s.records w.files).failure
          (s.exportMetrics env w.network).failure := by
  rw [finalize_of_none h, finalizeNow]

/-- Without an exporter nothing is exported, and so nothing fails. -/
theorem Session.failure_exportMetrics_of_none {s : Session} (h : s.exporter = none)
    (env : Environment) (net : Network) : (s.exportMetrics env net).failure = none := by
  rw [exportMetrics, h]

namespace Stage

variable {s : Stage} {env : Environment}

theorem fst_finalize_of_some {verdict : Option FinalizeError}
    (h : s.session.verdict = some verdict) : (s.finalize env).1 = verdict := by
  rw [finalize, Session.finalize_of_some h]

/-- No action takes a verdict back. -/
theorem verdict_perform (env : Environment) (a : Action) {verdict : Option FinalizeError}
    (h : s.session.verdict = some verdict) :
    (s.perform env a).2.session.verdict = some verdict := by
  cases hf : a.finalizes s.hooked with
  | true =>
    have hs : s.Finalized := by rw [Finalized, h]; rfl
    obtain ⟨answer, hp⟩ := perform_of_finalizes env hf
    rw [hp, finalize_of_finalized hs]
    exact h
  | false =>
    obtain ⟨tables, files, hframe⟩ := perform_frame env hf
    rw [hframe]
    exact h

theorem verdict_performAll (env : Environment) (as : List Action)
    {verdict : Option FinalizeError} (h : s.session.verdict = some verdict) :
    (s.performAll env as).stage.session.verdict = some verdict := by
  induction as generalizing s with
  | nil => exact h
  | cons a as ih =>
    have hnext := verdict_perform env a h
    cases hr : (s.perform env a).1 with
    | error f =>
      rw [performAll_cons_error hr]
      exact hnext
    | ok answer =>
      rw [stage_performAll_cons hr]
      exact ih hnext

/-- **The verdict at the end is that of the first finalisation**, wherever that took place. -/
theorem fst_finalize_performAll (env : Environment) (as : List Action) :
    ((s.performAll env as).stage.finalize env).1 = ((s.atFirstFinalize env as).finalize env).1 := by
  induction as generalizing s with
  | nil => rfl
  | cons a as ih =>
    cases hf : a.finalizes s.hooked with
    | true =>
      obtain ⟨answer, hp⟩ := perform_of_finalizes env hf
      have hverdict : (s.finalize env).2.session.verdict = some (s.finalize env).1 :=
        Session.verdict_finalize _ _ _
      have hstage : (s.performAll env (a :: as)).stage
          = ((s.finalize env).2.performAll env as).stage := by
        rw [stage_performAll_cons (by rw [hp]), hp]
      rw [hstage, fst_finalize_of_some (verdict_performAll env as hverdict),
        atFirstFinalize_of_finalizes hf]
    | false =>
      rw [atFirstFinalize_of_not_finalizes hf]
      cases hr : (s.perform env a).1 with
      | error f => rw [performAll_cons_error hr]
      | ok answer =>
        rw [stage_performAll_cons hr]
        exact ih

theorem performAll_frame (env : Environment) {as : List Action}
    (h : ∀ a ∈ as, a.finalizes s.hooked = false) :
    ∃ tables files, (s.performAll env as).stage
      = ⟨s.session.withTables tables, s.hooked, { s.world with files }⟩ := by
  induction as generalizing s with
  | nil => exact ⟨s.session.tables, s.world.files, rfl⟩
  | cons a as ih =>
    obtain ⟨tables, files, hframe⟩ := perform_frame env (h a (by simp))
    cases hr : (s.perform env a).1 with
    | error f =>
      rw [performAll_cons_error hr]
      exact ⟨tables, files, hframe⟩
    | ok answer =>
      rw [stage_performAll_cons hr, hframe]
      exact ih fun b hb => h b (by simp [hb])

/-- Up to the first finalisation only counters and files change. -/
theorem atFirstFinalize_frame (env : Environment) (s : Stage) (as : List Action) :
    ∃ tables files, s.atFirstFinalize env as
      = ⟨s.session.withTables tables, s.hooked, { s.world with files }⟩ := by
  refine performAll_frame env fun a ha => ?_
  simpa using List.mem_takeWhile_imp ha

end Stage

theorem Workload.firstFinalize_frame (load : Workload) (env : Environment)
    (registration : Option Registration) (s : Stage) :
    ∃ tables files, load.firstFinalize env registration s
      = ⟨s.session.withTables tables, s.hooked, { s.world with files }⟩ := by
  rw [firstFinalize]
  split
  · exact s.atFirstFinalize_frame env load.actions
  · exact ⟨s.session.tables, s.world.files, rfl⟩

/-- A run ends with the verdict of its first finalisation. -/
theorem fst_finalize_registered (env : Environment) (registration : Option Registration)
    (load : Workload) (s : Stage) :
    (((callFinalizer env s (Registration.callsOf registration)).performAll env
        load.actions).stage.finalize env).1
      = ((load.firstFinalize env registration s).finalize env).1 := by
  rw [Workload.firstFinalize]
  cases Registration.callsOf registration with
  | zero => exact Stage.fst_finalize_performAll env load.actions
  | succ n =>
    have hverdict : (s.finalize env).2.session.verdict = some (s.finalize env).1 :=
      Session.verdict_finalize _ _ _
    rw [callFinalizer_succ, if_neg (by omega),
      Stage.fst_finalize_of_some (Stage.verdict_performAll env load.actions hverdict)]

/-- How a run ends whose workload is reached: a fault goes on, an error is joined with that of the
finalisation. -/
theorem outcome_runWorkload (env : Environment) (registered : Bool) (load : Workload) (s : Stage) :
    (runWorkload env registered load s).outcome =
      match load.result (s.performAll env load.actions) with
      | .ok error => .returned
          (RunError.ofParts error ((s.performAll env load.actions).stage.finalize env).1)
      | .error fault => .fault fault := by
  rw [runWorkload]
  cases load.result (s.performAll env load.actions) <;> rfl

theorem answers_runWorkload (env : Environment) (registered : Bool) (load : Workload) (s : Stage) :
    (runWorkload env registered load s).answers = (s.performAll env load.actions).answers := by
  rw [runWorkload]
  cases load.result (s.performAll env load.actions) <;> rfl

/-! ### Refused registrations -/

theorem Record.flatMap_line_ne_nil {rs : List Record} (h : rs ≠ []) : rs.flatMap line ≠ [] := by
  intro hnil
  obtain ⟨r, hr⟩ := List.exists_mem_of_ne_nil rs h
  have hline : r.line = [] := List.flatMap_eq_nil_iff.mp hnil r hr
  simp [line] at hline

/-- A log that was written is not as it was. -/
theorem FileSystem.set_ne {fs : FileSystem} {path data : Text} {place : Place} {content : Text}
    (hopen : fs.openForAppend path = .ok (.file place content)) (hdata : data ≠ []) :
    fs.set place (.file (content ++ data)) ≠ fs := by
  intro hsame
  have hafter := openForAppend_set hopen (content ++ data)
  rw [hsame, hopen] at hafter
  simp [hdata] at hafter

/-- A refused registration ends the run with an error, and its workload is never called. -/
theorem run_refused (env : Environment) {config : Config} {r : Registration} {refusal : Text}
    (load : Workload) (w : World) (hvalid : config.Valid) (hroom : config.Roomy)
    (hrefused : r.refusal = some refusal) :
    let report := run env config (some r) load w
    report.outcome = .returned (some (.registration refusal)) ∧ report.called = false ∧
      report.answers = [] := by
  rw [run, Session.start_eq_ok hvalid hroom]
  simp only [hrefused]
  exact ⟨trivial, trivial, trivial⟩

/-- What is left of the files is what the calls of the finaliser left. -/
theorem files_run_refused (env : Environment) {config : Config} {r : Registration} {refusal : Text}
    (load : Workload) (w : World) (hvalid : config.Valid) (hroom : config.Roomy)
    (hrefused : r.refusal = some refusal) :
    (run env config (some r) load w).world.files =
      if r.calls = 0 then w.files
      else (Flush.flush config.logPath (config.units.map UnitSpec.zeroRecord) w.files).files := by
  rw [(run_of_refused env load w hvalid hroom hrefused).2]
  cases r.calls with
  | zero => rw [if_pos rfl, callFinalizer_zero]
  | succ n =>
    rw [if_neg (by omega), callFinalizer_succ, ← Session.records_initial config env.hostName]
    exact Session.files_finalize (s := Session.initial config env.hostName) rfl

/-- **A refused registration.**

The run returns an error with the kind of a failed registration and that of the refusal, and the
workload is never called. The files stay as they were exactly if the registration did not call the
finaliser that it was given, or if the log cannot be written. In all other cases the log has a line
of zeros for each unit. -/
theorem run_refused_files_eq_iff (env : Environment) (config : Config) (r : Registration)
    (load : Workload) (w : World) (refusal : Text) (hvalid : config.violation? = none)
    (hroom : config.Roomy) (hrefused : r.refusal = some refusal) :
    let report := run env config (some r) load w
    (∃ error, report.outcome = .returned (some error) ∧
        ErrorKind.registration ∈ error.kinds ∧ ErrorKind.hook ∈ error.kinds) ∧
      report.called = false ∧ report.answers = [] ∧
      (report.world.files = w.files ↔
        r.calls = 0 ∨
          ∀ place content, w.files.openForAppend config.logPath ≠ .ok (.file place content)) ∧
      ∀ place content, r.calls ≠ 0 →
        w.files.openForAppend config.logPath = .ok (.file place content) →
        report.world.files = w.files.set place
          (.file (content ++ (config.units.map UnitSpec.zeroRecord).flatMap Record.line)) := by
  intro report
  have hconfig : config.Valid := Config.violation?_eq_none_iff.mp hvalid
  obtain ⟨houtcome, hcalled, hanswers⟩ := run_refused env load w hconfig hroom hrefused
  have hfiles : report.world.files = _ := files_run_refused env load w hconfig hroom hrefused
  have hzeros : config.units.map UnitSpec.zeroRecord ≠ [] := by simpa using hconfig.units
  have hwritten : ∀ place content, r.calls ≠ 0 →
      w.files.openForAppend config.logPath = .ok (.file place content) →
      report.world.files = w.files.set place
        (.file (content ++ (config.units.map UnitSpec.zeroRecord).flatMap Record.line)) := by
    intro place content hcalls hopen
    rw [hfiles, if_neg hcalls, Flush.files_flush_of_file hzeros hopen]
  refine ⟨⟨_, houtcome, by simp [RunError.kinds], by simp [RunError.kinds]⟩, hcalled, hanswers,
    ⟨fun hsame => ?_, fun hkept => ?_⟩, hwritten⟩
  · rw [or_iff_not_imp_left]
    intro hcalls place content hopen
    rw [hwritten place content hcalls hopen] at hsame
    exact FileSystem.set_ne hopen (Record.flatMap_line_ne_nil hzeros) hsame
  · rw [hfiles]
    split
    · rfl
    · rename_i hcalls
      exact Flush.files_flush_of_not_file (hkept.resolve_left hcalls)

/-- A registration that calls the finaliser and then refuses, on a log that can be written, and one
that refuses at once. -/
theorem run_refused_files_eq_iff_of_two :
    let report (calls : Nat) :=
      run Sample.env Sample.config (some ⟨calls, some "no"⟩) ⟨[], fun _ => .finish⟩ Sample.world
    ((report 1).world.files ≠ Sample.files ∧ (report 1).called = false) ∧
      (report 0).world.files = Sample.files := by
  intro report
  have hvalid : Sample.config.violation? = none := by decide
  have hroom : Sample.config.Roomy := by decide
  obtain ⟨-, hcalled, -, hiff, -⟩ := run_refused_files_eq_iff Sample.env Sample.config
    ⟨1, some "no"⟩ ⟨[], fun _ => .finish⟩ Sample.world "no" hvalid hroom rfl
  obtain ⟨-, -, -, hiff', -⟩ := run_refused_files_eq_iff Sample.env Sample.config
    ⟨0, some "no"⟩ ⟨[], fun _ => .finish⟩ Sample.world "no" hvalid hroom rfl
  refine ⟨⟨fun hsame => ?_, hcalled⟩, hiff'.mpr (.inl rfl)⟩
  obtain hzero | hclosed := hiff.mp hsame
  · cases hzero
  · exact hclosed ["w", "l"] "x:1\n" rfl

/-- A registration that is refused is not without effect: here the log gains two lines. -/
theorem run_refused_appends_zeros :
    let report :=
      run Sample.env Sample.config (some ⟨1, some "no"⟩) ⟨[], fun _ => .finish⟩ Sample.world
    Sample.world.files.content? Sample.config.logPath = some (Text.ofString "x:1\n") ∧
      report.world.files.content? Sample.config.logPath
        = some (Text.ofString "x:1\nu:0,0\nv:0\n") := by
  decide +kernel

/-! ### Errors -/

/-- A failed finalisation is recognised as one. -/
theorem FinalizeError.flush_mem_kinds_iff {f : Option FinalizeError} :
    ErrorKind.flush ∈ f.elim [] kinds ↔ f ≠ none := by
  cases f with
  | none => simp
  | some e => cases e <;> simp [kinds]

/-- The kinds that a failed operation on files has for its cause. -/
theorem FileError.mem_kinds {e : FileError} {k : ErrorKind} :
    k ∈ e.kinds ↔ k = .system e.cause ∨ (k = .notFound ∧ e.cause = .notFound) := by
  by_cases h : e.cause = .notFound <;> simp [kinds, h]

/-- What can go wrong when a log is opened, written to and closed. Closing may fail behind a write
that failed, so there may be two causes. -/
inductive FileSystem.AppendFails (fs : FileSystem) (path : Text) : FileCause → Prop where
  | opening {cause : FileCause} (hopen : fs.openForAppend path = .error cause) :
      AppendFails fs path cause
  | writing {place : Place} (hopen : fs.openForAppend path = .ok (.fullDevice place)) :
      AppendFails fs path .noSpace
  | closing {target : AppendTarget} {cause : FileCause}
      (hopen : fs.openForAppend path = .ok target)
      (hclose : fs.closing.lookup target.place = some cause) : AppendFails fs path cause

theorem FlushError.kinds_ne_nil (e : FlushError) : e.kinds ≠ [] := by
  cases e <;> simp [kinds, FileError.kinds]

namespace Flush

variable {path : Text} {records : List Record} {files : FileSystem}

/-- **A failed flush** has the kinds of everything that went wrong. -/
theorem mem_kinds_flush (hne : records ≠ []) {k : ErrorKind} :
    k ∈ (flush path records files).failure.elim [] FlushError.kinds ↔
      ∃ cause, files.AppendFails path cause ∧
        (k = .system cause ∨ (k = .notFound ∧ cause = .notFound)) := by
  rw [flush, if_neg (by simpa using hne)]
  cases hopen : files.openForAppend path with
  | error why =>
    have hfails {cause : FileCause} : files.AppendFails path cause ↔ cause = why := by
      refine ⟨fun h => ?_, fun h => .opening (h ▸ hopen)⟩
      cases h <;> simp_all
    simp only [hfails, exists_eq_left]
    exact FileError.mem_kinds
  | ok target =>
    have hfails {cause : FileCause} : files.AppendFails path cause ↔
        (∃ place, target = .fullDevice place ∧ cause = .noSpace) ∨
          files.closing.lookup target.place = some cause := by
      refine ⟨fun h => ?_, ?_⟩
      · cases h with
        | opening h => simp_all
        | writing h => exact .inl ⟨_, Except.ok.inj (hopen.symm.trans h), rfl⟩
        | closing h hclose => exact .inr (Except.ok.inj (hopen.symm.trans h) ▸ hclose)
      · rintro (⟨place, rfl, rfl⟩ | hclose)
        · exact .writing hopen
        · exact .closing hopen hclose
    simp only [hfails, FileSystem.close]
    cases target <;> cases files.closing.lookup _ <;>
      simp [FileSystem.write, FlushError.ofParts, FlushError.kinds, FileError.mem_kinds,
        or_and_right, exists_or]

/-- A flush succeeds exactly if nothing goes wrong. -/
theorem failure_flush_eq_none_iff (hne : records ≠ []) :
    (flush path records files).failure = none ↔ ∀ cause, ¬ files.AppendFails path cause := by
  constructor
  · intro hnone cause hfails
    have hkind := (mem_kinds_flush hne).mpr ⟨cause, hfails, .inl rfl⟩
    rw [hnone] at hkind
    cases hkind
  · intro hfine
    rw [Option.eq_none_iff_forall_ne_some]
    intro e he
    -- an error has a kind, and that comes from something that went wrong
    obtain ⟨k, hk⟩ := List.exists_mem_of_ne_nil _ e.kinds_ne_nil
    have hmem : k ∈ (flush path records files).failure.elim [] FlushError.kinds := by
      rw [he]
      exact hk
    obtain ⟨cause, hfails, -⟩ := (mem_kinds_flush hne).mp hmem
    exact hfine cause hfails

end Flush

/-- At the first finalisation of a run, the session is the one that the configuration started but
for its counters. -/
theorem Workload.session_firstFinalize (load : Workload) (env : Environment) (config : Config)
    (registration : Option Registration) (w : World) :
    let first := load.firstFinalize env registration
      ⟨Session.initial config env.hostName, registration.isSome, w⟩
    first.session.verdict = none ∧ first.session.config = config ∧
      first.session.records.length = config.units.length ∧
      (config.exporting.enabled = false → first.session.exporter = none) := by
  intro first
  have hunits : first.session.units = (Session.initial config env.hostName).units := by
    simp only [first, firstFinalize]
    split
    · exact Stage.units_performAll _ env _
    · rfl
  have hlength : first.session.records.length = config.units.length := by
    simpa [Session.units, Session.records, Session.initial] using congrArg List.length hunits
  obtain ⟨tables, files, hframe⟩ := load.firstFinalize_frame env registration
    ⟨Session.initial config env.hostName, registration.isSome, w⟩
  refine ⟨?_, ?_, hlength, ?_⟩ <;> rw [show first = _ from hframe]
  · rfl
  · rfl
  · exact fun hdisabled => if_neg (by simp [hdisabled])

/-- **The error of a run.**

Let the registration, if there is one, be accepted. What the finalisation failed with, at the first
occasion, is made of what the flush and the export failed with: it is nothing exactly if both
succeeded, it always has the kind of a failed finalisation beside the kinds of its parts, and an
export that is not enabled does not fail. The flush fails exactly if opening, writing or closing the
log does, and it has the kinds of everything that did, so those of two causes if both writing and
closing failed. If the workload stops with a fault, so does the run. If it returns, the run returns,
without an error exactly if neither the workload nor the finalisation had one, and its error has the
kinds of both and no others. -/
theorem run_error_classified (env : Environment) (config : Config)
    (registration : Option Registration) (load : Workload) (w : World)
    (hvalid : config.violation? = none) (hroom : config.Roomy)
    (haccepted : ∀ r ∈ registration, r.refusal = none) :
    ∃ session, Session.start config env.hostName = .ok session ∧
      let start : Stage := ⟨session, registration.isSome, w⟩
      let registered := callFinalizer env start (Registration.callsOf registration)
      let worked := load.result (registered.performAll env load.actions)
      let first := load.firstFinalize env registration start
      let flushed := (Flush.flush config.logPath first.session.records first.world.files).failure
      let exported := (first.session.exportMetrics env first.world.network).failure
      let finalized := (first.finalize env).1
      let outcome := (run env config registration load w).outcome
      (finalized = none ↔ flushed = none ∧ exported = none) ∧
        (config.exporting.enabled = false → exported = none) ∧
        (flushed = none ↔ ∀ cause, ¬ first.world.files.AppendFails config.logPath cause) ∧
        (∀ k, k ∈ flushed.elim [] FlushError.kinds ↔
          ∃ cause, first.world.files.AppendFails config.logPath cause ∧
            (k = .system cause ∨ (k = .notFound ∧ cause = .notFound))) ∧
        (∀ k, k ∈ finalized.elim [] FinalizeError.kinds ↔
          (k = .flush ∧ finalized ≠ none) ∨ k ∈ flushed.elim [] FlushError.kinds ∨
            k ∈ exported.elim [] ExportError.kinds) ∧
        (∀ fault, worked = .error fault → outcome = .fault fault) ∧
        ∀ error, worked = .ok error →
          ∃ joined, outcome = .returned joined ∧
            (joined = none ↔ error = none ∧ finalized = none) ∧
            (∀ k, k ∈ joined.elim [] RunError.kinds ↔
              k ∈ error.elim [] WorkloadError.kinds ∨ k ∈ finalized.elim [] FinalizeError.kinds) ∧
            (.flush ∉ error.elim [] WorkloadError.kinds →
              (.flush ∈ joined.elim [] RunError.kinds ↔ flushed ≠ none ∨ exported ≠ none)) := by
  have hconfig : config.Valid := Config.violation?_eq_none_iff.mp hvalid
  refine ⟨_, Session.start_eq_ok hconfig hroom env.hostName, ?_⟩
  intro start registered worked first flushed exported finalized outcome
  obtain ⟨hverdict, hpath, hrecords, hexporter⟩ :=
    load.session_firstFinalize env config registration w
  have hrecords : first.session.records ≠ [] := by
    rw [← List.length_pos_iff, hrecords, List.length_pos_iff]
    exact hconfig.units
  have hfinalized : finalized = FinalizeError.ofParts flushed exported := by
    have hparts := Session.verdict_finalize_of_none hverdict env first.world
    rw [hpath] at hparts
    exact hparts
  have hnone : finalized = none ↔ flushed = none ∧ exported = none := by
    rw [hfinalized, FinalizeError.ofParts_eq_none_iff]
  have houtcome : outcome =
      match worked with
      | .ok error => .returned (RunError.ofParts error finalized)
      | .error fault => .fault fault := by
    simp only [outcome, run_eq_runWorkload env load w hconfig hroom haccepted, outcome_runWorkload,
      fst_finalize_registered]
    rfl
  refine ⟨hnone, fun hdisabled => ?_, Flush.failure_flush_eq_none_iff hrecords,
    fun k => Flush.mem_kinds_flush hrecords, fun k => ?_, fun fault hfault => ?_,
    fun error hworked => ?_⟩
  · exact Session.failure_exportMetrics_of_none (hexporter hdisabled) env first.world.network
  · rw [hfinalized, FinalizeError.mem_kinds_ofParts]
  · rw [houtcome, hfault]
  · rw [hworked] at houtcome
    refine ⟨_, houtcome, RunError.ofParts_eq_none_iff, fun k => RunError.mem_kinds_ofParts,
      fun hplain => ?_⟩
    rw [RunError.mem_kinds_ofParts, or_iff_right hplain, FinalizeError.flush_mem_kinds_iff, Ne,
      hnone, not_and_or]

/-- A log on a device that is full and cannot be closed either, beside an endpoint that hangs. The
workload finalises, ignores the verdict and returns an error of its own. -/
theorem run_error_classified_of_four_failures :
    let load : Workload := ⟨[.finalize, .makeDirectory "d"], fun _ => .fail ⟨"e", [.workload]⟩⟩
    let config : Config :=
      { Sample.config with
        logPath := "f", exporting := { ExportConfig.default with url := "http://h" } }
    let failing : World :=
      { Sample.world with
        files := { Sample.files.set ["w", "f"] .fullDevice with
          closing := [(["w", "f"], .inputOutput)] }
        network := { Sample.network with endpoint := ⟨.hang, []⟩ } }
    ∃ error, (run Sample.env config none load failing).outcome = .returned (some error) ∧
      ∀ k, k ∈ error.kinds ↔ k ∈
        [ErrorKind.workload, .flush, .system .noSpace, .system .inputOutput, .expired] := by
  intro load config failing
  have hvalid : config.violation? = none := by decide +kernel
  have hroom : config.Roomy := by decide +kernel
  obtain ⟨session, hstart, -, -, -, -, -, -, hreturned⟩ :=
    run_error_classified Sample.env config none load failing hvalid hroom (by simp)
  obtain rfl : Session.initial config Sample.env.hostName = session := by
    rw [Session.start_eq_ok (Config.violation?_eq_none_iff.mp hvalid) hroom] at hstart
    exact Except.ok.inj hstart
  obtain ⟨joined, houtcome, hnone, hkinds, -⟩ := hreturned (some ⟨"e", [.workload]⟩) rfl
  cases joined with
  | none => cases (hnone.mp rfl).1
  | some error =>
    refine ⟨error, houtcome, fun k => ?_⟩
    have hfinalized :
        ((load.firstFinalize Sample.env none ⟨Session.initial config Sample.env.hostName, false,
            failing⟩).finalize Sample.env).1.elim [] FinalizeError.kinds
          = [ErrorKind.flush, .system .noSpace, .system .inputOutput, .expired] := by
      decide +kernel
    have hk := hkinds k
    simp only [Option.isSome_none, hfinalized] at hk
    rw [show error.kinds = (some error).elim [] RunError.kinds from rfl, hk, ← List.mem_append]
    rfl

end HitLog
