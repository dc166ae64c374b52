import HitLog.CommandLine
import HitLog.Proofs.Outcome

/-!
# The exit status of the command

The command goes through flags, a file of configuration, the check of the configuration, the
benchmarks, the log and the export, and all of these can fail. Its exit status and its output are
decided by the first four. The log and the export drop out in `CommandLine.conclude_run`: a run in
which the benchmarks had results ends without an error or with one that has the kind of a failed
finalisation, and both make the same exit.

What is left is a matter of cases, in the order in which the command comes to them:
`CommandLine.conclude_cases` from the configuration on, and `CommandLine.exit_cases` from the flags
on.

## Main definitions

* `CommandLine.Tame` — arguments that lead to no fault
* `CommandLine.Obstacle` — what keeps the command from its results

## Main results

* `Session.benchmark_eq_missing_iff` — when the benchmarks return an error
* `CommandLine.conclude_run` — the exit is told from the result of the benchmarks
* `CommandLine.execute_status_iff` — the exit status, the output and the files
-/

namespace HitLog

open Benchmark (fiboUnit factUnit)

open scoped Text

/-! ### Results of the benchmarks -/

namespace Session

variable {s : Session} {fib fact : Int64}

/-- Benchmarks that come to an end are stopped by a missing site only. -/
theorem siteOutOfRange_of_benchmark (hfib : 0 ≤ fib) {f : Fault}
    (h : (s.benchmark fib fact).1 = .error f) : ∃ site sites, f = .siteOutOfRange site sites := by
  have hfault := (benchmark_spec (s := s) hfib fact).1
  rw [h] at hfault
  exact siteOutOfRange_of_hitAll hfault.symm

/-- **The benchmarks return an error** exactly if one of their units has no table. -/
theorem benchmark_eq_missing_iff (s : Session) (fib fact : Int64) :
    (s.benchmark fib fact).1 = .ok (.error ⟨⟩) ↔ fiboUnit ∉ s.units ∨ factUnit ∉ s.units := by
  rw [← List.contains_iff_mem, ← List.contains_iff_mem, contains_units, contains_units, benchmark]
  split
  · rename_i fiboTable factTable hfibo hfact
    rw [hfibo, hfact]
    dsimp only
    generalize (do
      Counting.hit Benchmark.fiboMain
      Benchmark.fibonacci fib : Counting Int64) fiboTable = fiboRun
    rcases fiboRun with ⟨_ | a, fiboTable'⟩
    · simp
    · rcases Benchmark.factorial fact factTable with ⟨_ | b, factTable'⟩ <;> simp
  · rename_i hmissing
    refine ⟨fun _ => ?_, fun _ => rfl⟩
    cases hfibo : s.table? fiboUnit with
    | none => exact .inl (by simp)
    | some fiboTable =>
      cases hfact : s.table? factUnit with
      | none => exact .inr (by simp)
      | some factTable => exact absurd hfact (hmissing fiboTable factTable hfibo)

/-- Benchmarks without a fault miss a unit or have results. -/
theorem benchmark_cases (hfib : 0 ≤ fib)
    (hsited : ∀ site sites, (s.benchmark fib fact).1 ≠ .error (.siteOutOfRange site sites)) :
    ((fiboUnit ∉ s.units ∨ factUnit ∉ s.units) ∧ (s.benchmark fib fact).1 = .ok (.error ⟨⟩)) ∨
      (¬ (fiboUnit ∉ s.units ∨ factUnit ∉ s.units) ∧
        ∃ pair, (s.benchmark fib fact).1 = .ok (.ok pair)) := by
  rw [← benchmark_eq_missing_iff s fib fact]
  rcases hresult : (s.benchmark fib fact).1 with f | e | pair
  · obtain ⟨site, sites, rfl⟩ := siteOutOfRange_of_benchmark hfib hresult
    exact absurd hresult (hsited site sites)
  · exact .inl ⟨rfl, rfl⟩
  · exact .inr ⟨by simp, pair, rfl⟩

end Session

namespace CommandLine

/-! ### The configuration -/

/-- Only a file can fail to be loaded. -/
theorem configure_eq_error_iff {flags : Flags} {files : FileSystem} {e : Config.LoadError} :
    configure flags files = .error e ↔
      flags.config ≠ [] ∧ (Config.load files flags.config).error? = some e := by
  rw [configure]
  by_cases h : flags.config = []
  · simp [h]
  · cases hload : (Config.load files flags.config).error? <;> simp [h, hload]

/-- Of the files only that of the configuration is read. -/
theorem configure_congr {flags : Flags} {files files' : FileSystem}
    (h : files'.read flags.config = files.read flags.config) :
    configure flags files' = configure flags files := by
  rw [configure, configure, Config.load, Config.load, h]

/-! ### The run of the benchmarks -/

variable {env : Environment} {config : Config} {flags : Flags} {w : World}

theorem ordinary_workload (hfib : 0 ≤ flags.fib) : (workload flags).Ordinary where
  actions a ha := by
    obtain rfl := List.mem_singleton.mp ha
    exact hfib
  ending answers f h := by
    simp only [workload] at h
    split at h <;> cases h

/-- The benchmarks as the only action of a workload. -/
theorem performAll_workload (env : Environment) (flags : Flags) (s : Stage) :
    let benchmarked := s.session.benchmark flags.fib flags.fact
    let stage : Stage := { s with session := benchmarked.2 }
    s.performAll env (workload flags).actions =
      match benchmarked.1 with
      | .error f => ⟨[], some f, stage⟩
      | .ok result => ⟨[.benchmark result], none, stage⟩ := by
  intro benchmarked stage
  have hperform : s.perform env (.benchmark flags.fib flags.fact)
      = (benchmarked.1.map .benchmark, stage) := rfl
  rw [workload, Stage.performAll, hperform]
  cases benchmarked.1 <;> rfl

/-- The exit status and the output that a result of the benchmarks leads to. -/
def ending (flags : Flags) :
    Except Fault (Except MissingUnits (Int64 × Int64)) → Except Fault Nat × Text
  | .error f => (.error f, [])
  | .ok (.error _) => (.ok 1, [])
  | .ok (.ok pair) => (.ok 0, resultText flags pair)

/-- **The exit is told from the result of the benchmarks.** Neither the log nor the export has a
part in it. -/
theorem conclude_run (env : Environment) (flags : Flags) (w : World) (hvalid : config.Valid)
    (hroom : config.Roomy) :
    let exit := conclude flags (run env config none (workload flags) w)
    (exit.status, exit.output) =
      ending flags ((Session.initial config env.hostName).benchmark flags.fib flags.fact).1 := by
  intro exit
  let start : Stage := ⟨Session.initial config env.hostName, false, w⟩
  have hrun : run env config none (workload flags) w
      = runWorkload env false (workload flags) start :=
    run_eq_runWorkload env (workload flags) w hvalid hroom (by simp)
  have hexit : exit = conclude flags (runWorkload env false (workload flags) start) :=
    congrArg (conclude flags) hrun
  have hperformed := performAll_workload env flags start
  rw [hexit, conclude, outcome_runWorkload, answers_runWorkload]
  -- what the finalisation ended with does not matter
  generalize ((start.performAll env (workload flags).actions).stage.finalize env).1 = verdict
  rw [hperformed]
  rcases (start.session.benchmark flags.fib flags.fact).1 with f | e | pair
  · rfl
  · cases verdict <;> rfl
  · cases verdict with
    | none => rfl
    | some e =>
      have hflush : ErrorKind.flush ∈ (RunError.finalize e).kinds :=
        (FinalizeError.flush_mem_kinds_iff (f := some e)).mpr (by simp)
      simp [Workload.result, workload, RunError.ofParts, workloadFailed, results, ending, hflush]

/-- A configuration that is not valid. -/
theorem conclude_run_of_violation (env : Environment) (flags : Flags) (w : World)
    (h : config.violation? ≠ none) :
    let exit := conclude flags (run env config none (workload flags) w)
    (exit.status, exit.output) = (.ok 1, []) ∧ exit.world.files = w.files := by
  obtain ⟨v, hv⟩ := Option.ne_none_iff_exists'.mp h
  have hrun : run env config none (workload flags) w
      = ⟨false, false, [], .returned (some (.invalid v)), none, w⟩ := by
    rw [run, Session.start, hv]
  rw [hrun]
  exact ⟨rfl, World.files_tell _ _ _⟩

theorem files_conclude (flags : Flags) (r : RunReport) :
    (conclude flags r).world.files = r.world.files := by
  rw [conclude]
  split
  · rfl
  · rfl
  · split <;> exact World.files_tell _ _ _

/-- The configuration lacks a unit of the benchmarks. -/
def Misses (config : Config) : Prop :=
  fiboUnit ∉ config.units.map UnitSpec.identifier ∨ factUnit ∉ config.units.map UnitSpec.identifier

/-- **The run of the benchmarks** ends with 1 or with results, if it raises no fault. -/
theorem conclude_cases (w : World) (hfib : 0 ≤ flags.fib) (hroom : config.Roomy)
    (hsited : ∀ session site sites, Session.start config env.hostName = .ok session →
      (session.benchmark flags.fib flags.fact).1 ≠ .error (.siteOutOfRange site sites)) :
    let exit := conclude flags (run env config none (workload flags) w)
    ((config.violation? ≠ none ∨ Misses config) ∧ exit.status = .ok 1 ∧ exit.output = []) ∨
      (¬ (config.violation? ≠ none ∨ Misses config) ∧ exit.status = .ok 0 ∧
        ∃ session pair, Session.start config env.hostName = .ok session ∧
          (session.benchmark flags.fib flags.fact).1 = .ok (.ok pair) ∧
          exit.output = resultText flags pair) := by
  intro exit
  by_cases hviolation : config.violation? = none
  · have hvalid := Config.violation?_eq_none_iff.mp hviolation
    have hstart := Session.start_eq_ok hvalid hroom env.hostName
    have hends := conclude_run env flags w hvalid hroom
    obtain ⟨hmisses, hresult⟩ | ⟨hmisses, pair, hresult⟩ :=
      Session.benchmark_cases hfib fun site sites => hsited _ site sites hstart
    all_goals
      rw [hresult] at hends
      rw [Session.units_initial] at hmisses
      obtain ⟨hstatus, houtput⟩ := Prod.mk.inj hends
    · exact .inl ⟨.inr hmisses, hstatus, houtput⟩
    · refine .inr ⟨?_, hstatus, _, pair, hstart, hresult, houtput⟩
      rintro (hinvalid | hlacks)
      · exact hinvalid hviolation
      · exact hmisses hlacks
  · obtain ⟨hends, -⟩ := conclude_run_of_violation env flags w hviolation
    obtain ⟨hstatus, houtput⟩ := Prod.mk.inj hends
    exact .inl ⟨.inl hviolation, hstatus, houtput⟩

/-! ### The command -/

/-- Arguments that lead to no fault: the benchmarks come to an end, there is room for the counters,
and no site is missing. -/
structure Tame (env : Environment) (arguments : List Text) (files : FileSystem) : Prop where
  ends : ∀ flags, Flags.parse? arguments = some flags → 0 ≤ flags.fib
  roomy : ∀ flags config, Flags.parse? arguments = some flags →
    configure flags files = .ok config → config.Roomy
  sited : ∀ flags config session site sites, Flags.parse? arguments = some flags →
    configure flags files = .ok config → Session.start config env.hostName = .ok session →
    (session.benchmark flags.fib flags.fact).1 ≠ .error (.siteOutOfRange site sites)

/-- What keeps the command from its results. -/
inductive Obstacle (flags : Flags) (files : FileSystem) : Prop where
  /-- A file is named and cannot be loaded. -/
  | load {e : Config.LoadError} (hnamed : flags.config ≠ [])
      (hload : (Config.load files flags.config).error? = some e)
  /-- The configuration is not valid. -/
  | invalid {config : Config} (hconfig : configure flags files = .ok config)
      (hviolation : config.violation? ≠ none)
  /-- A unit of the benchmarks is missing. -/
  | missing {config : Config} (hconfig : configure flags files = .ok config)
      (hmisses : Misses config)

section Execute

variable {arguments : List Text}

theorem execute_of_parse_none (h : Flags.parse? arguments = none) :
    execute env arguments w = ⟨.ok 2, [], w⟩ := by
  rw [execute, h]

theorem execute_of_configure_error (hflags : Flags.parse? arguments = some flags)
    {e : Config.LoadError} (h : configure flags w.files = .error e) :
    execute env arguments w = ⟨.ok 1, [], w.tell true [loadFailedEvent flags.config e]⟩ := by
  rw [execute, hflags]
  simp only [h]

theorem execute_of_configure_ok (hflags : Flags.parse? arguments = some flags)
    (h : configure flags w.files = .ok config) :
    execute env arguments w = conclude flags (run env config none (workload flags) w) := by
  rw [execute, hflags]
  simp only [h]

/-- With a configuration at hand, it is the only obstacle that there can be. -/
theorem obstacle_iff_of_configure {files : FileSystem} (h : configure flags files = .ok config) :
    Obstacle flags files ↔ config.violation? ≠ none ∨ Misses config := by
  constructor
  · intro hobstacle
    cases hobstacle with
    | load hnamed hload =>
      rw [configure_eq_error_iff.mpr ⟨hnamed, hload⟩] at h
      cases h
    | invalid hconfig hviolation =>
      rw [h] at hconfig
      cases hconfig
      exact .inl hviolation
    | missing hconfig hmisses =>
      rw [h] at hconfig
      cases hconfig
      exact .inr hmisses
  · rintro (hviolation | hmisses)
    · exact .invalid h hviolation
    · exact .missing h hmisses

/-- **Tame arguments** are no flags, meet an obstacle or lead to results. -/
theorem exit_cases (h : Tame env arguments w.files) :
    let exit := execute env arguments w
    (Flags.parse? arguments = none ∧ exit.status = .ok 2 ∧ exit.output = []) ∨
      ∃ flags, Flags.parse? arguments = some flags ∧
        ((Obstacle flags w.files ∧ exit.status = .ok 1 ∧ exit.output = []) ∨
          (¬ Obstacle flags w.files ∧ exit.status = .ok 0 ∧
            ∃ config session pair, configure flags w.files = .ok config ∧
              Session.start config env.hostName = .ok session ∧
              (session.benchmark flags.fib flags.fact).1 = .ok (.ok pair) ∧
              exit.output = resultText flags pair)) := by
  intro exit
  cases hflags : Flags.parse? arguments with
  | none =>
    have hexit : exit = _ := execute_of_parse_none hflags
    exact .inl ⟨rfl, by rw [hexit], by rw [hexit]⟩
  | some flags =>
    refine .inr ⟨flags, rfl, ?_⟩
    cases hconfig : configure flags w.files with
    | error e =>
      have hload := configure_eq_error_iff.mp hconfig
      have hexit : exit = _ := execute_of_configure_error hflags hconfig
      exact .inl ⟨.load hload.1 hload.2, by rw [hexit], by rw [hexit]⟩
    | ok config =>
      have hexit : exit = _ := execute_of_configure_ok hflags hconfig
      rw [obstacle_iff_of_configure hconfig, hexit]
      obtain hstopped | ⟨hfree, hstatus, session, pair, hrest⟩ :=
        conclude_cases w (h.ends flags hflags) (h.roomy flags config hflags hconfig)
          fun session site sites => h.sited flags config session site sites hflags hconfig
      · exact .inl hstopped
      · exact .inr ⟨hfree, hstatus, config, session, pair, rfl, hrest⟩

/-- The exit status has one meaning each. -/
theorem status_iff_of_tame (h : Tame env arguments w.files) :
    let exit := execute env arguments w
    (exit.status = .ok 2 ↔ Flags.parse? arguments = none) ∧
      (exit.status = .ok 1 ↔
        ∃ flags, Flags.parse? arguments = some flags ∧ Obstacle flags w.files) ∧
      (exit.status = .ok 0 ↔
        ∃ flags, Flags.parse? arguments = some flags ∧ ¬ Obstacle flags w.files) := by
  intro exit
  obtain ⟨hflags, hstatus, -⟩ | ⟨flags, hflags, hended⟩ := exit_cases h
  · simp [exit, hflags, hstatus]
  · obtain ⟨hobstacle, hstatus, -⟩ | ⟨hobstacle, hstatus, -⟩ := hended <;>
      simp [exit, hflags, hstatus, hobstacle]

/-- Results are printed at 0, and nothing otherwise. -/
theorem output_of_tame (h : Tame env arguments w.files) :
    let exit := execute env arguments w
    (exit.status = .ok 0 →
        ∃ flags config session pair, Flags.parse? arguments = some flags ∧
          configure flags w.files = .ok config ∧
          Session.start config env.hostName = .ok session ∧
          (session.benchmark flags.fib flags.fact).1 = .ok (.ok pair) ∧
          exit.output = resultText flags pair) ∧
      (exit.status ≠ .ok 0 → exit.output = []) := by
  intro exit
  obtain ⟨-, hstatus, houtput⟩ | ⟨flags, hflags, hended⟩ := exit_cases h
  · exact ⟨by simp [exit, hstatus], fun _ => houtput⟩
  obtain ⟨-, hstatus, houtput⟩ | ⟨-, hstatus, config, session, pair, hrest⟩ := hended
  · exact ⟨by simp [exit, hstatus], fun _ => houtput⟩
  · exact ⟨fun _ => ⟨flags, config, session, pair, hflags, hrest⟩,
      fun hne => absurd hstatus hne⟩

/-- Without a unit of the benchmarks, a run reports that nothing was executed. -/
theorem files_run_of_misses (hfib : 0 ≤ flags.fib) (hvalid : config.Valid) (hroom : config.Roomy)
    (hmisses : Misses config) :
    (run env config none (workload flags) w).world.files
      = (Flush.flush config.logPath (config.units.map UnitSpec.zeroRecord) w.files).files := by
  have hhits : (workload flags).hits none (Session.initial config env.hostName).units = [] := by
    have hnone := Action.hits_benchmark_of_missing hmisses flags.fib flags.fact
    rw [Session.units_initial]
    simp [Workload.hits, Registration.callsOf, Action.hitsBefore, workload, Action.finalizes, hnone]
  rw [files_run env w hvalid hroom (by simp) (ordinary_workload hfib), hhits,
    ← Session.records_initial config env.hostName]
  rfl

theorem files_execute_of_misses (h : Tame env arguments w.files)
    (hflags : Flags.parse? arguments = some flags) (hconfig : configure flags w.files = .ok config)
    (hvalid : config.Valid) (hmisses : Misses config) :
    (execute env arguments w).world.files
      = (Flush.flush config.logPath (config.units.map UnitSpec.zeroRecord) w.files).files := by
  have hroom := h.roomy flags config hflags hconfig
  rw [execute_of_configure_ok hflags hconfig, files_conclude,
    files_run_of_misses (h.ends flags hflags) hvalid hroom hmisses]

/-- Where no valid configuration is arrived at, all files stay as they were. -/
theorem files_execute_of_no_config (h : ∀ flags config, Flags.parse? arguments = some flags →
      configure flags w.files = .ok config → config.violation? ≠ none) :
    (execute env arguments w).world.files = w.files := by
  cases hflags : Flags.parse? arguments with
  | none => rw [execute_of_parse_none hflags]
  | some flags =>
    cases hconfig : configure flags w.files with
    | error e =>
      rw [execute_of_configure_error hflags hconfig]
      exact World.files_tell _ _ _
    | ok config =>
      rw [execute_of_configure_ok hflags hconfig]
      exact (conclude_run_of_violation env flags w (h flags config hflags hconfig)).2

/-- The exit is decided by the arguments and the file of the configuration. -/
theorem execute_congr (h : Tame env arguments w.files) (env' : Environment) {w' : World}
    (hread : ∀ flags, Flags.parse? arguments = some flags →
      w'.files.read flags.config = w.files.read flags.config) :
    (execute env' arguments w').status = (execute env arguments w).status ∧
      (execute env' arguments w').output = (execute env arguments w).output := by
  cases hflags : Flags.parse? arguments with
  | none => simp [execute_of_parse_none hflags]
  | some flags =>
    have hsame := configure_congr (hread flags hflags)
    cases hconfig : configure flags w.files with
    | error e =>
      rw [hconfig] at hsame
      simp [execute_of_configure_error hflags hsame, execute_of_configure_error hflags hconfig]
    | ok config =>
      rw [hconfig] at hsame
      rw [execute_of_configure_ok hflags hsame, execute_of_configure_ok hflags hconfig,
        ← Prod.mk.injEq]
      by_cases hviolation : config.violation? = none
      · have hvalid := Config.violation?_eq_none_iff.mp hviolation
        have hroom := h.roomy flags config hflags hconfig
        have htables : (Session.initial config env'.hostName).tables
            = (Session.initial config env.hostName).tables := rfl
        obtain ⟨result, tables, h', h⟩ := Session.benchmark_congr htables flags.fib flags.fact
        rw [conclude_run env' flags w' hvalid hroom, conclude_run env flags w hvalid hroom, h', h]
      · rw [(conclude_run_of_violation env' flags w' hviolation).1,
          (conclude_run_of_violation env flags w hviolation).1]

end Execute

/-- **The exit status reports the benchmarks, never the log and never the export.**

Let the arguments be tame. The exit status is 2 exactly if they are no flags, 1 exactly if they are
and there is an obstacle, and 0 exactly if they are and there is none. In the last case the two
results are printed, and nothing in the others. Bad flags, a file that cannot be loaded and a
configuration that is not valid leave all files alone. Without a unit of the benchmarks the log, if
it can be written, has a line of zeros for each unit. Of all files, only that of the configuration
has a part in the exit status and the output, and network and host have none. -/
theorem execute_status_iff (env : Environment) (arguments : List Text) (w : World)
    (h : Tame env arguments w.files) :
    let exit := execute env arguments w
    (exit.status = .ok 2 ↔ Flags.parse? arguments = none) ∧
      (exit.status = .ok 1 ↔
        ∃ flags, Flags.parse? arguments = some flags ∧ Obstacle flags w.files) ∧
      (exit.status = .ok 0 ↔
        ∃ flags, Flags.parse? arguments = some flags ∧ ¬ Obstacle flags w.files) ∧
      (exit.status = .ok 0 →
        ∃ flags config session pair, Flags.parse? arguments = some flags ∧
          configure flags w.files = .ok config ∧
          Session.start config env.hostName = .ok session ∧
          (session.benchmark flags.fib flags.fact).1 = .ok (.ok pair) ∧
          exit.output = resultText flags pair) ∧
      (exit.status ≠ .ok 0 → exit.output = []) ∧
      ((∀ flags config, Flags.parse? arguments = some flags →
          configure flags w.files = .ok config → config.violation? ≠ none) →
        exit.world.files = w.files) ∧
      (∀ flags config place content, Flags.parse? arguments = some flags →
        configure flags w.files = .ok config → config.violation? = none → Misses config →
        w.files.openForAppend config.logPath = .ok (.file place content) →
        exit.world.files = w.files.set place
          (.file (content ++ (config.units.map UnitSpec.zeroRecord).flatMap Record.line))) ∧
      ∀ env' w', (∀ flags, Flags.parse? arguments = some flags →
          w'.files.read flags.config = w.files.read flags.config) →
        (execute env' arguments w').status = exit.status ∧
          (execute env' arguments w').output = exit.output := by
  intro exit
  obtain ⟨hflags, hobstacle, hfree⟩ := status_iff_of_tame h
  obtain ⟨hprinted, hsilent⟩ := output_of_tame h
  refine ⟨hflags, hobstacle, hfree, hprinted, hsilent, files_execute_of_no_config, ?_, ?_⟩
  · intro flags config place content hflags hconfig hviolation hmisses hopen
    have hvalid := Config.violation?_eq_none_iff.mp hviolation
    have hunits : config.units.map UnitSpec.zeroRecord ≠ [] := by simpa using hvalid.units
    rw [← Flush.files_flush_of_file hunits hopen]
    exact files_execute_of_misses h hflags hconfig hvalid hmisses
  · intro env' w' hread
    exact execute_congr h env' hread

/-- A configuration with an export, in a world where everything works and in one where a directory
stands in the place of the log and the endpoint hangs. -/
theorem execute_status_iff_of_two_worlds :
    let arguments : List Text := ["-config", "c", "-fib=5", "-fact", "5"]
    let document : Text := "[export]\nremote_write_url = \"http://h\"\n"
    let files := Sample.files.set ["w", "c"] (.file document)
    let working : World := { Sample.world with files }
    let failing : World :=
      { Sample.world with
        files := files.set ["w", Config.defaultLogPath] .directory
        network := { Sample.network with endpoint := ⟨.hang, []⟩ } }
    let printed : Text := "fib(5) = 5\nfact(5) = 120\n"
    ((execute Sample.env arguments working).status = .ok 0 ∧
        (execute Sample.env arguments working).output = printed) ∧
      (execute Sample.env arguments failing).status = .ok 0 ∧
        (execute Sample.env arguments failing).output = printed := by
  intro arguments document files working failing printed
  have hparse : Flags.parse? arguments = some ⟨"c", 5, 5⟩ := by decide +kernel
  have hconfigured : (configure ⟨"c", 5, 5⟩ files).toOption.map Config.units
      = some Benchmark.units := by decide +kernel
  have hunits : ∀ config, configure ⟨"c", 5, 5⟩ files = .ok config →
      config.units = Benchmark.units := by
    intro config hconfig
    rw [hconfig] at hconfigured
    exact Option.some.inj hconfigured
  have hresult : ∀ config session, configure ⟨"c", 5, 5⟩ files = .ok config →
      Session.start config Sample.env.hostName = .ok session →
      (session.benchmark 5 5).1 = .ok (.ok (5, 120)) := by
    intro config session hconfig hstart
    obtain ⟨-, -, rfl⟩ := Session.start_eq_ok_iff.mp hstart
    let plain :=
      Session.initial { Config.default with units := Benchmark.units } Sample.env.hostName
    have htables : (Session.initial config Sample.env.hostName).tables = plain.tables := by
      rw [Session.initial, hunits config hconfig]
      rfl
    obtain ⟨result, tables, h, h'⟩ := Session.benchmark_congr htables 5 5
    have hvalue : (plain.benchmark 5 5).1 = .ok (.ok (5, 120)) := by decide +kernel
    rw [h]
    rwa [h'] at hvalue
  have htame : Tame Sample.env arguments working.files := by
    constructor
    · intro flags hflags
      cases hparse.symm.trans hflags
      decide
    · intro flags config hflags hconfig
      cases hparse.symm.trans hflags
      rw [Config.Roomy, hunits config hconfig]
      decide
    · intro flags config session site sites hflags hconfig hstart
      cases hparse.symm.trans hflags
      simp [hresult config session hconfig hstart]
  obtain ⟨-, -, -, hprints, -, -, -, hsame⟩ :=
    execute_status_iff Sample.env arguments working htame
  have hstatus : (execute Sample.env arguments working).status = .ok 0 := by decide +kernel
  have houtput : (execute Sample.env arguments working).output = printed := by
    obtain ⟨flags, config, session, pair, hflags, hconfig, hstart, hpair, houtput⟩ :=
      hprints hstatus
    cases hparse.symm.trans hflags
    cases (hresult config session hconfig hstart).symm.trans hpair
    rw [houtput]
    decide +kernel
  obtain ⟨hstatus', houtput'⟩ := hsame Sample.env failing fun flags hflags => by
    cases hparse.symm.trans hflags
    decide +kernel
  exact ⟨⟨hstatus, houtput⟩, hstatus'.trans hstatus, houtput'.trans houtput⟩

end CommandLine

end HitLog
