import HitLog.Proofs.ClosedForm
import HitLog.Proofs.Command
import HitLog.Proofs.Interleaving
import HitLog.Proofs.Totals

/-!
# Benchmarks on tables that are too short

Nothing ties the numbers of sites in a configuration to the sites that the benchmarks pass. So the
benchmarks can stop in the middle, and what they have counted by then is written to the log like
everything else.

The Fibonacci benchmark begins with its highest site, so that it counts everything or nothing. The
factorial begins with its lowest site, and the second one is beyond the table if any is: what it
leaves is that first count, if there is even room for it.

## Main definitions

* `Benchmark.leftCount`, `Benchmark.leftRecord` — what is left of benchmarks that the factorial
  stopped

## Main results

* `Session.benchmark_of_fibo_short`, `Session.benchmark_of_fact_short`,
  `Session.benchmark_of_long` — what the benchmarks do, by the sizes of their tables
* `run_benchmark_of_fault` — a run of benchmarks that stop
* `benchmark_stops_iff_short` — all of this for a new session
-/

namespace HitLog

open scoped Text

open Benchmark (once fiboPath factPath fiboUnit factUnit fiboMain fiboSites factSites factEntry)
open Table (total)

/-! ### Short tables -/

namespace Table

variable {t : Table}

/-- What is added beyond the sites is not seen. -/
theorem plus_congr {f g : Nat → Nat} (h : ∀ i < t.size, f i = g i) : t.plus f = t.plus g := by
  have hcounts : (t.counts.mapIdx fun i c => c + Int64.ofNat (f i))
      = t.counts.mapIdx fun i c => c + Int64.ofNat (g i) := by
    refine List.ext_getElem (by simp) fun i hi _ => ?_
    have hi : i < t.size := by simpa [size] using hi
    simp [h i hi]
  rw [plus, plus, hcounts]

/-- A path whose second site is beyond the table leaves its first site counted, if that is there. -/
theorem countAll_once_of_second_beyond {a b : Nat} (h : t.size ≤ b) (path : List Nat) :
    ∃ site, t.countAll (once (a :: b :: path))
      = (some (.siteOutOfRange site t.size), t.plus (total (once [a]))) := by
  have hb : ¬ (t.plus (total (once [a]))).hasSite b := by
    rw [hasSite_plus]
    exact fun hc => absurd hc.2 (by omega)
  by_cases ha : a < t.size
  · have hsite : t.hasSite (a : Int) := ⟨Int.natCast_nonneg a, Int.ofNat_lt.mpr ha⟩
    refine ⟨b, (countAll_cons_of_hasSite hsite 1 _).trans ?_⟩
    refine (countAll_cons_of_not_hasSite hb 1 _).trans ?_
    rw [show (t.plus (total (once [a]))).size = t.size from congrArg Prod.snd (t.shape_plus _)]
  · have hsite : ¬ t.hasSite (a : Int) := fun hc => ha (Int.ofNat_lt.mp hc.2)
    have hnone : t.plus (total (once [a])) = t := by
      refine (plus_congr fun i hi => ?_).trans t.plus_zero
      rw [Benchmark.total_once, List.count_singleton]
      simp
      omega
    rw [hnone]
    exact ⟨a, countAll_cons_of_not_hasSite hsite 1 _⟩

end Table

namespace Benchmark

variable {t : Table} {n : Int64}

/-- The Fibonacci benchmark with its main site. -/
theorem fiboMain_yields (h : 0 ≤ n) :
    Counting.Yields (do
      Counting.hit fiboMain
      fibonacci n) (once (fiboMain :: fiboPath n.toNatClampNeg))
      (Int64.ofInt (Int.fib n.toInt)) := by
  rw [Int64.toInt_eq_toNatClampNeg h, Int.fib_natCast, Int64.ofInt_eq_ofNat]
  exact (Counting.Yields.hit _).bind (fibonacci_yields h)

theorem fiboMain_of_short (h : 0 ≤ n) (hsize : t.size < 14) :
    (do
      Counting.hit fiboMain
      fibonacci n : Counting Int64) t = (.error (.siteOutOfRange fiboMain t.size), t) := by
  have hsite : ¬ t.hasSite fiboMain := fun hc => by
    have hlt : (13 : Int) < t.size := hc.2
    omega
  have hstop : t.countAll (once (fiboMain :: fiboPath n.toNatClampNeg))
      = (some (.siteOutOfRange fiboMain t.size), t) :=
    Table.countAll_cons_of_not_hasSite hsite 1 _
  rw [fiboMain_yields h t, hstop]
  rfl

theorem fiboMain_of_long (h : 0 ≤ n) (hsize : 14 ≤ t.size) :
    (do
      Counting.hit fiboMain
      fibonacci n : Counting Int64) t
        = (.ok (Int64.ofInt (Int.fib n.toInt)),
          t.plus (total (once (fiboMain :: fiboPath n.toNatClampNeg)))) := by
  have hpath : fiboMain :: fiboPath n.toNatClampNeg ⊆ fiboMain :: fiboSites :=
    List.cons_subset_cons _ (mem_fiboSites_of_mem_fiboPath _)
  exact (fiboMain_yields h).eq_plus (hasSite_once_of_subset hpath (by decide) hsize)

/-- There are too few sites for the factorial of an argument. -/
def FactShort (sites : Nat) (n : Int64) : Prop := sites < 4 ∨ sites < 6 ∧ 1 < n

theorem factorial_of_short (h : FactShort t.size n) :
    ∃ site, factorial n t
      = (.error (.siteOutOfRange site t.size), t.plus (total (once [factEntry]))) := by
  obtain ⟨b, path, hpath, hb⟩ : ∃ b path, factPath n.toNatClampNeg = factEntry :: b :: path ∧
      t.size ≤ b := by
    by_cases hone : n ≤ 1
    · refine ⟨factBase, [], (factPath_of_le_one hone).1, ?_⟩
      obtain h | ⟨-, h⟩ := h
      · exact Nat.le_of_lt_succ h
      · exact absurd hone (Int64.not_le.mpr h)
    · obtain ⟨m, hm, -, -⟩ := exists_eq_add_two (Int64.not_le.mp hone)
      refine ⟨factRecurse, factPath (m + 1), by rw [hm]; rfl, ?_⟩
      have hsize : t.size < 6 := h.elim (by omega) And.left
      exact Nat.le_of_lt_succ hsize
  obtain ⟨site, hstop⟩ := Table.countAll_once_of_second_beyond hb path
  refine ⟨site, ?_⟩
  rw [factorial_yields n t, hpath, hstop]
  rfl

theorem factorial_of_long (h : ¬ FactShort t.size n) :
    factorial n t = (.ok (Int64.ofInt (∏ k ∈ Finset.Icc 2 n.toInt, k)),
      t.plus (total (once (factPath n.toNatClampNeg)))) := by
  rw [← product_eq_prod]
  refine (factorial_yields n).eq_plus ?_
  obtain ⟨hfour, hsix⟩ := not_or.mp h
  by_cases hone : n ≤ 1
  · rw [(factPath_of_le_one hone).1]
    exact hasSite_once_of_subset (List.Subset.refl _) (by decide) (Nat.le_of_not_lt hfour)
  · have hsize : 6 ≤ t.size := Nat.le_of_not_lt fun hc => hsix ⟨hc, Int64.not_le.mp hone⟩
    exact hasSite_once_of_subset (mem_factSites_of_mem_factPath _) (by decide) hsize

/-! ### What is left -/

/-- What benchmarks have counted that the factorial stopped. -/
def leftCount (fib : Int) (unit : Text) (site : Nat) : Int :=
  if unit = fiboUnit then fiboCount fib site + if site = fiboMain then 1 else 0
  else if unit = factUnit then if site = factEntry then 1 else 0
  else 0

/-- The record that is left of a unit. -/
def leftRecord (fib : Int) (u : UnitSpec) : Record :=
  ⟨u.identifier, (List.range u.sites.toNatClampNeg).map fun site =>
    Int64.ofInt (leftCount fib u.identifier site)⟩

/-- The counts by paths. -/
def leftHits (n : Nat) (unit : Text) (site : Nat) : Nat :=
  (if fiboUnit = unit then total (once (fiboMain :: fiboPath n)) site else 0) +
    if factUnit = unit then total (once [factEntry]) site else 0

theorem leftHits_eq (n : Nat) (unit : Text) (site : Nat) :
    (leftHits n unit site : Int) = leftCount n unit site := by
  have hunits : fiboUnit ≠ factUnit := by decide
  rw [leftHits, leftCount, total_once, total_once]
  by_cases hfibo : unit = fiboUnit
  · subst hfibo
    rw [if_pos rfl, if_pos rfl, if_neg hunits.symm, List.count_cons, ← count_fiboPath]
    by_cases hsite : site = fiboMain
    · simp [hsite]
    · simp [hsite, Ne.symm hsite]
  · rw [if_neg hfibo, if_neg (Ne.symm hfibo)]
    by_cases hfact : unit = factUnit
    · subst hfact
      by_cases hsite : site = factEntry
      · simp [hsite]
      · simp [hsite, Ne.symm hsite]
    · simp [hfact, Ne.symm hfact]

end Benchmark

/-! ### Sessions -/

namespace Session

open Benchmark (FactShort leftHits leftHits_eq leftRecord)

variable {s : Session} {fib fact : Int64} {fibo fct : Table}

section Tables

variable (hfib : 0 ≤ fib) (hfibo : s.table? fiboUnit = some fibo)
  (hfact : s.table? factUnit = some fct)

include hfib hfibo hfact

/-- **A short Fibonacci table** stops the benchmarks before anything is counted. -/
theorem benchmark_of_fibo_short (hshort : fibo.size < 14) :
    s.benchmark fib fact = (.error (.siteOutOfRange fiboMain fibo.size), s) := by
  have hcode := Benchmark.fiboMain_of_short (t := fibo) hfib hshort
  simp only [benchmark, hfibo, hfact, hcode, setTable_of_find? hfibo]

/-- **A short factorial table** stops them when the Fibonacci numbers are counted. -/
theorem benchmark_of_fact_short (hnodup : s.units.Nodup) (hlong : 14 ≤ fibo.size)
    (hshort : FactShort fct.size fact) :
    ∃ site, s.benchmark fib fact = (.error (.siteOutOfRange site fct.size),
      s.withTables (s.tables.map fun u => u.plus (leftHits fib.toNatClampNeg u.identifier))) := by
  have hcode := Benchmark.fiboMain_of_long (t := fibo) hfib hlong
  obtain ⟨site, hstop⟩ := Benchmark.factorial_of_short hshort
  refine ⟨site, ?_⟩
  simp only [benchmark, hfibo, hfact, hcode, hstop,
    setTable_setTable_eq_map hnodup (by decide : fiboUnit ≠ factUnit) hfibo hfact]
  rfl

/-- **Tables that are long enough** let the benchmarks come to their end. -/
theorem benchmark_of_long (hlong : 14 ≤ fibo.size) (hshort : ¬ FactShort fct.size fact) :
    (s.benchmark fib fact).1 = .ok (.ok (Int64.ofInt (Int.fib fib.toInt),
      Int64.ofInt (∏ k ∈ Finset.Icc 2 fact.toInt, k))) := by
  have hcode := Benchmark.fiboMain_of_long (t := fibo) hfib hlong
  simp only [benchmark, hfibo, hfact, hcode, Benchmark.factorial_of_long hshort]

end Tables

/-- Benchmarks that miss a unit leave the session alone. -/
theorem benchmark_of_missing (hfib : 0 ≤ fib) (h : fiboUnit ∉ s.units ∨ factUnit ∉ s.units) :
    (s.benchmark fib fact).2 = s := by
  rw [(benchmark_spec hfib fact).2, Action.hits_benchmark_of_missing h]
  rfl

/-! ### New sessions -/

section Initial

variable {config : Config} {u : UnitSpec}

theorem table?_initial (hvalid : config.Valid) (hu : u ∈ config.units) (hostName : Text) :
    (initial config hostName).table? u.identifier = some (zeroTable u) := by
  obtain ⟨t, ht⟩ : ∃ t, (initial config hostName).table? u.identifier = some t := by
    rw [← Option.isSome_iff_exists, ← contains_units, List.contains_iff_mem, units_initial]
    exact List.mem_map_of_mem hu
  obtain ⟨v, hv, rfl⟩ := List.mem_map.mp (List.mem_of_find?_eq_some ht)
  have hid : v.identifier = u.identifier := identifier_of_find? ht
  rw [ht, List.inj_on_of_nodup_map hvalid.distinct hv hu hid]

theorem size_zeroTable_lt_iff (hu : u.Valid) {k : Nat} {n : Int64} (hn : n.toInt = k) :
    (zeroTable u).size < k ↔ u.sites < n := by
  rw [Int64.lt_iff_toInt_lt, hn, Int64.toInt_eq_toNatClampNeg (Int64.le_of_lt hu.sited),
    Int.ofNat_lt, zeroTable, Table.size, List.length_replicate]

theorem factShort_zeroTable_iff (hu : u.Valid) :
    FactShort (zeroTable u).size fact ↔ u.sites < 4 ∨ u.sites < 6 ∧ 1 < fact := by
  rw [FactShort, size_zeroTable_lt_iff hu (k := 4) (n := 4) rfl,
    size_zeroTable_lt_iff hu (k := 6) (n := 6) rfl]

/-- What benchmarks that the factorial stopped leave of a new session, unit by unit. -/
theorem records_left (config : Config) (hostName : Text) (hfib : 0 ≤ fib) :
    ((initial config hostName).withTables ((initial config hostName).tables.map fun t =>
        t.plus (leftHits fib.toNatClampNeg t.identifier))).records
      = config.units.map (leftRecord fib.toInt) := by
  rw [records, withTables, initial, List.map_map, List.map_map]
  refine List.map_congr_left fun u _ => (record_plus_zeroTable u _).trans ?_
  rw [UnitSpec.recordOf, leftRecord, Int64.toInt_eq_toNatClampNeg hfib]
  simp only [← leftHits_eq, Int64.ofInt_eq_ofNat]
  rfl

/-- **The benchmarks in a new session** with both units. -/
theorem benchmark_initial_cases (hvalid : config.Valid) (hostName : Text) (hfib : 0 ≤ fib)
    (fact : Int64) {v : UnitSpec} (hu : u ∈ config.units) (hv : v ∈ config.units)
    (hfibo : u.identifier = fiboUnit) (hfact : v.identifier = factUnit) :
    let start := initial config hostName
    let result := (start.benchmark fib fact).1
    let left := (start.benchmark fib fact).2
    let short := v.sites < 4 ∨ v.sites < 6 ∧ 1 < fact
    (u.sites < 14 ∧ (∃ site sites, result = .error (.siteOutOfRange site sites)) ∧ left = start) ∨
      (¬ u.sites < 14 ∧ short ∧ (∃ site sites, result = .error (.siteOutOfRange site sites)) ∧
        left.records = config.units.map (leftRecord fib.toInt)) ∨
      (¬ u.sites < 14 ∧ ¬ short ∧ result = .ok (.ok (Int64.ofInt (Int.fib fib.toInt),
        Int64.ofInt (∏ k ∈ Finset.Icc 2 fact.toInt, k)))) := by
  intro start result left short
  have hsize : (zeroTable u).size < 14 ↔ u.sites < 14 :=
    size_zeroTable_lt_iff (hvalid.each u hu) rfl
  have hshort : FactShort (zeroTable v).size fact ↔ short :=
    factShort_zeroTable_iff (hvalid.each v hv)
  have hutable : start.table? fiboUnit = some (zeroTable u) :=
    hfibo ▸ table?_initial hvalid hu hostName
  have hvtable : start.table? factUnit = some (zeroTable v) :=
    hfact ▸ table?_initial hvalid hv hostName
  have hnodup : start.units.Nodup := by
    rw [units_initial]
    exact hvalid.distinct
  by_cases hlong : u.sites < 14
  · have hrun : start.benchmark fib fact = _ :=
      benchmark_of_fibo_short hfib hutable hvtable (hsize.mpr hlong)
    exact .inl ⟨hlong, ⟨_, _, congrArg Prod.fst hrun⟩, congrArg Prod.snd hrun⟩
  have hlong' : 14 ≤ (zeroTable u).size := Nat.le_of_not_lt (hlong ∘ hsize.mp)
  by_cases hfactShort : short
  · obtain ⟨site, hrun⟩ := benchmark_of_fact_short hfib hutable hvtable hnodup hlong'
      (hshort.mpr hfactShort)
    refine .inr (.inl ⟨hlong, hfactShort, ⟨site, _, congrArg Prod.fst hrun⟩, ?_⟩)
    exact (congrArg (·.2.records) hrun).trans (records_left config hostName hfib)
  · exact .inr (.inr ⟨hlong, hfactShort,
      benchmark_of_long hfib hutable hvtable hlong' (hfactShort ∘ hshort.mp)⟩)

end Initial

end Session

/-! ### Runs -/

variable {env : Environment} {config : Config} {fib fact : Int64} {f : Fault}

/-- Benchmarks that stop are the end of a workload, whatever it would have done with their answer,
and their session is finalised. -/
theorem runWorkload_benchmark_of_fault (env : Environment) (hfib : 0 ≤ fib) (registered : Bool)
    (ending : List Answer → Ending) {s : Stage}
    (h : (s.session.benchmark fib fact).1 = .error f) :
    let report := runWorkload env registered ⟨[.benchmark fib fact], ending⟩ s
    report.outcome = .fault f ∧ report.world
      = (Stage.finalize env { s with session := (s.session.benchmark fib fact).2 }).2.world := by
  have hperform : s.performAll env [.benchmark fib fact]
      = ⟨[], some f, { s with session := (s.session.benchmark fib fact).2 }⟩ := by
    refine (CommandLine.performAll_workload env ⟨[], fib, fact⟩ s).trans ?_
    simp only [h]
  have hends : f.endsProcess = false := by
    obtain ⟨site, sites, rfl⟩ := Session.siteOutOfRange_of_benchmark hfib h
    rfl
  intro report
  simp only [report, runWorkload, hperform, Workload.result, hends]
  exact ⟨trivial, rfl⟩

/-- **A run of benchmarks that stop** ends in their fault, and what they counted is flushed, unless
the session was finalised before they began. -/
theorem run_benchmark_of_fault {registration : Option Registration}
    (ending : List Answer → Ending) (w : World) (hvalid : config.Valid) (hroom : config.Roomy)
    (haccepted : ∀ r ∈ registration, r.refusal = none) (hfib : 0 ≤ fib)
    (h : ((Session.initial config env.hostName).benchmark fib fact).1 = .error f) :
    let start := Session.initial config env.hostName
    let flushed := if Registration.callsOf registration = 0 then (start.benchmark fib fact).2
      else start
    let report := run env config registration ⟨[.benchmark fib fact], ending⟩ w
    report.outcome = .fault f ∧
      report.world.files = (Flush.flush config.logPath flushed.records w.files).files := by
  intro start flushed report
  have hsame : ∀ session : Session, session.tables = start.tables →
      ∃ tables, session.benchmark fib fact = (.error f, session.withTables tables) := by
    intro session htables
    obtain ⟨result, tables, hsession, hinitial⟩ := Session.benchmark_congr htables fib fact
    rw [hinitial] at h
    exact ⟨tables, hsession.trans (congrArg (·, _) h)⟩
  let stage : Stage := ⟨start, registration.isSome, w⟩
  simp only [report, flushed, run_eq_runWorkload env _ w hvalid hroom haccepted]
  cases Registration.callsOf registration with
  | zero =>
    obtain ⟨tables, hbenchmark⟩ := hsame start rfl
    obtain ⟨houtcome, hworld⟩ := runWorkload_benchmark_of_fault env hfib registration.isSome ending
      (s := stage) h
    rw [callFinalizer_zero, if_pos rfl]
    refine ⟨houtcome, (congrArg World.files hworld).trans ?_⟩
    simp only [stage, hbenchmark]
    exact Session.files_finalize (s := start.withTables tables) rfl
  | succ n =>
    -- the finalised session still has the tables of the new one
    obtain ⟨exporter, verdict, hframe⟩ := stage.finalize_frame env
    obtain ⟨tables, hbenchmark⟩ := hsame (stage.finalize env).2.session (by rw [hframe])
    obtain ⟨houtcome, hworld⟩ := runWorkload_benchmark_of_fault env hfib registration.isSome ending
      (s := (stage.finalize env).2) (congrArg Prod.fst hbenchmark)
    have hfinal : ((stage.finalize env).2.withTables tables).Finalized :=
      stage.finalized_finalize env
    rw [callFinalizer_succ, if_neg n.succ_ne_zero]
    refine ⟨houtcome, (congrArg World.files hworld).trans ?_⟩
    rw [hbenchmark]
    exact (congrArg (·.world.files) (Stage.finalize_of_finalized hfinal)).trans
      (Session.files_finalize (s := start) rfl)

/-- **When benchmarks stop, and what they leave.** In a new session, the benchmarks return an error
exactly if one of their units is not configured, and then nothing is counted. With both units, a
site is missing exactly if the Fibonacci unit has fewer than 14 sites or the factorial unit fewer
than 4, or than 6 for an argument above one; otherwise there are results. A short Fibonacci unit
leaves everything at zero. If only the factorial unit is short, each unit is left with its
`leftRecord`. A run of benchmarks that stop ends in their fault, and it adds to its log the counts
that they left, or zeros if the registration has finalised the session before. -/
theorem benchmark_stops_iff_short (env : Environment) (config : Config) (s : Session)
    (fib fact : Int64) (hstart : Session.start config env.hostName = .ok s) (hfib : 0 ≤ fib) :
    let identifiers := config.units.map UnitSpec.identifier
    let result := (s.benchmark fib fact).1
    let left := (s.benchmark fib fact).2
    (result = .ok (.error ⟨⟩) ↔ fiboUnit ∉ identifiers ∨ factUnit ∉ identifiers) ∧
      (result = .ok (.error ⟨⟩) → left = s) ∧
      (∀ u ∈ config.units, ∀ v ∈ config.units,
        u.identifier = fiboUnit → v.identifier = factUnit →
        let short := v.sites < 4 ∨ v.sites < 6 ∧ 1 < fact
        ((∃ site sites, result = .error (.siteOutOfRange site sites)) ↔ u.sites < 14 ∨ short) ∧
          (¬ (u.sites < 14 ∨ short) →
            result = .ok (.ok (Int64.ofInt (Int.fib fib.toInt),
              Int64.ofInt (∏ k ∈ Finset.Icc 2 fact.toInt, k)))) ∧
          (u.sites < 14 → left = s) ∧
          (14 ≤ u.sites → short →
            left.records = config.units.map (Benchmark.leftRecord fib.toInt))) ∧
      ∀ f, result = .error f → ∀ registration ending w place content,
        (∀ r ∈ registration, r.refusal = none) →
        w.files.openForAppend config.logPath = .ok (.file place content) →
        let report := run env config registration ⟨[.benchmark fib fact], ending⟩ w
        let flushed := if Registration.callsOf registration = 0 then left else s
        report.outcome = .fault f ∧
          report.world.files
            = w.files.set place (.file (content ++ flushed.records.flatMap Record.line)) := by
  obtain ⟨hvalid, hroom, rfl⟩ := Session.start_eq_ok_iff.mp hstart
  intro identifiers result left
  have hmissing : result = .ok (.error ⟨⟩) ↔ fiboUnit ∉ identifiers ∨ factUnit ∉ identifiers := by
    rw [Session.benchmark_eq_missing_iff, Session.units_initial]
  refine ⟨hmissing, fun h => ?_, ?_, ?_⟩
  · refine Session.benchmark_of_missing hfib ?_
    rw [Session.units_initial]
    exact hmissing.mp h
  · intro u hu v hv hfibo hfact short
    have hcases := Session.benchmark_initial_cases hvalid env.hostName hfib fact hu hv hfibo hfact
    obtain ⟨hlong, hstop, hleft⟩ | ⟨hlong, hshort, hstop, hleft⟩ | ⟨hlong, hshort, hresult⟩ :=
      hcases
    · exact ⟨iff_of_true hstop (.inl hlong), fun hc => absurd (.inl hlong) hc, fun _ => hleft,
        fun hc => absurd hlong (Int64.not_lt.mpr hc)⟩
    · exact ⟨iff_of_true hstop (.inr hshort), fun hc => absurd (.inr hshort) hc,
        fun hc => absurd hc hlong, fun _ _ => hleft⟩
    · refine ⟨iff_of_false ?_ (not_or.mpr ⟨hlong, hshort⟩), fun _ => hresult,
        fun hc => absurd hc hlong, fun _ hc => absurd hc hshort⟩
      rintro ⟨site, sites, hstop⟩
      cases hresult.symm.trans hstop
  · intro f hf registration ending w place content haccepted hopen report flushed
    obtain ⟨houtcome, hfiles⟩ := run_benchmark_of_fault ending w hvalid hroom haccepted hfib hf
    have hunits : flushed.units = identifiers := by
      simp only [flushed, left, (Session.benchmark_spec hfib fact).2]
      split
      · rw [Session.units_hit, Session.units_initial]
      · exact Session.units_initial config env.hostName
    have hne : flushed.records ≠ [] := by
      intro hc
      rw [Session.units, List.map_eq_nil_iff.mp hc] at hunits
      exact hvalid.units (List.map_eq_nil_iff.mp hunits.symm)
    exact ⟨houtcome, hfiles.trans (Flush.files_flush_of_file hne hopen)⟩

/-- Room for the Fibonacci numbers, but not for the factorial of two. -/
theorem benchmark_stops_iff_short_of_four_sites :
    let config : Config := { Sample.config with units := [⟨fiboUnit, 14⟩, ⟨factUnit, 4⟩] }
    let s := Session.initial config Sample.env.hostName
    let report := run Sample.env config (some ⟨0, none⟩) ⟨[.benchmark 3 2], fun _ => .finish⟩
      Sample.world
    Session.start config Sample.env.hostName = .ok s ∧
      (∃ site sites, (s.benchmark 3 2).1 = .error (.siteOutOfRange site sites) ∧
        report.outcome = .fault (.siteOutOfRange site sites)) ∧
      report.world.files.content? "l" = some (Text.ofString <| "x:1\n" ++
        "benchmark/fibo.c:0,0,0,5,1,0,4,2,0,2,0,0,0,1\n" ++ "benchmark/fact.c:0,0,1,0\n") := by
  intro config s report
  have hvalid : config.violation? = none := by decide
  have hroom : config.Roomy := by decide
  have hstart : Session.start config Sample.env.hostName = .ok s :=
    Session.start_eq_ok (Config.violation?_eq_none_iff.mp hvalid) hroom _
  have hopen : Sample.world.files.openForAppend config.logPath
      = .ok (.file ["w", "l"] "x:1\n") := rfl
  obtain ⟨-, -, hboth, hrun⟩ :=
    benchmark_stops_iff_short Sample.env config s 3 2 hstart (by decide)
  obtain ⟨hstops, -, -, hleft⟩ :=
    hboth ⟨fiboUnit, 14⟩ (by simp [config]) ⟨factUnit, 4⟩ (by simp [config]) rfl rfl
  obtain ⟨site, sites, hstop⟩ := hstops.mpr (.inr (.inr (by decide)))
  obtain ⟨houtcome, hfiles⟩ :=
    hrun _ hstop (some ⟨0, none⟩) (fun _ => .finish) Sample.world _ _ (by simp) hopen
  refine ⟨hstart, ⟨site, sites, hstop, houtcome⟩, ?_⟩
  have hcalls : Registration.callsOf (some ⟨0, none⟩) = 0 := rfl
  rw [if_pos hcalls, hleft (by decide) (.inr (by decide))] at hfiles
  show report.world.files.content? config.logPath = _
  rw [hfiles, FileSystem.content?_set hopen]
  decide +kernel

end HitLog
