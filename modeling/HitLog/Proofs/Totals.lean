import HitLog.Log.File
import HitLog.Proofs.Codec
import HitLog.Proofs.ExactlyOnce
import HitLog.Proofs.Merge

/-!
# No count is lost or duplicated

Several runs append to one log, which is then read and merged. What comes out is, for each unit that
a run reported and for each of its sites, the number of its executions in all runs.

That number is not taken from tables. `Job.hits` finds it in the workload: the hits of its actions
up to the first that finalises, and up to the first that finds no site. What a run appends is
computed from these hits alone (`Job.leaves_of_reaches`), and the totals of several runs are the
totals of all their hits. A run that never comes to its workload leaves the log alone and has no
hits.

## Main definitions

* `Job` — a run with its surroundings, and `Job.leavesAll` for several, one behind the other
* `Job.Reaches` — the run comes to its workload
* `Job.units`, `Job.hits`, `Job.records` — what a run reports
* `Job.Accountable` — runs whose totals can be told from their log

## Main results

* `Job.leavesAll_eq` — the log behind several runs
* `Job.siteSum_records` — words add up to exact totals
* `merge_load_eq_totals` — reading and merging gives the totals of all hits
-/

namespace HitLog

open scoped Text

/-! ### Records of units -/

/-- The units of a configuration with their numbers of sites. -/
def Config.shapes (config : Config) : List (Text × Nat) :=
  config.units.map fun u => (u.identifier, u.sites.toNatClampNeg)

/-- The record of a unit with given executions of its sites. -/
def UnitSpec.recordOf (u : UnitSpec) (executions : Nat → Nat) : Record :=
  ⟨u.identifier, (List.range u.sites.toNatClampNeg).map fun site => Int64.ofNat (executions site)⟩

theorem UnitSpec.identifier_recordOf (u : UnitSpec) (f : Nat → Nat) :
    (u.recordOf f).identifier = u.identifier := rfl

theorem UnitSpec.length_recordOf (u : UnitSpec) (f : Nat → Nat) :
    (u.recordOf f).counts.length = u.sites.toNatClampNeg := by
  simp [recordOf]

theorem Record.block_append (rs rs' : List Record) :
    Record.block (rs ++ rs') = Record.block rs ++ Record.block rs' := List.flatMap_append

/-- Hits are on units that have a table. -/
theorem Action.unit_mem_of_mem_hits {a : Action} {units : List Text} {h : Hit}
    (hh : h ∈ a.hits units) : h.unit ∈ units := by
  cases a with
  | table unit action =>
    rw [hits] at hh
    split at hh
    · rename_i hunit
      obtain ⟨x, -, rfl⟩ := List.mem_map.mp hh
      exact List.contains_iff_mem.mp hunit
    · cases hh
  | benchmark fib fact =>
    rw [hits] at hh
    split at hh
    · rename_i hunits
      obtain ⟨hfibo, hfact⟩ := Bool.and_eq_true_iff.mp hunits
      obtain hh | hh := List.mem_append.mp hh
      · obtain ⟨x, -, rfl⟩ := List.mem_map.mp hh
        exact List.contains_iff_mem.mp hfibo
      · obtain ⟨x, -, rfl⟩ := List.mem_map.mp hh
        exact List.contains_iff_mem.mp hfact
    · cases hh
  | _ => cases hh

namespace Session

theorem record_plus_zeroTable (u : UnitSpec) (f : Nat → Nat) :
    ((zeroTable u).plus f).record = u.recordOf f := by
  have hcounts : ((List.replicate u.sites.toNatClampNeg (0 : Int64)).mapIdx
        fun i c => c + Int64.ofNat (f i))
      = (List.range u.sites.toNatClampNeg).map fun site => Int64.ofNat (f site) := by
    refine List.ext_getElem (by simp) fun i hi hi' => ?_
    simp
  rw [Table.plus, zeroTable, hcounts]
  rfl

/-- What hits leave of an initial session: the totals of the hits that fit. -/
theorem records_hit_initial {config : Config} (hvalid : config.Valid) (hostName : Text)
    (hs : List Hit) :
    ((initial config hostName).hit hs).records
      = config.units.map fun u =>
          u.recordOf (Hit.total (hs.takeWhile fun h => h.fits config.shapes) u.identifier) := by
  have hnodup : ((initial config hostName).tables.map Table.identifier).Nodup := by
    rw [← units, units_initial]
    exact hvalid.distinct
  have hshapes : (initial config hostName).tables.map Table.shape = config.shapes :=
    shape_initial hostName
  rw [records, hit, withTables, hitAll_snd hnodup, hshapes, plusAll, initial, List.map_map,
    List.map_map]
  exact List.map_congr_left fun u _ => record_plus_zeroTable u _

end Session

/-! ### Jobs -/

/-- A run with its surroundings, but for the files, which are those that other runs left. -/
structure Job where
  env : Environment
  config : Config
  registration : Option Registration
  load : Workload
  network : Network
  journal : List Journal.Entry

namespace Job

/-- The run on given files. -/
def report (j : Job) (files : FileSystem) : RunReport :=
  run j.env j.config j.registration j.load ⟨files, j.network, j.journal⟩

/-- The files that the run leaves. -/
def leaves (j : Job) (files : FileSystem) : FileSystem := (j.report files).world.files

/-- The files that several runs leave, one behind the other. -/
def leavesAll (jobs : List Job) (files : FileSystem) : FileSystem :=
  jobs.foldl (fun files j => j.leaves files) files

/-- The run comes to its workload. -/
def Reaches (j : Job) : Prop :=
  j.config.violation? = none ∧ j.config.Roomy ∧ j.registration.bind Registration.refusal = none

instance : DecidablePred Reaches := fun j =>
  inferInstanceAs (Decidable (j.config.violation? = none ∧ j.config.Roomy ∧
    j.registration.bind Registration.refusal = none))

variable {j : Job} {files : FileSystem}

theorem Reaches.valid (h : j.Reaches) : j.config.Valid := Config.violation?_eq_none_iff.mp h.1

theorem Reaches.accepted (h : j.Reaches) : ∀ r ∈ j.registration, r.refusal = none := by
  intro r hr
  have hnone := h.2.2
  rw [hr] at hnone
  exact hnone

/-- A registration that is refused did not call the finaliser. -/
def Quiet (j : Job) : Prop :=
  j.config.violation? = none → ∀ r ∈ j.registration, r.refusal ≠ none → r.calls = 0

/-- A job that does not come to its workload leaves what its registration did. -/
theorem report_of_not_reaches (h : ¬ j.Reaches) :
    (j.report files).called = false ∧ (j.Quiet → (j.report files).world.files = files) := by
  rw [report]
  by_cases hstarted : j.config.Valid ∧ j.config.Roomy
  · have hvalid : j.config.violation? = none := Config.violation?_eq_none_iff.mpr hstarted.1
    have hrefusal : j.registration.bind Registration.refusal ≠ none := fun hc =>
      h ⟨hvalid, hstarted.2, hc⟩
    obtain ⟨refusal, hrefusal⟩ := Option.ne_none_iff_exists'.mp hrefusal
    obtain ⟨r, hr, hrefused⟩ := Option.bind_eq_some_iff.mp hrefusal
    obtain ⟨hcalled, hfiles⟩ := run_of_refused j.env j.load ⟨files, j.network, j.journal⟩
      hstarted.1 hstarted.2 hrefused
    refine ⟨by rw [hr]; exact hcalled, fun hquiet => ?_⟩
    have hcalls : r.calls = 0 := hquiet hvalid r hr (by rw [hrefused]; exact Option.some_ne_none _)
    rw [hr, hfiles, hcalls, callFinalizer_zero]
  · obtain ⟨hcalled, hworld⟩ := run_of_not_started j.env j.registration j.load
      ⟨files, j.network, j.journal⟩ hstarted
    exact ⟨hcalled, fun _ => by rw [hworld]⟩

/-- **A job comes to its workload exactly if its run calls it**, on whatever files. -/
theorem called_report_iff (j : Job) (files : FileSystem) :
    (j.report files).called = true ↔ j.Reaches := by
  constructor
  · intro hcalled
    by_contra h
    rw [(report_of_not_reaches h).1] at hcalled
    cases hcalled
  · intro h
    rw [report, run_eq_runWorkload j.env j.load _ h.valid h.2.1 h.accepted]
    exact called_runWorkload _ _ _ _

/-- The units that the run reports. -/
def units (j : Job) : List UnitSpec := if j.Reaches then j.config.units else []

/-- The hits of the run before its first finalisation. -/
def hits (j : Job) : List Hit :=
  if j.Reaches then
    (j.load.hits j.registration (j.config.units.map UnitSpec.identifier)).takeWhile
      fun h => h.fits j.config.shapes
  else []

/-- The records that the run appends to its log. -/
def records (j : Job) : List Record :=
  j.units.map fun u => u.recordOf (Hit.total j.hits u.identifier)

theorem units_of_reaches (h : j.Reaches) : j.units = j.config.units := if_pos h

theorem units_of_not_reaches (h : ¬ j.Reaches) : j.units = [] := if_neg h

/-! ### What jobs leave -/

/-- **A job that comes to its workload appends its records.** -/
theorem leaves_of_reaches (h : j.Reaches) (hload : j.load.Ordinary) {place : Place} {content : Text}
    (hopen : files.openForAppend j.config.logPath = .ok (.file place content)) :
    j.leaves files = files.set place (.file (content ++ Record.block j.records)) := by
  have hrecords : j.records = ((Session.initial j.config j.env.hostName).hit
      (j.load.hits j.registration (Session.initial j.config j.env.hostName).units)).records := by
    rw [Session.records_hit_initial h.valid, Session.units_initial, records, units_of_reaches h,
      hits, if_pos h]
  have hne : j.records ≠ [] := by
    rw [records, units_of_reaches h]
    simpa using h.valid.units
  rw [leaves, report, files_run j.env _ h.valid h.2.1 h.accepted hload, ← hrecords]
  exact Flush.files_flush_of_file hne hopen

/-- A job whose run, if it comes to its workload, reports to the log at a path. -/
structure Orderly (path : Text) (j : Job) : Prop where
  shared : j.Reaches → j.config.logPath = path
  ordinary : j.Reaches → j.load.Ordinary
  quiet : j.Quiet

theorem leavesAll_cons (j : Job) (jobs : List Job) (files : FileSystem) :
    leavesAll (j :: jobs) files = leavesAll jobs (j.leaves files) := rfl

theorem leavesAll_of_not_reaches {jobs : List Job} (hquiet : ∀ j ∈ jobs, j.Quiet)
    (h : ∀ j ∈ jobs, ¬ j.Reaches) : leavesAll jobs files = files := by
  induction jobs with
  | nil => rfl
  | cons j jobs ih =>
    have hj : j.leaves files = files :=
      (report_of_not_reaches (h j (by simp))).2 (hquiet j (by simp))
    rw [leavesAll_cons, hj]
    exact ih (fun k hk => hquiet k (by simp [hk])) fun k hk => h k (by simp [hk])

/-- **The log behind several jobs** has the records of all of them. -/
theorem leavesAll_eq {path : Text} {jobs : List Job} (horderly : ∀ j ∈ jobs, j.Orderly path)
    (hreach : ∃ j ∈ jobs, j.Reaches) {place : Place} {content : Text}
    (hopen : files.openForAppend path = .ok (.file place content)) :
    leavesAll jobs files
      = files.set place (.file (content ++ Record.block (jobs.flatMap records))) := by
  induction jobs generalizing files content with
  | nil =>
    obtain ⟨j, hj, -⟩ := hreach
    cases hj
  | cons j jobs ih =>
    have hj : j.Orderly path := horderly j (by simp)
    have hjobs : ∀ k ∈ jobs, k.Orderly path := fun k hk => horderly k (by simp [hk])
    rw [leavesAll_cons, List.flatMap_cons]
    by_cases hfirst : j.Reaches
    · have hleaves := leaves_of_reaches hfirst (hj.ordinary hfirst)
        (by rw [hj.shared hfirst]; exact hopen)
      have hopen' := FileSystem.openForAppend_set hopen (content ++ Record.block j.records)
      rw [hleaves]
      by_cases hrest : ∃ k ∈ jobs, k.Reaches
      · rw [ih hjobs hrest hopen', FileSystem.set_set, Record.block_append, List.append_assoc]
      · have hnone : ∀ k ∈ jobs, ¬ k.Reaches := fun k hk hc => hrest ⟨k, hk, hc⟩
        have hnil : jobs.flatMap records = [] := by
          rw [List.flatMap_eq_nil_iff]
          intro k hk
          rw [records, units_of_not_reaches (hnone k hk)]
          rfl
        rw [leavesAll_of_not_reaches (fun k hk => (hjobs k hk).quiet) hnone, hnil,
          List.append_nil]
    · -- nothing happened, so one of the others comes to its workload
      have hleaves : j.leaves files = files := (report_of_not_reaches hfirst).2 hj.quiet
      have hrest : ∃ k ∈ jobs, k.Reaches := by
        obtain ⟨k, hk, hkr⟩ := hreach
        obtain rfl | hk := List.mem_cons.mp hk
        · exact absurd hkr hfirst
        · exact ⟨k, hk, hkr⟩
      rw [hleaves, ih hjobs hrest hopen, records, units_of_not_reaches hfirst]
      rfl

/-! ### Totals -/

/-- The sum of a site over records of different units is that of its unit. -/
theorem siteSum_map_recordOf {us : List UnitSpec} (hnodup : (us.map UnitSpec.identifier).Nodup)
    (f : Text → Nat → Nat) {unit : Text} {site : Nat}
    (hsite : ∀ u ∈ us, u.identifier = unit → site < u.sites.toNatClampNeg)
    (hmem : unit ∈ us.map UnitSpec.identifier) :
    Record.siteSum (us.map fun u => u.recordOf (f u.identifier)) unit site
      = Int64.ofNat (f unit site) := by
  induction us with
  | nil => cases hmem
  | cons u us ih =>
    obtain ⟨hnot, hnodup⟩ := List.nodup_cons.mp hnodup
    rw [List.map_cons, ← List.singleton_append, Record.siteSum_append, Record.siteSum_singleton]
    by_cases hu : u.identifier = unit
    · have hrest : unit ∉ (us.map fun u => u.recordOf (f u.identifier)).map Record.identifier := by
        rw [List.map_map, ← hu]
        exact hnot
      have hlt := hsite u (by simp) hu
      rw [Record.siteSum_of_not_mem hrest, Int64.add_zero, UnitSpec.identifier_recordOf, if_pos hu,
        hu]
      simp [UnitSpec.recordOf, hlt]
    · have hmem' : unit ∈ us.map UnitSpec.identifier := by
        simpa [Ne.symm hu] using hmem
      rw [ih hnodup (fun v hv => hsite v (by simp [hv])) hmem', UnitSpec.identifier_recordOf,
        if_neg hu, Int64.zero_add]

theorem unit_mem_of_mem_hits {h : Hit} (hh : h ∈ j.hits) :
    h.unit ∈ j.units.map UnitSpec.identifier := by
  rw [hits] at hh
  split at hh
  · rename_i hr
    have hload := (List.takeWhile_prefix _).subset hh
    rw [Workload.hits] at hload
    split at hload
    · obtain ⟨a, -, ha⟩ := List.mem_flatMap.mp hload
      rw [units_of_reaches hr]
      exact Action.unit_mem_of_mem_hits ha
    · cases hload
  · cases hh

/-- **What a job reports of a site** are its hits, as a word. -/
theorem siteSum_records {unit : Text} {site : Nat}
    (hsite : ∀ u ∈ j.units, u.identifier = unit → site < u.sites.toNatClampNeg) :
    Record.siteSum j.records unit site = Int64.ofNat (Hit.total j.hits unit site) := by
  by_cases hmem : unit ∈ j.units.map UnitSpec.identifier
  · have hnodup : (j.units.map UnitSpec.identifier).Nodup := by
      by_cases hr : j.Reaches
      · rw [units_of_reaches hr]
        exact hr.valid.distinct
      · rw [units_of_not_reaches hr]
        exact List.nodup_nil
    exact siteSum_map_recordOf hnodup (Hit.total j.hits) hsite hmem
  · have hrecords : unit ∉ j.records.map Record.identifier := by
      rw [records, List.map_map]
      exact hmem
    have hhits : j.hits.filter (fun h => h.unit = unit ∧ h.site = (site : Int)) = [] := by
      rw [List.filter_eq_nil_iff]
      intro h hh hc
      obtain ⟨rfl, -⟩ : h.unit = unit ∧ h.site = (site : Int) := by simpa using hc
      exact hmem (unit_mem_of_mem_hits hh)
    rw [Record.siteSum_of_not_mem hrecords, Hit.total, hhits]
    rfl

theorem siteSum_flatMap_records {jobs : List Job} {unit : Text} {site : Nat}
    (hsite : ∀ u ∈ jobs.flatMap units, u.identifier = unit → site < u.sites.toNatClampNeg) :
    Record.siteSum (jobs.flatMap records) unit site
      = Int64.ofNat (Hit.total (jobs.flatMap hits) unit site) := by
  induction jobs with
  | nil => rfl
  | cons j jobs ih =>
    rw [List.flatMap_cons] at hsite
    rw [List.flatMap_cons, List.flatMap_cons, Record.siteSum_append, Hit.total_append,
      Int64.ofNat_add, ih fun u hu => hsite u (by simp [hu]),
      siteSum_records fun u hu => hsite u (by simp [hu])]

/-! ### Reading the log -/

/-- Jobs whose totals can be told from the log at a path. -/
structure Accountable (path : Text) (jobs : List Job) : Prop where
  orderly : ∀ j ∈ jobs, j.Orderly path
  /-- A unit has the same number of sites in all runs. -/
  sites : ∀ u ∈ jobs.flatMap units, ∀ v ∈ jobs.flatMap units,
    u.identifier = v.identifier → u.sites = v.sites
  /-- No total needs more than a word. -/
  totals : ∀ unit site, Hit.total (jobs.flatMap hits) unit site < 2 ^ 63
  /-- All lines can be read. -/
  lines : ∀ r ∈ jobs.flatMap records, r.text.length ≤ 16777215

variable {path : Text} {jobs : List Job}

/-- A record of the log is that of some job's unit. -/
theorem exists_of_mem_records {r : Record} (hr : r ∈ jobs.flatMap records) :
    ∃ j ∈ jobs, ∃ u ∈ j.units, r = u.recordOf (Hit.total j.hits u.identifier) := by
  obtain ⟨j, hj, hr⟩ := List.mem_flatMap.mp hr
  obtain ⟨u, hu, rfl⟩ := List.mem_map.mp hr
  exact ⟨j, hj, u, hu, rfl⟩

theorem total_hits_le (hj : j ∈ jobs) (unit : Text) (site : Nat) :
    Hit.total j.hits unit site ≤ Hit.total (jobs.flatMap hits) unit site := by
  obtain ⟨before, behind, rfl⟩ := List.append_of_mem hj
  rw [List.flatMap_append, List.flatMap_cons, Hit.total_append, Hit.total_append]
  omega

theorem valid_of_mem_units {u : UnitSpec} (hu : u ∈ j.units) : u.Valid := by
  rw [units] at hu
  split at hu
  · rename_i hr
    exact hr.valid.each u hu
  · cases hu

/-- What jobs report can be read back. -/
theorem Accountable.readable (h : Accountable path jobs) :
    ∀ r ∈ jobs.flatMap records, r.Readable := by
  intro r hr
  obtain ⟨j, hj, u, hu, rfl⟩ := exists_of_mem_records hr
  have hvalid := valid_of_mem_units hu
  refine ⟨hvalid.named, hvalid.unbroken, ?_, ?_⟩
  · have hpos : 0 < u.sites.toNatClampNeg := by
      have hsites : 0 < u.sites.toInt := Int64.lt_iff_toInt_lt.mp hvalid.sited
      have hnat : u.sites.toNatClampNeg = u.sites.toInt.toNat := rfl
      omega
    rw [← List.length_pos_iff, u.length_recordOf]
    exact hpos
  · intro c hc
    obtain ⟨site, -, rfl⟩ := List.mem_map.mp hc
    have hlt := h.totals u.identifier site
    have hle := total_hits_le hj u.identifier site
    rw [Int64.le_iff_toInt_le, Int64.toInt_ofNat_of_lt (by omega)]
    exact Int.natCast_nonneg _

/-- Records of one unit have the same number of sites. -/
theorem Accountable.consistent (h : Accountable path jobs) :
    Record.Consistent (jobs.flatMap records) := by
  intro r hr r' hr' hid
  obtain ⟨j, hj, u, hu, rfl⟩ := exists_of_mem_records hr
  obtain ⟨j', hj', u', hu', rfl⟩ := exists_of_mem_records hr'
  have hsites := h.sites u (List.mem_flatMap.mpr ⟨j, hj, hu⟩) u'
    (List.mem_flatMap.mpr ⟨j', hj', hu'⟩) hid
  rw [u.length_recordOf, u'.length_recordOf, hsites]

/-- Loading the log of several jobs gives all their records. -/
theorem Accountable.load_leavesAll (h : Accountable path jobs) (hreach : ∃ j ∈ jobs, j.Reaches)
    {place : Place} (hopen : files.openForAppend path = .ok (.file place [])) :
    Log.load (leavesAll jobs files) path = .ok (jobs.flatMap records) := by
  have hlines : ∀ r ∈ jobs.flatMap records, r.text.length < Log.bufferSize := by
    intro r hr
    have := h.lines r hr
    rw [Log.bufferSize]
    omega
  rw [leavesAll_eq h.orderly hreach hopen, List.nil_append, Log.load,
    FileSystem.isEndless_set hopen, FileSystem.read_set hopen]
  simp only [Log.read_block h.readable hlines]
  rfl

/-- The counts of a merged record are exact totals. -/
theorem Accountable.counts_eq (h : Accountable path jobs) {merged : List Record}
    (hsums : Record.Sums (jobs.flatMap records) merged) {m : Record} (hm : m ∈ merged)
    {u : UnitSpec} (hu : u ∈ jobs.flatMap units) (hid : u.identifier = m.identifier) :
    m.counts.map Int64.toInt
      = (List.range u.sites.toNatClampNeg).map fun site =>
          (Hit.total (jobs.flatMap hits) m.identifier site : Int) := by
  obtain ⟨j, hj, hju⟩ := List.mem_flatMap.mp hu
  have hrecord : u.recordOf (Hit.total j.hits u.identifier) ∈ jobs.flatMap records :=
    List.mem_flatMap.mpr ⟨j, hj, List.mem_map_of_mem hju⟩
  have hlength : m.counts.length = u.sites.toNatClampNeg := by
    rw [← hsums.length m hm _ hrecord hid, u.length_recordOf]
  refine List.ext_getElem (by simp [hlength]) fun site hsite _ => ?_
  rw [List.length_map] at hsite
  have hlt : ∀ v ∈ jobs.flatMap units, v.identifier = m.identifier →
      site < v.sites.toNatClampNeg := by
    intro v hv hvid
    rw [h.sites v hv u hu (hvid.trans hid.symm), ← hlength]
    exact hsite
  have hcount : m.counts[site] = Int64.ofNat (Hit.total (jobs.flatMap hits) m.identifier site) := by
    rw [← siteSum_flatMap_records hlt, ← hsums.sum m hm site, List.getD_eq_getElem?_getD,
      List.getElem?_eq_getElem hsite, Option.getD_some]
  rw [List.getElem_map, List.getElem_map, List.getElem_range, hcount,
    Int64.toInt_ofNat_of_lt (h.totals m.identifier site)]

end Job

/-- **No count is lost or duplicated.**

Several runs share a log that was empty or absent, and at least one of them comes to its workload.
Then the log can be read and its records can be merged. There is one record for each unit that was
reported, in the order of the first reports, and the counts of its sites are the totals of the hits
that were made in all runs, each before the first finalisation of its run. -/
theorem merge_load_eq_totals (path : Text) (files : FileSystem) (place : Place) (jobs : List Job)
    (h : Job.Accountable path jobs) (hopen : files.openForAppend path = .ok (.file place []))
    (hreach : ∃ j ∈ jobs, (j.report files).called = true) :
    ∃ records merged, Log.load (Job.leavesAll jobs files) path = .ok records ∧
      Record.merge records = .ok merged ∧
      (merged.map Record.identifier).Nodup ∧
      merged.map Record.identifier
        = ((jobs.flatMap Job.units).map UnitSpec.identifier).eraseDups ∧
      ∀ m ∈ merged, ∀ u ∈ jobs.flatMap Job.units, u.identifier = m.identifier →
        m.counts.map Int64.toInt
          = (List.range u.sites.toNatClampNeg).map fun site =>
              (Hit.total (jobs.flatMap Job.hits) m.identifier site : Int) := by
  have hreach' : ∃ j ∈ jobs, j.Reaches := by
    obtain ⟨j, hj, hcalled⟩ := hreach
    exact ⟨j, hj, (j.called_report_iff files).mp hcalled⟩
  obtain ⟨merged, hmerge, hsums⟩ := Record.merge_of_consistent h.consistent
  have hids : (jobs.flatMap Job.records).map Record.identifier
      = (jobs.flatMap Job.units).map UnitSpec.identifier := by
    rw [List.map_flatMap, List.map_flatMap]
    refine congrArg (List.flatMap · jobs) (funext fun j => ?_)
    rw [Job.records, List.map_map]
    rfl
  refine ⟨_, merged, h.load_leavesAll hreach' hopen, hmerge, hsums.nodup, ?_, ?_⟩
  · rw [hsums.identifiers, hids]
  · intro m hm u hu hid
    exact h.counts_eq hsums hm hu hid

/-- Four runs on a log that is not there yet: one that stops at a site that is not there, one with a
configuration that is not valid, one with a registration that is refused, and one with another
configuration that counts behind its finalisation and fails. -/
theorem merge_load_eq_totals_of_four :
    let config : Config := { Sample.config with logPath := "m" }
    let job (config : Config) (registration : Option Registration) (actions : List Action)
        (ending : Ending) : Job :=
      ⟨Sample.env, config, registration, ⟨actions, fun _ => ending⟩, Sample.network, []⟩
    let jobs : List Job :=
      [job config none [.table "u" (.add 1 3), .table "v" (.inc 0), .table "v" (.inc 4),
          .table "u" (.inc 0)] .finish,
        job { config with logPath := [] } none [.table "u" (.inc 0)] .finish,
        job config (some ⟨0, some "n"⟩) [.table "u" (.inc 0)] .finish,
        job { config with units := [⟨"u", 2⟩] } (some ⟨0, none⟩)
          [.table "u" (.inc 1), .table "v" (.inc 0), .hook, .table "u" (.inc 0)]
          (.fail ⟨[], []⟩)]
    ∃ records merged, Log.load (Job.leavesAll jobs Sample.files) "m" = .ok records ∧
      Record.merge records = .ok merged ∧
      merged.map Record.identifier = ["u", "v"] ∧
      ∀ m ∈ merged, (m.identifier = "u" → m.counts.map Int64.toInt = [0, 4]) ∧
        (m.identifier = "v" → m.counts.map Int64.toInt = [1]) := by
  intro config job jobs
  have hhits : jobs.flatMap Job.hits
      = [⟨"u", 1, 3⟩] ++ [⟨"v", 0, 1⟩] ++ [⟨"u", 1, 1⟩] := rfl
  have hunits : jobs.flatMap Job.units = [⟨"u", 2⟩, ⟨"v", 1⟩, ⟨"u", 2⟩] := rfl
  have haccountable : Job.Accountable "m" jobs := by
    refine ⟨?_, ?_, fun unit site => ?_, by decide +kernel⟩
    · intro j hj
      simp only [jobs, job, List.mem_cons, List.not_mem_nil, or_false] at hj
      obtain rfl | rfl | rfl | rfl := hj
      · exact ⟨fun _ => rfl, fun _ => ⟨by simp [Action.Ordinary], fun _ _ h => by cases h⟩,
          fun _ r hr => by cases hr⟩
      · exact ⟨fun h => absurd h (by decide), fun h => absurd h (by decide),
          fun h => absurd h (by decide)⟩
      · exact ⟨fun h => absurd h (by decide), fun h => absurd h (by decide),
          fun _ r hr _ => by cases hr; rfl⟩
      · exact ⟨fun _ => rfl, fun _ => ⟨by simp [Action.Ordinary], fun _ _ h => by cases h⟩,
          fun _ r hr _ => by cases hr; rfl⟩
    · rw [hunits]
      decide
    · rw [hhits]
      simp only [Hit.total_append, Hit.total_singleton, Table.total_cons, Table.total_nil]
      split_ifs <;> omega
  obtain ⟨records, merged, hload, hmerge, -, hids, hcounts⟩ :=
    merge_load_eq_totals "m" Sample.files ["w", "m"] jobs haccountable rfl
      ⟨_, List.mem_cons_self, rfl⟩
  rw [hhits, hunits] at hcounts
  refine ⟨records, merged, hload, hmerge, hids.trans (by rw [hunits]; decide), fun m hm => ⟨?_, ?_⟩⟩
  · intro hid
    rw [hcounts m hm ⟨"u", 2⟩ (by simp) hid.symm, hid]
    rfl
  · intro hid
    rw [hcounts m hm ⟨"v", 1⟩ (by simp) hid.symm, hid]
    rfl

end HitLog
