import HitLog.Session

/-!
# Valid configurations and their sessions

The check of a configuration walks through the units with the identifiers seen so far and stops at
the first violation. What it accepts can be said without any order: `Config.Valid`. A session of
such a configuration starts with one table of zeros for each unit, unless a unit has more sites than
there is room for.

## Main definitions

* `Config.Valid` — what the check accepts
* `Session.initial` — the session that a valid configuration starts with

## Main results

* `Config.violation?_eq_none_iff` — the check accepts exactly the valid configurations
* `Session.start_eq_ok` — a valid configuration with room for its sites starts
* `Session.start_eq_ok_iff` — nothing else does
-/

namespace HitLog

/-- A unit that a record can be written for. -/
structure UnitSpec.Valid (u : UnitSpec) : Prop where
  named : u.identifier ≠ []
  unbroken : ∀ b ∈ u.identifier, Text.isLineEnd b = false
  sited : 0 < u.sites

namespace Config

/-- A configuration that a run accepts. -/
structure Valid (c : Config) : Prop where
  logPath : c.logPath ≠ []
  units : c.units ≠ []
  each : ∀ u ∈ c.units, u.Valid
  distinct : (c.units.map UnitSpec.identifier).Nodup

theorem unitViolation?_eq_none_iff {seen : List Text} {u : UnitSpec} :
    unitViolation? seen u = none ↔ u.Valid ∧ u.identifier ∉ seen := by
  rw [unitViolation?]
  constructor
  · intro h
    split at h
    · cases h
    rename_i hnamed
    split at h
    · cases h
    rename_i hunbroken
    split at h
    · cases h
    rename_i hsited
    split at h
    · cases h
    rename_i hseen
    refine ⟨⟨by simpa using hnamed, fun b hb => ?_, Int64.not_le.mp hsited⟩, hseen⟩
    rw [← Bool.not_eq_true]
    exact fun hend => hunbroken (List.any_eq_true.mpr ⟨b, hb, hend⟩)
  · rintro ⟨hu, hseen⟩
    have hunbroken : ¬ u.identifier.any Text.isLineEnd = true := fun hany => by
      obtain ⟨b, hb, hend⟩ := List.any_eq_true.mp hany
      rw [hu.unbroken b hb] at hend
      cases hend
    rw [if_neg (by simpa using hu.named), if_neg hunbroken, if_neg (Int64.not_le.mpr hu.sited),
      if_neg hseen]

theorem unitsViolation?_eq_none_iff {seen : List Text} {us : List UnitSpec} :
    unitsViolation? seen us = none ↔
      (∀ u ∈ us, u.Valid) ∧ (us.map UnitSpec.identifier).Nodup ∧
        ∀ u ∈ us, u.identifier ∉ seen := by
  induction us generalizing seen with
  | nil => simp [unitsViolation?]
  | cons u us ih =>
    have hstep : unitsViolation? seen (u :: us) = none ↔
        unitViolation? seen u = none ∧ unitsViolation? (u.identifier :: seen) us = none := by
      rw [unitsViolation?]
      cases unitViolation? seen u <;> simp
    rw [hstep, unitViolation?_eq_none_iff, ih]
    constructor
    · rintro ⟨⟨hu, hseen⟩, hus, hnodup, hnew⟩
      refine ⟨?_, ?_, ?_⟩
      · simpa using ⟨hu, hus⟩
      · refine List.nodup_cons.mpr ⟨fun hmem => ?_, hnodup⟩
        obtain ⟨v, hv, hvu⟩ := List.mem_map.mp hmem
        exact hnew v hv (by simp [hvu])
      · intro v hv
        rcases List.mem_cons.mp hv with rfl | hv
        · exact hseen
        · exact fun hmem => hnew v hv (List.mem_cons_of_mem _ hmem)
    · rintro ⟨hvalid, hnodup, hnew⟩
      obtain ⟨hfirst, hnodup⟩ := List.nodup_cons.mp hnodup
      refine ⟨⟨hvalid u (by simp), hnew u (by simp)⟩, fun v hv => hvalid v (by simp [hv]), hnodup,
        fun v hv hmem => ?_⟩
      rcases List.mem_cons.mp hmem with heq | hmem
      · exact hfirst (heq ▸ List.mem_map_of_mem hv)
      · exact hnew v (by simp [hv]) hmem

/-- **The check accepts exactly the valid configurations.** -/
theorem violation?_eq_none_iff {c : Config} : c.violation? = none ↔ c.Valid := by
  rw [violation?]
  constructor
  · intro h
    split at h
    · cases h
    rename_i hpath
    split at h
    · cases h
    rename_i hunits
    obtain ⟨heach, hdistinct, -⟩ := unitsViolation?_eq_none_iff.mp h
    exact ⟨by simpa using hpath, by simpa using hunits, heach, hdistinct⟩
  · intro h
    rw [if_neg (by simpa using h.logPath), if_neg (by simpa using h.units)]
    exact unitsViolation?_eq_none_iff.mpr ⟨h.each, h.distinct, by simp⟩

/-- There is room for the counters of every unit. -/
def Roomy (c : Config) : Prop := ∀ u ∈ c.units, u.sites.toInt ≤ Table.maxSites

instance : DecidablePred Roomy := fun c =>
  inferInstanceAs (Decidable (∀ u ∈ c.units, u.sites.toInt ≤ Table.maxSites))

end Config

/-- The record of a unit of which no site was executed. -/
def UnitSpec.zeroRecord (u : UnitSpec) : Record :=
  ⟨u.identifier, List.replicate u.sites.toNatClampNeg 0⟩

namespace Session

/-- The table that counting starts with. -/
def zeroTable (u : UnitSpec) : Table := ⟨u.identifier, List.replicate u.sites.toNatClampNeg 0⟩

/-- The session that a configuration starts with. -/
def initial (config : Config) (hostName : Text) : Session where
  config := config
  tables := config.units.map zeroTable
  exporter := if config.exporting.enabled then some (.make config.exporting hostName) else none
  verdict := none

theorem records_initial (config : Config) (hostName : Text) :
    (initial config hostName).records = config.units.map UnitSpec.zeroRecord := by
  rw [records, initial, List.map_map]
  rfl

theorem make_eq_ok {u : UnitSpec} (hu : u.Valid) (hroom : u.sites.toInt ≤ Table.maxSites) :
    Table.make u.identifier u.sites = .ok (zeroTable u) := by
  have hpos : 0 ≤ u.sites.toInt := by
    have := Int64.lt_iff_toInt_lt.mp hu.sited
    simp at this
    omega
  rw [Table.make, if_pos ⟨hpos, hroom⟩, Int64.toNat_toInt, zeroTable]

theorem makeTables_eq_ok {us : List UnitSpec} (hvalid : ∀ u ∈ us, u.Valid)
    (hroom : ∀ u ∈ us, u.sites.toInt ≤ Table.maxSites) :
    makeTables us = .ok (us.map zeroTable) := by
  rw [makeTables]
  induction us with
  | nil => rfl
  | cons u us ih =>
    rw [List.mapM_cons, make_eq_ok (hvalid u (by simp)) (hroom u (by simp)),
      ih (fun v hv => hvalid v (by simp [hv])) fun v hv => hroom v (by simp [hv])]
    rfl

/-- **A valid configuration with room for its sites starts.** -/
theorem start_eq_ok {config : Config} (hvalid : config.Valid) (hroom : config.Roomy)
    (hostName : Text) : start config hostName = .ok (initial config hostName) := by
  rw [start, Config.violation?_eq_none_iff.mpr hvalid]
  simp only
  rw [makeTables_eq_ok hvalid.each hroom]
  rfl

/-- Tables are made for all units or for none. -/
theorem le_maxSites_of_makeTables {us : List UnitSpec} {tables : List Table}
    (h : makeTables us = .ok tables) : ∀ u ∈ us, u.sites.toInt ≤ Table.maxSites := by
  rw [makeTables] at h
  induction us generalizing tables with
  | nil => simp
  | cons u us ih =>
    rw [List.mapM_cons] at h
    rw [Table.make] at h
    split at h
    · rename_i hsites
      cases hrest : us.mapM fun u => Table.make u.identifier u.sites with
      | error e => simp [hrest, bind, Except.bind] at h
      | ok rest => simpa using ⟨hsites.2, ih hrest⟩
    · cases h

/-- **What starts is the initial session of a valid configuration with room for its sites.** -/
theorem start_eq_ok_iff {config : Config} {hostName : Text} {s : Session} :
    start config hostName = .ok s ↔
      config.Valid ∧ config.Roomy ∧ s = initial config hostName := by
  constructor
  · intro h
    have hstart := h
    rw [start] at h
    split at h
    · cases h
    rename_i hviolation
    split at h
    · cases h
    rename_i tables htables
    have hvalid := Config.violation?_eq_none_iff.mp hviolation
    have hroom : config.Roomy := le_maxSites_of_makeTables htables
    rw [start_eq_ok hvalid hroom] at hstart
    cases hstart
    exact ⟨hvalid, hroom, rfl⟩
  · rintro ⟨hvalid, hroom, rfl⟩
    exact start_eq_ok hvalid hroom hostName

end Session

end HitLog
