import HitLog.Proofs.Config
import Mathlib.Data.List.Induction

/-!
# The first violation

The check of a configuration is one walk over the units, with the identifiers seen so far. What it
reports can be said without the walk. The unit is the first with which the units up to it cannot
stand together any more, and the reason is the first that applies to that unit, in a fixed order.

## Main definitions

* `Config.Acceptable` — units that can stand together
* `Config.Reason` — what is reported of a unit behind others

## Main results

* `Config.unitsViolation?_append` — the walk over a list in two parts
* `Config.unitsViolation?_eq_some_iff` — what the walk reports
* `Config.reports_first_violation` — what the check of a configuration accepts and reports
-/

namespace HitLog

open scoped Text

/-! ### Valid units -/

theorem Text.any_isLineEnd_iff {t : Text} :
    t.any isLineEnd = true ↔ lineFeed ∈ t ∨ carriageReturn ∈ t := by
  simp only [List.any_eq_true, isLineEnd, Bool.or_eq_true, beq_iff_eq]
  constructor
  · rintro ⟨b, hb, rfl | rfl⟩
    · exact .inl hb
    · exact .inr hb
  · rintro (h | h)
    · exact ⟨_, h, .inl rfl⟩
    · exact ⟨_, h, .inr rfl⟩

theorem UnitSpec.valid_iff {u : UnitSpec} :
    u.Valid ↔ u.identifier ≠ [] ∧ Text.lineFeed ∉ u.identifier ∧
      Text.carriageReturn ∉ u.identifier ∧ 0 < u.sites := by
  have hunbroken : (∀ b ∈ u.identifier, Text.isLineEnd b = false) ↔
      Text.lineFeed ∉ u.identifier ∧ Text.carriageReturn ∉ u.identifier := by
    rw [← not_or, ← Text.any_isLineEnd_iff, List.any_eq_true]
    simp
  constructor
  · intro h
    obtain ⟨hfeed, hreturn⟩ := hunbroken.mp h.unbroken
    exact ⟨h.named, hfeed, hreturn, h.sited⟩
  · rintro ⟨hnamed, hfeed, hreturn, hsited⟩
    exact ⟨hnamed, hunbroken.mpr ⟨hfeed, hreturn⟩, hsited⟩

namespace Config

/-! ### One unit -/

/-- Units that can stand in a configuration together. -/
structure Acceptable (us : List UnitSpec) : Prop where
  each : ∀ u ∈ us, u.Valid
  distinct : (us.map UnitSpec.identifier).Nodup

/-- What is reported of a unit behind others. An empty identifier comes before a line break, that
before a missing site, and a repeated identifier comes last. -/
inductive Reason (earlier : List UnitSpec) (u : UnitSpec) : Violation → Prop
  | emptyIdentifier (h : u.identifier = []) : Reason earlier u .emptyIdentifier
  | lineBreak (hnamed : u.identifier ≠ [])
      (h : Text.lineFeed ∈ u.identifier ∨ Text.carriageReturn ∈ u.identifier) :
      Reason earlier u (.lineBreak u.identifier)
  | noSite (hnamed : u.identifier ≠ [])
      (hunbroken : ¬ (Text.lineFeed ∈ u.identifier ∨ Text.carriageReturn ∈ u.identifier))
      (h : u.sites ≤ 0) : Reason earlier u (.noSite u.identifier)
  | duplicate (hvalid : u.Valid) (h : ∃ w ∈ earlier, w.identifier = u.identifier) :
      Reason earlier u (.duplicate u.identifier)

theorem unitViolation?_eq_some_iff {earlier : List UnitSpec} {u : UnitSpec} {v : Violation} :
    unitViolation? (earlier.map UnitSpec.identifier).reverse u = some v ↔ Reason earlier u v := by
  simp only [unitViolation?, List.isEmpty_iff, Text.any_isLineEnd_iff, List.mem_reverse,
    List.mem_map]
  constructor
  · intro h
    split at h
    · rename_i hempty
      cases h
      exact .emptyIdentifier hempty
    rename_i hnamed
    split at h
    · rename_i hbreak
      cases h
      exact .lineBreak hnamed hbreak
    rename_i hunbroken
    split at h
    · rename_i hsite
      cases h
      exact .noSite hnamed hunbroken hsite
    rename_i hsited
    split at h
    · rename_i hearlier
      cases h
      obtain ⟨hfeed, hreturn⟩ := not_or.mp hunbroken
      exact .duplicate
        (UnitSpec.valid_iff.mpr ⟨hnamed, hfeed, hreturn, Int64.not_le.mp hsited⟩) hearlier
    · cases h
  · rintro (hempty | ⟨hnamed, hbreak⟩ | ⟨hnamed, hunbroken, hsite⟩ | ⟨hvalid, hearlier⟩)
    · rw [if_pos hempty]
    · rw [if_neg hnamed, if_pos hbreak]
    · rw [if_neg hnamed, if_neg hunbroken, if_pos hsite]
    · obtain ⟨hnamed, hfeed, hreturn, hsited⟩ := UnitSpec.valid_iff.mp hvalid
      rw [if_neg hnamed, if_neg (not_or.mpr ⟨hfeed, hreturn⟩), if_neg (Int64.not_le.mpr hsited),
        if_pos hearlier]

/-! ### The walk -/

/-- The walk goes on with the identifiers of the units behind it. -/
theorem unitsViolation?_append (seen : List Text) (us vs : List UnitSpec) :
    unitsViolation? seen (us ++ vs) = (unitsViolation? seen us).or
      (unitsViolation? ((us.map UnitSpec.identifier).reverse ++ seen) vs) := by
  induction us generalizing seen with
  | nil => rfl
  | cons u us ih =>
    rw [List.cons_append, unitsViolation?, unitsViolation?]
    cases unitViolation? seen u with
    | some v => rfl
    | none => simp [ih]

theorem unitsViolation?_eq_none_iff_acceptable {us : List UnitSpec} :
    unitsViolation? [] us = none ↔ Acceptable us := by
  rw [unitsViolation?_eq_none_iff]
  exact ⟨fun ⟨heach, hdistinct, _⟩ => ⟨heach, hdistinct⟩,
    fun h => ⟨h.each, h.distinct, fun _ _ => List.not_mem_nil⟩⟩

theorem unitsViolation?_append_of_acceptable {us : List UnitSpec} (h : Acceptable us)
    (vs : List UnitSpec) : unitsViolation? [] (us ++ vs)
      = unitsViolation? (us.map UnitSpec.identifier).reverse vs := by
  rw [unitsViolation?_append, unitsViolation?_eq_none_iff_acceptable.mpr h, Option.none_or,
    List.append_nil]

/-- **The walk reports the first unit that cannot be accepted** behind those before it. -/
theorem unitsViolation?_eq_some_iff {us : List UnitSpec} {v : Violation} :
    unitsViolation? [] us = some v ↔
      ∃ before u after, us = before ++ u :: after ∧ Acceptable before ∧
        ¬ Acceptable (before ++ [u]) ∧ Reason before u v := by
  constructor
  · -- the units that were accepted are those in front of the last one, so the list grows at its end
    intro h
    induction us using List.reverseRecOn with
    | nil => cases h
    | append_singleton us u ih =>
      cases hus : unitsViolation? [] us with
      | some w =>
        rw [unitsViolation?_append, hus, Option.some_or] at h
        obtain ⟨before, x, after, rfl, hfirst⟩ := ih (hus.trans h)
        exact ⟨before, x, after ++ [u], by simp, hfirst⟩
      | none =>
        have hacceptable := unitsViolation?_eq_none_iff_acceptable.mp hus
        have hrefused : ¬ Acceptable (us ++ [u]) := by
          rw [← unitsViolation?_eq_none_iff_acceptable, h]
          exact Option.some_ne_none v
        rw [unitsViolation?_append_of_acceptable hacceptable, unitsViolation?] at h
        split at h
        · rename_i w hunit
          cases h
          exact ⟨us, u, [], rfl, hacceptable, hrefused, unitViolation?_eq_some_iff.mp hunit⟩
        · cases h
  · rintro ⟨before, u, after, rfl, hbefore, -, hreason⟩
    rw [unitsViolation?_append_of_acceptable hbefore, unitsViolation?,
      unitViolation?_eq_some_iff.mpr hreason]

/-! ### The whole check -/

/-- Every violation is recognised as an invalid configuration, by its kind and by its wording. -/
theorem Violation.kinds_and_message (v : Violation) :
    v.kinds = [.invalidConfig] ∧ Text.ofString "invalid config: " <+: v.message := by
  have hquoted : ∀ (head : String) (rest : Text),
      Text.ofString "invalid config: " <+: Text.ofString head →
        Text.ofString "invalid config: " <+: Text.ofString head ++ rest :=
    fun _ _ h => h.trans (List.prefix_append _ _)
  refine ⟨rfl, ?_⟩
  cases v with
  | emptyLogPath => decide
  | noUnits => decide
  | emptyIdentifier => decide
  | lineBreak u =>
    rw [message, List.append_assoc]
    exact hquoted _ _ (by decide)
  | noSite u =>
    rw [message, List.append_assoc]
    exact hquoted _ _ (by decide)
  | duplicate u => exact hquoted _ _ (by decide)

/-- **The check accepts exactly the valid configurations and reports the first violation.** A
missing path of the log comes first, then missing units, then the first unit with which the units up
to it cannot stand together, for the first reason that applies to it. Whatever is reported is
recognised as an invalid configuration. -/
theorem reports_first_violation (c : Config) :
    (c.violation? = none ↔
      c.logPath ≠ [] ∧ c.units ≠ [] ∧
        (∀ u ∈ c.units, u.identifier ≠ [] ∧ Text.lineFeed ∉ u.identifier ∧
          Text.carriageReturn ∉ u.identifier ∧ 0 < u.sites) ∧
        (c.units.map UnitSpec.identifier).Nodup) ∧
      (∀ v, c.violation? = some v ↔
        (c.logPath = [] ∧ v = .emptyLogPath) ∨
        (c.logPath ≠ [] ∧ c.units = [] ∧ v = .noUnits) ∨
        (c.logPath ≠ [] ∧ ∃ before u after, c.units = before ++ u :: after ∧
          Acceptable before ∧ ¬ Acceptable (before ++ [u]) ∧ Reason before u v)) ∧
      ∀ v, c.violation? = some v →
        v.kinds = [.invalidConfig] ∧ Text.ofString "invalid config: " <+: v.message := by
  refine ⟨?_, fun v => ?_, fun v _ => v.kinds_and_message⟩
  · rw [violation?_eq_none_iff]
    simp only [← UnitSpec.valid_iff]
    exact ⟨fun h => ⟨h.logPath, h.units, h.each, h.distinct⟩,
      fun ⟨hpath, hunits, heach, hdistinct⟩ => ⟨hpath, hunits, heach, hdistinct⟩⟩
  · rw [← unitsViolation?_eq_some_iff, violation?]
    simp only [List.isEmpty_iff]
    constructor
    · intro h
      split at h
      · rename_i hpath
        exact .inl ⟨hpath, (Option.some.inj h).symm⟩
      rename_i hpath
      split at h
      · rename_i hunits
        exact .inr (.inl ⟨hpath, hunits, (Option.some.inj h).symm⟩)
      · exact .inr (.inr ⟨hpath, h⟩)
    · rintro (⟨hpath, rfl⟩ | ⟨hpath, hunits, rfl⟩ | ⟨hpath, h⟩)
      · rw [if_pos hpath]
      · rw [if_neg hpath, if_pos hunits]
      · have hunits : c.units ≠ [] := by
          intro hc
          rw [hc] at h
          cases h
        rw [if_neg hpath, if_neg hunits, h]

/-- The third unit has a broken identifier and no site, and the fourth repeats the first: the line
break is reported. -/
theorem reports_first_violation_of_line_break :
    let a : UnitSpec := ⟨"a", 1⟩
    let b : UnitSpec := ⟨"b", 2⟩
    let broken : UnitSpec := ⟨"a\n", 0⟩
    let c : Config := { Config.default with units := [a, b, broken, a] }
    Acceptable [a, b] ∧ ¬ Acceptable [a, b, broken] ∧
      c.violation? = some (.lineBreak "a\n") := by
  intro a b broken c
  have hbefore : Acceptable [a, b] := unitsViolation?_eq_none_iff_acceptable.mp (by decide)
  have hbroken : ¬ Acceptable [a, b, broken] := fun h =>
    absurd (unitsViolation?_eq_none_iff_acceptable.mpr h) (by decide)
  have hreason : Reason [a, b] broken (.lineBreak "a\n") :=
    .lineBreak (by decide) (.inl (by decide))
  refine ⟨hbefore, hbroken, ((reports_first_violation c).2.1 _).mpr (.inr (.inr ?_))⟩
  exact ⟨by decide, [a, b], broken, [a], rfl, hbefore, hbroken, hreason⟩

end Config

end HitLog
