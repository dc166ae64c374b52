import HitLog.Session
import HitLog.Proofs.Counting
import Mathlib.Data.List.Nodup

/-!
# Hits on the tables of a session

Code counts in one table; a session has several. A hit names a unit beside the site, and a list of
hits is to the tables of a session what a list of touches is to one table: hits are made in order,
and the first on a site that is not there stops them all, whichever unit it is in.

Finding a table and putting it back is how a session counts. Where no two tables share an identifier
this comes to adding, in each table, the totals of the hits on its unit, up to the first hit that
does not fit. That is `Session.hitAll_snd`, and nothing behind it speaks of finding and putting
back.

## Main definitions

* `Hit`, `Hit.total` — executions of a site of a unit, and their sum
* `Hit.fits` — the hits that find their site
* `Session.hitAll` — make hits in order
* `Session.plusAll` — tables with totals added

## Main results

* `Session.hitAll_on` — code that follows touches makes hits on its unit
* `Session.hitAll_snd` — what hits add
-/

namespace HitLog

/-- Executions of one site of a unit. -/
structure Hit where
  unit : Text
  site : Int
  amount : Nat

namespace Hit

/-- A touch of a unit's table as a hit. -/
def on (unit : Text) (x : Table.Touch) : Hit := ⟨unit, x.1, x.2⟩

/-- The executions of one site of a unit. -/
def total (hs : List Hit) (unit : Text) (site : Nat) : Nat :=
  ((hs.filter fun h => h.unit = unit ∧ h.site = (site : Int)).map amount).sum

/-- The unit of the hit has its site, if it is one of the given units with their numbers of
sites. -/
def fits (shapes : List (Text × Nat)) (h : Hit) : Prop :=
  ∀ x ∈ shapes, x.1 = h.unit → 0 ≤ h.site ∧ h.site < x.2

instance (shapes : List (Text × Nat)) : DecidablePred (fits shapes) := fun h =>
  inferInstanceAs (Decidable (∀ x ∈ shapes, x.1 = h.unit → 0 ≤ h.site ∧ h.site < x.2))

theorem total_nil (unit : Text) (site : Nat) : total [] unit site = 0 := rfl

theorem total_append (hs ks : List Hit) (unit : Text) (site : Nat) :
    total (hs ++ ks) unit site = total hs unit site + total ks unit site := by
  simp [total]

theorem total_singleton (h : Hit) (unit : Text) (site : Nat) :
    total [h] unit site = if h.unit = unit then Table.total [(h.site, h.amount)] site else 0 := by
  by_cases hunit : h.unit = unit <;> by_cases hsite : h.site = (site : Int) <;>
    simp [total, Table.total, hunit, hsite]

end Hit

namespace Session

/-! ### Putting a table back -/

variable {t t' : Table} {tables : List Table} {unit : Text}

theorem identifier_of_find? (h : tables.find? (·.identifier = unit) = some t) :
    t.identifier = unit := by
  simpa using List.find?_some h

theorem setTable_of_find? (h : tables.find? (·.identifier = unit) = some t) :
    setTable t tables = tables := by
  have hunit := identifier_of_find? h
  induction tables with
  | nil => rfl
  | cons u us ih =>
    rw [setTable]
    by_cases hu : u.identifier = unit
    · have hut : u = t := by simpa [hu] using h
      rw [if_pos (by rw [hut]), hut]
    · have hrest : us.find? (·.identifier = unit) = some t := by simpa [hu] using h
      rw [if_neg (by rw [hunit]; exact hu), ih hrest]

theorem setTable_setTable (h : t'.identifier = t.identifier) (tables : List Table) :
    setTable t' (setTable t tables) = setTable t' tables := by
  induction tables with
  | nil => rfl
  | cons u us ih =>
    by_cases hu : u.identifier = t.identifier
    · rw [setTable, if_pos hu, setTable, if_pos h.symm, setTable, if_pos (hu.trans h.symm)]
    · have hu' : u.identifier ≠ t'.identifier := by rw [h]; exact hu
      rw [setTable, if_neg hu, setTable, if_neg hu', setTable, if_neg hu', ih]

theorem find?_setTable (hunit : t'.identifier = unit)
    (h : tables.find? (·.identifier = unit) = some t) :
    (setTable t' tables).find? (·.identifier = unit) = some t' := by
  induction tables with
  | nil => cases h
  | cons u us ih =>
    rw [setTable]
    by_cases hu : u.identifier = unit
    · rw [if_pos (hu.trans hunit.symm), List.find?_cons_of_pos (by simpa using hunit)]
    · have hrest : us.find? (·.identifier = unit) = some t := by simpa [hu] using h
      rw [if_neg (by rw [hunit]; exact hu), List.find?_cons_of_neg (by simpa using hu), ih hrest]

/-- The tables of other units stay. -/
theorem find?_setTable_of_ne (h : t'.identifier ≠ unit) (tables : List Table) :
    (setTable t' tables).find? (·.identifier = unit) = tables.find? (·.identifier = unit) := by
  induction tables with
  | nil => rfl
  | cons u us ih =>
    rw [setTable]
    by_cases hu : u.identifier = t'.identifier
    · rw [if_pos hu, List.find?_cons_of_neg (by simpa using h),
        List.find?_cons_of_neg (by simpa [hu] using h)]
    · rw [if_neg hu, List.find?_cons, List.find?_cons, ih]

theorem map_shape_setTable (h : tables.find? (·.identifier = unit) = some t)
    (hshape : t'.shape = t.shape) :
    (setTable t' tables).map Table.shape = tables.map Table.shape := by
  have hid : t'.identifier = unit :=
    (congrArg Prod.fst hshape : t'.identifier = t.identifier).trans (identifier_of_find? h)
  induction tables with
  | nil => cases h
  | cons u us ih =>
    rw [setTable]
    by_cases hu : u.identifier = unit
    · have hut : u = t := by simpa [hu] using h
      rw [if_pos (hu.trans hid.symm), List.map_cons, List.map_cons, hshape, hut]
    · have hrest : us.find? (·.identifier = unit) = some t := by simpa [hu] using h
      rw [if_neg (by rw [hid]; exact hu), List.map_cons, List.map_cons, ih hrest]

theorem map_identifier_setTable (t : Table) (tables : List Table) :
    (setTable t tables).map Table.identifier = tables.map Table.identifier := by
  induction tables with
  | nil => rfl
  | cons u us ih =>
    rw [setTable]
    by_cases hu : u.identifier = t.identifier
    · rw [if_pos hu, List.map_cons, List.map_cons, hu]
    · rw [if_neg hu, List.map_cons, List.map_cons, ih]

/-- Where identifiers differ, only the one table changes. -/
theorem setTable_eq_map (hnodup : (tables.map Table.identifier).Nodup) {f : Nat → Nat}
    (h : tables.find? (·.identifier = unit) = some t) :
    setTable (t.plus f) tables
      = tables.map fun u => u.plus fun i => if unit = u.identifier then f i else 0 := by
  have hunit : t.identifier = unit := identifier_of_find? h
  have hplus : (t.plus f).identifier = unit := hunit
  induction tables with
  | nil => cases h
  | cons u us ih =>
    obtain ⟨hnot, hnodup⟩ := List.nodup_cons.mp hnodup
    rw [setTable, List.map_cons]
    by_cases hu : u.identifier = unit
    · have hut : u = t := by simpa [hu] using h
      have hrest : ∀ v ∈ us, (v.plus fun i => if unit = v.identifier then f i else 0) = v := by
        intro v hv
        have hne : unit ≠ v.identifier := fun hc =>
          hnot (List.mem_map.mpr ⟨v, hv, by rw [← hc, hu]⟩)
        simp only [hne, if_false, Table.plus_zero]
      rw [if_pos (hu.trans hplus.symm), List.map_congr_left hrest, List.map_id', hut]
      simp only [← hut, hu, if_true]
    · have hrest : us.find? (·.identifier = unit) = some t := by simpa [hu] using h
      rw [if_neg (by rw [hplus]; exact hu), ih hnodup hrest]
      simp only [Ne.symm hu, if_false, Table.plus_zero]

/-- Two tables change one after the other. -/
theorem setTable_setTable_eq_map (hnodup : (tables.map Table.identifier).Nodup) {f g : Nat → Nat}
    {unit' : Text} (hne : unit ≠ unit') (h : tables.find? (·.identifier = unit) = some t)
    (h' : tables.find? (·.identifier = unit') = some t') :
    setTable (t'.plus g) (setTable (t.plus f) tables)
      = tables.map fun u => u.plus fun i =>
          (if unit = u.identifier then f i else 0) + if unit' = u.identifier then g i else 0 := by
  have hunit : t.identifier = unit := identifier_of_find? h
  have hid : (t.plus f).identifier ≠ unit' := fun hc => hne (hunit.symm.trans hc)
  have hfind := (find?_setTable_of_ne hid tables).trans h'
  rw [setTable_eq_map hnodup h] at hfind ⊢
  rw [setTable_eq_map _ hfind, List.map_map]
  · refine List.map_congr_left fun u _ => ?_
    exact u.plus_plus _ _
  · rw [List.map_map]
    exact hnodup

/-! ### Making hits -/

/-- Make hits in order, up to the first on a site that is not there. Units without a table do not
count. -/
def hitAll (tables : List Table) : List Hit → Option Fault × List Table
  | [] => (none, tables)
  | h :: hs =>
    match tables.find? (·.identifier = h.unit) with
    | none => hitAll tables hs
    | some t =>
      match t.countAll [(h.site, h.amount)] with
      | (none, t') => hitAll (setTable t' tables) hs
      | (some f, _) => (some f, tables)

theorem hitAll_cons_of_none {h : Hit} (hfind : tables.find? (·.identifier = h.unit) = none)
    (hs : List Hit) : hitAll tables (h :: hs) = hitAll tables hs := by
  rw [hitAll, hfind]

theorem hitAll_cons_of_hasSite {h : Hit} (hfind : tables.find? (·.identifier = h.unit) = some t)
    (hsite : t.hasSite h.site) (hs : List Hit) :
    hitAll tables (h :: hs)
      = hitAll (setTable (t.plus (Table.total [(h.site, h.amount)])) tables) hs := by
  simp only [hitAll, hfind, Table.countAll_cons_of_hasSite hsite]
  rfl

theorem hitAll_cons_of_not_hasSite {h : Hit}
    (hfind : tables.find? (·.identifier = h.unit) = some t) (hsite : ¬ t.hasSite h.site)
    (hs : List Hit) :
    hitAll tables (h :: hs) = (some (.siteOutOfRange h.site t.size), tables) := by
  simp only [hitAll, hfind, Table.countAll_cons_of_not_hasSite hsite]

/-- Hits go on where those before them ended, if they did not stop. -/
theorem hitAll_append (tables : List Table) (hs ks : List Hit) :
    hitAll tables (hs ++ ks) =
      match hitAll tables hs with
      | (none, tables') => hitAll tables' ks
      | (some f, tables') => (some f, tables') := by
  induction hs generalizing tables with
  | nil => rfl
  | cons h hs ih =>
    rw [List.cons_append]
    cases hfind : tables.find? (·.identifier = h.unit) with
    | none => rw [hitAll_cons_of_none hfind, hitAll_cons_of_none hfind, ih]
    | some t =>
      by_cases hsite : t.hasSite h.site
      · rw [hitAll_cons_of_hasSite hfind hsite, hitAll_cons_of_hasSite hfind hsite, ih]
      · rw [hitAll_cons_of_not_hasSite hfind hsite, hitAll_cons_of_not_hasSite hfind hsite]

/-- **Touches of a table are hits on its unit.** -/
theorem hitAll_on (h : tables.find? (·.identifier = unit) = some t) (xs : List Table.Touch) :
    hitAll tables (xs.map (Hit.on unit))
      = ((t.countAll xs).1, setTable (t.countAll xs).2 tables) := by
  induction xs generalizing tables t with
  | nil => exact congrArg (Prod.mk none) (setTable_of_find? h).symm
  | cons x xs ih =>
    obtain ⟨site, n⟩ := x
    have hfind : tables.find? (·.identifier = (Hit.on unit (site, n)).unit) = some t := h
    rw [List.map_cons]
    by_cases hsite : t.hasSite site
    · have hunit : t.identifier = unit := identifier_of_find? h
      have hput : (setTable (t.plus (Table.total [(site, n)])) tables).find? (·.identifier = unit)
          = some (t.plus (Table.total [(site, n)])) := find?_setTable hunit h
      rw [hitAll_cons_of_hasSite hfind hsite, Table.countAll_cons_of_hasSite hsite]
      refine (ih hput).trans ?_
      rw [setTable_setTable (congrArg Prod.fst (Table.shape_countAll _ xs))]
    · rw [hitAll_cons_of_not_hasSite hfind hsite, Table.countAll_cons_of_not_hasSite hsite,
        setTable_of_find? h]
      rfl

theorem map_shape_hitAll (tables : List Table) (hs : List Hit) :
    (hitAll tables hs).2.map Table.shape = tables.map Table.shape := by
  induction hs generalizing tables with
  | nil => rfl
  | cons h hs ih =>
    cases hfind : tables.find? (·.identifier = h.unit) with
    | none => rw [hitAll_cons_of_none hfind, ih]
    | some t =>
      by_cases hsite : t.hasSite h.site
      · rw [hitAll_cons_of_hasSite hfind hsite, ih, map_shape_setTable hfind (t.shape_plus _)]
      · rw [hitAll_cons_of_not_hasSite hfind hsite]

/-- What stops hits is a site outside its table. -/
theorem siteOutOfRange_of_hitAll {hs : List Hit} {f : Fault} (h : (hitAll tables hs).1 = some f) :
    ∃ site sites, f = .siteOutOfRange site sites := by
  induction hs generalizing tables with
  | nil => cases h
  | cons k hs ih =>
    cases hfind : tables.find? (·.identifier = k.unit) with
    | none =>
      rw [hitAll_cons_of_none hfind] at h
      exact ih h
    | some t =>
      by_cases hsite : t.hasSite k.site
      · rw [hitAll_cons_of_hasSite hfind hsite] at h
        exact ih h
      · rw [hitAll_cons_of_not_hasSite hfind hsite] at h
        cases h
        exact ⟨_, _, rfl⟩

/-- Hits leave room for the finalisation. -/
theorem endsProcess_hitAll {hs : List Hit} {f : Fault} (h : (hitAll tables hs).1 = some f) :
    f.endsProcess = false := by
  obtain ⟨site, sites, rfl⟩ := siteOutOfRange_of_hitAll h
  rfl

/-! ### What hits add -/

/-- The tables with the totals of hits added. -/
def plusAll (tables : List Table) (hs : List Hit) : List Table :=
  tables.map fun t => t.plus (Hit.total hs t.identifier)

theorem plusAll_nil (tables : List Table) : plusAll tables [] = tables := by
  rw [plusAll, List.map_congr_left fun t _ => t.plus_zero, List.map_id']

theorem plusAll_plusAll (tables : List Table) (hs ks : List Hit) :
    plusAll (plusAll tables hs) ks = plusAll tables (hs ++ ks) := by
  rw [plusAll, plusAll, plusAll, List.map_map]
  refine List.map_congr_left fun t _ => ?_
  rw [Function.comp_apply, Table.plus_plus]
  exact congrArg t.plus (funext fun i => (Hit.total_append hs ks _ i).symm)

theorem map_identifier_plusAll (tables : List Table) (hs : List Hit) :
    (plusAll tables hs).map Table.identifier = tables.map Table.identifier := by
  rw [plusAll, List.map_map]
  rfl

theorem map_shape_plusAll (tables : List Table) (hs : List Hit) :
    (plusAll tables hs).map Table.shape = tables.map Table.shape := by
  rw [plusAll, List.map_map]
  exact List.map_congr_left fun t _ => t.shape_plus _

/-- One hit changes the one table of its unit. -/
theorem setTable_eq_plusAll (hnodup : (tables.map Table.identifier).Nodup) {h : Hit}
    (hfind : tables.find? (·.identifier = h.unit) = some t) :
    setTable (t.plus (Table.total [(h.site, h.amount)])) tables = plusAll tables [h] := by
  rw [setTable_eq_map hnodup hfind, plusAll]
  refine List.map_congr_left fun u _ => congrArg u.plus (funext fun i => ?_)
  rw [Hit.total_singleton]

/-- A hit on a unit without a table changes nothing. -/
theorem plusAll_singleton_of_none {h : Hit}
    (hfind : tables.find? (·.identifier = h.unit) = none) : plusAll tables [h] = tables := by
  rw [List.find?_eq_none] at hfind
  have hsame : ∀ t ∈ tables, t.plus (Hit.total [h] t.identifier) = t := by
    intro t ht
    have hne : h.unit ≠ t.identifier := fun hc => hfind t ht (by simp [hc])
    rw [show Hit.total [h] t.identifier = fun _ => 0 from
      funext fun i => by rw [Hit.total_singleton, if_neg hne], Table.plus_zero]
  rw [plusAll, List.map_congr_left hsame, List.map_id']

/-- **What hits add**: in each table the totals of its unit, up to the first hit that does not
fit. -/
theorem hitAll_snd (hnodup : (tables.map Table.identifier).Nodup) (hs : List Hit) :
    (hitAll tables hs).2
      = plusAll tables (hs.takeWhile fun h => h.fits (tables.map Table.shape)) := by
  induction hs generalizing tables with
  | nil => exact (plusAll_nil tables).symm
  | cons h hs ih =>
    cases hfind : tables.find? (·.identifier = h.unit) with
    | none =>
      have hfits : h.fits (tables.map Table.shape) := by
        intro x hx hunit
        obtain ⟨t, ht, rfl⟩ := List.mem_map.mp hx
        have hunit : t.identifier = h.unit := hunit
        exact absurd hunit (by simpa using List.find?_eq_none.mp hfind t ht)
      rw [hitAll_cons_of_none hfind, List.takeWhile_cons_of_pos (by simpa using hfits), ih hnodup,
        ← List.singleton_append, ← plusAll_plusAll, plusAll_singleton_of_none hfind]
    | some t =>
      have hmem : t.shape ∈ tables.map Table.shape :=
        List.mem_map_of_mem (List.mem_of_find?_eq_some hfind)
      by_cases hsite : t.hasSite h.site
      · have hfits : h.fits (tables.map Table.shape) := by
          intro x hx hunit
          obtain ⟨u, hu, rfl⟩ := List.mem_map.mp hx
          have hid : u.identifier = t.identifier :=
            (show u.identifier = h.unit from hunit).trans (identifier_of_find? hfind).symm
          obtain rfl : u = t :=
            List.inj_on_of_nodup_map hnodup hu (List.mem_of_find?_eq_some hfind) hid
          exact hsite
        rw [hitAll_cons_of_hasSite hfind hsite, setTable_eq_plusAll hnodup hfind,
          List.takeWhile_cons_of_pos (by simpa using hfits),
          ih (by rw [map_identifier_plusAll]; exact hnodup), map_shape_plusAll, plusAll_plusAll]
        rfl
      · have hfits : ¬ h.fits (tables.map Table.shape) := fun hc =>
          hsite (hc t.shape hmem (identifier_of_find? hfind))
        rw [hitAll_cons_of_not_hasSite hfind hsite,
          List.takeWhile_cons_of_neg (by simpa using hfits), plusAll_nil]

end Session

end HitLog
