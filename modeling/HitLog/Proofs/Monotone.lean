import HitLog.Proofs.Codec
import HitLog.Proofs.Counting
import Mathlib.Data.List.Forall2
import Mathlib.Data.List.Induction

/-!
# When counters only rise

A call never takes anything away: it adds one, or a number that is ignored unless it is positive.
But a counter is a word, and a word that passes the largest count goes on from the least one, which
is negative. So counters rise as long as no site is executed more often than a word can say. What
goes wrong otherwise is seen in three ways at once: a counter drops, a counter is negative, and the
line of the table is no record any more.

One call adds less than would bring a word around to where it was. Therefore the first call that
exceeds the largest count leaves a negative counter, and later calls cannot hide it: all three
conditions on a whole run amount to the totals at its end (`Table.Fits`).

## Main definitions

* `Table.Call`, `Table.performAll` — counting calls, and a run of them
* `Table.executions`, `Table.counted` — how often a site is executed, and the counters that say so
* `Table.Rises`, `Table.Fits` — no call makes a counter smaller; no total exceeds the largest count

## Main results

* `Table.performAll_eq_counted` — the table behind a run
* `Table.nonneg_of_rises`, `Table.le_of_nonneg`, `Table.rises_of_le` — one site through a run
* `Table.rises_iff_and_readable_iff` — the three conditions for all sites
-/

namespace HitLog

open scoped Text

namespace Table

/-- What counts executions. -/
inductive Call where
  /-- Count one execution. -/
  | inc (site : Int)
  /-- Count several executions. -/
  | add (site : Int) (delta : Int64)

namespace Call

/-- The site that is counted. -/
def site : Call → Int
  | inc site => site
  | add site _ => site

/-- How many executions are counted. A negative number counts none. -/
def amount : Call → Nat
  | inc _ => 1
  | add _ delta => delta.toNatClampNeg

/-- The table behind a call. -/
def perform (t : Table) : Call → Except Fault Table
  | inc site => t.inc site
  | add site delta => t.add site delta

/-- One call adds no more than the largest count. -/
theorem amount_le (c : Call) : c.amount ≤ Record.largestCount := by
  cases c with
  | inc site => exact Nat.le_of_ble_eq_true rfl
  | add site delta => exact Record.le_largestCount_iff.mpr delta.toNatClampNeg_lt

end Call

/-- The table behind a run of calls, up to the first fault. -/
def performAll (t : Table) (calls : List Call) : Except Fault Table := calls.foldlM Call.perform t

/-- How often calls execute a site. -/
def executions (calls : List Call) (site : Nat) : Nat :=
  total (calls.map fun c => (c.site, c.amount)) site

/-- The table whose counters say how often calls execute their sites, as words. -/
def counted (identifier : Text) (sites : Nat) (calls : List Call) : Table :=
  ⟨identifier, (List.range sites).map fun i => Int64.ofNat (executions calls i)⟩

/-- The tables that a run passes through. -/
def Through (t : Table) (calls : List Call) (u : Table) : Prop :=
  ∃ before, before <+: calls ∧ performAll t before = .ok u

/-- No call of a run makes a counter smaller. -/
def Rises (t : Table) (calls : List Call) : Prop :=
  ∀ before c u v, before ++ [c] <+: calls → performAll t before = .ok u → c.perform u = .ok v →
    List.Forall₂ (· ≤ ·) u.counts v.counts

/-- No site is executed more often than the largest count says. -/
def Fits (t : Table) (calls : List Call) : Prop :=
  ∀ i < t.size, executions calls i ≤ Record.largestCount

instance (t : Table) (calls : List Call) : Decidable (t.Fits calls) :=
  Nat.decidableBallLT t.size fun i _ => executions calls i ≤ Record.largestCount

/-! ### Executions -/

theorem executions_append (before after : List Call) (i : Nat) :
    executions (before ++ after) i = executions before i + executions after i := by
  rw [executions, List.map_append, total_append]
  rfl

theorem executions_mono {before calls : List Call} (h : before <+: calls) (i : Nat) :
    executions before i ≤ executions calls i := by
  obtain ⟨after, rfl⟩ := h
  rw [executions_append]
  exact Nat.le_add_right _ _

theorem executions_singleton_le (c : Call) (i : Nat) :
    executions [c] i ≤ Record.largestCount := by
  rw [executions, List.map_singleton, total_cons, total_nil, Nat.add_zero]
  split
  · exact c.amount_le
  · exact Nat.zero_le _

/-! ### The table behind a run -/

variable {identifier : Text} {sites : Nat} {calls before : List Call} {c : Call}

theorem bump_eq_plus {t : Table} {site : Int} (h : t.hasSite site) {delta : Int64} {n : Nat}
    (hn : Int64.ofNat n = delta) : t.bump site delta = .ok (t.plus (total [(site, n)])) := by
  rw [bump, if_pos h, ← hn, modify_eq_plus h]

/-- A call adds to the counter of its site what it counts. -/
theorem perform_eq_plus {t : Table} (h : t.hasSite c.site) :
    c.perform t = .ok (t.plus (executions [c])) := by
  cases c with
  | inc site => exact bump_eq_plus h rfl
  | add site delta =>
    rw [Call.perform, add]
    by_cases hd : delta ≤ 0
    · have hnone : executions [Call.add site delta] = fun _ => 0 := by
        funext i
        simp [executions, total_cons, total_nil, Call.amount,
          Int64.toNatClampNeg_eq_zero_iff.mpr hd]
      rw [if_pos hd, hnone, plus_zero]
    · rw [if_neg hd]
      exact bump_eq_plus h
        (Int64.ofNat_toNatClampNeg delta (Int64.le_of_lt (Int64.not_le.mp hd)))

theorem size_counted : (counted identifier sites calls).size = sites := by
  simp [size, counted]

theorem counted_plus (before after : List Call) :
    (counted identifier sites before).plus (executions after)
      = counted identifier sites (before ++ after) := by
  rw [plus, counted, counted, Table.mk.injEq]
  refine ⟨rfl, List.ext_getElem (by simp) fun i _ _ => ?_⟩
  simp [executions_append]

theorem perform_counted (before : List Call) (h : 0 ≤ c.site ∧ c.site < sites) :
    c.perform (counted identifier sites before)
      = .ok (counted identifier sites (before ++ [c])) := by
  have hsite : (counted identifier sites before).hasSite c.site := by
    rwa [hasSite, size_counted]
  rw [perform_eq_plus hsite, counted_plus]

/-- **The table behind a run**: each counter says how often its site was executed. -/
theorem performAll_eq_counted (h : ∀ c ∈ calls, 0 ≤ c.site ∧ c.site < sites) :
    performAll (counted identifier sites []) calls = .ok (counted identifier sites calls) := by
  induction calls using List.reverseRecOn with
  | nil => rfl
  | append_singleton calls c ih =>
    have hcalls := ih fun d hd => h d (by simp [hd])
    rw [performAll] at hcalls ⊢
    rw [List.foldlM_append, hcalls, ← perform_counted calls (h c (by simp))]
    exact bind_pure (c.perform (counted identifier sites calls))

theorem eq_counted_of_make {n : Int64} {t : Table} (h : make identifier n = .ok t) :
    t = counted identifier n.toNatClampNeg [] := by
  rw [make] at h
  split at h
  · obtain rfl := Except.ok.inj h
    rw [counted, Int64.toNat_toInt, Table.mk.injEq]
    exact ⟨rfl, List.ext_getElem (by simp) fun i _ _ => by simp [executions, total_nil]⟩
  · cases h

/-! ### One site -/

/-- Up to twice the largest count, a word is not negative exactly if it is at most that count. -/
theorem nonneg_ofNat_iff {n : Nat} (h : n ≤ 2 * Record.largestCount) :
    0 ≤ Int64.ofNat n ↔ n ≤ Record.largestCount := by
  rw [Record.largestCount] at h ⊢
  rw [Int64.le_iff_toInt_le, Int64.toInt_ofNat', Int64.toInt_zero, Int64.size, Int.bmod]
  omega

theorem ofNat_le_ofNat {m n : Nat} (hmn : m ≤ n) (hn : n ≤ Record.largestCount) :
    Int64.ofNat m ≤ Int64.ofNat n := by
  rw [Int64.le_iff_toInt_le,
    Int64.toInt_ofNat_of_lt (Record.le_largestCount_iff.mp (hmn.trans hn)),
    Int64.toInt_ofNat_of_lt (Record.le_largestCount_iff.mp hn)]
  exact Int.ofNat_le.mpr hmn

variable {i : Nat}

/-- A counter that no call makes smaller is never below zero, where it started. -/
theorem nonneg_of_rises
    (h : ∀ before c, before ++ [c] <+: calls →
      Int64.ofNat (executions before i) ≤ Int64.ofNat (executions (before ++ [c]) i))
    (hbefore : before <+: calls) : 0 ≤ Int64.ofNat (executions before i) := by
  induction before using List.reverseRecOn with
  | nil => exact Int64.le_refl 0
  | append_singleton before c ih =>
    exact Int64.le_trans (ih ((List.prefix_append before [c]).trans hbefore)) (h before c hbefore)

/-- A counter that is never negative has not come around: the first call to exceed the largest count
would show. -/
theorem le_of_nonneg
    (h : ∀ before, before <+: calls → 0 ≤ Int64.ofNat (executions before i)) :
    executions calls i ≤ Record.largestCount := by
  induction calls using List.reverseRecOn with
  | nil => exact Nat.zero_le _
  | append_singleton calls c ih =>
    have hcalls := ih fun before hb => h before (hb.trans (List.prefix_append calls [c]))
    have hc := executions_singleton_le c i
    have hlast := h _ List.prefix_rfl
    -- neither part exceeds the largest count, so their sum is too small to come around to zero
    rw [executions_append] at hlast ⊢
    exact (nonneg_ofNat_iff (by omega)).mp hlast

/-- A counter whose total fits is made smaller by no call. -/
theorem rises_of_le (h : executions calls i ≤ Record.largestCount)
    (hpart : before ++ [c] <+: calls) :
    Int64.ofNat (executions before i) ≤ Int64.ofNat (executions (before ++ [c]) i) :=
  ofNat_le_ofNat (executions_mono (List.prefix_append before [c]) i)
    ((executions_mono hpart i).trans h)

/-! ### All sites -/

theorem counts_le_iff {after : List Call} :
    List.Forall₂ (· ≤ ·) (counted identifier sites before).counts
        (counted identifier sites after).counts ↔
      ∀ i < sites, Int64.ofNat (executions before i) ≤ Int64.ofNat (executions after i) := by
  simp [counted, List.forall₂_map_left_iff, List.forall₂_map_right_iff, List.forall₂_same]

theorem forall_mem_counts_iff {p : Int64 → Prop} :
    (∀ c ∈ (counted identifier sites calls).counts, p c) ↔
      ∀ i < sites, p (Int64.ofNat (executions calls i)) := by
  simp [counted]

section Run

variable (h : ∀ c ∈ calls, 0 ≤ c.site ∧ c.site < sites)
include h

theorem performAll_part (hbefore : before <+: calls) :
    performAll (counted identifier sites []) before = .ok (counted identifier sites before) :=
  performAll_eq_counted fun c hc => h c (hbefore.subset hc)

theorem forall_through_iff {p : Table → Prop} :
    (∀ u, Through (counted identifier sites []) calls u → p u) ↔
      ∀ before, before <+: calls → p (counted identifier sites before) := by
  constructor
  · exact fun hall before hb => hall _ ⟨before, hb, performAll_part h hb⟩
  · rintro hall u ⟨before, hb, hu⟩
    rw [performAll_part h hb] at hu
    exact Except.ok.inj hu ▸ hall before hb

theorem rises_iff_forall :
    Rises (counted identifier sites []) calls ↔
      ∀ i < sites, ∀ before c, before ++ [c] <+: calls →
        Int64.ofNat (executions before i) ≤ Int64.ofNat (executions (before ++ [c]) i) := by
  constructor
  · intro hrises i hi before c hb
    have hle := hrises before c _ _ hb
      (performAll_part h ((List.prefix_append before [c]).trans hb))
      (perform_counted before (h c (hb.subset (by simp))))
    exact counts_le_iff.mp hle i hi
  · intro hall before c u v hb hu hv
    rw [performAll_part h ((List.prefix_append before [c]).trans hb)] at hu
    obtain rfl := Except.ok.inj hu
    rw [perform_counted before (h c (hb.subset (by simp)))] at hv
    obtain rfl := Except.ok.inj hv
    exact counts_le_iff.mpr fun i hi => hall i hi before c hb

theorem rises_iff_fits :
    Rises (counted identifier sites []) calls ↔ Fits (counted identifier sites []) calls := by
  rw [rises_iff_forall h, Fits, size_counted]
  constructor
  · exact fun hrises i hi => le_of_nonneg fun _ hb => nonneg_of_rises (hrises i hi) hb
  · exact fun hfits i hi before c hb => rises_of_le (hfits i hi) hb

theorem nonneg_iff_fits :
    (∀ u, Through (counted identifier sites []) calls u → ∀ c ∈ u.counts, 0 ≤ c) ↔
      Fits (counted identifier sites []) calls := by
  rw [forall_through_iff h, Fits, size_counted]
  simp only [forall_mem_counts_iff]
  constructor
  · exact fun hnonneg i hi => le_of_nonneg fun before hb => hnonneg before hb i hi
  · intro hfits before hb i hi
    exact ofNat_le_ofNat (Nat.zero_le _) ((executions_mono hb i).trans (hfits i hi))

/-- The name and the number of sites do not change, so that a run passes through readable lines only
if it starts with one and its counters stay nonnegative. -/
theorem readable_iff_fits :
    (∀ u, Through (counted identifier sites []) calls u →
        ∃ r, Record.parse u.record.line = .ok r) ↔
      identifier ≠ [] ∧ 0 < sites ∧ Fits (counted identifier sites []) calls := by
  rw [← nonneg_iff_fits h, forall_through_iff h, forall_through_iff h]
  simp only [Record.exists_parse_line_iff]
  have hcounted : ∀ before, (counted identifier sites before).record.counts ≠ [] ↔ 0 < sites := by
    intro before
    simp [record, counted, Nat.pos_iff_ne_zero]
  constructor
  · intro hall
    obtain ⟨hnamed, hsites, -⟩ := hall [] List.nil_prefix
    exact ⟨hnamed, (hcounted []).mp hsites, fun before hb => (hall before hb).2.2⟩
  · rintro ⟨hnamed, hsites, hnonneg⟩ before hb
    exact ⟨hnamed, (hcounted before).mpr hsites, hnonneg before hb⟩

end Run

/-- **Counters rise as long as they fit.** A run of calls on sites of a new table comes to its end,
and behind each call every counter is the word of its executions so far. No call makes a counter
smaller, and no counter is ever negative, exactly if no site is executed more often than the largest
count; and then alone are all lines of the table records, provided that it has a name and a site. -/
theorem rises_iff_and_readable_iff (identifier : Text) (sites : Int64) (t : Table)
    (calls : List Call) (hmake : make identifier sites = .ok t)
    (hcalls : ∀ c ∈ calls, t.hasSite c.site) :
    (∀ before, before <+: calls →
        performAll t before = .ok (counted identifier t.size before)) ∧
      (Rises t calls ↔ Fits t calls) ∧
      ((∀ u, Through t calls u → ∀ c ∈ u.counts, 0 ≤ c) ↔ Fits t calls) ∧
      ((∀ u, Through t calls u → ∃ r, Record.parse u.record.line = .ok r) ↔
        identifier ≠ [] ∧ 0 < sites ∧ Fits t calls) := by
  obtain rfl := eq_counted_of_make hmake
  simp only [hasSite, size_counted] at hcalls
  have hsites : 0 < sites.toNatClampNeg ↔ 0 < sites := by
    rw [Nat.pos_iff_ne_zero, Ne, Int64.toNatClampNeg_eq_zero_iff, Int64.not_le]
  rw [size_counted, ← hsites]
  exact ⟨fun before hb => performAll_part hcalls hb, rises_iff_fits hcalls,
    nonneg_iff_fits hcalls, readable_iff_fits hcalls⟩

/-- A site that is brought to the largest count and not beyond, with additions that are ignored. -/
theorem rises_and_readable_of_largest_count :
    let t : Table := ⟨"u", [0, 0]⟩
    let calls : List Call :=
      [.inc 1, .add 0 (-5), .add 1 (Int64.maxValue - 1), .add 1 Int64.minValue, .inc 0]
    make "u" 2 = .ok t ∧ (∀ c ∈ calls, t.hasSite c.site) ∧ Fits t calls ∧
      performAll t calls = .ok ⟨"u", [1, Int64.maxValue]⟩ ∧ Rises t calls ∧
      (∀ u, Through t calls u → ∀ c ∈ u.counts, 0 ≤ c) ∧
      ∀ u, Through t calls u → ∃ r, Record.parse u.record.line = .ok r := by
  intro t calls
  have hmake : make "u" 2 = .ok t := rfl
  have hcalls : ∀ c ∈ calls, t.hasSite c.site := by decide
  have hfits : Fits t calls := by decide
  obtain ⟨hrun, hrises, hnonneg, hreadable⟩ :=
    rises_iff_and_readable_iff "u" 2 t calls hmake hcalls
  refine ⟨hmake, hcalls, hfits, ?_, hrises.mpr hfits, hnonneg.mpr hfits,
    hreadable.mpr ⟨by decide, by decide, hfits⟩⟩
  rw [hrun calls List.prefix_rfl]
  rfl

/-- One execution more than the largest count makes the counter the least word there is, and the
table's line is refused. -/
theorem inc_drops_largest_count :
    let t : Table := ⟨"u", [Int64.maxValue]⟩
    let u : Table := ⟨"u", [Int64.minValue]⟩
    make "u" 1 = .ok ⟨"u", [0]⟩ ∧ performAll ⟨"u", [0]⟩ [.add 0 Int64.maxValue] = .ok t ∧
      t.inc 0 = .ok u ∧ ¬ List.Forall₂ (· ≤ ·) t.counts u.counts ∧
      ∀ r, Record.parse u.record.line ≠ .ok r := by
  intro t u
  refine ⟨rfl, rfl, rfl, by decide, fun r hr => ?_⟩
  have hnonneg := (Record.exists_parse_line_iff.mp ⟨r, hr⟩).2.2
  exact absurd (hnonneg Int64.minValue (by decide)) (by decide)

end Table

end HitLog
