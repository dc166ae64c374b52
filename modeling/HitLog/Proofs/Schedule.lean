import HitLog.Proofs.Monotone
import Mathlib.Data.List.Count

/-!
# Counting in any order

A call that stops with a fault has changed nothing, and whoever made it may catch the fault and go
on. So a table can see calls of every kind: some count, some are ignored, some stop. Which of the
three a call does is decided by the call and the number of sites alone, never by the counters or by
what was called before. And what the calls that count leave behind is a sum, in which the order of
the summands does not matter.

Several threads that count in one table make their calls in some order, each thread in its own. A
schedule is the list of all calls with the threads that make them. Two schedules of the same threads
are the same calls in another order, so they leave the same table.

## Main definitions

* `Table.Call.Stops` — the calls that stop, by the number of sites
* `Table.attemptAll` — calls one after another, with faults caught
* `Table.callsOf` — what one thread calls in a schedule

## Main results

* `Table.attemptAll_counted` — the faults and the table behind any calls
* `Table.perm_of_callsOf` — schedules of the same threads have the same calls
* `Table.attemptAll_eq_sums` — counts are sums, whatever the schedule
-/

namespace HitLog

open scoped Text

namespace Table

namespace Call

/-- The call stops on a table with so many sites: it has something to add, and nowhere to add it. -/
def Stops (sites : Nat) : Call → Prop
  | inc site => ¬ (0 ≤ site ∧ site < sites)
  | add site delta => 0 < delta ∧ ¬ (0 ≤ site ∧ site < sites)

instance (sites : Nat) : DecidablePred (Stops sites)
  | inc site => inferInstanceAs (Decidable (¬ (0 ≤ site ∧ site < (sites : Int))))
  | add site delta => inferInstanceAs (Decidable (0 < delta ∧ ¬ (0 ≤ site ∧ site < (sites : Int))))

/-- The fault that the call stops with. -/
def fault? (sites : Nat) (c : Call) : Option Fault :=
  if c.Stops sites then some (.siteOutOfRange c.site sites) else none

/-- Make a call and catch its fault. -/
def attempt (c : Call) (t : Table) : Option Fault × Table :=
  let (result, u) := Counting.ofTable (c.perform ·) t
  (Counting.faultOf result, u)

end Call

/-- Make calls one after another, catching their faults. -/
def attemptAll (t : Table) : List Call → List (Option Fault) × Table
  | [] => ([], t)
  | c :: cs =>
    let (fault, u) := c.attempt t
    let (faults, v) := u.attemptAll cs
    (fault :: faults, v)

/-! ### One call -/

variable {identifier : Text} {sites : Nat} {c : Call}

theorem attempt_of_ok {t u : Table} (h : c.perform t = .ok u) : c.attempt t = (none, u) := by
  simp only [Call.attempt, Counting.ofTable, h]
  rfl

theorem attempt_of_error {t : Table} {f : Fault} (h : c.perform t = .error f) :
    c.attempt t = (some f, t) := by
  simp only [Call.attempt, Counting.ofTable, h]
  rfl

/-- A call that stops names a site outside the table. -/
theorem Call.Stops.outside (h : c.Stops sites) : ¬ (0 ≤ c.site ∧ c.site < sites) := by
  cases c with
  | inc site => exact h
  | add site delta => exact h.2

theorem perform_of_stops {t : Table} (h : c.Stops t.size) :
    c.perform t = .error (.siteOutOfRange c.site t.size) := by
  cases c with
  | inc site => exact if_neg h
  | add site delta =>
    rw [Call.perform, add, if_neg (Int64.not_le.mpr h.1)]
    exact if_neg h.2

/-- A call that does not stop although it names a site outside the table adds nothing. -/
theorem perform_of_outside {t : Table} (hsite : ¬ t.hasSite c.site) (h : ¬ c.Stops t.size) :
    c.perform t = .ok t := by
  cases c with
  | inc site => exact absurd hsite h
  | add site delta =>
    have hdelta : delta ≤ 0 := Int64.not_lt.mp fun hpos => h ⟨hpos, hsite⟩
    rw [Call.perform, add, if_pos hdelta]

/-- What a call outside the table would add is not seen in it. -/
theorem counted_concat_of_outside (before : List Call) (h : ¬ (0 ≤ c.site ∧ c.site < sites)) :
    counted identifier sites (before ++ [c]) = counted identifier sites before := by
  rw [counted, counted, Table.mk.injEq]
  refine ⟨rfl, List.map_congr_left fun i hi => ?_⟩
  have hi : i < sites := List.mem_range.mp hi
  have hne : c.site ≠ (i : Int) := by omega
  rw [executions_append]
  simp [executions, total_cons, total_nil, hne]

/-- **One call**: which fault it stops with, and that the counters count it. -/
theorem attempt_counted (before : List Call) (c : Call) :
    c.attempt (counted identifier sites before)
      = (c.fault? sites, counted identifier sites (before ++ [c])) := by
  have hsize : (counted identifier sites before).size = sites := size_counted
  rw [Call.fault?]
  by_cases hsite : 0 ≤ c.site ∧ c.site < sites
  · rw [if_neg fun h : c.Stops sites => h.outside hsite]
    exact attempt_of_ok (perform_counted before hsite)
  · rw [counted_concat_of_outside before hsite]
    by_cases hstops : c.Stops sites
    · rw [if_pos hstops]
      have hperform := perform_of_stops (hsize.symm ▸ hstops : c.Stops (counted _ _ before).size)
      rw [hsize] at hperform
      exact attempt_of_error hperform
    · rw [if_neg hstops]
      refine attempt_of_ok (perform_of_outside ?_ ?_)
      · rwa [hasSite, hsize]
      · rwa [hsize]

/-! ### Several calls -/

/-- **Any calls**: each stops or not by itself, and each counter is the word of its executions. -/
theorem attemptAll_counted (before calls : List Call) :
    (counted identifier sites before).attemptAll calls
      = (calls.map (Call.fault? sites), counted identifier sites (before ++ calls)) := by
  induction calls generalizing before with
  | nil => rw [attemptAll, List.append_nil, List.map_nil]
  | cons c calls ih =>
    rw [attemptAll, attempt_counted]
    simp only [ih, List.append_assoc, List.singleton_append, List.map_cons]

/-- Calls that stop would add to no site of the table. -/
theorem executions_filter_not_stops (calls : List Call) {i : Nat} (hi : i < sites) :
    executions (calls.filter fun c => ¬ c.Stops sites) i = executions calls i := by
  induction calls with
  | nil => rfl
  | cons c calls ih =>
    have hcons : executions (c :: calls) i = executions [c] i + executions calls i :=
      executions_append [c] calls i
    rw [hcons, ← ih]
    by_cases hstops : c.Stops sites
    · have houtside := hstops.outside
      have hne : c.site ≠ (i : Int) := by omega
      rw [List.filter_cons_of_neg (by simpa using hstops)]
      simp [executions, total_cons, total_nil, hne]
    · rw [List.filter_cons_of_pos (by simpa using hstops)]
      exact executions_append [c] _ i

theorem executions_perm {calls calls' : List Call} (h : calls.Perm calls') (i : Nat) :
    executions calls i = executions calls' i :=
  (((h.map _).filter _).map _).sum_eq

theorem size_of_make {n : Int64} {t : Table} (h : make identifier n = .ok t) :
    (t.size : Int) = n.toInt := by
  rw [make] at h
  split at h
  · rename_i hsites
    obtain rfl := Except.ok.inj h
    rw [size, List.length_replicate, Int.toNat_of_nonneg hsites.1]
  · cases h

/-! ### Schedules -/

variable {ι : Type} [DecidableEq ι]

/-- What a thread calls in a schedule. -/
def callsOf (i : ι) (schedule : List (ι × Call)) : List Call :=
  (schedule.filter fun x => x.1 = i).map Prod.snd

/-- Schedules in which each thread makes the same calls consist of the same calls. -/
theorem perm_of_callsOf {xs ys : List (ι × Call)} (h : ∀ i, callsOf i xs = callsOf i ys) :
    xs.Perm ys := by
  classical
  have hcount : ∀ (i : ι) (c : Call) (zs : List (ι × Call)),
      zs.count (i, c) = (callsOf i zs).count c := by
    intro i c zs
    induction zs with
    | nil => rfl
    | cons z zs ih =>
      obtain ⟨j, d⟩ := z
      rw [List.count_cons, ih, callsOf, callsOf, List.filter_cons]
      by_cases hj : j = i <;> simp [hj, List.count_cons]
  rw [List.perm_iff_count]
  rintro ⟨i, c⟩
  rw [hcount, hcount, h i]

/-- **Counts are sums, whatever the schedule.** A call on a new table stops exactly if it has
something to add and names a site outside the table, whatever was called before. Behind any calls,
with faults caught, the table has as many sites as before, and each counter is the sum of what the
calls that did not stop add to its site, wrapped around to a word of 64 bits. So the same calls in
any order leave the same table, and so do any two schedules of the same threads. -/
theorem attemptAll_eq_sums (identifier : Text) (sites : Int64) (t : Table)
    (hmake : make identifier sites = .ok t) (calls : List Call) :
    (t.size : Int) = sites.toInt ∧
      (t.attemptAll calls).1
        = calls.map (fun c =>
          if c.Stops t.size then some (.siteOutOfRange c.site t.size) else none) ∧
      (t.attemptAll calls).2.size = t.size ∧
      (t.attemptAll calls).2.counts.map Int64.toInt = (List.range t.size).map (fun i =>
        (executions (calls.filter fun c => ¬ c.Stops t.size) i : Int).bmod 18446744073709551616) ∧
      (∀ calls' : List Call, calls'.Perm calls →
        (t.attemptAll calls').2 = (t.attemptAll calls).2) ∧
      ∀ (ι : Type) [DecidableEq ι] (xs ys : List (ι × Call)),
        (∀ i, callsOf i xs = callsOf i ys) →
          (t.attemptAll (xs.map Prod.snd)).2 = (t.attemptAll (ys.map Prod.snd)).2 := by
  have hsize := size_of_make hmake
  obtain rfl := eq_counted_of_make hmake
  have hperm : ∀ xs ys : List Call, xs.Perm ys →
      ((counted identifier sites.toNatClampNeg []).attemptAll xs).2
        = ((counted identifier sites.toNatClampNeg []).attemptAll ys).2 := by
    intro xs ys h
    rw [attemptAll_counted, attemptAll_counted]
    simp only [List.nil_append, counted, executions_perm h]
  refine ⟨hsize, ?_, ?_, ?_, fun calls' h => hperm calls' calls h, fun ι _ xs ys h => ?_⟩
  · rw [attemptAll_counted, size_counted]
    rfl
  · rw [attemptAll_counted, size_counted, size_counted]
  · rw [attemptAll_counted, size_counted, List.nil_append, counted, List.map_map]
    refine List.map_congr_left fun i hi => ?_
    rw [executions_filter_not_stops calls (List.mem_range.mp hi)]
    exact Int64.toInt_ofNat'
  · exact hperm _ _ ((perm_of_callsOf h).map Prod.snd)

/-- Two threads on a table with two sites: calls that stop, calls that are ignored, and a counter
that goes beyond the largest count. -/
theorem attemptAll_eq_sums_of_two_threads :
    let t : Table := ⟨"u", [0, 0]⟩
    let xs : List (Bool × Call) :=
      [(true, .inc 1), (true, .inc 2), (false, .add (-1) (-3)), (false, .add 1 Int64.maxValue),
        (true, .add (-1) 3), (true, .inc 0)]
    let ys : List (Bool × Call) :=
      [(false, .add (-1) (-3)), (true, .inc 1), (false, .add 1 Int64.maxValue),
        (true, .inc 2), (true, .add (-1) 3), (true, .inc 0)]
    make "u" 2 = .ok t ∧ (∀ i, callsOf i xs = callsOf i ys) ∧
      (t.attemptAll (xs.map Prod.snd)).1 = [none, some (.siteOutOfRange 2 2), none, none,
        some (.siteOutOfRange (-1) 2), none] ∧
      (t.attemptAll (xs.map Prod.snd)).2.counts.map Int64.toInt = [1, -9223372036854775808] ∧
      (t.attemptAll (ys.map Prod.snd)).2 = (t.attemptAll (xs.map Prod.snd)).2 := by
  intro t xs ys
  have hmake : make "u" 2 = .ok t := rfl
  have hthreads : ∀ i, callsOf i xs = callsOf i ys := by
    intro i
    cases i <;> rfl
  obtain ⟨-, hfaults, -, hcounts, -, hschedules⟩ :=
    attemptAll_eq_sums "u" 2 t hmake (xs.map Prod.snd)
  refine ⟨hmake, hthreads, hfaults.trans (by decide), hcounts.trans (by decide), ?_⟩
  exact (hschedules Bool xs ys hthreads).symm

end Table

end HitLog
