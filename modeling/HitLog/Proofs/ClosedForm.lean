import HitLog.Proofs.Benchmark
import Mathlib.Algebra.BigOperators.Group.Finset.Basic
import Mathlib.Algebra.Order.Interval.Finset.SuccPred
import Mathlib.Data.Int.ConditionallyCompleteOrder
import Mathlib.Data.Int.Fib.Basic
import Mathlib.Data.Int.Interval
import Mathlib.Data.Int.SuccPred
import Mathlib.Logic.Relation

/-!
# The counts of the benchmarks in closed form

How often a Fibonacci call and the calls inside it pass each site is a Fibonacci number, or nearly:
`Benchmark.fiboCount`. All five sites follow the recursion of the calls at once, with what the call
itself adds. The factorial passes its sites a number of times that is linear in its argument, while
its value wraps.

Calls are what a function makes of itself, and a literal run does not show them. But one call is
given what the calls inside it do, as `Benchmark.Body`, and it calls an argument if it matters what
is given there. That is `Benchmark.Calls`, which speaks of all that may be given and so of all calls
that can ever be made.

## Main definitions

* `Benchmark.fiboCount`, `Benchmark.factCount` — how often each site is passed
* `Benchmark.Calls` — the arguments that a call makes calls with

## Main results

* `Benchmark.calls_fibonacciBody_iff` — the calls inside a Fibonacci call
* `Benchmark.fibonacci_eq_fiboCount` — the value and the counts of the Fibonacci function
* `Benchmark.factorial_eq_factCount` — the value and the counts of the factorial function
-/

namespace HitLog

open scoped Text

namespace Benchmark

open Table (total)

/-! ### Paths on tables -/

/-- All sites of a path are there if they are below the number of sites. -/
theorem hasSite_once {t : Table} {path : List Nat} (h : ∀ site ∈ path, site < t.size) :
    ∀ x ∈ once path, t.hasSite x.1 := by
  simp only [once, List.mem_map]
  rintro - ⟨site, hsite, rfl⟩
  exact ⟨Int.natCast_nonneg site, Int.ofNat_lt.mpr (h site hsite)⟩

/-- So are those of a path over sites that the table has room for. -/
theorem hasSite_once_of_subset {t : Table} {path sites : List Nat} {bound : Nat}
    (hpath : path ⊆ sites) (hlow : ∀ site ∈ sites, site < bound) (hsize : bound ≤ t.size) :
    ∀ x ∈ once path, t.hasSite x.1 :=
  hasSite_once fun site hsite => Nat.lt_of_lt_of_le (hlow site (hpath hsite)) hsize

/-- What a path adds, by the number of its occurrences. -/
theorem plus_total_once (t : Table) {path : List Nat} {count : Nat → Int}
    (h : ∀ site, (path.count site : Int) = count site) :
    t.plus (total (once path))
      = { t with counts := t.counts.mapIdx fun site c => c + Int64.ofInt (count site) } := by
  rw [Table.plus]
  simp only [total_once, ← Int64.ofInt_eq_ofNat, h]

/-! ### Fibonacci numbers -/

/-- How often a Fibonacci call and the calls inside it pass a site. -/
def fiboCount (n : Int) (site : Nat) : Int :=
  if site = fiboEntry then 2 * Int.fib (n + 1) - 1
  else if site = fiboZero then Int.fib (n - 1)
  else if site = fiboOneCheck then 2 * Int.fib (n + 1) - 1 - Int.fib (n - 1)
  else if site = fiboOne then Int.fib n
  else if site = fiboRecurse then Int.fib (n + 1) - 1
  else 0

theorem fiboCount_of_not_mem (n : Int) {site : Nat} (h : site ∉ fiboSites) :
    fiboCount n site = 0 := by
  simp only [fiboSites, List.mem_cons, List.not_mem_nil, or_false, not_or] at h
  obtain ⟨hentry, hzero, hcheck, hone, hrecurse⟩ := h
  rw [fiboCount, if_neg hentry, if_neg hzero, if_neg hcheck, if_neg hone, if_neg hrecurse]

/-- **The counts follow the calls**: those of the two inner calls, and three sites once more. -/
theorem fiboCount_add_two (n : Int) {site : Nat} (h : site ∈ fiboSites) :
    fiboCount (n + 2) site = ([fiboEntry, fiboOneCheck, fiboRecurse].count site : Int) +
      (fiboCount (n + 1) site + fiboCount n site) := by
  have h₁ : Int.fib (n + 1) = Int.fib (n - 1) + Int.fib n := by
    simpa [sub_add_eq_add_sub, add_sub_assoc] using Int.fib_add_two (n - 1)
  have h₂ : Int.fib (n + 2) = Int.fib n + Int.fib (n + 1) := Int.fib_add_two n
  have h₃ : Int.fib (n + 3) = Int.fib (n + 1) + Int.fib (n + 2) := by
    simpa [add_assoc] using Int.fib_add_two (n + 1)
  have hsums : n + 2 + 1 = n + 3 ∧ n + 2 - 1 = n + 1 ∧ n + 1 + 1 = n + 2 ∧ n + 1 - 1 = n := by
    omega
  simp only [fiboSites, List.mem_cons, List.not_mem_nil, or_false] at h
  rcases h with rfl | rfl | rfl | rfl | rfl <;>
    simp [fiboCount, fiboEntry, fiboZero, fiboOneCheck, fiboOne, fiboRecurse, hsums, h₃, h₂, h₁] <;>
    omega

/-- **How often the path of a Fibonacci call passes a site.** -/
theorem count_fiboPath (n site : Nat) : ((fiboPath n).count site : Int) = fiboCount n site := by
  by_cases hsite : site ∈ fiboSites
  · induction n using fiboPath.induct with
    | case1 =>
      revert site
      decide
    | case2 =>
      revert site
      decide
    | case3 n ih₁ ih₂ =>
      rw [fiboPath, List.count_append, List.count_append]
      push_cast
      rw [ih₁, ih₂]
      exact (fiboCount_add_two n hsite).symm
  · rw [fiboCount_of_not_mem n hsite,
      List.count_eq_zero_of_not_mem fun h => hsite (mem_fiboSites_of_mem_fiboPath n site h)]
    rfl

/-! ### Calls -/

/-- A call makes a call with an argument: what is given for that argument alone can matter. -/
def Calls (body : Body) (n m : Int64) : Prop :=
  ∃ f g : Int64 → Counting Int64, (∀ k, k ≠ m → f k = g k) ∧ body f n ≠ body g n

/-- A Fibonacci call comes to the calls inside it, if its sites are there. -/
theorem exists_fibonacciBody_apply (call : Int64 → Counting Int64) {n : Int64} (hzero : n ≠ 0)
    (hone : n ≠ 1) {t : Table} (ht : 10 ≤ t.size) :
    ∃ t', fibonacciBody call n t = (do
      let a ← call (n - 1)
      let b ← call (n - 2)
      return a + b : Counting Int64) t' := by
  have hhit : ∀ (site : Nat) (k : Unit → Counting Int64) (u : Table), site < 10 →
      10 ≤ u.size → ∃ u' : Table, 10 ≤ u'.size ∧ (Counting.hit site >>= k) u = k () u' := by
    intro site k u hsite hu
    have hrun := (Counting.Yields.hit site).eq_plus (t := u) <|
      hasSite_once (List.forall_mem_singleton.mpr (show site < u.size by omega))
    refine ⟨u.plus (total [((site : Int), 1)]), ?_, ?_⟩
    · simpa [Table.plus, Table.size] using hu
    · rw [bind_apply, hrun]
  simp only [fibonacciBody, hzero, hone, if_false]
  obtain ⟨t₁, ht₁, h₁⟩ := hhit fiboEntry _ t (by decide) ht
  rw [h₁]
  obtain ⟨t₂, ht₂, h₂⟩ := hhit fiboOneCheck _ t₁ (by decide) ht₁
  rw [h₂]
  obtain ⟨t₃, -, h₃⟩ := hhit fiboRecurse _ t₂ (by decide) ht₂
  exact ⟨t₃, h₃⟩

/-- **The calls inside a Fibonacci call.** -/
theorem calls_fibonacciBody_iff {n m : Int64} :
    Calls fibonacciBody n m ↔ (n ≠ 0 ∧ n ≠ 1) ∧ (m = n - 1 ∨ m = n - 2) := by
  constructor
  · rintro ⟨f, g, hfg, hne⟩
    refine ⟨⟨?_, ?_⟩, ?_⟩
    · rintro rfl
      exact hne rfl
    · rintro rfl
      exact hne rfl
    · by_contra hm
      rw [not_or] at hm
      refine hne ?_
      rw [fibonacciBody, fibonacciBody, hfg (n - 1) (Ne.symm hm.1), hfg (n - 2) (Ne.symm hm.2)]
  · rintro ⟨⟨hzero, hone⟩, hm⟩
    -- a call that stops, among calls that do nothing, is seen in the result
    let f : Int64 → Counting Int64 := fun _ => pure 0
    let g : Int64 → Counting Int64 := Function.update f m (throw .stackExhausted)
    let t : Table := ⟨[], List.replicate 10 0⟩
    refine ⟨f, g, fun k hk => (Function.update_of_ne hk _ f).symm, fun heq => ?_⟩
    obtain ⟨t₁, hf⟩ := exists_fibonacciBody_apply f hzero hone (t := t) (by decide)
    obtain ⟨t₂, hg⟩ := exists_fibonacciBody_apply g hzero hone (t := t) (by decide)
    have hgm : g m = throw .stackExhausted := Function.update_self m _ f
    rw [heq, hg] at hf
    rcases hm with rfl | rfl
    · rw [hgm] at hf
      change (Except.error Fault.stackExhausted, t₂) = (Except.ok 0, t₁) at hf
      cases hf
    · have hne : n - 1 ≠ n - 2 := fun h => absurd ((Int64.sub_right_inj n).mp h) (by decide)
      have hfirst : g (n - 1) = pure 0 := Function.update_of_ne hne _ f
      rw [hfirst, hgm] at hf
      change (Except.error Fault.stackExhausted, t₂) = (Except.ok 0, t₁) at hf
      cases hf

theorem nonneg_of_calls {n m : Int64} (hn : 0 ≤ n) (h : Calls fibonacciBody n m) : 0 ≤ m := by
  obtain ⟨⟨hzero, hone⟩, hm⟩ := calls_fibonacciBody_iff.mp h
  have hlt := one_lt_of_nonneg hn hzero hone
  obtain rfl | rfl := hm
  · exact Int64.sub_nonneg_of_le (by decide) (Int64.le_of_lt hlt)
  · exact Int64.sub_nonneg_of_le (by decide) (two_le_of_one_lt hlt)

/-- **The Fibonacci function in closed form.** On a table with its sites, a call with an argument
from zero on gives the Fibonacci number as a word, and adds to each counter, with wrapping, what
`fiboCount` says; no other counter changes. That is what the literal calls do, if there is room for
them, and no call on the way down has an argument below zero. -/
theorem fibonacci_eq_fiboCount (n : Int64) (t : Table) (hn : 0 ≤ n) (ht : 10 ≤ t.size) :
    fibonacci n t
        = (.ok (Int64.ofInt (Int.fib n.toInt)),
          { t with
            counts := t.counts.mapIdx fun site c => c + Int64.ofInt (fiboCount n.toInt site) }) ∧
      (∀ depth, n.toNatClampNeg < depth → nested fibonacciBody depth n t = fibonacci n t) ∧
      ∀ m, Relation.TransGen (Calls fibonacciBody) n m → 0 ≤ m := by
  have hint : n.toInt = n.toNatClampNeg := Int64.toInt_eq_toNatClampNeg hn
  refine ⟨?_, fun depth hdepth => by rw [nested_fibonacciBody_eq hn hdepth], fun m hm => ?_⟩
  · have hsites : ∀ x ∈ once (fiboPath n.toNatClampNeg), t.hasSite x.1 :=
      hasSite_once_of_subset (mem_fiboSites_of_mem_fiboPath _) (by decide) ht
    rw [(fibonacci_yields hn).eq_plus hsites, plus_total_once t (count_fiboPath n.toNatClampNeg),
      hint, Int.fib_natCast, Int64.ofInt_eq_ofNat]
  · induction hm with
    | single h => exact nonneg_of_calls hn h
    | tail _ h ih => exact nonneg_of_calls ih h

/-- The argument five, on a table that has counted before and whose last counter comes around. -/
theorem fibonacci_eq_fiboCount_of_five :
    let t : Table := ⟨"u", [0, 0, 0, 2, 0, 0, 0, 0, 1, Int64.maxValue]⟩
    0 ≤ (5 : Int64) ∧ 10 ≤ t.size ∧
      fibonacci 5 t
        = (.ok 5, ⟨"u", [0, 0, 0, 17, 3, 0, 12, 5, 1, -9223372036854775802]⟩) ∧
      nested fibonacciBody 6 5 t = fibonacci 5 t ∧
      ∀ m, Relation.TransGen (Calls fibonacciBody) 5 m → 0 ≤ m := by
  intro t
  have hn : 0 ≤ (5 : Int64) := by decide
  have ht : 10 ≤ t.size := by decide
  obtain ⟨hrun, hnested, hcalls⟩ := fibonacci_eq_fiboCount 5 t hn ht
  exact ⟨hn, ht, hrun.trans rfl, hnested 6 (by decide), hcalls⟩

/-! ### Factorials -/

/-- How often a factorial call and the calls inside it pass a site. -/
def factCount (n : Int) (site : Nat) : Int :=
  if site = factEntry then max n 1
  else if site = factBase then 1
  else if site = factRecurse then max n 1 - 1
  else 0

theorem factCount_of_not_mem (n : Int) {site : Nat} (h : site ∉ factSites) :
    factCount n site = 0 := by
  simp only [factSites, List.mem_cons, List.not_mem_nil, or_false, not_or] at h
  rw [factCount, if_neg h.1, if_neg h.2.1, if_neg h.2.2]

/-- An argument below one does what one does. -/
theorem exists_eq_succ (n : Int64) :
    ∃ m : Nat, max n.toInt 1 = m + 1 ∧ factPath n.toNatClampNeg = factPath (m + 1) ∧
      product n.toNatClampNeg = product (m + 1) := by
  by_cases hone : n ≤ 1
  · obtain ⟨hpath, hvalue⟩ := factPath_of_le_one hone
    have hle : n.toInt ≤ 1 := Int64.le_iff_toInt_le.mp hone
    exact ⟨0, by simpa using hle, hpath, hvalue⟩
  · have hlt : 1 < n := Int64.not_le.mp hone
    obtain ⟨m, hm, -, -⟩ := exists_eq_add_two hlt
    have hint := Int64.toInt_eq_toNatClampNeg (Int64.le_of_lt (Int64.lt_trans (by decide) hlt))
    refine ⟨m + 1, ?_, by rw [hm], by rw [hm]⟩
    rw [hint, hm]
    omega

/-- **How often the path of a factorial call passes a site.** -/
theorem count_factPath_eq (n : Int64) (site : Nat) :
    ((factPath n.toNatClampNeg).count site : Int) = factCount n.toInt site := by
  by_cases hsite : site ∈ factSites
  · obtain ⟨m, hmax, hpath, -⟩ := exists_eq_succ n
    obtain ⟨hentry, hbase, hrecurse⟩ := count_factPath m
    simp only [factSites, List.mem_cons, List.not_mem_nil, or_false] at hsite
    rw [hpath, factCount, hmax]
    rcases hsite with rfl | rfl | rfl
    · rw [hentry]
      simp
    · rw [hbase]
      rfl
    · rw [hrecurse]
      simp [factEntry, factBase, factRecurse]
  · rw [factCount_of_not_mem _ hsite,
      List.count_eq_zero_of_not_mem fun h => hsite (mem_factSites_of_mem_factPath _ site h)]
    rfl

theorem product_succ_eq_prod (m : Nat) :
    product (m + 1) = Int64.ofInt (∏ k ∈ Finset.Icc 2 (m + 1 : Int), k) := by
  induction m with
  | zero => rfl
  | succ m ih =>
    have hinsert := Finset.insert_Icc_right_eq_Icc_add_one (show (2 : Int) ≤ m + 1 + 1 by omega)
    rw [product, ih, Nat.cast_succ, ← hinsert, Finset.prod_insert (by simp), Int64.ofInt_mul,
      ← Int64.ofInt_eq_ofNat]
    rfl

/-- **The product of the numbers from two to an argument**, as a word. -/
theorem product_eq_prod (n : Int64) :
    product n.toNatClampNeg = Int64.ofInt (∏ k ∈ Finset.Icc 2 n.toInt, k) := by
  obtain ⟨m, hmax, -, hvalue⟩ := exists_eq_succ n
  have hsame : Finset.Icc 2 n.toInt = Finset.Icc 2 (m + 1 : Int) := by
    ext k
    rw [Finset.mem_Icc, Finset.mem_Icc]
    omega
  rw [hvalue, product_succ_eq_prod, hsame]

/-- **The factorial function in closed form.** On a table with its sites, a call gives the product
of the numbers from two to its argument as a word, and adds to each counter, with wrapping, what
`factCount` says; no other counter changes. That is what the literal calls do, if there is room for
them. -/
theorem factorial_eq_factCount (n : Int64) (t : Table) (ht : 6 ≤ t.size) :
    factorial n t
        = (.ok (Int64.ofInt (∏ k ∈ Finset.Icc 2 n.toInt, k)),
          { t with
            counts := t.counts.mapIdx fun site c => c + Int64.ofInt (factCount n.toInt site) }) ∧
      ∀ depth, n.toNatClampNeg < depth → nested factorialBody depth n t = factorial n t := by
  refine ⟨?_, fun depth hdepth => by rw [nested_factorialBody_eq hdepth]⟩
  have hsites : ∀ x ∈ once (factPath n.toNatClampNeg), t.hasSite x.1 :=
    hasSite_once_of_subset (mem_factSites_of_mem_factPath _) (by decide) ht
  rw [(factorial_yields n).eq_plus hsites, plus_total_once t (count_factPath_eq n),
    product_eq_prod]

/-- The argument 21, whose product does not fit, and an argument below zero. -/
theorem factorial_eq_factCount_of_wrap :
    let t : Table := ⟨"u", [0, 0, Int64.maxValue, 0, 7, 0]⟩
    6 ≤ t.size ∧
      factorial 21 t
        = (.ok (-4249290049419214848), ⟨"u", [0, 0, -9223372036854775788, 1, 7, 20]⟩) ∧
      nested factorialBody 22 21 t = factorial 21 t ∧
      factorial (-3) t = (.ok 1, ⟨"u", [0, 0, Int64.minValue, 1, 7, 0]⟩) := by
  intro t
  have ht : 6 ≤ t.size := by decide
  obtain ⟨hrun, hnested⟩ := factorial_eq_factCount 21 t ht
  exact ⟨ht, hrun.trans rfl, hnested 22 (by decide),
    (factorial_eq_factCount (-3) t ht).1.trans rfl⟩

end Benchmark

end HitLog
