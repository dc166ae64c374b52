import HitLog.Benchmark
import HitLog.Proofs.Counting
import Mathlib.Data.Nat.Fib.Basic

/-!
# The sites that the benchmarks pass

A call of a benchmark passes sites in a fixed order, which is written down here as a path: a list of
sites, each of them counted once. The literal calls follow their paths by the very same recursion.
The counted functions pass the sites of the first call one by one and then raise each site by a
number that they get from tallies. They follow the same paths: the first call has passed the highest
site of the inner ones, so that behind it only the totals of the inner calls matter.

Both give the same values besides, so that they are the same code: on every table, however short,
bulk counting does what the calls inside calls do, as long as there is room for them.

## Main definitions

* `Benchmark.fiboPath`, `Benchmark.factPath` — the sites of a call, in order

## Main results

* `Benchmark.fibonacci_yields`, `Benchmark.factorial_yields` — what bulk counting does
* `Benchmark.nested_fibonacciBody_eq`, `Benchmark.nested_factorialBody_eq` — the literal calls do
  the same
* `Benchmark.innerTally_eq` — the tallies of the inner calls
-/

namespace HitLog

namespace Benchmark

open Table (Touch total)
open Counting (Follows Yields)

/-! ### Paths -/

/-- Touch each site of a path once. -/
def once (path : List Nat) : List Touch := path.map fun site : Nat => ((site : Int), 1)

/-- Raise each of some sites by the number of its occurrences on a path. -/
def inBulk (sites path : List Nat) : List Touch :=
  sites.map fun site : Nat => ((site : Int), path.count site)

theorem once_append (p q : List Nat) : once (p ++ q) = once p ++ once q := List.map_append

theorem total_once (path : List Nat) (site : Nat) : total (once path) site = path.count site := by
  induction path with
  | nil => rfl
  | cons a path ih =>
    rw [once, List.map_cons, Table.total_cons, List.count_cons]
    rw [once] at ih
    by_cases h : a = site
    · simp [h, ih, Nat.add_comm]
    · simp [h, ih]

theorem total_inBulk {sites : List Nat} (hsites : sites.Nodup) (path : List Nat) (site : Nat) :
    total (inBulk sites path) site = if site ∈ sites then path.count site else 0 := by
  induction sites with
  | nil => rfl
  | cons a sites ih =>
    obtain ⟨ha, hsites⟩ := List.nodup_cons.mp hsites
    rw [inBulk, List.map_cons, Table.total_cons]
    have ih := ih hsites
    rw [inBulk] at ih
    by_cases h : a = site
    · subst h
      simp [ih, ha]
    · simp [ih, h, Ne.symm h]

/-- **A path in bulk**, behind a start that touches the highest of its sites. -/
theorem countAll_once_eq_inBulk (t : Table) (top : Nat) {sites start path : List Nat}
    (hsites : sites.Nodup) (htop : top ∈ start) (hle : ∀ site ∈ sites, site ≤ top)
    (hpath : ∀ site ∈ path, site ∈ sites) :
    t.countAll (once start ++ inBulk sites path) = t.countAll (once (start ++ path)) := by
  rw [once_append]
  refine t.countAll_append_congr top (by simpa [once] using htop) ?_ ?_ fun site => ?_
  · simp only [inBulk, List.mem_map]
    rintro - ⟨site, hsite, rfl⟩
    exact ⟨by simp, by simpa using hle site hsite⟩
  · simp only [once, List.mem_map]
    rintro - ⟨site, hsite, rfl⟩
    exact ⟨by simp, by simpa using hle site (hpath site hsite)⟩
  · rw [total_inBulk hsites, total_once]
    by_cases hmem : site ∈ sites
    · rw [if_pos hmem]
    · rw [if_neg hmem, List.count_eq_zero_of_not_mem fun h => hmem (hpath site h)]

/-! ### Arguments -/

theorem two_le_of_one_lt {n : Int64} (h : 1 < n) : 2 ≤ n := by
  have hn : 1 < n.toInt := Int64.lt_iff_toInt_lt.mp h
  exact Int64.le_iff_toInt_le.mpr (show 2 ≤ n.toInt by omega)

/-- An argument above one, and the arguments of the calls inside. -/
theorem exists_eq_add_two {n : Int64} (h : 1 < n) :
    ∃ m, n.toNatClampNeg = m + 2 ∧ (n - 1).toNatClampNeg = m + 1 ∧
      (n - 2).toNatClampNeg = m := by
  have hone : (n - 1).toNatClampNeg = n.toNatClampNeg - 1 :=
    Int64.toNatClampNeg_sub_of_le (by decide) (Int64.le_of_lt h)
  have htwo : (n - 2).toNatClampNeg = n.toNatClampNeg - 2 :=
    Int64.toNatClampNeg_sub_of_le (by decide) (two_le_of_one_lt h)
  have hle : 2 ≤ n.toNatClampNeg := Int64.toNatClampNeg_le (two_le_of_one_lt h)
  exact ⟨n.toNatClampNeg - 2, by omega, by omega, by omega⟩

/-- Arguments from zero on are zero, one or above. -/
theorem one_lt_of_nonneg {n : Int64} (h : 0 ≤ n) (hzero : n ≠ 0) (hone : n ≠ 1) : 1 < n := by
  have hnonneg : 0 ≤ n.toInt := Int64.le_iff_toInt_le.mp h
  have hzero' : n.toInt ≠ 0 := fun hc => hzero (Int64.toInt_inj.mp hc)
  have hone' : n.toInt ≠ 1 := fun hc => hone (Int64.toInt_inj.mp hc)
  exact Int64.lt_iff_toInt_lt.mpr (show 1 < n.toInt by omega)

/-! ### Fibonacci numbers -/

/-- The sites of a Fibonacci call. -/
def fiboPath : Nat → List Nat
  | 0 => [fiboEntry, fiboZero]
  | 1 => [fiboEntry, fiboOneCheck, fiboOne]
  | n + 2 => [fiboEntry, fiboOneCheck, fiboRecurse] ++ (fiboPath (n + 1) ++ fiboPath n)

/-- All sites of Fibonacci calls. -/
def fiboSites : List Nat := [fiboEntry, fiboZero, fiboOneCheck, fiboOne, fiboRecurse]

theorem mem_fiboSites_of_mem_fiboPath (n : Nat) : ∀ site ∈ fiboPath n, site ∈ fiboSites := by
  induction n using fiboPath.induct with
  | case1 => decide
  | case2 => decide
  | case3 n ih₁ ih₂ =>
    intro site hsite
    rw [fiboPath, List.mem_append, List.mem_append] at hsite
    obtain hfirst | hone | htwo := hsite
    · revert site
      decide
    · exact ih₁ site hone
    · exact ih₂ site htwo

/-- The tally of a path. -/
def tallyOf (value : Nat) (path : List Nat) : Tally where
  value := Int64.ofNat value
  entry := Int64.ofNat (path.count fiboEntry)
  zero := Int64.ofNat (path.count fiboZero)
  oneCheck := Int64.ofNat (path.count fiboOneCheck)
  one := Int64.ofNat (path.count fiboOne)
  recurse := Int64.ofNat (path.count fiboRecurse)

theorem tallyOf_add (m n : Nat) (p q : List Nat) :
    (tallyOf m p).add (tallyOf n q) = tallyOf (m + n) (p ++ q) := by
  simp only [Tally.add, tallyOf, List.count_append, Int64.ofNat_add]

/-- The tally of a call. -/
def fiboTally (n : Nat) : Tally := tallyOf (Nat.fib n) (fiboPath n)

/-- A call passes three sites before the two inner ones. -/
theorem fiboTally_around (n : Nat) :
    (fiboTally (n + 1)).around (fiboTally n) = fiboTally (n + 2) := by
  simp only [Tally.around, fiboTally, tallyOf_add, fiboPath, Nat.fib_add_two]
  simp [tallyOf, List.count_append, fiboEntry, fiboZero, fiboOneCheck, fiboOne, fiboRecurse,
    Int64.ofNat_add, Int64.add_comm]

theorem talliesFrom_fiboTally (k n : Nat) :
    talliesFrom (fiboTally k) (fiboTally (k + 1)) n
      = (fiboTally (k + n), fiboTally (k + n + 1)) := by
  induction n generalizing k with
  | zero => rfl
  | succ n ih =>
    have hshift : k + 1 + n = k + (n + 1) := by omega
    rw [talliesFrom, fiboTally_around, ih (k + 1), hshift]

/-- **The tally of the two inner calls.** -/
theorem innerTally_eq (n : Nat) :
    innerTally (n + 2) = tallyOf (Nat.fib (n + 2)) (fiboPath (n + 1) ++ fiboPath n) := by
  have hzero : Tally.atZero = fiboTally 0 := rfl
  have hone : Tally.atOne = fiboTally 1 := rfl
  have htallies : talliesFrom .atZero .atOne n = (fiboTally n, fiboTally (n + 1)) := by
    simpa [hzero, hone] using talliesFrom_fiboTally 0 n
  rw [innerTally, Nat.add_sub_cancel, htallies, Nat.fib_add_two, Nat.add_comm (Nat.fib n)]
  exact tallyOf_add _ _ _ _

/-- **Fibonacci calls counted in bulk** follow the path of the literal calls. -/
theorem fibonacci_yields {n : Int64} (h : 0 ≤ n) :
    Yields (fibonacci n) (once (fiboPath n.toNatClampNeg))
      (Int64.ofNat (Nat.fib n.toNatClampNeg)) := by
  rw [fibonacci]
  by_cases hzero : n = 0
  · subst hzero
    exact (Yields.hit _).bind ((Yields.hit _).bind (.pure _))
  by_cases hone : n = 1
  · subst hone
    exact (Yields.hit _).bind ((Yields.hit _).bind ((Yields.hit _).bind (.pure _)))
  obtain ⟨m, hm, -, -⟩ := exists_eq_add_two (one_lt_of_nonneg h hzero hone)
  have hneg : ¬ n < 0 := Int64.not_lt.mpr h
  simp only [hzero, hone, hneg, if_false, hm, innerTally_eq]
  have hpath : ∀ site ∈ fiboPath (m + 1) ++ fiboPath m, site ∈ fiboSites := fun site hsite =>
    (List.mem_append.mp hsite).elim (mem_fiboSites_of_mem_fiboPath _ site)
      (mem_fiboSites_of_mem_fiboPath _ site)
  refine Yields.congr (?_ : Yields _ (once [fiboEntry, fiboOneCheck, fiboRecurse] ++
    inBulk fiboSites (fiboPath (m + 1) ++ fiboPath m)) _) fun t =>
      countAll_once_eq_inBulk t fiboRecurse (by decide) (by decide) (by decide) hpath
  exact (Yields.hit _).bind <| (Yields.hit _).bind <| (Yields.hit _).bind <|
    (Yields.raise _ rfl).bind <| (Yields.raise _ rfl).bind <| (Yields.raise _ rfl).bind <|
      (Yields.raise _ rfl).bind <| (Yields.raise _ rfl).bind <| .pure _

theorem fibonacci_follows {n : Int64} (h : 0 ≤ n) :
    Follows (fibonacci n) (once (fiboPath n.toNatClampNeg)) := (fibonacci_yields h).follows

/-- The literal calls yield the same, one call at a time. -/
theorem nested_fibonacciBody_yields {depth : Nat} {n : Int64} (h : 0 ≤ n)
    (hdepth : n.toNatClampNeg < depth) :
    Yields (nested fibonacciBody depth n) (once (fiboPath n.toNatClampNeg))
      (Int64.ofNat (Nat.fib n.toNatClampNeg)) := by
  -- on the depth, as both inner calls have one call less to go
  induction depth generalizing n with
  | zero => omega
  | succ depth ih =>
    rw [nested, fibonacciBody]
    by_cases hzero : n = 0
    · subst hzero
      exact (Yields.hit _).bind ((Yields.hit _).bind (.pure _))
    by_cases hone : n = 1
    · subst hone
      exact (Yields.hit _).bind ((Yields.hit _).bind ((Yields.hit _).bind (.pure _)))
    have hlt := one_lt_of_nonneg h hzero hone
    obtain ⟨m, hm, hm₁, hm₂⟩ := exists_eq_add_two hlt
    have hfirst := ih (n := n - 1) (Int64.sub_nonneg_of_le (by decide) (Int64.le_of_lt hlt))
      (by omega)
    have hsecond := ih (n := n - 2) (Int64.sub_nonneg_of_le (by decide) (two_le_of_one_lt hlt))
      (by omega)
    rw [hm₁] at hfirst
    rw [hm₂] at hsecond
    have hvalue : Int64.ofNat (Nat.fib (m + 2))
        = Int64.ofNat (Nat.fib (m + 1)) + Int64.ofNat (Nat.fib m) := by
      rw [Nat.fib_add_two, Nat.add_comm, Int64.ofNat_add]
    simp only [hzero, hone, if_false, hm]
    rw [hvalue, fiboPath, once_append, once_append, ← List.append_nil (once (fiboPath m))]
    exact (Yields.hit _).bind <| (Yields.hit _).bind <| (Yields.hit _).bind <|
      hfirst.bind <| hsecond.bind <| .pure _

/-- **Bulk counting is what the literal calls do**, on every table. -/
theorem nested_fibonacciBody_eq {depth : Nat} {n : Int64} (h : 0 ≤ n)
    (hdepth : n.toNatClampNeg < depth) : nested fibonacciBody depth n = fibonacci n :=
  (nested_fibonacciBody_yields h hdepth).unique (fibonacci_yields h)

/-! ### Factorials -/

/-- The sites of a factorial call. -/
def factPath : Nat → List Nat
  | 0 => [factEntry, factBase]
  | 1 => [factEntry, factBase]
  | n + 2 => [factEntry, factRecurse] ++ factPath (n + 1)

/-- All sites of factorial calls. -/
def factSites : List Nat := [factEntry, factBase, factRecurse]

theorem mem_factSites_of_mem_factPath (n : Nat) : ∀ site ∈ factPath n, site ∈ factSites := by
  induction n using factPath.induct with
  | case1 => decide
  | case2 => decide
  | case3 n ih =>
    intro site hsite
    rw [factPath, List.mem_append] at hsite
    obtain hfirst | hinner := hsite
    · revert site
      decide
    · exact ih site hinner

theorem count_factPath (n : Nat) :
    (factPath (n + 1)).count factEntry = n + 1 ∧ (factPath (n + 1)).count factBase = 1 ∧
      (factPath (n + 1)).count factRecurse = n := by
  induction n with
  | zero => decide
  | succ n ih =>
    obtain ⟨hentry, hbase, hrecurse⟩ := ih
    simp only [factPath, List.count_append, hentry, hbase, hrecurse]
    simp [factEntry, factBase, factRecurse]
    omega

/-- From `vanishing` on, the product is zero as a word. -/
theorem product_of_vanishing_le {n : Nat} (h : vanishing ≤ n) : product n = 0 := by
  induction n, h using Nat.le_induction with
  | base => decide +kernel
  | succ n _ ih => rw [product, ih, Int64.mul_zero]

theorem product_min_vanishing (n : Nat) : product (min n vanishing) = product n := by
  obtain h | h := Nat.le_total n vanishing
  · rw [Nat.min_eq_left h]
  · rw [Nat.min_eq_right h, product_of_vanishing_le h, product_of_vanishing_le le_rfl]

/-- Arguments up to one take the short path. -/
theorem factPath_of_le_one {n : Int64} (h : n ≤ 1) :
    factPath n.toNatClampNeg = [factEntry, factBase] ∧ product n.toNatClampNeg = 1 := by
  have hle : n.toNatClampNeg ≤ 1 := Int64.toNatClampNeg_le h
  obtain h | h : n.toNatClampNeg = 0 ∨ n.toNatClampNeg = 1 := by omega
  · rw [h]
    exact ⟨rfl, rfl⟩
  · rw [h]
    exact ⟨rfl, rfl⟩

/-- An argument above one as a word. -/
theorem eq_ofNat_of_one_lt {n : Int64} (h : 1 < n) {m : Nat} (hm : n.toNatClampNeg = m + 2) :
    n = Int64.ofNat (m + 2) := by
  have hnonneg : 0 ≤ n := Int64.le_of_lt (Int64.lt_trans (by decide) h)
  rw [← hm, Int64.ofNat_toNatClampNeg n hnonneg]

/-- **Factorial calls counted in bulk** follow the path of the literal calls. -/
theorem factorial_yields (n : Int64) :
    Yields (factorial n) (once (factPath n.toNatClampNeg)) (product n.toNatClampNeg) := by
  rw [factorial]
  by_cases hone : n ≤ 1
  · obtain ⟨hpath, hvalue⟩ := factPath_of_le_one hone
    simp only [hone, if_true, hpath, hvalue]
    exact (Yields.hit _).bind ((Yields.hit _).bind (.pure _))
  have hlt : 1 < n := Int64.not_le.mp hone
  obtain ⟨m, hm, -, -⟩ := exists_eq_add_two hlt
  obtain ⟨hentry, hbase, hrecurse⟩ := count_factPath m
  have hn := eq_ofNat_of_one_lt hlt hm
  have hentry' : n - 1 = Int64.ofNat ((factPath (m + 1)).count factEntry) := by
    rw [hentry, hn, Int64.ofNat_add (m + 1) 1]
    exact Int64.add_sub_cancel _ _
  have hbase' : 1 = Int64.ofNat ((factPath (m + 1)).count factBase) := by
    rw [hbase]
    rfl
  have hrecurse' : n - 2 = Int64.ofNat ((factPath (m + 1)).count factRecurse) := by
    rw [hrecurse, hn, Int64.ofNat_add m 2]
    exact Int64.add_sub_cancel _ _
  simp only [hone, if_false, hm, product_min_vanishing]
  refine Yields.congr (?_ : Yields _ (once [factEntry, factRecurse] ++
    inBulk factSites (factPath (m + 1))) _) fun t =>
      countAll_once_eq_inBulk t factRecurse (by decide) (by decide) (by decide)
        (mem_factSites_of_mem_factPath (m + 1))
  exact (Yields.hit _).bind <| (Yields.hit _).bind <| (Yields.raise _ hentry').bind <|
    (Yields.raise _ hbase').bind <| (Yields.raise _ hrecurse').bind <| .pure _

theorem factorial_follows (n : Int64) :
    Follows (factorial n) (once (factPath n.toNatClampNeg)) := (factorial_yields n).follows

/-- The literal calls yield the same, one call at a time. -/
theorem nested_factorialBody_yields {depth : Nat} {n : Int64}
    (hdepth : n.toNatClampNeg < depth) :
    Yields (nested factorialBody depth n) (once (factPath n.toNatClampNeg))
      (product n.toNatClampNeg) := by
  induction depth generalizing n with
  | zero => omega
  | succ depth ih =>
    rw [nested, factorialBody]
    by_cases hone : n ≤ 1
    · obtain ⟨hpath, hvalue⟩ := factPath_of_le_one hone
      simp only [hone, if_true, hpath, hvalue]
      exact (Yields.hit _).bind ((Yields.hit _).bind (.pure _))
    have hlt : 1 < n := Int64.not_le.mp hone
    obtain ⟨m, hm, hm₁, -⟩ := exists_eq_add_two hlt
    have hinner := ih (n := n - 1) (by omega)
    rw [hm₁] at hinner
    have hvalue : product (m + 2) = n * product (m + 1) := by
      rw [product, ← eq_ofNat_of_one_lt hlt hm]
    simp only [hone, if_false, hm]
    rw [hvalue, factPath, once_append, ← List.append_nil (once (factPath (m + 1)))]
    exact (Yields.hit _).bind <| (Yields.hit _).bind <| hinner.bind <| .pure _

/-- **Bulk counting is what the literal calls do**, on every table. -/
theorem nested_factorialBody_eq {depth : Nat} {n : Int64} (hdepth : n.toNatClampNeg < depth) :
    nested factorialBody depth n = factorial n :=
  (nested_factorialBody_yields hdepth).unique (factorial_yields n)

end Benchmark

end HitLog
