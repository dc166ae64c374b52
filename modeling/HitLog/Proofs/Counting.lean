import HitLog.Counting
import Mathlib.Algebra.BigOperators.Group.List.Basic
import Mathlib.Algebra.GroupWithZero.Nat
import Mathlib.Data.List.TakeWhile

/-!
# What counting code does to its table

Counting code touches sites one after the other and stops at the first that the table does not have.
So what it does is said by a list of touches, each a site with a number of executions, and
`Counting.Follows` says that code does what such a list says. Sequencing code appends the lists. If
the value is known besides (`Counting.Yields`), then the code is known altogether.

As long as all sites are there, the order of touches does not matter: the table is the old one plus,
at each site, the total of its touches. That is what allows code that counts in bulk.

## Main definitions

* `Table.countAll` — touch sites in order, up to the first that is not there
* `Table.plus` — a table with something added at each site
* `Counting.Follows` — code that does what a list of touches says
* `Counting.Yields` — code that does so and gives a value

## Main results

* `Table.countAll_snd`, `Table.countAll_fst_eq_none_iff` — what touches add, and when they stop
* `Table.countAll_append_congr` — only totals matter
* `Counting.Follows.bind`, `Counting.Yields.bind` — sequencing
* `Counting.Yields.unique` — touches and a value determine code
-/

namespace HitLog

namespace Table

/-- A site with a number of executions. -/
abbrev Touch := Int × Nat

/-- What counting does not change: the unit and its number of sites. -/
def shape (t : Table) : Text × Nat := (t.identifier, t.size)

/-- The table with something added at each site, as words. -/
def plus (t : Table) (f : Nat → Nat) : Table :=
  { t with counts := t.counts.mapIdx fun i c => c + Int64.ofNat (f i) }

/-- The executions of one site among touches. -/
def total (xs : List Touch) (site : Nat) : Nat :=
  ((xs.filter fun x => x.1 = (site : Int)).map Prod.snd).sum

/-- Touch sites in order, up to the first that is not there. -/
def countAll (t : Table) : List Touch → Option Fault × Table
  | [] => (none, t)
  | (site, n) :: xs =>
    if t.hasSite site then
      countAll { t with counts := t.counts.modify site.toNat (· + Int64.ofNat n) } xs
    else (some (.siteOutOfRange site t.size), t)

/-! ### Adding -/

theorem shape_plus (t : Table) (f : Nat → Nat) : (t.plus f).shape = t.shape := by
  simp [plus, shape, size]

theorem plus_zero (t : Table) : (t.plus fun _ => 0) = t := by
  have h : (t.counts.mapIdx fun _ c => c + Int64.ofNat 0) = t.counts := by
    rw [List.mapIdx_eq_iff]
    intro i
    cases t.counts[i]? with
    | none => rfl
    | some c => exact congrArg some (Int64.add_zero c).symm
  rw [plus, h]

theorem plus_plus (t : Table) (f g : Nat → Nat) :
    (t.plus f).plus g = t.plus fun i => f i + g i := by
  have h : ((t.counts.mapIdx fun i c => c + Int64.ofNat (f i)).mapIdx
        fun i c => c + Int64.ofNat (g i))
      = t.counts.mapIdx fun i c => c + Int64.ofNat (f i + g i) := by
    rw [List.mapIdx_mapIdx]
    congr 1
    funext i c
    rw [Function.comp, Int64.ofNat_add, Int64.add_assoc]
  rw [plus, plus, plus, h]

/-! ### Totals -/

theorem total_nil (site : Nat) : total [] site = 0 := rfl

theorem total_cons (x : Touch) (xs : List Touch) (site : Nat) :
    total (x :: xs) site = (if x.1 = (site : Int) then x.2 else 0) + total xs site := by
  rw [total, total, List.filter_cons]
  by_cases h : x.1 = (site : Int) <;> simp [h]

theorem total_append (xs ys : List Touch) (site : Nat) :
    total (xs ++ ys) site = total xs site + total ys site := by
  simp [total]

/-! ### Touching sites -/

theorem modify_eq_plus {t : Table} {site : Int} (h : t.hasSite site) (n : Nat) :
    { t with counts := t.counts.modify site.toNat (· + Int64.ofNat n) }
      = t.plus (total [(site, n)]) := by
  have hcounts : t.counts.modify site.toNat (· + Int64.ofNat n)
      = t.counts.mapIdx fun i c => c + Int64.ofNat (total [(site, n)] i) := by
    symm
    rw [List.mapIdx_eq_iff]
    intro i
    rw [List.getElem?_modify, total_cons, total_nil]
    have hsite : site = (i : Int) ↔ site.toNat = i := by
      have := h.1
      omega
    cases t.counts[i]? with
    | none => rfl
    | some c =>
      by_cases hi : site.toNat = i
      · simp [hsite.mpr hi]
      · simp [hi, mt hsite.mp hi]
  rw [plus, hcounts]

theorem hasSite_of_shape {t t' : Table} (h : t'.shape = t.shape) {site : Int} :
    t'.hasSite site ↔ t.hasSite site := by
  rw [hasSite, hasSite, show t'.size = t.size from congrArg Prod.snd h]

theorem hasSite_plus {t : Table} {f : Nat → Nat} {site : Int} :
    (t.plus f).hasSite site ↔ t.hasSite site := hasSite_of_shape (t.shape_plus f)

theorem countAll_cons_of_hasSite {t : Table} {site : Int} (h : t.hasSite site) (n : Nat)
    (xs : List Touch) :
    t.countAll ((site, n) :: xs) = (t.plus (total [(site, n)])).countAll xs := by
  rw [countAll, if_pos h, modify_eq_plus h]

theorem countAll_cons_of_not_hasSite {t : Table} {site : Int} (h : ¬ t.hasSite site) (n : Nat)
    (xs : List Touch) :
    t.countAll ((site, n) :: xs) = (some (.siteOutOfRange site t.size), t) := by
  rw [countAll, if_neg h]

/-- Touches go on where those before them ended, if they did not stop. -/
theorem countAll_append (t : Table) (xs ys : List Touch) :
    t.countAll (xs ++ ys) =
      match t.countAll xs with
      | (none, t') => t'.countAll ys
      | (some f, t') => (some f, t') := by
  induction xs generalizing t with
  | nil => rfl
  | cons x xs ih =>
    obtain ⟨site, n⟩ := x
    by_cases h : t.hasSite site
    · rw [List.cons_append, countAll_cons_of_hasSite h, countAll_cons_of_hasSite h, ih]
    · rw [List.cons_append, countAll_cons_of_not_hasSite h, countAll_cons_of_not_hasSite h]

/-- Touches come to their end exactly if all sites are there. -/
theorem countAll_fst_eq_none_iff {t : Table} {xs : List Touch} :
    (t.countAll xs).1 = none ↔ ∀ x ∈ xs, t.hasSite x.1 := by
  induction xs generalizing t with
  | nil => simp [countAll]
  | cons x xs ih =>
    obtain ⟨site, n⟩ := x
    by_cases h : t.hasSite site
    · simp [countAll_cons_of_hasSite h, ih, hasSite_plus, h]
    · simp [countAll_cons_of_not_hasSite h, h]

/-- **What touches add**: the totals up to the first site that is not there. -/
theorem countAll_snd (t : Table) (xs : List Touch) :
    (t.countAll xs).2 = t.plus (total (xs.takeWhile fun x => t.hasSite x.1)) := by
  induction xs generalizing t with
  | nil => exact t.plus_zero.symm
  | cons x xs ih =>
    obtain ⟨site, n⟩ := x
    by_cases h : t.hasSite site
    · rw [countAll_cons_of_hasSite h, ih, plus_plus, List.takeWhile_cons_of_pos (by simpa using h)]
      simp only [hasSite_plus, ← total_append]
      rfl
    · rw [countAll_cons_of_not_hasSite h, List.takeWhile_cons_of_neg (by simpa using h)]
      exact t.plus_zero.symm

/-- Where all sites are there, only totals matter. -/
theorem countAll_eq_plus {t : Table} {xs : List Touch} (h : ∀ x ∈ xs, t.hasSite x.1) :
    t.countAll xs = (none, t.plus (total xs)) := by
  refine Prod.ext (countAll_fst_eq_none_iff.mpr h) ?_
  rw [countAll_snd, List.takeWhile_eq_self_iff.mpr fun x hx => by simpa using h x hx]

theorem shape_countAll (t : Table) (xs : List Touch) : (t.countAll xs).2.shape = t.shape := by
  rw [countAll_snd, shape_plus]

/-- **Bulk counting**: behind a touch of one site, only the totals of touches of lower sites
matter. -/
theorem countAll_append_congr (t : Table) (top : Int) {first xs ys : List Touch}
    (htop : top ∈ first.map Prod.fst) (hxs : ∀ x ∈ xs, 0 ≤ x.1 ∧ x.1 ≤ top)
    (hys : ∀ y ∈ ys, 0 ≤ y.1 ∧ y.1 ≤ top) (h : ∀ i, total xs i = total ys i) :
    t.countAll (first ++ xs) = t.countAll (first ++ ys) := by
  rw [countAll_append, countAll_append]
  rcases hfirst : t.countAll first with ⟨_ | f, t'⟩
  · have hall : ∀ x ∈ first, t.hasSite x.1 := countAll_fst_eq_none_iff.mp (by rw [hfirst])
    have hshape : t'.shape = t.shape := by rw [← t.shape_countAll first, hfirst]
    have hsite : t'.hasSite top := by
      obtain ⟨x, hx, rfl⟩ := List.mem_map.mp htop
      exact (hasSite_of_shape hshape).mpr (hall x hx)
    have hlow : ∀ site : Int, 0 ≤ site ∧ site ≤ top → t'.hasSite site := fun site hs =>
      ⟨hs.1, by have := hsite.2; omega⟩
    change t'.countAll xs = t'.countAll ys
    rw [countAll_eq_plus fun x hx => hlow _ (hxs x hx),
      countAll_eq_plus fun y hy => hlow _ (hys y hy), funext h]
  · rfl

end Table

/-! ### Code -/

/-- What the second of two codes does is decided by how the first one ended. -/
theorem bind_apply {ε σ α β : Type} (x : ExceptT ε (StateM σ) α) (k : α → ExceptT ε (StateM σ) β)
    (s : σ) :
    (x >>= k) s =
      match x s with
      | (.ok a, s') => k a s'
      | (.error e, s') => (.error e, s') := by
  change (ExceptT.bindCont k (x s).1) (x s).2 = _
  rcases x s with ⟨result, s'⟩
  cases result <;> rfl

namespace Counting

open Table (Touch total)

variable {α β : Type}

/-- The fault that code stopped with. -/
def faultOf : Except Fault α → Option Fault
  | .ok _ => none
  | .error f => some f

/-- Code that does what a list of touches says. -/
def Follows (code : Counting α) (xs : List Touch) : Prop :=
  ∀ t : Table, (faultOf (code t).1, (code t).2) = t.countAll xs

namespace Follows

theorem pure (a : α) : Follows (Pure.pure a) [] := fun _ => rfl

/-- **Sequencing code appends its touches.** -/
theorem bind {x : Counting α} {k : α → Counting β} {xs ys : List Touch} (hx : Follows x xs)
    (hk : ∀ a, Follows (k a) ys) : Follows (x >>= k) (xs ++ ys) := by
  intro t
  have ht := hx t
  rw [Table.countAll_append, ← ht, bind_apply]
  rcases x t with ⟨result, t'⟩
  cases result with
  | error e => rfl
  | ok a => exact hk a t'

theorem map {x : Counting α} {xs : List Touch} (hx : Follows x xs) (g : α → β) :
    Follows (g <$> x) xs := by
  rw [map_eq_pure_bind]
  simpa using hx.bind fun a => .pure (g a)

theorem look (g : Table → α) : Follows (fun t => (.ok (g t), t) : Counting α) [] := fun _ => rfl

theorem bump (site : Int) {delta : Int64} {n : Nat} (h : delta = Int64.ofNat n) :
    Follows (ofTable (·.bump site delta)) [(site, n)] := by
  intro t
  rw [ofTable, Table.bump, h]
  by_cases hs : t.hasSite site
  · rw [if_pos hs, Table.countAll, if_pos hs]
    rfl
  · rw [if_neg hs, Table.countAll_cons_of_not_hasSite hs]
    rfl

theorem add (site : Int) (delta : Int64) :
    Follows (ofTable (·.add site delta))
      (if delta ≤ 0 then [] else [(site, delta.toNatClampNeg)]) := by
  intro t
  by_cases hd : delta ≤ 0
  · simp [ofTable, Table.add, hd, Table.countAll, faultOf]
  · have hpos : 0 ≤ delta := Int64.le_of_lt (Int64.not_le.mp hd)
    rw [if_neg hd, ← bump site (Int64.ofNat_toNatClampNeg delta hpos).symm t]
    simp only [ofTable, Table.add, hd, if_false]

/-- Looking at a site touches it without adding anything. -/
theorem get (site : Int) (g : Int64 → α) :
    Follows (fun t => ((t.get site).map g, t) : Counting α) [(site, 0)] := by
  intro t
  dsimp only
  by_cases hs : t.hasSite site
  · have hzero : total [(site, 0)] = fun _ => 0 := by
      funext i
      simp [Table.total_cons, Table.total_nil]
    rw [Table.countAll_cons_of_hasSite hs, hzero, Table.plus_zero, Table.get, if_pos hs]
    rfl
  · rw [Table.countAll_cons_of_not_hasSite hs, Table.get, if_neg hs]
    rfl

theorem hit (site : Nat) : Follows (Counting.hit site) [((site : Int), 1)] := bump site rfl

theorem raise (site : Nat) {delta : Int64} {n : Nat} (h : delta = Int64.ofNat n) :
    Follows (Counting.raise site delta) [((site : Int), n)] := bump site h

theorem shape {code : Counting α} {xs : List Touch} (h : Follows code xs) (t : Table) :
    (code t).2.shape = t.shape := by
  rw [← t.shape_countAll xs, ← h t]

end Follows

/-- What code gives that has a value unless it is stopped. -/
def outcome (a : α) : Option Fault → Except Fault α
  | none => .ok a
  | some f => .error f

/-- Code that does what a list of touches says, and gives a value unless a touch stops it. -/
def Yields (code : Counting α) (xs : List Touch) (a : α) : Prop :=
  ∀ t : Table, code t = (outcome a (t.countAll xs).1, (t.countAll xs).2)

namespace Yields

variable {x y : Counting α} {xs ys : List Touch} {a : α}

theorem pure (a : α) : Yields (Pure.pure a) [] a := fun _ => rfl

/-- **Sequencing code appends its touches**, and the last value is the one that is given. -/
theorem bind {k : α → Counting β} {b : β} (hx : Yields x xs a) (hk : Yields (k a) ys b) :
    Yields (x >>= k) (xs ++ ys) b := by
  intro t
  rw [Table.countAll_append, bind_apply, hx t]
  rcases t.countAll xs with ⟨_ | f, t'⟩
  · exact hk t'
  · rfl

/-- Code without a value yields what it follows. -/
theorem of_follows {code : Counting Unit} (h : Follows code xs) : Yields code xs () := by
  intro t
  rw [← h t]
  rcases code t with ⟨_ | _, t'⟩ <;> rfl

theorem follows (h : Yields x xs a) : Follows x xs := by
  intro t
  rw [h t]
  rcases t.countAll xs with ⟨_ | f, t'⟩ <;> rfl

theorem hit (site : Nat) : Yields (Counting.hit site) [((site : Int), 1)] () :=
  of_follows (.hit site)

theorem raise (site : Nat) {delta : Int64} {n : Nat} (h : delta = Int64.ofNat n) :
    Yields (Counting.raise site delta) [((site : Int), n)] () :=
  of_follows (.raise site h)

theorem congr (h : Yields x xs a) (hxs : ∀ t : Table, t.countAll xs = t.countAll ys) :
    Yields x ys a := by
  intro t
  rw [h t, hxs t]

/-- **Touches and a value determine code.** -/
theorem unique (hx : Yields x xs a) (hy : Yields y xs a) : x = y :=
  funext fun t => (hx t).trans (hy t).symm

/-- Where all sites are there, the value is given and the totals are added. -/
theorem eq_plus (h : Yields x xs a) {t : Table} (hsites : ∀ x ∈ xs, t.hasSite x.1) :
    x t = (.ok a, t.plus (total xs)) := by
  rw [h t, Table.countAll_eq_plus hsites]
  rfl

end Yields

end Counting

end HitLog
