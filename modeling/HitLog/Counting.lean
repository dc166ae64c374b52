import HitLog.Table

/-!
# Counting code

Instrumented code changes one table while it runs, and a hit on a site that the table does not have
stops it. Hits made before the fault stay.

## Main definitions

* `Counting` — code that counts in a table and may stop with a fault
* `Counting.hit`, `Counting.raise` — count a site once, or many times
-/

namespace HitLog

/-- Code that counts in a table and may stop with a fault. -/
abbrev Counting (α : Type) := ExceptT Fault (StateM Table) α

namespace Counting

/-- The code of an operation that gives the next table. -/
def ofTable (f : Table → Except Fault Table) : Counting Unit := fun t =>
  match f t with
  | .ok t' => (.ok (), t')
  | .error e => (.error e, t)

/-- Count a site once. -/
def hit (site : Nat) : Counting Unit := ofTable (·.inc site)

/-- Count a site `n` times, as a word. -/
def raise (site : Nat) (n : Int64) : Counting Unit := ofTable (·.bump site n)

end Counting

end HitLog
