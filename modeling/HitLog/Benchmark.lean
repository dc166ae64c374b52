import HitLog.Config
import HitLog.Counting

/-!
# The benchmarks

Two small recursive functions count the sites that they pass: Fibonacci numbers by the recursion
with two calls, and factorials. Their values and their counts are words and wrap.

A literal run of the two calls takes time that grows with the value. What is run here counts in bulk
instead: the first call passes its sites one by one, as only it can miss a site, and the counts of
the calls inside it come from tallies, which follow the same recursion as the calls. The literal
runs are `Benchmark.nested` for the bodies of the two functions.

## Main definitions

* `Benchmark.units` — the units of the two functions
* `Benchmark.fibonacci`, `Benchmark.factorial` — the counted functions
* `Benchmark.fibonacciBody`, `Benchmark.factorialBody` — one call, given what the calls inside it do
* `Benchmark.nested` — calls inside calls, as deep as there is room
-/

namespace HitLog

namespace Benchmark

open scoped Text

/-! ### Units and sites -/

/-- The unit of the Fibonacci function. -/
def fiboUnit : Text := "benchmark/fibo.c"

/-- The unit of the factorial function. -/
def factUnit : Text := "benchmark/fact.c"

/-- Both units, with their numbers of sites. -/
def units : List UnitSpec := [⟨fiboUnit, 15⟩, ⟨factUnit, 8⟩]

/-- The site at the start of a Fibonacci call. -/
def fiboEntry : Nat := 3

/-- The site of the argument zero. -/
def fiboZero : Nat := 4

/-- The site behind the test for zero. -/
def fiboOneCheck : Nat := 6

/-- The site of the argument one. -/
def fiboOne : Nat := 7

/-- The site of the two inner calls. -/
def fiboRecurse : Nat := 9

/-- The site of the benchmark that calls the function. -/
def fiboMain : Nat := 13

/-- The site at the start of a factorial call. -/
def factEntry : Nat := 2

/-- The site of the arguments up to one. -/
def factBase : Nat := 3

/-- The site of the inner call. -/
def factRecurse : Nat := 5

/-! ### Calls -/

/-- One call of a function that calls itself: what it does with an argument, given what the calls
inside it do. -/
abbrev Body := (Int64 → Counting Int64) → Int64 → Counting Int64

/-- Calls inside calls, with room for `depth` of them at a time. -/
def nested (body : Body) : (depth : Nat) → Int64 → Counting Int64
  | 0 => fun _ => throw .stackExhausted
  | depth + 1 => body (nested body depth)

/-! ### Fibonacci numbers -/

/-- One Fibonacci call. -/
def fibonacciBody : Body := fun call n => do
  Counting.hit fiboEntry
  if n = 0 then
    Counting.hit fiboZero
    return 0
  Counting.hit fiboOneCheck
  if n = 1 then
    Counting.hit fiboOne
    return 1
  Counting.hit fiboRecurse
  let a ← call (n - 1)
  let b ← call (n - 2)
  return a + b

/-- The value of a call, and how often it and the calls inside it pass each site. -/
structure Tally where
  value : Int64
  entry : Int64
  zero : Int64
  oneCheck : Int64
  one : Int64
  recurse : Int64
  deriving DecidableEq

/-- Two tallies together. -/
def Tally.add (a b : Tally) : Tally :=
  ⟨a.value + b.value, a.entry + b.entry, a.zero + b.zero, a.oneCheck + b.oneCheck, a.one + b.one,
    a.recurse + b.recurse⟩

/-- The tally of a call around two calls with the given tallies. -/
def Tally.around (a b : Tally) : Tally :=
  let inner := a.add b
  { inner with
    entry := inner.entry + 1
    oneCheck := inner.oneCheck + 1
    recurse := inner.recurse + 1 }

/-- The tally of the argument zero. -/
def Tally.atZero : Tally := ⟨0, 1, 1, 0, 0, 0⟩

/-- The tally of the argument one. -/
def Tally.atOne : Tally := ⟨1, 1, 0, 1, 1, 0⟩

/-- The tallies of an argument and of the next, given those of an earlier argument and of its
next. -/
def talliesFrom (a b : Tally) : Nat → Tally × Tally
  | 0 => (a, b)
  | n + 1 => talliesFrom b (b.around a) n

/-- The tally of the two calls inside a call with an argument of at least two. -/
def innerTally (n : Nat) : Tally :=
  let (a, b) := talliesFrom .atZero .atOne (n - 2)
  b.add a

/-- The Fibonacci function, counted. An argument below zero never comes to an end: the calls go down
until there is no room for another. -/
def fibonacci (n : Int64) : Counting Int64 := do
  Counting.hit fiboEntry
  if n = 0 then
    Counting.hit fiboZero
    return 0
  Counting.hit fiboOneCheck
  if n = 1 then
    Counting.hit fiboOne
    return 1
  Counting.hit fiboRecurse
  if n < 0 then
    throw .stackExhausted
  let inner := innerTally n.toNatClampNeg
  Counting.raise fiboEntry inner.entry
  Counting.raise fiboZero inner.zero
  Counting.raise fiboOneCheck inner.oneCheck
  Counting.raise fiboOne inner.one
  Counting.raise fiboRecurse inner.recurse
  return inner.value

/-! ### Factorials -/

/-- One factorial call. -/
def factorialBody : Body := fun call n => do
  Counting.hit factEntry
  if n ≤ 1 then
    Counting.hit factBase
    return 1
  Counting.hit factRecurse
  let f ← call (n - 1)
  return n * f

/-- The product of the numbers from 1 to `n`, as a word. -/
def product : Nat → Int64
  | 0 => 1
  | n + 1 => Int64.ofNat (n + 1) * product n

/-- The argument from which on the product is zero as a word: it has 64 factors of two. -/
def vanishing : Nat := 66

/-- The factorial function, counted. -/
def factorial (n : Int64) : Counting Int64 := do
  Counting.hit factEntry
  if n ≤ 1 then
    Counting.hit factBase
    return 1
  Counting.hit factRecurse
  Counting.raise factEntry (n - 1)
  Counting.raise factBase 1
  Counting.raise factRecurse (n - 2)
  return product (min n.toNatClampNeg vanishing)

end Benchmark

end HitLog
