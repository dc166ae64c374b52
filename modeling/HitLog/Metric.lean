import HitLog.Text

/-!
# Metrics

A metric is one named number with labels, taken at one moment. Labels form a map, so no name occurs
twice. Numbers are binary64 and are kept by their bits: that is what travels, and it tells apart
what comparison of floating-point numbers does not.

## Main definitions

* `Binary64` — a floating-point number by its bits
* `Labels` — a map from label names to values
* `Metric` — a named number with labels
-/

namespace HitLog

/-- A binary64 number, given by its bits. -/
structure Binary64 where
  /-- Sign, exponent and fraction. -/
  bits : UInt64
  deriving DecidableEq

namespace Binary64

/-- The number of a floating-point value. -/
def ofFloat (x : Float) : Binary64 := ⟨x.toBits⟩

/-- The number nearest to an unsigned word. -/
def ofUInt64 (n : UInt64) : Binary64 := ofFloat n.toFloat

/-- The number nearest to a signed word, by its magnitude. -/
def ofInt64 (n : Int64) : Binary64 :=
  if n < 0 then ofFloat (-(-n).toUInt64.toFloat) else ofUInt64 n.toUInt64

/-- Negative zero loses its sign, every other number stays. -/
def dropZeroSign (x : Binary64) : Binary64 := if x.bits = 0x8000000000000000 then ⟨0⟩ else x

end Binary64

/-- A map from label names to values. -/
structure Labels where
  /-- The names with their values. -/
  pairs : List (Text × Text)
  /-- No name occurs twice. -/
  distinct : (pairs.map Prod.fst).Nodup

namespace Labels

/-- No labels. -/
def empty : Labels := ⟨[], List.nodup_nil⟩

/-- Give a name a value in a list of pairs, in place of an earlier value if there is one. -/
def putPair (name value : Text) : List (Text × Text) → List (Text × Text)
  | [] => [(name, value)]
  | (n, v) :: rest => if n = name then (name, value) :: rest else (n, v) :: putPair name value rest

theorem mem_keys_putPair {name value x : Text} {ps : List (Text × Text)} :
    x ∈ (putPair name value ps).map Prod.fst ↔ x = name ∨ x ∈ ps.map Prod.fst := by
  induction ps with
  | nil => simp [putPair]
  | cons p ps ih =>
    rw [putPair]
    split
    · next h => simp [← h]
    · simp only [List.map_cons, List.mem_cons, ih]
      exact or_left_comm

theorem nodup_putPair {name value : Text} {ps : List (Text × Text)} (h : (ps.map Prod.fst).Nodup) :
    ((putPair name value ps).map Prod.fst).Nodup := by
  induction ps with
  | nil => simp [putPair]
  | cons p ps ih =>
    rw [List.map_cons, List.nodup_cons] at h
    rw [putPair]
    split
    · next hn => simpa [← hn] using h
    · next hn =>
      rw [List.map_cons, List.nodup_cons, mem_keys_putPair]
      exact ⟨fun hx => hx.elim hn h.1, ih h.2⟩

/-- Give a name a value. -/
def insert (l : Labels) (name value : Text) : Labels :=
  ⟨putPair name value l.pairs, nodup_putPair l.distinct⟩

/-- Give each name of a list of pairs its value, one after the other. -/
def insertAll (l : Labels) (ps : List (Text × Text)) : Labels :=
  ps.foldl (fun l p => l.insert p.1 p.2) l

/-- The map of a list of pairs; of pairs with one name the last counts. -/
def ofList (ps : List (Text × Text)) : Labels := empty.insertAll ps

/-- The pairs in the order of their names. -/
def sorted (l : Labels) : List (Text × Text) := l.pairs.mergeSort fun a b => Text.le a.1 b.1

end Labels

/-- How a metric's number behaves over time. -/
inductive MetricKind where
  /-- It only grows. -/
  | counter
  /-- It goes up and down. -/
  | gauge
  deriving DecidableEq

/-- One named number with labels. -/
structure Metric where
  /-- The name. -/
  name : Text
  /-- The number. -/
  value : Binary64
  /-- The labels. -/
  labels : Labels
  /-- The kind. -/
  kind : MetricKind
  /-- The moment, in nanoseconds. -/
  time : Int64

end HitLog
