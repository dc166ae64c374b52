import HitLog.Record.Merge

/-!
# Merging in memory

Counts stand in buffers, and a record has its counts through a slice of a buffer. So records may
share counts, wholly or in part, and whoever adds to a count adds to it for all of them. Merging
adds up in place, and it must not do so in the buffers of the records that it is given: the first
record of a unit is copied to a buffer of its own, and only copies are added to. An index tells
where the copy of a unit stands among the merged records.

## Main definitions

* `Memory` — buffers of counts, by address
* `Memory.Slice`, `Memory.Handle` — a run of counts in a buffer, and a record with such counts
* `Memory.Collection` — merged records with their index
* `Memory.merge` — one record per identifier, added up in place
-/

namespace HitLog

/-- Buffers of counts. The address of a buffer is its place, and a new one goes behind the last. -/
abbrev Memory := List (List Int64)

namespace Memory

/-- A run of counts in a buffer. -/
structure Slice where
  /-- The address of the buffer. -/
  buffer : Nat
  /-- The place of the first count. -/
  start : Nat
  /-- The number of counts. -/
  length : Nat
  deriving DecidableEq

/-- A record whose counts stand in memory. -/
structure Handle where
  /-- The unit's name. -/
  identifier : Text
  /-- Where its counts stand. -/
  counts : Slice
  deriving DecidableEq

/-! ### Reading and writing -/

/-- The counts of a slice. -/
def load (mem : Memory) (s : Slice) : List Int64 :=
  ((mem.getD s.buffer []).drop s.start).take s.length

/-- The record that a handle stands for at the moment. -/
def record (mem : Memory) (h : Handle) : Record := ⟨h.identifier, mem.load h.counts⟩

/-- All counts of the slice are in memory. A slice without counts may be anywhere. -/
def Holds (mem : Memory) (s : Slice) : Prop :=
  s.start + s.length ≤ (mem.getD s.buffer []).length

instance (mem : Memory) (s : Slice) : Decidable (mem.Holds s) := Nat.decLe _ _

/-- Records in buffers of their own, from an address on. -/
def handlesFrom (address : Nat) : List Record → List Handle
  | [] => []
  | r :: rs => ⟨r.identifier, address, 0, r.counts.length⟩ :: handlesFrom (address + 1) rs

/-- Add to one count of a slice. -/
def addAt (mem : Memory) (s : Slice) (site : Nat) (c : Int64) : Memory :=
  mem.modify s.buffer (·.modify (s.start + site) (· + c))

/-- Add the counts of one slice to those of another, each as it is when its turn comes. -/
def addAll (mem : Memory) (target source : Slice) : Memory :=
  (List.range source.length).foldl
    (fun mem site => mem.addAt target site ((mem.load source).getD site 0)) mem

/-! ### Merging -/

/-- Code that changes memory and may stop because two records differ in size. -/
abbrev Code (α : Type) := ExceptT Record.MergeError (StateM Memory) α

/-- Copy a slice to a new buffer. -/
def copy (s : Slice) : Code Slice := fun mem =>
  (.ok ⟨mem.length, 0, (mem.load s).length⟩, mem ++ [mem.load s])

/-- The place that an index gives for an identifier. -/
def place? (index : List (Text × Nat)) (identifier : Text) : Option Nat :=
  (index.find? (·.1 = identifier)).map Prod.snd

/-- Merged records, and an index that tells where the record of a unit stands. -/
structure Collection where
  /-- Identifiers with places. -/
  index : List (Text × Nat)
  /-- The records, in the order in which their identifiers first occurred. -/
  handles : List Handle
  place?_eq : ∀ identifier,
    place? index identifier = handles.findIdx? (·.identifier = identifier)

namespace Collection

/-- No records. -/
def empty : Collection := ⟨[], [], fun _ => rfl⟩

/-- One more record, of a unit that has none yet. -/
def insert (c : Collection) (h : Handle) (hnew : place? c.index h.identifier = none) :
    Collection where
  index := (h.identifier, c.handles.length) :: c.index
  handles := c.handles ++ [h]
  place?_eq identifier := by
    rw [List.findIdx?_append, ← c.place?_eq]
    by_cases hid : h.identifier = identifier
    · subst hid
      rw [hnew]
      simp [place?]
    · simp [place?, hid]

theorem lt_length {c : Collection} {identifier : Text} {i : Nat}
    (h : place? c.index identifier = some i) : i < c.handles.length := by
  rw [c.place?_eq, List.findIdx?_eq_some_iff_getElem] at h
  exact h.1

/-- Merge one more record into the collection. -/
def take (c : Collection) (h : Handle) : Code Collection :=
  match hplace : place? c.index h.identifier with
  | none => do
    let counts ← copy h.counts
    return c.insert ⟨h.identifier, counts⟩ hplace
  | some i => do
    let m := c.handles.get ⟨i, lt_length hplace⟩
    if m.counts.length = h.counts.length then
      modify (·.addAll m.counts h.counts)
      return c
    else throw ⟨h.identifier, m.counts.length, h.counts.length⟩

end Collection

/-- One record per identifier, holding the sums of the counts of all records with it. -/
def merge (hs : List Handle) : Code (List Handle) := do
  let c ← hs.foldlM Collection.take .empty
  return c.handles

end Memory

end HitLog
