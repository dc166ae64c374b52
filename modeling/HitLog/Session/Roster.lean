import HitLog.Session.Action

/-!
# Tables by reference

Tables stand in a store and are changed there. Whoever knows the address of a table sees every
change, no matter who made it and how they came by the address. A session tells addresses in two
ways: that of one unit by its name, and those of all units in their order. It has a structure for
each of the two, and both are filled while the tables are made.

Nothing in the structures themselves makes them agree. A second unit of one name would stand behind
the first in the list and take its place in the index. That no two units have one name is a matter
of the configuration.

## Main definitions

* `Store` — tables by address
* `Roster` — the addresses of a session's tables, in order and by name
* `Roster.make` — tables for units
* `HeldStage` — a session with its surroundings and its tables in a store, and `HeldStage.perform`
-/

namespace HitLog

/-- Tables by address. A new one goes behind the last. -/
abbrev Store := List Table

/-- Run counting code on the table at an address, if there is one. -/
def Store.count? (store : Store) (address : Nat) (code : Counting α) :
    Option (Except Fault α × Store) :=
  store[address]?.map fun t =>
    let (result, t) := code t
    (result, store.set address t)

/-- The addresses of the tables of a session. -/
structure Roster where
  /-- All of them, in the order of the units. -/
  addresses : List Nat
  /-- By the names of the units. An entry hides those behind it. -/
  index : List (Text × Nat)

namespace Roster

/-! ### Making tables -/

/-- Code that changes a store and may stop with a fault. -/
abbrev Code (α : Type) := ExceptT Fault (StateM Store) α

/-- Put a table into the store. -/
def place (made : Except Fault Table) : Code Nat := fun store =>
  match made with
  | .ok t => (.ok store.length, store ++ [t])
  | .error f => (.error f, store)

/-- Make the table of one more unit. -/
def enter (r : Roster) (u : UnitSpec) : Code Roster := do
  let address ← place (Table.make u.identifier u.sites)
  return ⟨r.addresses ++ [address], (u.identifier, address) :: r.index⟩

/-- Make the tables of units, one after the other. -/
def make (units : List UnitSpec) : Code Roster := units.foldlM enter ⟨[], []⟩

/-! ### Finding tables -/

/-- The address of the table of a unit. -/
def find? (r : Roster) (unit : Text) : Option Nat := r.index.lookup unit

/-- The tables at all addresses. -/
def load (r : Roster) (store : Store) : List Table := r.addresses.filterMap (store[·]?)

/-- Put tables to all addresses. -/
def save (r : Roster) (tables : List Table) (store : Store) : Store :=
  (r.addresses.zip tables).foldl (fun store (address, t) => store.set address t) store

/-- The records of all tables. -/
def records (r : Roster) (store : Store) : List Record := (r.load store).map Table.record

end Roster

/-! ### Actions -/

/-- A session with its surroundings and its tables in a store. -/
structure HeldStage where
  roster : Roster
  store : Store
  /-- The session and its surroundings. The tables that the session has here are not looked at. -/
  stage : Stage

namespace HeldStage

/-- The stage with the tables of the store. -/
def loaded (s : HeldStage) : Stage :=
  { s.stage with session := { s.stage.session with tables := s.roster.load s.store } }

/-- Perform an action. What is about tables is done by their addresses, and everything else with the
tables at these. -/
def perform (env : Environment) (a : Action) (s : HeldStage) : Except Fault Answer × HeldStage :=
  match a with
  | .table unit action =>
    match (s.roster.find? unit).bind (s.store.count? · (action.perform env.now)) with
    | none => (.ok .noTable, s)
    | some (result, store) => (result, { s with store })
  | .hasTable unit => (.ok (.truth (s.roster.find? unit).isSome), s)
  | .tables =>
    (.ok (.tables ((s.roster.load s.store).map fun t => (t.identifier, t.size))), s)
  | .tableCount => (.ok (.size s.roster.addresses.length), s)
  | .records => (.ok (.records (s.roster.records s.store)), s)
  | a =>
    let (result, stage) := s.loaded.perform env a
    (result, { s with store := s.roster.save stage.session.tables s.store, stage })

end HeldStage

end HitLog
