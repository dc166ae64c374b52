import HitLog.Text

/-!
# The tree of a document

A document is a tree: tables hold entries by name, arrays of tables hold tables, everything else is
a leaf. Entries keep the order in which they came. A path of names leads through tables, and through
the last table of an array of tables.

Tables written inline are closed: neither a header nor a dotted key may add to them, and tables made
inside them on the way are closed as well. Two ways remain to add to them, and both step over a leaf
that stands on the path: putting an array of tables, and the dotted keys inside an inline table
itself (`Toml.Entries.put`).

## Main definitions

* `Toml.Node` — the tree
* `Toml.Entries` — the entries of a table
* `Toml.Entries.get?`, `Toml.Entries.open?`, `Toml.Entries.put`, `Toml.Entries.alter?`
-/

namespace HitLog

namespace Toml

/-- The tree of a document. -/
inductive Node where
  /-- A string. -/
  | text (value : Text)
  /-- An integer, from the least signed to the largest unsigned word. -/
  | integer (value : Int)
  /-- A truth value. -/
  | boolean (value : Bool)
  /-- A floating-point number. -/
  | float
  /-- A date, a time of day, or both. -/
  | moment
  /-- An array that is not made of tables only. -/
  | array (items : List Node)
  /-- A table; `closed` if it was written inline. -/
  | table (closed : Bool) (entries : List (Text × Node))
  /-- An array of tables. -/
  | tables (elements : List Node)

/-- The entries of a table. -/
abbrev Entries := List (Text × Node)

namespace Entries

/-- Give a name a node, in place of an earlier one if there is one. -/
def set (name : Text) (node : Node) : Entries → Entries
  | [] => [(name, node)]
  | (n, old) :: rest => if n = name then (name, node) :: rest else (n, old) :: set name node rest

/-- Whether the table a node leads into is closed, and its entries: a table leads into itself and an
array of tables into its last table. -/
def inside? : Node → Option (Bool × Entries)
  | .table closed es => some (closed, es)
  | .tables elements =>
    match elements.getLast? with
    | some (.table closed es) => some (closed, es)
    | _ => none
  | _ => none

/-- The node with other entries in the table it leads into. -/
def withInside (es : Entries) : Node → Node
  | .table closed _ => .table closed es
  | .tables elements =>
    match elements.getLast? with
    | some (.table closed _) => .tables (elements.dropLast ++ [.table closed es])
    | _ => .tables elements
  | node => node

/-- The node at the end of a path. -/
def get? (es : Entries) : List Text → Option Node
  | [] => none
  | [name] => es.lookup name
  | name :: path =>
    match (es.lookup name).bind inside? with
    | some (_, inner) => get? inner path
    | none => none

/-- The entries with empty tables put where the path leads to nothing; `none` if a leaf stands on
the path. New tables are closed where they stand in a closed one. -/
def open? (closed : Bool) (es : Entries) : List Text → Option Entries
  | [] => some es
  | name :: path =>
    match es.lookup name with
    | none => (open? closed [] path).map fun inner => es.set name (.table closed inner)
    | some node =>
      match inside? node with
      | some (innerClosed, inner) =>
        (open? innerClosed inner path).map fun inner => es.set name (withInside inner node)
      | none => none

/-- The entries with a node put at the end of a path. A leaf on the path is stepped over, so that
what should lie behind it comes to lie beside it. -/
def put (es : Entries) (node : Node) : List Text → Entries
  | [] => es
  | [name] => es.set name node
  | name :: path =>
    match es.lookup name with
    | none => es.set name (.table false (put [] node path))
    | some next =>
      match inside? next with
      | some (_, inner) => es.set name (withInside (put inner node path) next)
      | none => put es node path

/-- The entries with the table at the end of a path changed. The change sees whether the table is
closed, and may refuse. -/
def alter? (change : Bool → Entries → Option Entries) (closed : Bool) (es : Entries) :
    List Text → Option Entries
  | [] => change closed es
  | name :: path =>
    match es.lookup name with
    | none => none
    | some node =>
      match inside? node with
      | some (innerClosed, inner) =>
        (alter? change innerClosed inner path).map fun inner => es.set name (withInside inner node)
      | none => none

end Entries

end Toml

end HitLog
