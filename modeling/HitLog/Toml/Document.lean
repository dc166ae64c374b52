import HitLog.Toml.Moment
import HitLog.Toml.Node
import HitLog.Toml.Number
import HitLog.Toml.Token

/-!
# Documents

A document is a sequence of assignments and headers. A header opens the table, or a new table of the
array of tables, that the assignments behind it add to. No key may be assigned twice and no header
may be repeated; headers count as repeated by their text, and a header of an array of tables makes
room again for the headers of tables inside it. Inside one inline table a repeated key simply
replaces the earlier value.

## Main definitions

* `Toml.parse` — the entries of a document, if it is well-formed
-/

namespace HitLog

namespace Toml

/-- Whether a node is a table. -/
def Node.isTable : Node → Bool
  | .table _ _ => true
  | _ => false

/-- The node of an array: tables only make an array of tables, unless there are none. -/
def Node.ofItems (items : List Node) : Node :=
  if !items.isEmpty && items.all Node.isTable then .tables items else .array items

/-- What stood before in an inline table. -/
inductive Before where
  | nothing
  | comma
  | entry

mutual

/-- The value at the start of the tokens, and the rest. -/
def value? : (fuel : Nat) → List Token → Option (Node × List Token)
  | 0, _ => none
  | fuel + 1, tokens =>
    match tokens with
    | .string s :: rest => some (.text (Text.ofChars s), rest)
    | .boolean b :: rest => some (.boolean b, rest)
    | .notFinite :: rest => some (.float, rest)
    | .integer text :: rest => (Number.integer? text).map fun n => (.integer n, rest)
    | .float text :: rest => if Number.isFloat text then some (.float, rest) else none
    | .time time :: rest => if Moment.isTime time then some (.moment, rest) else none
    | .date date :: .time time :: .offset offset :: rest =>
      if Moment.isDate date && Moment.isTime time && Moment.isOffset offset then
        some (.moment, rest)
      else none
    | .date date :: .time time :: rest =>
      if Moment.isDate date && Moment.isTime time then some (.moment, rest) else none
    | .date date :: rest => if Moment.isDate date then some (.moment, rest) else none
    | .leftBracket :: rest => items? fuel [] rest
    | .leftBrace :: rest => inline? fuel .nothing [] rest
    | _ => none

/-- The rest of an array. The items so far are in `acc` in reverse. -/
def items? : (fuel : Nat) → (acc : List Node) → List Token → Option (Node × List Token)
  | 0, _, _ => none
  | fuel + 1, acc, tokens =>
    match tokens with
    | .rightBracket :: rest => some (Node.ofItems acc.reverse, rest)
    | tokens =>
      match value? fuel tokens with
      | none => none
      | some (item, .comma :: rest) => items? fuel (item :: acc) rest
      | some (item, .rightBracket :: rest) => items? fuel (item :: acc) (.rightBracket :: rest)
      | some _ => none

/-- The rest of an inline table. -/
def inline? : (fuel : Nat) → Before → Entries → List Token → Option (Node × List Token)
  | 0, _, _, _ => none
  | fuel + 1, before, es, tokens =>
    match tokens, before with
    | .rightBrace :: _, .comma => none
    | .rightBrace :: rest, _ => some (.table true es, rest)
    | .comma :: _, .comma => none
    | .comma :: rest, _ => inline? fuel .comma es rest
    | .key _ :: _, .entry => none
    | .key text :: .equal :: rest, _ =>
      match Key.split text, value? fuel rest with
      | some path, some (node, rest) => inline? fuel .entry (es.put node path) rest
      | _, _ => none
    | _, _ => none

end

/-- A document read so far. -/
structure Progress where
  /-- All entries. -/
  root : Entries
  /-- The path of the open table. -/
  current : List Text
  /-- The texts of the headers that may not be repeated. -/
  headers : List (List Char)

/-- Assign a node to a dotted key of the open table. -/
def Progress.assign? (p : Progress) (path : List Text) (node : Node) : Option Progress := do
  let name ← path.getLast?
  let place := p.current ++ path.dropLast
  let root ← p.root.open? false place
  let root ← root.alter? (fun closed es =>
    if closed || (es.lookup name).isSome then none else some (es.set name node)) false place
  return { p with root }

/-- Open the table of a header. -/
def Progress.header? (p : Progress) (text : List Char) : Option Progress := do
  if p.headers.contains text then none
  let path ← Key.split text
  let root ← p.root.open? false path
  match root.get? path with
  | some (.table true _) => none
  | _ => return { root, current := path, headers := text :: p.headers }

/-- Open a new table of the array of tables of a header. -/
def Progress.arrayHeader? (p : Progress) (text : List Char) : Option Progress := do
  let path ← Key.split text
  let root := (p.root.open? false path.dropLast).getD p.root
  let elements ← match root.get? path with
    | none => some []
    | some (.tables elements) => some elements
    | some _ => none
  return {
    root := root.put (.tables (elements ++ [.table false []])) path
    current := path
    headers := text :: p.headers.filter fun h => !(text ++ ['.']).isPrefixOf h }

/-- Read the rest of a document. -/
def Progress.finish? : (fuel : Nat) → Progress → List Token → Option Entries
  | 0, _, _ => none
  | fuel + 1, p, tokens =>
    match tokens with
    | .endOfDocument :: _ => some p.root
    | .doubleLeftBracket :: .arrayHeader text :: .doubleRightBracket :: rest =>
      match p.arrayHeader? text with
      | some p => p.finish? fuel rest
      | none => none
    | .leftBracket :: .header text :: .rightBracket :: rest =>
      match p.header? text with
      | some p => p.finish? fuel rest
      | none => none
    | .key text :: .equal :: rest =>
      match Key.split text, value? (2 * rest.length + 2) rest with
      | some path, some (node, rest) =>
        match p.assign? path node with
        | some p => p.finish? fuel rest
        | none => none
      | _, _ => none
    | _ => none

/-- A document without the byte order mark it may begin with. -/
def dropByteOrderMark (t : Text) : Text :=
  match t with
  | 0x00 :: 0x00 :: 0xFE :: 0xFF :: t => t
  | 0xFF :: 0xFE :: 0x00 :: 0x00 :: t => t
  | 0xEF :: 0xBB :: 0xBF :: t => t
  | 0xFE :: 0xFF :: t => t
  | 0xFF :: 0xFE :: t => t
  | t => t

/-- The entries of a document, or `none` if it is not well-formed. -/
def parse (document : Text) : Option Entries :=
  let ts := tokens (Utf8.chars (dropByteOrderMark document))
  Progress.finish? (ts.length + 1) ⟨[], [], []⟩ ts

end Toml

end HitLog
