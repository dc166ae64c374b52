import HitLog.Numeral

/-!
# Flags

Arguments start with flags, each with a value: `-name value`, `--name value` or `-name=value`. The
first argument that is no flag ends them, and so does `--`. Numbers are signed words in the usual
bases, by a leading `0x`, `0o`, `0` or `0b`, with underscores between digits.

## Main definitions

* `Flags` — the values of the flags
* `Flags.parse?` — the flags of arguments
* `Flags.integer?` — the signed word of a text
-/

namespace HitLog

/-- The values of the flags. -/
structure Flags where
  /-- The path of the configuration, empty for none. -/
  config : Text
  /-- The argument of the Fibonacci benchmark. -/
  fib : Int64
  /-- The argument of the factorial benchmark. -/
  fact : Int64
  deriving DecidableEq

namespace Flags

open scoped Text

/-- The values where nothing else is said. -/
def default : Flags := ⟨[], 33, 20⟩

/-! ### Numbers -/

/-- The octet of an underscore. -/
def underscore : UInt8 := 95

/-- The base of a numeral and its digits: a marked base needs digits behind the mark. -/
def baseOf (t : Text) : Nat × Text :=
  match t with
  | 48 :: mark :: d :: ds =>
    if Text.toLower mark = 98 then (2, d :: ds)
    else if Text.toLower mark = 111 then (8, d :: ds)
    else if Text.toLower mark = 120 then (16, d :: ds)
    else (8, mark :: d :: ds)
  | 48 :: ds => (8, ds)
  | _ => (10, t)

/-- The value of a digit in any base. -/
def anyDigit? (b : UInt8) : Option Nat :=
  if Text.isDigit b then some (b.toNat - 48)
  else if Text.isLetter b then some ((Text.toLower b).toNat - 97 + 10)
  else none

/-- The value of digits behind those of value `n`. Underscores are passed over. -/
def digitsValue? (base n : Nat) : Text → Option Nat
  | [] => some n
  | b :: t =>
    if b = underscore then digitsValue? base n t
    else match anyDigit? b with
      | some d => if d < base then digitsValue? base (base * n + d) t else none
      | none => none

/-- Whether every underscore stands between digits. A mark of the base counts as a digit in
front. -/
def separates (afterDigit : Bool) : Text → Bool
  | [] => true
  | [b] => b ≠ underscore
  | b :: t => if b = underscore then afterDigit && separates false t else separates true t

/-- The value of a numeral without sign. -/
def natural? (t : Text) : Option Nat :=
  let (base, digits) := baseOf t
  if t.isEmpty || !separates (base ≠ 10) digits then none else digitsValue? base 0 digits

/-- The signed word of a text. -/
def integer? (t : Text) : Option Int64 :=
  match t with
  | 45 :: t => do
    let n ← natural? t
    if n ≤ Nat.pow 2 63 then some (Int64.ofInt (-n)) else none
  | t => do
    let n ← natural? (if t.head? = some 43 then t.tail else t)
    if n < Nat.pow 2 63 then some (Int64.ofNat n) else none

/-! ### Arguments -/

/-- Give a flag a value. -/
def set? (f : Flags) (name value : Text) : Option Flags :=
  if name = "config" then some { f with config := value }
  else if name = "fib" then (integer? value).map fun n => { f with fib := n }
  else if name = "fact" then (integer? value).map fun n => { f with fact := n }
  else none

/-- An argument as far as flags go. -/
inductive Argument where
  /-- It ends the flags. -/
  | other
  /-- It looks like a flag but has no name. -/
  | malformed
  /-- A flag, with its value if it holds one. -/
  | flag (name : Text) (value : Option Text)

/-- The name of a flag and its value behind an equality sign. The sign is not looked for in
front. -/
def nameAndValue (t : Text) : Text × Option Text :=
  match t with
  | [] => ([], none)
  | b :: t =>
    match Text.splitAtFirst 61 t with
    | none => (b :: t, none)
    | some (name, value) => (b :: name, some value)

/-- What an argument is. -/
def classify (t : Text) : Argument :=
  match t with
  | [45, 45] => .other
  | 45 :: 45 :: t => named t
  | 45 :: b :: t => named (b :: t)
  | _ => .other
where
  /-- A flag with the given name and value. -/
  named (t : Text) : Argument :=
    if t.head? = some 45 || t.head? = some 61 then .malformed
    else
      let (name, value) := nameAndValue t
      .flag name value

/-- The flags of arguments, given the values so far. Nothing but the first argument decides whether
the next one is its value. -/
def parseFrom (f : Flags) : List Text → Option Flags
  | [] => some f
  | [a] =>
    match classify a with
    | .other => some f
    | .malformed => none
    | .flag name value => value.bind (f.set? name)
  | a :: b :: rest =>
    match classify a with
    | .other => some f
    | .malformed => none
    | .flag name (some value) => (f.set? name value).bind (parseFrom · (b :: rest))
    | .flag name none => (f.set? name b).bind (parseFrom · rest)

/-- The flags of arguments, if they are well formed and known. -/
def parse? (arguments : List Text) : Option Flags := parseFrom default arguments

end Flags

end HitLog
