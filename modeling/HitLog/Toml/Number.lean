import HitLog.Toml.Quoted

/-!
# Numbers of a document

An integer is decimal, or hexadecimal, octal or binary behind `0x`, `0o` or `0b`. It fits a signed
word, or without a sign an unsigned one. An underscore must have a digit before it and may not end
the number. Two characters are the most that may begin with a superfluous zero. A floating-point
number must lie within the range of binary64; its value is of no use to a configuration and is not
kept.

## Main definitions

* `Toml.Number.integer?` — the value of an integer
* `Toml.Number.isFloat` — whether a text is a floating-point number in range
-/

namespace HitLog

namespace Toml

namespace Number

/-- Whether each underscore follows a digit and is not the last character. -/
def underscoresFit (isDigit : Char → Bool) : (afterDigit : Bool) → List Char → Bool
  | _, [] => true
  | afterDigit, c :: cs =>
    (c != '_' || (afterDigit && !cs.isEmpty)) && underscoresFit isDigit (isDigit c) cs

/-- The value of digits of a base behind a value read so far. -/
def digitsValue (base : Nat) : Nat → List Char → Option Nat
  | value, [] => some value
  | value, c :: cs =>
    if Quoted.isHexDigit c && Quoted.hexValue c < base then
      digitsValue base (base * value + Quoted.hexValue c) cs
    else none

/-- The value of a non-empty run of digits of a base. -/
def natural? (base : Nat) (cs : List Char) : Option Nat :=
  if cs.isEmpty then none else digitsValue base 0 cs

/-- The value of digits behind an optional sign: within a signed word, or without a sign within an
unsigned one. -/
def signed? (base : Nat) (cs : List Char) : Option Int := do
  match cs with
  | '-' :: cs =>
    let n ← natural? base cs
    if n ≤ Nat.pow 2 63 then return -(n : Int) else none
  | '+' :: cs =>
    let n ← natural? base cs
    if n < Nat.pow 2 63 then return n else none
  | cs =>
    let n ← natural? base cs
    if n < Nat.pow 2 64 then return n else none

/-- The base that the text of an integer announces, if it may begin as it does, and the digits. -/
def base? (cs : List Char) : Option (Nat × List Char) :=
  match cs with
  | '0' :: letter :: d :: rest =>
    match letter with
    | 'x' => some (16, d :: rest)
    | 'o' => some (8, d :: rest)
    | 'b' => some (2, d :: rest)
    | _ => none
  | cs => some (10, cs)

/-- The value of an integer. -/
def integer? (text : List Char) : Option Int := do
  let (base, digits) ← base? (text.filter (· != '_'))
  let isDigit := if base = 16 then Quoted.isHexDigit else Char.isDigit
  if underscoresFit isDigit false text then signed? base digits else none

/-- A finite decimal number: digits, and the power of ten by which they are multiplied. -/
structure Scientific where
  digits : List Char
  exponent : Int

/-- An exponent as it counts: once it has reached ten thousand, further digits are ignored. -/
def exponentValue (cs : List Char) : Nat :=
  cs.foldl (fun e c => if e < 10000 then 10 * e + Quoted.hexValue c else e) 0

/-- The exponent behind its letter. -/
def exponent? (cs : List Char) : Option Int :=
  match cs with
  | '-' :: cs =>
    if cs.isEmpty || !cs.all Char.isDigit then none else some (-(exponentValue cs : Int))
  | '+' :: cs => if cs.isEmpty || !cs.all Char.isDigit then none else some (exponentValue cs)
  | cs => if cs.isEmpty || !cs.all Char.isDigit then none else some (exponentValue cs)

/-- The digits and exponent of a decimal number without a sign. -/
def scientific? (cs : List Char) : Option Scientific := do
  let whole := cs.takeWhile Char.isDigit
  let (part, cs) := match cs.dropWhile Char.isDigit with
    | '.' :: cs => (cs.takeWhile Char.isDigit, cs.dropWhile Char.isDigit)
    | cs => ([], cs)
  if whole.isEmpty && part.isEmpty then none
  let exponent ← match cs with
    | [] => some 0
    | c :: cs => if c = 'e' || c = 'E' then exponent? cs else none
  return ⟨whole ++ part, exponent - part.length⟩

/-- Whether the nearest binary64 number is finite: the value is below the midpoint between the
largest finite number and the next power of two. -/
def Scientific.inRange (s : Scientific) : Bool :=
  let digits := s.digits.dropWhile (· == '0')
  let limit := Nat.pow 2 1024 - Nat.pow 2 970
  let magnitude := digits.length + s.exponent
  if digits.isEmpty || magnitude < 300 then true
  else if 320 < magnitude then false
  else
    let n := (digitsValue 10 0 digits).getD 0
    if 0 ≤ s.exponent then n * Nat.pow 10 s.exponent.toNat < limit
    else n < limit * Nat.pow 10 (-s.exponent).toNat

/-- The text without its sign. -/
def dropSign : List Char → List Char
  | c :: cs => if c = '+' || c = '-' then cs else c :: cs
  | [] => []

/-- Whether a text is a floating-point number in range. -/
def isFloat (text : List Char) : Bool :=
  underscoresFit Char.isDigit false text &&
    match scientific? (dropSign (text.filter (· != '_'))) with
    | some s => s.inRange
    | none => false

end Number

end Toml

end HitLog
