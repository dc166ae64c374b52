import HitLog.Text.Utf8

/-!
# Quoted strings of a document

A document has strings of two kinds. In a basic string, between double quotes, a backslash starts an
escape, and control characters other than the tab are refused; in a literal string, between single
quotes, every character stands for itself. Both kinds also come between three quotes, where line
ends are part of the string and a first one is dropped.

Each reader below starts behind the opening quotes and returns the string with what follows the
closing ones.

## Main definitions

* `Toml.Quoted.basicBody`, `Toml.Quoted.literalBody` — the rest of a string up to its closing quotes
* `Toml.Quoted.basic`, `Toml.Quoted.literal` — a string behind its first quote
-/

namespace HitLog

namespace Toml

namespace Quoted

/-- The character of a code point; a number that is none gives the replacement character. -/
def charOf (code : Nat) : Char := if code.isValidChar then Char.ofNat code else '\uFFFD'

/-- A hexadecimal digit in either case. -/
def isHexDigit (c : Char) : Bool :=
  c.isDigit || ('a' ≤ c && c ≤ 'f') || ('A' ≤ c && c ≤ 'F')

/-- The value of a hexadecimal digit. -/
def hexValue (c : Char) : Nat :=
  if c.isDigit then c.toNat - '0'.toNat
  else if 'a' ≤ c then c.toNat - 'a'.toNat + 10
  else c.toNat - 'A'.toNat + 10

/-- The number of the next `n` hexadecimal digits, behind a number read so far. -/
def hexCode : (n : Nat) → (value : Nat) → List Char → Option (Nat × List Char)
  | 0, value, cs => some (value, cs)
  | _ + 1, _, [] => none
  | n + 1, value, c :: cs =>
    if isHexDigit c then hexCode n (16 * value + hexValue c) cs else none

/-- White space that a backslash swallows. -/
def isGap (c : Char) : Bool := c = ' ' || c = '\t' || c = '\r' || c = '\n'

/-- What the characters behind a backslash stand for, and the rest. -/
def escape : List Char → Option (List Char × List Char)
  | [] => none
  | c :: cs =>
    if isGap c then some ([], cs.dropWhile isGap)
    else match c with
      | '"' => some (['"'], cs)
      | '\\' => some (['\\'], cs)
      | '/' => some (['/'], cs)
      | 'b' => some (['\x08'], cs)
      | 'f' => some (['\x0c'], cs)
      | 'n' => some (['\n'], cs)
      | 'r' => some (['\r'], cs)
      | 't' => some (['\t'], cs)
      | 'u' => (hexCode 4 0 cs).map fun (code, rest) => ([charOf code], rest)
      | 'U' => (hexCode 8 0 cs).map fun (code, rest) => ([charOf code], rest)
      | _ => none

/-- A control character that a basic string may not hold as it is. -/
def isRefused (multiline : Bool) (c : Char) : Bool :=
  c.toNat < 0x20 && c != '\t' && !(multiline && (c == '\n' || c == '\r'))

/-- The rest of a basic string up to its closing quotes. The string so far is in `acc` in reverse,
and `fuel` bounds the number of characters and escapes. -/
def basicBody (close : List Char) (multiline : Bool) :
    (fuel : Nat) → (acc : List Char) → List Char → Option (List Char × List Char)
  | 0, _, _ => none
  | fuel + 1, acc, cs =>
    if close.isPrefixOf cs then some (acc.reverse, cs.drop close.length)
    else match cs with
      | [] => none
      | '\\' :: cs =>
        match escape cs with
        | none => none
        | some (out, rest) => basicBody close multiline fuel (out.reverse ++ acc) rest
      | c :: cs =>
        if isRefused multiline c then none else basicBody close multiline fuel (c :: acc) cs

/-- The rest of a literal string up to its closing quotes. The string so far is in `acc` in
reverse. -/
def literalBody (close : List Char) : (acc : List Char) → List Char → Option (List Char × List Char)
  | _, [] => none
  | acc, c :: cs =>
    if close.isPrefixOf (c :: cs) then some (acc.reverse, (c :: cs).drop close.length)
    else literalBody close (c :: acc) cs

/-- The characters behind a first line end, if there is one. -/
def dropLineEnd : List Char → List Char
  | '\r' :: '\n' :: cs => cs
  | '\n' :: cs => cs
  | cs => cs

/-- A basic string on one line behind its opening quote, as in a key, where line ends are not
refused. -/
def basicKey (cs : List Char) : Option (List Char × List Char) :=
  basicBody ['"'] true (cs.length + 1) [] cs

/-- A basic string behind its first quote. -/
def basic (cs : List Char) : Option (List Char × List Char) :=
  match cs with
  | '"' :: '"' :: cs => basicBody ['"', '"', '"'] true (cs.length + 1) [] (dropLineEnd cs)
  | cs => basicBody ['"'] false (cs.length + 1) [] cs

/-- A literal string behind its first quote. -/
def literal (cs : List Char) : Option (List Char × List Char) :=
  match cs with
  | '\'' :: '\'' :: cs => literalBody ['\'', '\'', '\''] [] (dropLineEnd cs)
  | cs => literalBody ['\''] [] cs

end Quoted

end Toml

end HitLog
