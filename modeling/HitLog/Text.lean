/-!
# Text as octets

Identifiers, log lines, paths and messages are strings of octets. Nothing makes them UTF-8: a unit
may be named by any octets at all, and the log keeps them as they are. So text is a list of octets,
and the few places that need characters decode them (`HitLog.Text.Utf8`).

## Main definitions

* `Text` — a string of octets
* `Text.ofString` — the octets of a character string, used for the fixed parts of messages
* `Text.fields` — the fields between separators
* `Text.splitAtLast` — the parts before and after the last separator
-/

namespace HitLog

/-- A string of octets. -/
abbrev Text := List UInt8

namespace Text

/-- The octets of characters, in UTF-8. -/
def ofChars (cs : List Char) : Text := cs.flatMap String.utf8EncodeChar

/-- The octets of a character string, in UTF-8. -/
def ofString (s : String) : Text := ofChars s.toList

scoped instance : Coe String Text := ⟨ofString⟩

/-! ### Single octets -/

/-- Line feed, which ends a line. -/
def lineFeed : UInt8 := 10

/-- Carriage return, tolerated before a line feed. -/
def carriageReturn : UInt8 := 13

/-- The colon between an identifier and its counts. -/
def colon : UInt8 := 58

/-- The comma between two counts. -/
def comma : UInt8 := 44

/-- A line feed or a carriage return. -/
def isLineEnd (b : UInt8) : Bool := b == lineFeed || b == carriageReturn

/-- One of the digits 0 to 9. -/
def isDigit (b : UInt8) : Bool := 48 ≤ b && b ≤ 57

/-- A letter from a to z or from A to Z. -/
def isLetter (b : UInt8) : Bool := (97 ≤ b && b ≤ 122) || (65 ≤ b && b ≤ 90)

/-- A hexadecimal digit in either case. -/
def isHexDigit (b : UInt8) : Bool := isDigit b || (97 ≤ b && b ≤ 102) || (65 ≤ b && b ≤ 70)

/-- The value of a hexadecimal digit, and 0 for any other octet. -/
def hexValue (b : UInt8) : Nat :=
  if isDigit b then b.toNat - 48
  else if 97 ≤ b && b ≤ 102 then b.toNat - 87
  else if 65 ≤ b && b ≤ 70 then b.toNat - 55
  else 0

/-- A capital letter becomes small, everything else stays. -/
def toLower (b : UInt8) : UInt8 := if 65 ≤ b && b ≤ 90 then b + 32 else b

/-! ### Cutting -/

/-- The text without its trailing run of line ends. -/
def trimLineEnds (t : Text) : Text := (t.reverse.dropWhile isLineEnd).reverse

/-- Put an octet in front of the first field. -/
def pushFront (b : UInt8) : List Text → List Text
  | [] => [[b]]
  | f :: fs => (b :: f) :: fs

/-- The fields between the separators, in order. There is always at least one, and there is one more
than there are separators. -/
def fields (sep : UInt8) (t : Text) : List Text :=
  t.foldr (fun b acc => if b = sep then [] :: acc else pushFront b acc) [[]]

/-- The parts before and after the first separator, or `none` if there is no separator. -/
def splitAtFirst (sep : UInt8) (t : Text) : Option (Text × Text) :=
  match t.dropWhile (· != sep) with
  | [] => none
  | _ :: after => some (t.takeWhile (· != sep), after)

/-- The parts before and after the last separator, or `none` if there is no separator. -/
def splitAtLast (sep : UInt8) (t : Text) : Option (Text × Text) :=
  (splitAtFirst sep t.reverse).map fun (after, before) => (before.reverse, after.reverse)

/-- Replace the first occurrence of `part`, if there is one. -/
def replaceFirst (part new : Text) : Text → Text
  | [] => if part.isEmpty then new else []
  | b :: t =>
    if part.isPrefixOf (b :: t) then new ++ (b :: t).drop part.length
    else b :: replaceFirst part new t

/-- Octet by octet order, a shorter text before its continuations. -/
def le : Text → Text → Bool
  | [], _ => true
  | _ :: _, [] => false
  | a :: s, b :: t => if a < b then true else if b < a then false else le s t

/-! ### Hexadecimal writing -/

/-- The small hexadecimal digit of a value below 16. -/
def hexDigit (n : Nat) : UInt8 := if n < 10 then (48 + n).toUInt8 else (87 + n).toUInt8

/-- The lowest `width` hexadecimal digits of a number, most significant first. -/
def hex : (width : Nat) → Nat → Text
  | 0, _ => []
  | width + 1, n => hex width (n / 16) ++ [hexDigit (n % 16)]

end Text

end HitLog
