import HitLog.Text

/-!
# Decimal numerals

Counts are written in decimal without leading zeros, negative ones behind a minus sign. They are
read from left to right against an upper limit: the first octet that is no digit makes the numeral
malformed, and the first digit that takes the value above the limit makes it too large, whichever
comes first. A reader that found the whole numeral before comparing would report
`99999999999999999999x` differently.

## Main definitions

* `Numeral.decimal`, `Numeral.signed` — writing
* `Numeral.readUpTo` — reading against a limit
* `Numeral.Error` — the two ways in which reading fails
-/

namespace HitLog

namespace Numeral

/-- The octet of a digit. -/
def digit (n : Nat) : UInt8 := (48 + n).toUInt8

/-- The value of a digit's octet. -/
def digitValue (b : UInt8) : Nat := b.toNat - 48

/-- The decimal numeral of a number. -/
def decimal (n : Nat) : Text :=
  if n < 10 then [digit n] else decimal (n / 10) ++ [digit (n % 10)]

/-- The decimal numeral of an integer. -/
def signed (i : Int) : Text :=
  if i < 0 then 45 :: decimal i.natAbs else decimal i.natAbs

/-- Why a text is not the numeral of a number up to the limit. -/
inductive Error where
  /-- It is empty, or some octet is not a digit. -/
  | malformed
  /-- The digits read so far exceed the limit. -/
  | tooLarge
  deriving DecidableEq

/-- Read the digits behind a value read so far. -/
def readOnto (limit : Nat) : Nat → Text → Except Error Nat
  | value, [] => .ok value
  | value, b :: t =>
    if Text.isDigit b then
      if limit < 10 * value + digitValue b then .error .tooLarge
      else readOnto limit (10 * value + digitValue b) t
    else .error .malformed

/-- The number of at most `limit` that a non-empty run of digits stands for. -/
def readUpTo (limit : Nat) (t : Text) : Except Error Nat :=
  if t.isEmpty then .error .malformed else readOnto limit 0 t

end Numeral

end HitLog
