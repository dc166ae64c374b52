import HitLog.Numeral

/-!
# Durations

A duration is written as a sequence of decimal numbers, each with an optional fraction and a unit,
such as `1h15m30.918s`. It is a number of nanoseconds in a signed word of 64 bits, and one that does
not fit is invalid. The fraction is scaled in binary64 arithmetic and cut to whole nanoseconds; its
digits count while they fit a signed word, further ones are ignored.

The numbers are added up in an unsigned word of 64 bits. Each number and each sum may be as large as
half the range of that word, so two of the largest numbers add up to zero.

## Main definitions

* `Duration.Part` — one number with its unit
* `Duration.parse` — the nanoseconds of a text
* `Duration.Error` — why a text is no duration
* `Duration.orDefault` — a positive duration, else the default
-/

namespace HitLog

namespace Duration

open scoped Text

/-- Why a text is no duration. Each case holds the whole text. -/
inductive Error where
  /-- It does not have the form, or the number is too large. -/
  | invalid (text : Text)
  /-- A number has no unit. -/
  | missingUnit (text : Text)
  /-- A number has a unit that does not exist. -/
  | unknownUnit (unit text : Text)
  deriving DecidableEq

/-- The shown form of one octet: octets outside printable ASCII are shown by their numbers. -/
def showOctet (b : UInt8) : Text :=
  if b = 34 || b = 92 then [92, b]
  else if b < 0x20 || 0x80 ≤ b then "\\x" ++ Text.hex 2 b.toNat
  else [b]

/-- The text between double quotes. -/
def quote (t : Text) : Text := [34] ++ t.flatMap showOctet ++ [34]

/-- The wording of an error. -/
def Error.message : Error → Text
  | invalid t => "time: invalid duration " ++ quote t
  | missingUnit t => "time: missing unit in duration " ++ quote t
  | unknownUnit u t => "time: unknown unit " ++ quote u ++ " in duration " ++ quote t

/-- The nanoseconds of each unit. Microseconds may be written with either of the two letters mu. -/
def units : List (Text × Nat) :=
  [("ns", 1), ("us", 1000), ([0xC2, 0xB5, 115], 1000), ([0xCE, 0xBC, 115], 1000), ("ms", 1000000),
    ("s", 1000000000), ("m", 60000000000), ("h", 3600000000000)]

/-- Half the range of a word: the magnitude of the least duration. -/
def bound : Nat := Nat.pow 2 63

/-- The value of a run of digits, or `none` once it exceeds the bound. -/
def wholePart : Nat → Text → Option Nat
  | value, [] => some value
  | value, b :: t =>
    let value := 10 * value + Numeral.digitValue b
    if bound < value then none else wholePart value t

/-- A fraction: the value of the digits that count, over a power of ten. -/
structure Fraction where
  /-- The digits read as a number. -/
  value : Nat
  /-- The power of ten, multiplied up digit by digit. -/
  scale : Float

/-- The fraction of a run of digits behind those of `f`. The first digit that would take the value
too far is ignored together with all that follow. -/
def fractionPart : Fraction → Text → Fraction
  | f, [] => f
  | f, b :: t =>
    let value := 10 * f.value + Numeral.digitValue b
    if (bound - 1) / 10 < f.value || bound < value then f
    else fractionPart ⟨value, f.scale * 10⟩ t

/-- The whole nanoseconds of a fraction of a unit. -/
def Fraction.nanoseconds (f : Fraction) (unit : Nat) : Nat :=
  if f.value = 0 then 0
  else (f.value.toUInt64.toFloat * (unit.toUInt64.toFloat / f.scale)).toUInt64.toNat

/-- An octet that can stand in a number. -/
def isNumberOctet (b : UInt8) : Bool := b = 46 || Text.isDigit b

/-- One number with its unit, as it is written. -/
structure Part where
  /-- The digits in front of the point. -/
  whole : Text
  /-- The digits behind the point, if there is a point. -/
  fraction : Option Text
  /-- The name of the unit. -/
  name : Text

namespace Part

/-- The digits behind a point at the start of a text, if there is one, and the rest. -/
def scanFraction : Text → Option Text × Text
  | 46 :: t => (some (t.takeWhile Text.isDigit), t.dropWhile Text.isDigit)
  | t => (none, t)

/-- The part at the start of a text, and the rest. Digits and the name are as long as they can
be. -/
def scan (t : Text) : Part × Text :=
  let (fraction, rest) := scanFraction (t.dropWhile Text.isDigit)
  (⟨t.takeWhile Text.isDigit, fraction, rest.takeWhile (!isNumberOctet ·)⟩,
    rest.dropWhile (!isNumberOctet ·))

/-- The digits behind the point. -/
def fractionDigits (p : Part) : Text := p.fraction.getD []

/-- The nanoseconds of a value in front of the point, with the fraction behind it. -/
def amount (p : Part) (value unit : Nat) : Nat :=
  value * unit + (fractionPart ⟨0, 1⟩ p.fractionDigits).nanoseconds unit

/-- The nanoseconds of a part, of the text `whole`. -/
def nanoseconds (whole : Text) (p : Part) : Except Error Nat :=
  match wholePart 0 p.whole with
  | none => .error (.invalid whole)
  | some value =>
    if p.whole.isEmpty && p.fractionDigits.isEmpty then .error (.invalid whole)
    else if p.name.isEmpty then .error (.missingUnit whole)
    else match units.lookup p.name with
      | none => .error (.unknownUnit p.name whole)
      | some unit =>
        if bound / unit < value || bound < p.amount value unit then .error (.invalid whole)
        else .ok (p.amount value unit)

end Part

/-- The nanoseconds of the parts of `t`, added to `sum` in a word of 64 bits. The text as a whole is
`whole`, and `fuel` bounds the number of parts. -/
def parts (whole : Text) : (fuel : Nat) → (sum : Nat) → Text → Except Error Nat
  | _, sum, [] => .ok sum
  | 0, _, _ => .error (.invalid whole)
  | fuel + 1, sum, b :: t =>
    if !isNumberOctet b then .error (.invalid whole)
    else
      let (part, rest) := Part.scan (b :: t)
      match part.nanoseconds whole with
      | .error e => .error e
      | .ok amount =>
        let sum := (sum + amount) % (2 * bound)
        if bound < sum then .error (.invalid whole) else parts whole fuel sum rest

/-- The text behind an optional sign, and whether the sign is a minus. -/
def dropSign : Text → Bool × Text
  | 45 :: t => (true, t)
  | 43 :: t => (false, t)
  | t => (false, t)

/-- The nanoseconds of a text. -/
def parse (whole : Text) : Except Error Int64 :=
  let (negative, t) := dropSign whole
  if t = [48] then .ok 0
  else if t.isEmpty then .error (.invalid whole)
  else match parts whole t.length 0 t with
    | .error e => .error e
    | .ok sum =>
      if negative then .ok (Int64.ofInt (-sum))
      else if bound ≤ sum then .error (.invalid whole)
      else .ok (Int64.ofInt sum)

/-- A positive duration stays, any other gives way to the default. -/
def orDefault (d default_ : Int64) : Int64 := if d ≤ 0 then default_ else d

theorem orDefault_pos {d default_ : Int64} (h : 0 < default_) : 0 < orDefault d default_ := by
  rw [orDefault]
  split
  · exact h
  · next hd => exact Int64.not_le.mp hd

/-- A positive duration is some time. -/
theorem toNatClampNeg_pos {d : Int64} (h : 0 < d) : 0 < d.toNatClampNeg := by
  have hpos : 0 < d.toInt := Int64.lt_iff_toInt_lt.mp h
  rw [← Int64.toNat_toInt]
  omega

/-- Positive durations are compared as their times are. -/
theorem toNatClampNeg_lt_iff {c d : Int64} (h : 0 < d) :
    c.toNatClampNeg < d.toNatClampNeg ↔ c < d := by
  have hpos : 0 < d.toInt := Int64.lt_iff_toInt_lt.mp h
  rw [← Int64.toNat_toInt, ← Int64.toNat_toInt, Int64.lt_iff_toInt_lt]
  omega

/-- A number of seconds. -/
def seconds (n : Nat) : Int64 := Int64.ofNat (n * 1000000000)

/-- A number of milliseconds. -/
def milliseconds (n : Nat) : Int64 := Int64.ofNat (n * 1000000)

end Duration

end HitLog
