import HitLog.Text.Quoted
import HitLog.Numeral

/-!
# Numeric addresses

A numeric address is short, four octets with points between them, or long, eight groups of 16 bits
with colons between them. In a long address two colons in a row stand for a run of at least one
group of zeros, the last two groups may be written as a short address, and an interface may be named
behind a percent sign. Reading stops at the first thing that is wrong and tells what it is.

## Main definitions

* `Address` — a numeric address, with an interface if it names one
* `Address.parse` — the numeric address of a text, and `Address.Error`
* `Address.text` — its usual form
-/

namespace HitLog

open scoped Text

/-- A numeric address. -/
structure Address where
  /-- The eight groups of 16 bits, or for a short address the four octets. -/
  groups : List Nat
  /-- Whether it is a short address. -/
  short : Bool
  /-- The interface it names, if any. -/
  zone : Text
  deriving DecidableEq

namespace Address

/-! ### Errors -/

/-- What is wrong with a numeric address. -/
inductive Cause where
  /-- It has neither point nor colon. -/
  | noSeparator
  /-- An interface is named without an address. -/
  | onlyZone
  | leadingZero
  | octetTooLarge
  | emptyOctet
  | tooManyOctets
  | tooFewOctets
  /-- Something stands among octets. -/
  | strayAmongOctets
  | emptyZone
  | longGroup
  | emptyGroup
  /-- A short address does not stand for the last two groups. -/
  | octetsMisplaced
  /-- A short address stands where one group is left. -/
  | octetsDoNotFit
  /-- Something other than a colon stands behind a group. -/
  | strayBehindGroup
  | colonAtEnd
  | secondGap
  | tooManyGroups
  | tooFewGroups
  /-- Two colons in a row stand for nothing. -/
  | emptyGap
  deriving DecidableEq

/-- The wording of a cause. -/
def Cause.message : Cause → Text
  | noSeparator => "unable to parse IP"
  | onlyZone => "missing IPv6 address"
  | leadingZero => "IPv4 field has octet with leading zero"
  | octetTooLarge => "IPv4 field has value >255"
  | emptyOctet => "IPv4 field must have at least one digit"
  | tooManyOctets => "IPv4 address too long"
  | tooFewOctets => "IPv4 address too short"
  | strayAmongOctets => "unexpected character"
  | emptyZone => "zone must be a non-empty string"
  | longGroup => "each group must have 4 or fewer digits"
  | emptyGroup => "each colon-separated field must have at least one digit"
  | octetsMisplaced => "embedded IPv4 address must replace the final 2 fields of the address"
  | octetsDoNotFit =>
    "too many hex fields to fit an embedded IPv4 at the end of the address"
  | strayBehindGroup => "unexpected character, want colon"
  | colonAtEnd => "colon must be followed by more characters"
  | secondGap => "multiple :: in address"
  | tooManyGroups => "trailing garbage after address"
  | tooFewGroups => "address string too short"
  | emptyGap => "the :: must expand to at least one field of zeros"

/-- A cause, and where in the text it was met if that is told. -/
structure Finding where
  cause : Cause
  place : Text
  deriving DecidableEq

/-- What is wrong with a text as a numeric address. -/
structure Error where
  whole : Text
  finding : Finding
  deriving DecidableEq

/-- The wording of a finding. -/
def Finding.message (f : Finding) : Text :=
  if f.place.isEmpty then f.cause.message
  else f.cause.message ++ " (at " ++ Quoted.quote f.place ++ ")"

/-- The wording of an error. -/
def Error.message (e : Error) : Text :=
  Text.ofString "ParseAddr(" ++ Quoted.quote e.whole ++ "): " ++ e.finding.message

/-! ### Short addresses -/

/-- The octets of the rest of a short address. Earlier octets are in `done` in reverse, and the
octet being read has a value and a number of digits so far. -/
def octetsFrom (done : List Nat) (value digits : Nat) : Text → Except Finding (List Nat)
  | [] => if done.length < 3 then .error ⟨.tooFewOctets, []⟩ else .ok (value :: done).reverse
  | b :: t =>
    if Text.isDigit b then
      let next := 10 * value + Numeral.digitValue b
      if digits = 1 && value = 0 then .error ⟨.leadingZero, []⟩
      else if 255 < next then .error ⟨.octetTooLarge, []⟩
      else octetsFrom done next (digits + 1) t
    else if b = 46 then
      if digits = 0 || t.isEmpty then .error ⟨.emptyOctet, b :: t⟩
      else if done.length = 3 then .error ⟨.tooManyOctets, []⟩
      else octetsFrom (value :: done) 0 0 t
    else .error ⟨.strayAmongOctets, b :: t⟩

/-- The four octets of a short address. -/
def octets (t : Text) : Except Finding (List Nat) := octetsFrom [] 0 0 t

/-- The two groups that four octets make. -/
def pairs : List Nat → List Nat
  | a :: b :: rest => (256 * a + b) :: pairs rest
  | _ => []

/-! ### Long addresses -/

/-- The eight groups, given those read in reverse and how many of them stand before the run of
zeros, if there is one. -/
def complete (read : List Nat) (gap : Option Nat) (rest : Text) : Except Finding (List Nat) :=
  let groups := read.reverse
  if !rest.isEmpty then .error ⟨.tooManyGroups, rest⟩
  else match gap with
    | none => if groups.length < 8 then .error ⟨.tooFewGroups, []⟩ else .ok groups
    | some n =>
      if groups.length < 8 then
        .ok (groups.take n ++ List.replicate (8 - groups.length) 0 ++ groups.drop n)
      else .error ⟨.emptyGap, []⟩

/-- The groups of the rest of a long address, of which as many as there is room for are read. -/
def groupsFrom : (room : Nat) → (read : List Nat) → (gap : Option Nat) → Text →
    Except Finding (List Nat)
  | 0, read, gap, t => complete read gap t
  | room + 1, read, gap, t =>
    let digits := t.takeWhile Text.isHexDigit
    let read' := digits.foldl (fun n b => 16 * n + Text.hexValue b) 0 :: read
    if 4 < digits.length then .error ⟨.longGroup, t⟩
    else if digits.isEmpty then .error ⟨.emptyGroup, t⟩
    else match t.dropWhile Text.isHexDigit with
      | [] => complete read' gap []
      | 46 :: _ =>
        if gap.isNone && room ≠ 1 then .error ⟨.octetsMisplaced, t⟩
        else if room = 0 then .error ⟨.octetsDoNotFit, t⟩
        else (octets t).bind fun four => complete ((pairs four).reverse ++ read) gap []
      | 58 :: 58 :: rest =>
        if gap.isSome then .error ⟨.secondGap, 58 :: rest⟩
        else if rest.isEmpty then complete read' (some read'.length) []
        else groupsFrom room read' (some read'.length) rest
      | [58] => .error ⟨.colonAtEnd, [58]⟩
      | 58 :: rest => groupsFrom room read' gap rest
      | b :: rest => .error ⟨.strayBehindGroup, b :: rest⟩

/-- The eight groups of a long address. -/
def longGroups (t : Text) : Except Finding (List Nat) :=
  match t with
  | [58, 58] => .ok (List.replicate 8 0)
  | 58 :: 58 :: t => groupsFrom 8 [] (some 0) t
  | t => groupsFrom 8 [] none t

/-- A long address, with its interface. -/
def long (t : Text) : Except Finding Address :=
  match Text.splitAtFirst 37 t with
  | none => (longGroups t).map fun groups => ⟨groups, false, []⟩
  | some (address, zone) =>
    if zone.isEmpty then .error ⟨.emptyZone, []⟩
    else (longGroups address).map fun groups => ⟨groups, false, zone⟩

/-! ### Reading and writing -/

/-- The numeric address of a text. The first separator decides which of the two it is to be. -/
def parse (t : Text) : Except Error Address :=
  let result : Except Finding Address :=
    match t.find? fun b => b = 46 || b = Text.colon || b = 37 with
    | some 46 => (octets t).map fun four => ⟨four, true, []⟩
    | some 58 => long t
    | some _ => .error ⟨.onlyZone, []⟩
    | none => .error ⟨.noSeparator, []⟩
  result.mapError (Error.mk t)

/-- Whether a text is a numeric address without an interface. -/
def isPlain (t : Text) : Bool :=
  match parse t with
  | .ok a => a.zone.isEmpty
  | .error _ => false

/-- A group in hexadecimal without leading zeros. -/
def groupText (n : Nat) : Text :=
  match (Text.hex 4 n).dropWhile (· == 48) with
  | [] => [48]
  | t => t

/-- The length of the run of zeros at the start. -/
def zeroRun (groups : List Nat) : Nat := (groups.takeWhile (· == 0)).length

/-- The start and length of the longest run of at least two zeros, the first of several. -/
def longestRun (start : Nat) : List Nat → Nat × Nat
  | [] => (0, 1)
  | g :: gs =>
    let (later, length) := longestRun (start + 1) gs
    if length ≤ zeroRun (g :: gs) && 2 ≤ zeroRun (g :: gs) then (start, zeroRun (g :: gs))
    else (later, length)

/-- Groups with colons between them. -/
def groupsText (groups : List Nat) : Text := [Text.colon].intercalate (groups.map groupText)

/-- Octets with points between them. -/
def octetsText (octets : List Nat) : Text :=
  ([46] : Text).intercalate (octets.map Numeral.decimal)

/-- The usual form of an address, without its interface. A long address that holds a short one is
written as that. -/
def text (a : Address) : Text :=
  if a.short then octetsText a.groups
  else match a.groups with
    | [0, 0, 0, 0, 0, 0xFFFF, g, h] => octetsText [g / 256, g % 256, h / 256, h % 256]
    | groups =>
      let (start, length) := longestRun 0 groups
      if length < 2 then groupsText groups
      else
        groupsText (groups.take start) ++ [Text.colon, Text.colon] ++
          groupsText (groups.drop (start + length))

/-- The usual form with the interface behind it. -/
def textWithZone (a : Address) : Text :=
  if a.zone.isEmpty then a.text else a.text ++ "%" ++ a.zone

end Address

end HitLog
