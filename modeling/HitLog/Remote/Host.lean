import HitLog.Remote.Address

/-!
# Names and ports

A name is looked up only if it can be a domain name, which excludes names made of numbers and points
alone; names below `onion` belong to another network and are not looked up either. What is dialled
is a host with a port, separated by the last colon; a host with colons stands in brackets.

## Main definitions

* `isDomainName`, `isHidden` — which names are looked up
* `Destination.parse` — the host and port of a text, or what is wrong with it
-/

namespace HitLog

open scoped Text

/-! ### Names -/

/-- Whether a label of a name has a fitting length and begins and ends with neither hyphen nor
nothing. -/
def isLabel (t : Text) : Bool :=
  !t.isEmpty && t.length ≤ 63 && t.head? ≠ some 45 && t.getLast? ≠ some 45 &&
    t.all fun b => Text.isLetter b || Text.isDigit b || b = 95 || b = 45

/-- The name without the point of a complete name at its end. -/
def dropPoint (t : Text) : Text := if t.getLast? = some 46 then t.dropLast else t

/-- The name with the point of a complete name at its end. -/
def completeName (t : Text) : Text := if t.getLast? = some 46 then t else t ++ [46]

/-- Whether a text can be a domain name. A point at its end is allowed. -/
def isDomainName (t : Text) : Bool :=
  let name := dropPoint t
  t = [46] ||
    (name.length ≤ 253 && (Text.fields 46 name).all isLabel &&
      name.any fun b => Text.isLetter b || b = 95 || b = 45)

/-- Whether a name lies below `onion`, in any case of its letters. -/
def isHidden (t : Text) : Bool :=
  (Text.ofString ".onion").isSuffixOf ((dropPoint t).map Text.toLower)

/-! ### Ports -/

/-- The largest port. -/
def maxPort : Int := 65535

/-- From this value on more digits do not count. -/
def portCutoff : UInt32 := 0x40000000

/-- The value of the digits of a port behind those of value `n`, as a word of 32 bits; `none` if
there is something else among them. -/
def portDigits (n : UInt32) : Text → Option UInt32
  | [] => some n
  | b :: t =>
    if !Text.isDigit b then none
    else
      let tens := n * 10
      let next := tens + (Numeral.digitValue b).toUInt32
      if portCutoff ≤ n || next < tens then some 0xFFFFFFFF else portDigits next t

/-- The number of a port. Beyond the cutoff it is the cutoff, less one where there is no minus. -/
def portNumber (t : Text) : Option Int :=
  match t with
  | 45 :: digits =>
    (portDigits 0 digits).map fun n => -(if portCutoff < n then portCutoff else n).toNat
  | 43 :: digits => (portDigits 0 digits).map unsigned
  | digits => (portDigits 0 digits).map unsigned
where
  /-- The number without a minus. -/
  unsigned (n : UInt32) : Int := (if portCutoff ≤ n then portCutoff - 1 else n).toNat

/-- The ports that have names. -/
def portNames : List (Text × Int) := [("domain", 53)]

/-- The number of a port that may be given by its name. -/
def port (t : Text) : Except Text Int :=
  match (portNumber t).or (portNames.lookup (t.map Text.toLower)) with
  | none => .error ("lookup udp/" ++ t ++ ": unknown port")
  | some n =>
    if 0 ≤ n && n ≤ maxPort then .ok n else .error ("address " ++ t ++ ": invalid port")

/-! ### Destinations -/

/-- Where a datagram goes: a host, which may be empty, and a port. -/
structure Destination where
  host : Text
  port : Int

namespace Destination

/-- The host and the port of a text, as far as brackets and colons go. -/
def split (t : Text) : Except Text (Text × Text) :=
  let about (why : Text) : Except Text (Text × Text) := .error ("address " ++ t ++ ": " ++ why)
  match Text.splitAtLast Text.colon t with
  | none => about "missing port in address"
  | some (host, port) =>
    if t.head? = some 91 then
      match Text.splitAtFirst 93 t with
      | none => about "missing ']' in address"
      | some (inside, after) =>
        if after.head? ≠ some Text.colon then about "missing port in address"
        else if after.tail.contains Text.colon then about "too many colons in address"
        else if (inside.tail ++ after).contains 91 then about "unexpected '[' in address"
        else if after.contains 93 then about "unexpected ']' in address"
        else .ok (inside.tail, port)
    else if host.contains Text.colon then about "too many colons in address"
    else if t.contains 91 then about "unexpected '[' in address"
    else if t.contains 93 then about "unexpected ']' in address"
    else .ok (host, port)

/-- The destination of a text, or the wording of what is wrong with it. -/
def parse (t : Text) : Except Text Destination :=
  if t.isEmpty then .error "missing address"
  else do
    let (host, service) ← split t
    return ⟨host, ← HitLog.port service⟩

/-- A host with a port behind it. -/
def join (host : Text) (port : Int) : Text :=
  (if host.contains Text.colon then [91] ++ host ++ [93] else host) ++
    Text.colon :: Numeral.signed port

end Destination

end HitLog
