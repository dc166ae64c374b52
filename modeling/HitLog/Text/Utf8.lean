import HitLog.Text

/-!
# Characters in a text

A text need not be UTF-8, so reading it as characters gives for each position either the code point
of a well-formed sequence or one stray octet. Well-formed means shortest form, no surrogates and
nothing above U+10FFFF; when the sequence at a position is not well-formed, exactly one octet is
stray and reading goes on behind it.

## Main definitions

* `Glyph` — a code point or a stray octet
* `Utf8.next` — the first glyph and the rest
* `Utf8.decode` — all glyphs
* `Utf8.encode` — the octets of a code point
-/

namespace HitLog

/-- What stands at one position of a text read as characters. -/
inductive Glyph where
  /-- The code point of a well-formed sequence. -/
  | scalar (code : Nat)
  /-- An octet that starts no well-formed sequence. -/
  | stray (octet : UInt8)
  deriving DecidableEq

namespace Utf8

/-- The code point shown for what cannot be read. -/
def replacement : Nat := 0xFFFD

/-- An octet that continues a sequence. -/
def isContinuation (b : UInt8) : Bool := 0x80 ≤ b && b ≤ 0xBF

/-- The second octets that may follow a given first octet: fewer than all continuations where a
longer form than needed, a surrogate or a too large code point would arise. -/
def isSecond (first b : UInt8) : Bool :=
  (if first = 0xE0 then 0xA0 else if first = 0xF0 then 0x90 else 0x80) ≤ b &&
    b ≤ (if first = 0xED then 0x9F else if first = 0xF4 then 0x8F else 0xBF)

/-- The six low bits of a continuation octet. -/
def low (b : UInt8) : Nat := b.toNat - 0x80

/-- The code point of the well-formed sequence at the start of a text and the rest behind it. -/
def sequence? : Text → Option (Nat × Text)
  | [] => none
  | a :: t =>
    if a < 0x80 then some (a.toNat, t)
    else if 0xC2 ≤ a && a ≤ 0xDF then
      match t with
      | b :: t => if isContinuation b then some ((a.toNat - 0xC0) * 64 + low b, t) else none
      | [] => none
    else if 0xE0 ≤ a && a ≤ 0xEF then
      match t with
      | b :: c :: t =>
        if isSecond a b && isContinuation c then
          some (((a.toNat - 0xE0) * 64 + low b) * 64 + low c, t)
        else none
      | _ => none
    else if 0xF0 ≤ a && a ≤ 0xF4 then
      match t with
      | b :: c :: d :: t =>
        if isSecond a b && isContinuation c && isContinuation d then
          some ((((a.toNat - 0xF0) * 64 + low b) * 64 + low c) * 64 + low d, t)
        else none
      | _ => none
    else none

theorem length_lt_of_sequence? {t rest : Text} {code : Nat} (h : sequence? t = some (code, rest)) :
    rest.length < t.length := by
  unfold sequence? at h
  split at h
  · simp at h
  · repeat' split at h
    all_goals simp_all
    all_goals omega

/-- The first glyph of a text and the rest behind it. -/
def next : Text → Option (Glyph × Text)
  | [] => none
  | a :: t =>
    match sequence? (a :: t) with
    | some (code, rest) => some (.scalar code, rest)
    | none => some (.stray a, t)

theorem length_lt_of_next {t rest : Text} {g : Glyph} (h : next t = some (g, rest)) :
    rest.length < t.length := by
  unfold next at h
  split at h
  · simp at h
  · split at h
    · next hs =>
      simp only [Option.some.injEq, Prod.mk.injEq] at h
      exact h.2 ▸ length_lt_of_sequence? hs
    · simp only [Option.some.injEq, Prod.mk.injEq] at h
      simp [h.2]

/-- All glyphs of a text, put behind those in `acc`, which is in reverse order. -/
def decodeOnto (acc : List Glyph) (t : Text) : List Glyph :=
  match _h : next t with
  | none => acc.reverse
  | some (g, rest) => decodeOnto (g :: acc) rest
termination_by t.length
decreasing_by exact length_lt_of_next _h

/-- All glyphs of a text. -/
def decode (t : Text) : List Glyph := decodeOnto [] t

/-- The octets of a code point. Surrogates and numbers above U+10FFFF have none of their own and are
written as the replacement character. -/
def encode (code : Nat) : Text :=
  if code < 0x80 then [code.toUInt8]
  else if code < 0x800 then [(0xC0 + code / 64).toUInt8, (0x80 + code % 64).toUInt8]
  else if (0xD800 ≤ code && code ≤ 0xDFFF) || 0x10FFFF < code then [0xEF, 0xBF, 0xBD]
  else if code < 0x10000 then
    [(0xE0 + code / 4096).toUInt8, (0x80 + code / 64 % 64).toUInt8, (0x80 + code % 64).toUInt8]
  else
    [(0xF0 + code / 262144).toUInt8, (0x80 + code / 4096 % 64).toUInt8,
      (0x80 + code / 64 % 64).toUInt8, (0x80 + code % 64).toUInt8]

/-- The code points of a text, with the replacement character for each stray octet. -/
def codePoints (t : Text) : List Nat :=
  (decode t).map fun
    | .scalar code => code
    | .stray _ => replacement

/-- The characters of a text, with the replacement character for each stray octet. -/
def chars (t : Text) : List Char := (codePoints t).map Char.ofNat

/-- The octets of a list of code points. -/
def encodeAll (codes : List Nat) : Text := codes.flatMap encode

/-- The text with each stray octet made the replacement character. -/
def scrub (t : Text) : Text := encodeAll (codePoints t)

end Utf8

end HitLog
