import HitLog.Text.Utf8
import HitLog.Text.Printable

/-!
# Quoted text

Messages show identifiers, fields and addresses between double quotes, so that every octet of them
can be told: printable characters stand as they are, the others are escaped, and an octet that
belongs to no character is shown by its own number.

## Main definitions

* `Quoted.quote` — the quoted form of a text
-/

namespace HitLog

namespace Quoted

open scoped Text

/-- The letter of a control character that has one of its own. -/
def controlLetter? (code : Nat) : Option UInt8 :=
  match code with
  | 7 => some 97
  | 8 => some 98
  | 9 => some 116
  | 10 => some 110
  | 11 => some 118
  | 12 => some 102
  | 13 => some 114
  | _ => none

/-- The shown form of one character. -/
def escape (code : Nat) : Text :=
  if code = 34 || code = 92 then [92, code.toUInt8]
  else if Printable.isPrintable code then Utf8.encode code
  else match controlLetter? code with
    | some letter => [92, letter]
    | none =>
      if code < 0x80 then "\\x" ++ Text.hex 2 code
      else if code < 0x10000 then "\\u" ++ Text.hex 4 code
      else "\\U" ++ Text.hex 8 code

/-- The shown form of one glyph. -/
def escapeGlyph : Glyph → Text
  | .scalar code => escape code
  | .stray b => "\\x" ++ Text.hex 2 b.toNat

/-- The text between double quotes. -/
def quote (t : Text) : Text :=
  [34] ++ (Utf8.decode t).flatMap escapeGlyph ++ [34]

end Quoted

end HitLog
