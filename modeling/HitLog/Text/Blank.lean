import HitLog.Text.Utf8

/-!
# Blank text

A log line is blank when it consists of white space only, where white space is the Unicode property
of that name. An octet that belongs to no character is not white space, so a line holding one is not
blank.

## Main definitions

* `Blank.isSpace` — the white space characters
* `Blank.isBlank` — text of white space only
-/

namespace HitLog

namespace Blank

/-- Whether a code point is white space. -/
def isSpace (code : Nat) : Bool :=
  (0x09 ≤ code && code ≤ 0x0D) || code == 0x20 || code == 0x85 || code == 0xA0 || code == 0x1680 ||
    (0x2000 ≤ code && code ≤ 0x200A) || code == 0x2028 || code == 0x2029 || code == 0x202F ||
    code == 0x205F || code == 0x3000

/-- Whether a glyph is white space. -/
def isSpaceGlyph : Glyph → Bool
  | .scalar code => isSpace code
  | .stray _ => false

/-- Whether a text consists of white space only. -/
def isBlank (t : Text) : Bool :=
  match _h : Utf8.next t with
  | none => true
  | some (g, rest) => if isSpaceGlyph g then isBlank rest else false
termination_by t.length
decreasing_by exact Utf8.length_lt_of_next _h

end Blank

end HitLog
