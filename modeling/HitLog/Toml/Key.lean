import HitLog.Toml.Quoted

/-!
# Keys

A key names a place in a document by parts with dots between them. A part is bare, made of letters,
digits, `_` and `-`, or quoted. The text of a key is collected first (`Toml.Key.collect`), with
escapes resolved and quotes kept, and then cut into its parts (`Toml.Key.split`); a table header is
cut by the same rule without being collected, so escapes mean nothing there.

## Main definitions

* `Toml.Key.collect` — the text of a key at the start of a line
* `Toml.Key.split` — the parts of a key's text
-/

namespace HitLog

namespace Toml

namespace Key

/-- A blank inside a line. -/
def isBlank (c : Char) : Bool := c = ' ' || c = '\t'

/-- A character of a bare part. -/
def isBare (c : Char) : Bool := c.isAlphanum || c = '_' || c = '-'

/-- The text of a key and what follows it. The text so far is in `acc` in reverse, and `fuel` bounds
the number of parts and characters. Blanks end the key unless a dot follows them. -/
def collectOnto : (fuel : Nat) → (acc : List Char) → List Char → Option (List Char × List Char)
  | 0, _, _ => none
  | _ + 1, acc, [] => some (acc.reverse, [])
  | fuel + 1, acc, c :: cs =>
    if c = '=' then some (acc.reverse, c :: cs)
    else if c = '"' then
      match Quoted.basicKey cs with
      | none => none
      | some (s, rest) => collectOnto fuel ('"' :: (s.reverse ++ '"' :: acc)) rest
    else if c = '\'' then
      match Quoted.literalBody ['\''] [] cs with
      | none => none
      | some (s, rest) => collectOnto fuel ('\'' :: (s.reverse ++ '\'' :: acc)) rest
    else if isBlank c then
      match cs.dropWhile isBlank with
      | '.' :: rest =>
        let gap := ' ' :: cs.takeWhile isBlank ++ '.' :: rest.takeWhile isBlank
        collectOnto fuel (gap.reverse ++ acc) (rest.dropWhile isBlank)
      | rest => some (acc.reverse, rest)
    else if c = '.' || isBare c then collectOnto fuel (c :: acc) cs
    else none

/-- The text of a key and what follows it. -/
def collect (cs : List Char) : Option (List Char × List Char) := collectOnto (cs.length + 1) [] cs

/-- Whether a part may begin with the character behind a dot. -/
def startsPart (c : Char) : Bool := isBare c || c = '\'' || c = '"' || c = ' '

/-- The parts of a key's text behind those in `acc`, which is in reverse; `fuel` bounds the number
of steps. A bare part ends at a dot, or at blanks that a dot or the end follows. -/
def splitOnto : (fuel : Nat) → (acc : List (List Char)) → List Char → Option (List (List Char))
  | 0, _, _ => none
  | fuel + 1, acc, cs =>
    match cs.dropWhile isBlank with
    | [] => some acc.reverse
    | c :: cs =>
      if isBare c then
        let part := (c :: cs).takeWhile isBare
        match (c :: cs).dropWhile isBare with
        | [] => splitOnto fuel (part :: acc) []
        | d :: rest =>
          if d = '.' then splitOnto fuel (part :: acc) (d :: rest)
          else if isBlank d then
            match rest.dropWhile isBlank with
            | [] => splitOnto fuel (part :: acc) []
            | e :: rest => if e = '.' then splitOnto fuel (part :: acc) (e :: rest) else none
          else none
      else if c = '\'' || c = '"' then
        match cs.dropWhile (· != c) with
        | [] => none
        | _ :: rest => splitOnto fuel (cs.takeWhile (· != c) :: acc) rest
      else if c = '.' then
        match cs with
        | [] => none
        | d :: _ => if startsPart d then splitOnto fuel acc cs else none
      else none

/-- The parts of a key's text, of which there must be one at least. -/
def split (cs : List Char) : Option (List Text) :=
  match splitOnto (cs.length + 1) [] cs with
  | none => none
  | some [] => none
  | some parts => some (parts.map Text.ofChars)

end Key

end Toml

end HitLog
