import HitLog.Toml.Key

/-!
# Tokens of a document

A document is cut into tokens in two modes. Where a key or a header may stand, blanks and line ends
are skipped and a name is read; behind an equals sign a value is read, and a line end leads back to
the first mode unless an array is open. Inside an inline table the first mode also follows the
opening brace and each comma, so line ends and comments may stand there.

What cannot be cut becomes the token `error`, after which there are no more tokens. Numbers and
moments keep their text; `HitLog.Toml.Number` and `HitLog.Toml.Moment` read it.

## Main definitions

* `Toml.Token` — the tokens
* `Toml.tokens` — the tokens of a document
-/

namespace HitLog

namespace Toml

/-- The tokens of a document. -/
inductive Token where
  /-- The text of a key. -/
  | key (text : List Char)
  /-- The text of a table header. -/
  | header (text : List Char)
  /-- The text of a header of an array of tables. -/
  | arrayHeader (text : List Char)
  | equal
  | comma
  | leftBracket
  | rightBracket
  | doubleLeftBracket
  | doubleRightBracket
  | leftBrace
  | rightBrace
  /-- A string, with its escapes resolved. -/
  | string (value : List Char)
  | boolean (value : Bool)
  /-- The text of an integer. -/
  | integer (text : List Char)
  /-- The text of a floating-point number. -/
  | float (text : List Char)
  /-- A floating-point number that is not finite. -/
  | notFinite
  /-- The text of a date. -/
  | date (text : List Char)
  /-- The text of a time of day. -/
  | time (text : List Char)
  /-- The text of an offset from universal time. -/
  | offset (text : List Char)
  | error
  | endOfDocument

/-! ### Numbers -/

/-- Read the digits, points and exponents of a number. The text so far is in `acc` in reverse. The
result says whether a point or an exponent was met. -/
def numberBody (point exponent digit : Bool) (acc : List Char) :
    List Char → Option (Bool × List Char × List Char)
  | [] => if digit then some (point || exponent, acc.reverse, []) else none
  | c :: cs =>
    if c = '.' then
      if point || !digit then none
      else match cs with
        | d :: _ => if d.isDigit then numberBody true exponent digit (c :: acc) cs else none
        | [] => none
    else if c = 'e' || c = 'E' then
      match cs with
      | s :: cs' =>
        if s = '+' || s = '-' then numberBody point true digit (s :: c :: acc) cs'
        else numberBody point true digit (c :: acc) (s :: cs')
      | [] => numberBody point true digit (c :: acc) []
    else if c.isDigit then numberBody point exponent true (c :: acc) cs
    else if c = '_' then numberBody point exponent digit (c :: acc) cs
    else if digit then some (point || exponent, acc.reverse, c :: cs)
    else none

/-- A number without a base. -/
def decimalNumber (acc cs : List Char) : Option (Token × List Char) :=
  (numberBody false false false acc cs).map fun (isFloat, text, rest) =>
    (if isFloat then .float text else .integer text, rest)

/-- The characters of a number of each base, by the letter of the base. -/
def baseDigit? (letter : Char) : Option (Char → Bool) :=
  match letter with
  | 'x' => some fun c => Quoted.isHexDigit c || c == '_'
  | 'o' => some fun c => ('0' ≤ c && c ≤ '7') || c == '_'
  | 'b' => some fun c => c == '0' || c == '1' || c == '_'
  | _ => none

/-- A number. -/
def number (cs : List Char) : Option (Token × List Char) :=
  match cs with
  | '0' :: letter :: rest =>
    match baseDigit? letter with
    | some isDigit =>
      let digits := rest.takeWhile isDigit
      if digits.isEmpty then none
      else some (.integer ('0' :: letter :: digits), rest.dropWhile isDigit)
    | none => if letter.isAlpha then none else decimalNumber [] cs
  | c :: rest =>
    if c = '+' || c = '-' then
      if ['i', 'n', 'f'].isPrefixOf rest || ['n', 'a', 'n'].isPrefixOf rest then
        some (.notFinite, rest.drop 3)
      else decimalNumber [c] rest
    else decimalNumber [] cs
  | [] => none

/-! ### Moments -/

/-- Two digits, then the rest. -/
def twoDigits : List Char → Option (List Char × List Char)
  | a :: b :: cs => if a.isDigit && b.isDigit then some ([a, b], cs) else none
  | _ => none

/-- A fraction of a second, if a point follows. -/
def fraction (cs : List Char) : Option (List Char × List Char) :=
  match cs with
  | '.' :: cs =>
    let digits := cs.takeWhile Char.isDigit
    if digits.isEmpty then none else some ('.' :: digits, cs.dropWhile Char.isDigit)
  | cs => some ([], cs)

/-- A time of day. -/
def timeOfDay (cs : List Char) : Option (List Char × List Char) := do
  let (hour, cs) ← twoDigits cs
  let ':' :: cs := cs | none
  let (minute, cs) ← twoDigits cs
  let ':' :: cs := cs | none
  let (second, cs) ← twoDigits cs
  let (part, cs) ← fraction cs
  return (hour ++ ':' :: minute ++ ':' :: second ++ part, cs)

/-- An offset from universal time, if one follows. -/
def zoneOffset (cs : List Char) : Option (List Token × List Char) :=
  match cs with
  | 'Z' :: cs => some ([.offset ['Z']], cs)
  | c :: rest =>
    if c = '+' || c = '-' then do
      let (hour, cs) ← twoDigits rest
      let ':' :: cs := cs | none
      let (minute, cs) ← twoDigits cs
      return ([.offset (c :: hour ++ ':' :: minute)], cs)
    else some ([], cs)
  | [] => some ([], [])

/-- Whether a time of day must follow a date: behind a `T`, or behind one blank if two digits come
next. -/
def timeFollows : List Char → Bool
  | 'T' :: _ => true
  | ' ' :: cs => (twoDigits cs).isSome
  | _ => false

/-- Whether a date may end here: only the end of the document or a space ends one. -/
def dateEnds (cs : List Char) : Bool := cs.isEmpty || cs.head? = some ' '

/-- A date, with a time of day and an offset if they follow. -/
def dateAndTime (cs : List Char) : Option (List Token × List Char) := do
  let (century, cs) ← twoDigits cs
  let (year, cs) ← twoDigits cs
  let '-' :: cs := cs | none
  let (month, cs) ← twoDigits cs
  let '-' :: cs := cs | none
  let (day, cs) ← twoDigits cs
  let date := Token.date (century ++ year ++ '-' :: month ++ '-' :: day)
  if timeFollows cs then
    let (time, cs) ← timeOfDay (cs.drop 1)
    let (offset, cs) ← zoneOffset cs
    return (date :: .time time :: offset, cs)
  else if dateEnds cs then return ([date], cs)
  else none

/-- A moment or a number: two digits before a colon start a time of day, four before a hyphen a
date. -/
def momentOrNumber (cs : List Char) : Option (List Token × List Char) :=
  match cs with
  | a :: b :: ':' :: _ =>
    if a.isDigit && b.isDigit then (timeOfDay cs).map fun (t, rest) => ([.time t], rest)
    else (number cs).map fun (t, rest) => ([t], rest)
  | a :: b :: c :: d :: '-' :: _ =>
    if a.isDigit && b.isDigit && c.isDigit && d.isDigit then dateAndTime cs
    else (number cs).map fun (t, rest) => ([t], rest)
  | _ => (number cs).map fun (t, rest) => ([t], rest)

/-! ### The two modes -/

/-- What is read next. -/
inductive Mode where
  /-- A key or a header. -/
  | name
  /-- A value. -/
  | value

/-- An open bracket. -/
inductive Bracket where
  /-- An array is open. -/
  | square
  /-- An inline table is open. -/
  | curly
  deriving DecidableEq

/-- Skip a comment up to its line end. -/
def skipComment : List Char → List Char
  | [] => []
  | c :: cs =>
    if c = '\n' then c :: cs
    else if c = '\r' && cs.head? = some '\n' then c :: cs
    else skipComment cs

/-- The tokens of a header behind its first bracket. -/
def headerTokens (cs : List Char) : Option (List Token × List Char) :=
  match cs with
  | '[' :: cs =>
    let text := cs.takeWhile fun c => c != ']' && c != '['
    match cs.dropWhile fun c => c != ']' && c != '[' with
    | ']' :: ']' :: rest =>
      some ([.doubleLeftBracket, .arrayHeader text, .doubleRightBracket], rest)
    | _ => none
  | cs =>
    let text := cs.takeWhile fun c => c != ']' && c != '['
    match cs.dropWhile fun c => c != ']' && c != '[' with
    | ']' :: rest => some ([.leftBracket, .header text, .rightBracket], rest)
    | _ => none

/-- The mode behind a comma. -/
def modeAfterComma (open_ : List Bracket) : Mode :=
  if open_.head? = some .curly then .name else .value

/-- The mode behind a line end in a value. -/
def modeAfterLine (open_ : List Bracket) : Mode :=
  if open_.head? = some .square then .value else .name

/-- What stands at the start of a value: tokens, the mode and open brackets behind them, and the
rest. -/
structure Advance where
  tokens : List Token
  mode : Mode
  opened : List Bracket
  rest : List Char

/-- The closing brace of an inline table. -/
def closeCurly (open_ : List Bracket) (rest : List Char) : Option Advance :=
  match open_ with
  | .curly :: opened => some ⟨[.rightBrace], .value, opened, rest⟩
  | _ => none

/-- The words that are values. -/
def word? (cs : List Char) : Option (Token × List Char) :=
  if "true".toList.isPrefixOf cs then some (.boolean true, cs.drop 4)
  else if "false".toList.isPrefixOf cs then some (.boolean false, cs.drop 5)
  else if "inf".toList.isPrefixOf cs || "nan".toList.isPrefixOf cs then some (.notFinite, cs.drop 3)
  else none

/-- Read on where a key or a header may stand. -/
def advanceName (open_ : List Bracket) (c : Char) (cs : List Char) : Option Advance :=
  match c with
  | '}' => closeCurly open_ cs
  | '[' => (headerTokens cs).map fun (ts, rest) => ⟨ts, .name, open_, rest⟩
  | '#' => some ⟨[], .name, open_, skipComment cs⟩
  | '=' => some ⟨[.equal], .value, open_, cs⟩
  | _ =>
    if Quoted.isGap c then some ⟨[], .name, open_, cs⟩
    else (Key.collect (c :: cs)).map fun (text, rest) => ⟨[.key text], .name, open_, rest⟩

/-- Read on where a value may stand. -/
def advanceValue (open_ : List Bracket) (c : Char) (cs : List Char) : Option Advance :=
  match c with
  | '=' => some ⟨[.equal], .value, open_, cs⟩
  | '[' => some ⟨[.leftBracket], .value, .square :: open_, cs⟩
  | ']' =>
    some ⟨[.rightBracket], .value, if open_.head? = some .square then open_.tail else open_, cs⟩
  | '{' => some ⟨[.leftBrace], .name, .curly :: open_, cs⟩
  | '}' => closeCurly open_ cs
  | '#' => some ⟨[], .value, open_, skipComment cs⟩
  | '"' => (Quoted.basic cs).map fun (s, rest) => ⟨[.string s], .value, open_, rest⟩
  | '\'' => (Quoted.literal cs).map fun (s, rest) => ⟨[.string s], .value, open_, rest⟩
  | ',' => some ⟨[.comma], modeAfterComma open_, open_, cs⟩
  | _ =>
    if c = '\r' || c = '\n' then some ⟨[], modeAfterLine open_, open_, cs⟩
    else if Key.isBlank c then some ⟨[], .value, open_, cs⟩
    else match word? (c :: cs) with
      | some (t, rest) => some ⟨[t], .value, open_, rest⟩
      | none =>
        if c = '+' || c = '-' then
          (number (c :: cs)).map fun (t, rest) => ⟨[t], .value, open_, rest⟩
        else if c.isDigit then
          (momentOrNumber (c :: cs)).map fun (ts, rest) => ⟨ts, .value, open_, rest⟩
        else none

/-- The tokens of the rest of a document behind those in `acc`, which is in reverse; `fuel` bounds
the number of steps, each of which takes a character at least. -/
def tokensOnto : (fuel : Nat) → (acc : List Token) → Mode → List Bracket → List Char → List Token
  | 0, acc, _, _, _ => (.error :: acc).reverse
  | _ + 1, acc, _, _, [] => (.endOfDocument :: acc).reverse
  | fuel + 1, acc, mode, open_, c :: cs =>
    let advance? := match mode with
      | .name => advanceName open_ c cs
      | .value => advanceValue open_ c cs
    match advance? with
    | none => (.error :: acc).reverse
    | some a => tokensOnto fuel (a.tokens.reverse ++ acc) a.mode a.opened a.rest

/-- The tokens of a document. -/
def tokens (cs : List Char) : List Token := tokensOnto (cs.length + 1) [] .name [] cs

end Toml

end HitLog
