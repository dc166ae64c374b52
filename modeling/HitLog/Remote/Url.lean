import HitLog.Remote.Address

/-!
# Addresses of the web

The address of the remote endpoint is taken apart into scheme, user, host, path, query and fragment,
with percent escapes resolved, and can be put together again. Messages show it as put together, with
a password blanked out, so an address comes back in a normal form: a small scheme, and escapes where
they are needed.

## Main definitions

* `Url` — the parts of an address
* `Url.parse` — the parts of a text
* `Url.text` — the address put together again
* `Url.hostName` — the host without port and brackets
-/

namespace HitLog

open scoped Text

/-- User name and password in front of a host. -/
structure UserInfo where
  name : Text
  password : Option Text

/-- The parts of an address. Paths and fragments are kept with escapes resolved, together with their
written form where that is not the usual one. -/
structure Url where
  scheme : Text
  /-- What follows the scheme where no path does. -/
  body : Text
  user : Option UserInfo
  /-- The host with its port. -/
  host : Text
  path : Text
  writtenPath : Text
  /-- Whether a question mark stands before an empty query. -/
  emptyQuery : Bool
  query : Text
  fragment : Text
  writtenFragment : Text
  /-- Whether a path follows the scheme without any host. -/
  omitsHost : Bool

namespace Url

/-- What is wrong with an address. -/
inductive Cause where
  | controlCharacter
  | missingScheme
  | colonInFirstSegment
  | missingBracket
  | badPort (text : Text)
  | badEscape (text : Text)
  | badHostCharacter (text : Text)
  /-- Brackets stand elsewhere than around the host, or around a short address. -/
  | badLiteral
  /-- What stands in brackets is no numeric address. -/
  | badAddress (error : Address.Error)
  | badUser
  deriving DecidableEq

/-- What is wrong with an address, and the address as far as it was looked at. -/
structure Error where
  shown : Text
  cause : Cause
  deriving DecidableEq

/-- The wording of a cause. -/
def Cause.message : Cause → Text
  | controlCharacter => "net/url: invalid control character in URL"
  | missingScheme => "missing protocol scheme"
  | colonInFirstSegment => "first path segment in URL cannot contain colon"
  | missingBracket => "missing ']' in host"
  | badPort t => "invalid port " ++ Quoted.quote t ++ " after host"
  | badEscape t => "invalid URL escape " ++ Quoted.quote t
  | badHostCharacter t => "invalid character " ++ Quoted.quote t ++ " in host name"
  | badLiteral => "invalid IP-literal"
  | badAddress e => "invalid host: " ++ e.message
  | badUser => "net/url: invalid userinfo"

/-- The wording of an error. -/
def Error.message (e : Error) : Text := "parse " ++ Quoted.quote e.shown ++ ": " ++ e.cause.message

/-! ### Escapes -/

/-- The parts of an address that have their own rules for escapes. -/
inductive Part where
  | path
  | user
  | host
  /-- The name of an interface behind a numeric host. -/
  | zone
  | fragment
  deriving DecidableEq

/-- Whether an octet is one of the characters of a string. -/
def isOneOf (s : String) (b : UInt8) : Bool := (Text.ofString s).contains b

/-- Whether an octet of a part is written as an escape. -/
def needsEscape (part : Part) (b : UInt8) : Bool :=
  if Text.isLetter b || Text.isDigit b then false
  else if (part = .host || part = .zone) && isOneOf "!$&'()*+,;=:[]<>\"" b then false
  else if isOneOf "-_.~" b then false
  else if isOneOf "$&+,/:;=?@" b then
    match part with
    | .path => b = 63
    | .user => isOneOf "@/?:" b
    | .fragment => false
    | _ => true
  else if part = .fragment && isOneOf "!()*" b then false
  else true

/-- A capital hexadecimal digit. -/
def escapeDigit (n : Nat) : UInt8 := if n < 10 then (48 + n).toUInt8 else (55 + n).toUInt8

/-- A part with escapes where they are needed. -/
def escape (part : Part) (t : Text) : Text :=
  t.flatMap fun b =>
    if needsEscape part b then [37, escapeDigit (b.toNat / 16), escapeDigit (b.toNat % 16)] else [b]

/-- The octet of two hexadecimal digits. -/
def escapedOctet (h l : UInt8) : UInt8 := (16 * Text.hexValue h + Text.hexValue l).toUInt8

/-- Whether an escaped octet may stand in a part. In a host only octets beyond ASCII are escaped,
and the percent sign itself. -/
def mayEscape (part : Part) (h l : UInt8) : Bool :=
  let percent := h = 50 && l = 53
  match part with
  | .host => 8 ≤ Text.hexValue h || percent
  | .zone =>
    let b := escapedOctet h l
    percent || b = 32 || !needsEscape .host b
  | _ => true

/-- A part with its escapes resolved, behind what is in `acc` in reverse. -/
def unescapeOnto (part : Part) (acc : Text) : Text → Except Cause Text
  | [] => .ok acc.reverse
  | 37 :: h :: l :: t =>
    if Text.isHexDigit h && Text.isHexDigit l && mayEscape part h l then
      unescapeOnto part (escapedOctet h l :: acc) t
    else .error (.badEscape [37, h, l])
  | 37 :: t => .error (.badEscape (37 :: t))
  | b :: t =>
    if (part = .host || part = .zone) && b < 0x80 && needsEscape part b then
      .error (.badHostCharacter [b])
    else unescapeOnto part (b :: acc) t

/-- A part with its escapes resolved. -/
def unescape (part : Part) (t : Text) : Except Cause Text := unescapeOnto part [] t

/-- Whether a written path or fragment can stay as it is. -/
def isWellWritten (part : Part) (t : Text) : Bool :=
  t.all fun b => isOneOf "!$&'()*+,;=:@[]%" b || !needsEscape part b

/-- A part together with its written form, which is empty where it is the usual one. -/
def readPart (part : Part) (t : Text) : Except Cause (Text × Text) := do
  let value ← unescape part t
  return (value, if escape part value = t then [] else t)

/-- The written form of a part. -/
def writePart (part : Part) (value written : Text) : Text :=
  if !written.isEmpty && isWellWritten part written then
    match unescape part written with
    | .ok v => if v = value then written else escape part value
    | .error _ => escape part value
  else escape part value

/-! ### Taking apart -/

/-- The scheme in front of the first colon, empty if the text does not begin like one, and the rest.
The characters of the scheme so far are in `acc` in reverse. -/
def readScheme (whole acc : Text) : Text → Except Cause (Text × Text)
  | [] => .ok ([], whole)
  | b :: t =>
    if Text.isLetter b then readScheme whole (b :: acc) t
    else if Text.isDigit b || isOneOf "+-." b then
      if acc.isEmpty then .ok ([], whole) else readScheme whole (b :: acc) t
    else if b = Text.colon then
      if acc.isEmpty then .error .missingScheme else .ok (acc.reverse.map Text.toLower, t)
    else .ok ([], whole)

/-- Whether a text is empty or a colon with digits. -/
def isPort (t : Text) : Bool :=
  match t with
  | [] => true
  | b :: digits => b = Text.colon && digits.all Text.isDigit

/-- The parts of a text before and from the first occurrence of another. -/
def splitBefore (part : Text) (acc : Text) : Text → Option (Text × Text)
  | [] => none
  | b :: t =>
    if part.isPrefixOf (b :: t) then some (acc.reverse, b :: t) else splitBefore part (b :: acc) t

/-- What stands in brackets, escapes resolved. The interface of a numeric address begins with the
first escaped percent sign and has its own rules. -/
def readBracketed (t : Text) : Except Cause Text :=
  match splitBefore "%25" [] t with
  | none => unescape .host t
  | some (address, zone) => do
    let address ← unescape .host address
    let zone ← unescape .zone zone
    return address ++ zone

/-- A host in brackets with its port: a long numeric address. -/
def readLiteral (inside port : Text) : Except Cause Text := do
  if !isPort port then throw (.badPort port)
  let port ← unescape .host port
  let host ← readBracketed inside
  match Address.parse host with
  | .error e => throw (.badAddress e)
  | .ok address => if address.short then throw .badLiteral else return 91 :: host ++ 93 :: port

/-- The host with its port, escapes resolved. -/
def readHost (t : Text) : Except Cause Text :=
  match t with
  | 91 :: rest =>
    if rest.contains 91 then .error .badLiteral
    else match Text.splitAtLast 93 rest with
      | none => .error .missingBracket
      | some (inside, port) => readLiteral inside port
  | _ =>
    if t.contains 91 then .error .badLiteral
    else match Text.splitAtLast Text.colon t with
      | some (_, port) =>
        if isPort (Text.colon :: port) then unescape .host t
        else .error (.badPort (Text.colon :: port))
      | none => unescape .host t

/-- Whether a character may stand in a user name or password. -/
def isUserOctet (b : UInt8) : Bool :=
  Text.isLetter b || Text.isDigit b || isOneOf "-._:~!$&'()*+,;=%@" b

/-- The user and the host. -/
def readAuthority (t : Text) : Except Cause (Option UserInfo × Text) :=
  match Text.splitAtLast 64 t with
  | none => do
    let host ← readHost t
    return (none, host)
  | some (user, host) => do
    let host ← readHost host
    if !user.all isUserOctet then throw .badUser
    match Text.splitAtFirst Text.colon user with
    | none => do
      let name ← unescape .user user
      return (some ⟨name, none⟩, host)
    | some (name, password) => do
      let name ← unescape .user name
      let password ← unescape .user password
      return (some ⟨name, some password⟩, host)

/-- The query behind the first question mark, and whether the mark is there without a query. -/
def readQuery (t : Text) : Text × Bool × Text :=
  match Text.splitAtFirst 63 t with
  | none => (t, false, [])
  | some (before, query) => if query.isEmpty then (before, true, []) else (before, false, query)

/-- The address without a fragment. -/
def readMain (t : Text) : Except Cause Url := do
  if t.any fun b => b < 0x20 || b = 0x7F then throw .controlCharacter
  let blank : Url := ⟨[], [], none, [], [], [], false, [], [], [], false⟩
  if t = [42] then return { blank with path := [42] }
  let (scheme, rest) ← readScheme t [] t
  let (rest, emptyQuery, query) := readQuery rest
  let url := { blank with scheme, emptyQuery, query }
  if rest.head? ≠ some 47 then
    if !scheme.isEmpty then return { url with body := rest }
    if (rest.takeWhile (· != 47)).contains Text.colon then throw .colonInFirstSegment
  let slashes : Text := "//"
  if slashes.isPrefixOf rest && (!scheme.isEmpty || !(47 :: slashes).isPrefixOf rest) then
    let authority := (rest.drop 2).takeWhile (· != 47)
    let (user, host) ← readAuthority authority
    let (path, writtenPath) ← readPart .path ((rest.drop 2).dropWhile (· != 47))
    return { url with user, host, path, writtenPath }
  else
    let (path, writtenPath) ← readPart .path rest
    return { url with path, writtenPath, omitsHost := !scheme.isEmpty && rest.head? = some 47 }

/-- The parts of an address. -/
def parse (t : Text) : Except Error Url :=
  let (main, fragment) := (Text.splitAtFirst 35 t).getD (t, [])
  match readMain main with
  | .error cause => .error ⟨main, cause⟩
  | .ok url =>
    if fragment.isEmpty then .ok url
    else match readPart .fragment fragment with
      | .error cause => .error ⟨t, cause⟩
      | .ok (value, written) => .ok { url with fragment := value, writtenFragment := written }

/-! ### Putting together -/

/-- User name and password as they stand before a host. -/
def userText (u : UserInfo) : Text :=
  match u.password with
  | none => escape .user u.name
  | some password => escape .user u.name ++ Text.colon :: escape .user password

/-- The part of an address from the slashes before the host up to the host. -/
def authorityText (u : Url) : Text :=
  if u.scheme.isEmpty && u.host.isEmpty && u.user.isNone then []
  else if u.omitsHost && u.host.isEmpty && u.user.isNone then []
  else
    (if u.host.isEmpty && u.path.isEmpty && u.user.isNone then [] else [47, 47]) ++
      (match u.user with
        | none => []
        | some user => userText user ++ [64]) ++
      escape .host u.host

/-- The path as it is written. Behind a scheme alone, two slashes would begin a host, so the first
of them is escaped. -/
def pathText (u : Url) : Text :=
  let path := if u.path = [42] then [42] else writePart .path u.path u.writtenPath
  if u.omitsHost && u.host.isEmpty && u.user.isNone && [47, 47].isPrefixOf path then
    "%2F" ++ path.tail
  else path

/-- The address up to its path. -/
def mainText (u : Url) : Text :=
  let scheme := if u.scheme.isEmpty then [] else u.scheme ++ [Text.colon]
  if !u.body.isEmpty then scheme ++ u.body
  else
    let front := scheme ++ u.authorityText
    let path := u.pathText
    if !path.isEmpty && path.head? ≠ some 47 && !u.host.isEmpty then front ++ 47 :: path
    else if front.isEmpty && (path.takeWhile (· != 47)).contains Text.colon then 46 :: 47 :: path
    else front ++ path

/-- The address put together. -/
def text (u : Url) : Text :=
  u.mainText ++
    (if u.emptyQuery || !u.query.isEmpty then 63 :: u.query else []) ++
    (if u.fragment.isEmpty then [] else 35 :: writePart .fragment u.fragment u.writtenFragment)

/-- The address put together, with a password blanked out. -/
def textWithoutPassword (u : Url) : Text :=
  match u.user with
  | some ⟨name, some password⟩ =>
    Text.replaceFirst (userText ⟨name, some password⟩ ++ [64]) (name ++ ":***@") u.text
  | _ => u.text

/-- The host without port and brackets. -/
def hostName (u : Url) : Text :=
  let host := match Text.splitAtLast Text.colon u.host with
    | some (host, port) => if port.all Text.isDigit then host else u.host
    | none => u.host
  if host.head? = some 91 && host.getLast? = some 93 && 2 ≤ host.length then host.tail.dropLast
  else host

/-- The address to which a request goes: a colon without port is left out of the host. -/
def forRequest (u : Url) : Url :=
  if u.host.getLast? = some Text.colon then { u with host := u.host.dropLast } else u

end Url

end HitLog
