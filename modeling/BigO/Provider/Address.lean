import BigO.Json.Display
import BigO.Json.Reader
import BigO.Number.Lenient

/-! Addresses that a response may send a client on to: a scheme, an authority with a host and a
number, and a path. The parts are cut by their marks, and each part is checked. -/

namespace BigO.Address

/-- What is wrong with an address. -/
inductive Fault where
  | tooLong
  /-- A control character stands at a place. -/
  | control (c : CodePoint) (place : Nat)
  | badIpv4 (host : Text)
  | badIpv6 (host : Text)
  | badPort (digits : Text)
  | pathBesideHost
  | pathWithTwoSlashes
  | pathWithColon
deriving DecidableEq

/-- The wording. -/
def Fault.message : Fault → Text
  | .tooLong => text "URL too long"
  | .control c place =>
    text "Invalid non-printable ASCII character in URL, " ++ Json.displayQuoted [c] ++
      text " at position " ++ Text.ofNat place ++ text "."
  | .badIpv4 host => text "Invalid IPv4 address: " ++ Json.displayQuoted host
  | .badIpv6 host => text "Invalid IPv6 address: " ++ Json.displayQuoted host
  | .badPort digits => text "Invalid port: " ++ Json.displayQuoted digits
  | .pathBesideHost => text "For absolute URLs, path must be empty or begin with '/'"
  | .pathWithTwoSlashes => text "Relative URLs cannot have a path starting with '//'"
  | .pathWithColon => text "Relative URLs cannot have a path starting with ':'"

/-- The most code points of an address. -/
def lengthLimit : Nat := 65536

/-! ### Parts -/

/-- A text begins with some words. -/
def startsWith (words : String) (t : Text) : Bool := (text words).isPrefixOf t

/-- The scheme, and what stands behind its colon. The scheme may be empty, and there may be no
colon. -/
def splitScheme (t : Text) : Text × Text :=
  let scheme := t.takeWhile fun (c : CodePoint) =>
    c.isLetter || c.isDigit || c = '+' || c = '.' || c = '-'
  match t.drop scheme.length with
  | c :: rest => if c = ':' ∧ (scheme.head?.all CodePoint.isLetter) then (scheme, rest) else ([], t)
  | [] => ([], t)

/-- The authority behind two slashes, and the rest. -/
def splitAuthority : Text → Text × Text
  | c :: d :: rest =>
    if c = '/' ∧ d = '/' then
      let authority := rest.takeWhile fun (c : CodePoint) => c ≠ '/' && c ≠ '?' && c ≠ '#'
      (authority, rest.drop authority.length)
    else ([], c :: d :: rest)
  | t => ([], t)

/-- The part up to the last of some mark, with the mark, and the part behind it. -/
def splitLast (mark : Char) (t : Text) : Text × Text :=
  let behind := (t.reverse.takeWhile fun (c : CodePoint) => c ≠ mark).reverse
  (t.take (t.length - behind.length), behind)

/-- The host and the digits of its number, behind the name of a user. A host in square brackets may
have colons. -/
def splitHost (t : Text) : Text × Text :=
  let (bracketed, behind) := splitLast ']' t
  let (host, rest) :=
    if startsWith "[" t ∧ bracketed ≠ [] then (bracketed, behind)
    else
      let host := t.takeWhile fun (c : CodePoint) => c ≠ ':' && c ≠ '@'
      (host, t.drop host.length)
  (host, if startsWith ":" rest then rest.drop 1 else rest)

/-- The segments of a path without those that are one dot, and without those that two dots take
back. The segments so far have the newest first. -/
def resolveSegments (done : List Text) : List Text → List Text
  | [] => done.reverse
  | s :: rest =>
    if s = text "." then resolveSegments done rest
    else if s = text ".." then
      resolveSegments (if done = [[]] then done else done.drop 1) rest
    else resolveSegments (s :: done) rest

/-- A path with its dots resolved. -/
def resolvePath (path : Text) : Text :=
  let slash := CodePoint.ofChar '/'
  Text.join [slash] (resolveSegments [] (Text.splitOn slash path))

/-! ### Hosts -/

/-- What is left of four numbers with some code point between them, when `groups` numbers are to
come behind the present one. -/
def isNumberRow (groups : Nat) : Text → Bool
  | [] => groups == 0
  | [c] => c.isDigit && groups == 0
  | c :: d :: rest =>
    (c.isDigit && isNumberRow groups (d :: rest)) ||
      (groups != 0 && d.isDigit && isNumberRow (groups - 1) rest)

/-- A host that must be an address of four numbers. -/
def looksLikeIpv4 (host : Text) : Bool :=
  match host with
  | c :: rest => c.isDigit && isNumberRow 3 rest
  | [] => false

/-- A number from 0 to 255 without needless zeros. -/
def isOctet (t : Text) : Bool :=
  t ≠ [] && t.length ≤ 3 && t.all CodePoint.isDigit && (t.length == 1 || !startsWith "0" t) &&
    Json.digitsValue t ≤ 255

/-- An address of four numbers. -/
def isIpv4 (t : Text) : Bool :=
  let parts := Text.splitOn (CodePoint.ofChar '.') t
  parts.length == 4 && parts.all isOctet

/-- A part of an address of eight hexadecimal numbers. -/
def isHexPart (t : Text) : Bool :=
  t ≠ [] && t.length ≤ 4 && t.all fun c => (Text.hexDigit? c).isSome

/-- The parts of an address of eight hexadecimal numbers, which may end in an address of four
numbers for the last two. Nothing where that is none. -/
def hexParts (t : Text) : Option (List Text) :=
  let parts := Text.splitOn (CodePoint.ofChar ':') t
  match parts.getLast? with
  | some last =>
    if last.any fun (c : CodePoint) => c = '.' then
      if isIpv4 last then some (parts.dropLast ++ [text "0", text "0"]) else none
    else some parts
  | none => none

/-- Parts of which some may be left out at one place. At the ends a part is empty only beside that
place. -/
def areHexParts (parts : List Text) : Bool :=
  let inner := (parts.drop 1).dropLast
  match inner.findIdx? (·.isEmpty) with
  | none => parts.length == 8 && parts.all isHexPart
  | some i =>
    let before := parts.take (i + 1)
    let behind := parts.drop (i + 2)
    let before := if before = [[]] then [] else before
    let behind := if behind = [[]] then [] else behind
    before.all isHexPart && behind.all isHexPart && before.length + behind.length < 8

/-- An address of eight hexadecimal numbers, perhaps with a zone behind a percent sign. -/
def isIpv6 (t : Text) : Bool :=
  let address := t.takeWhile fun (c : CodePoint) => c ≠ '%'
  let zone := t.drop address.length
  let zoneFits := zone = [] || (2 ≤ zone.length && (zone.drop 1).all fun (c : CodePoint) => c ≠ '%')
  zoneFits && (hexParts address).any fun parts =>
    3 ≤ parts.length && parts.length ≤ 9 && areHexParts parts

/-- Whether a host stands in square brackets. -/
def isBracketed (host : Text) : Bool :=
  2 ≤ host.length && startsWith "[" host && host.getLast? == some (CodePoint.ofChar ']')

/-- Checks a host. -/
def checkHost (host : Text) : Except Fault Unit :=
  if looksLikeIpv4 host then if isIpv4 host then .ok () else .error (.badIpv4 host)
  else if isBracketed host then
    if isIpv6 (host.drop 1).dropLast then .ok () else .error (.badIpv6 host)
  else .ok ()

/-! ### Addresses -/

/-- Checks the number of a host, which may be missing. -/
def checkPort (digits : Text) : Except Fault Unit :=
  if digits = [] ∨ (Lenient.readHeaderInteger digits).isSome then .ok ()
  else .error (.badPort digits)

end Address

/-- An address: its scheme, its host and its path with the dots resolved. -/
structure Address where
  scheme : Text
  host : Text
  path : Text

namespace Address

/-- Reads an address. -/
def read (t : Text) : Except Fault Address := do
  if lengthLimit < t.length then throw .tooLong
  let isControl (c : CodePoint) : Bool := c.val < 0x20 || c.val == 0x7F
  if let some c := t.find? isControl then throw (.control c (t.takeWhile (!isControl ·)).length)
  let (scheme, rest) := splitScheme t
  let (authority, rest) := splitAuthority rest
  let path := rest.takeWhile fun (c : CodePoint) => c ≠ '?' && c ≠ '#'
  let (user, rest) := splitLast '@' authority
  let (host, digits) := splitHost rest
  checkHost host
  checkPort digits
  if scheme = [] ∧ user.length < 2 ∧ host = [] ∧ digits = [] then
    if startsWith "//" path then throw .pathWithTwoSlashes
    if startsWith ":" path then throw .pathWithColon
  return { scheme, host, path := if scheme = [] then path else resolvePath path }

/-- Puts a host into an address that has none. -/
def addHost (address : Address) (host : Text) : Except Fault Address :=
  if address.path = [] ∨ startsWith "/" address.path then .ok { address with host }
  else .error .pathBesideHost

end Address

end BigO
