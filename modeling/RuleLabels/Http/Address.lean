import RuleLabels.Number.Reading
import RuleLabels.Text.Cut
import RuleLabels.Text.Half
import RuleLabels.Text.WordTable

/-!
# Addresses of requests

The parts of an address, and what makes a text none: a character that is not printable, a host that only
looks like a number or has a sign in its name, a port that is no integer, or a path that could be taken for
something else. Steps up and on the spot are taken where an address has a scheme or a host.
-/

namespace RuleLabels.Http

/-- Why a request cannot be sent. -/
inductive AddressFault where
  | invalid
  | notEncodable (e : Text.EncodeError)
  | unknownScheme (scheme : String)
  | bracketedHost
  | otherProtocol
  deriving DecidableEq

/-- The parts of an address, with the path and the query as they were given. -/
structure Address where
  scheme : String
  user : String
  host : String
  port : Option Int
  path : List Char
  query : Option (List Char)

namespace Address

/-! ## Hosts -/

/-- Four runs of digits with any character between them; the first run has begun if `started`. -/
def looksNumeric (started : Bool) : Nat → List Char → Bool
  | behind, [] => behind = 0 && started
  | 0, c :: rest => Text.isAsciiDigit c && looksNumeric true 0 rest
  | behind + 1, c :: rest =>
    (Text.isAsciiDigit c && looksNumeric true (behind + 1) rest) ||
      (started && looksNumeric false behind rest)

/-- A number below 256 of at most three digits without a zero at its front. -/
def isByteText (s : List Char) : Bool :=
  let n := Text.ofDigits 10 (s.filterMap Text.asciiDigit?)
  !s.isEmpty && s.all Text.isAsciiDigit && s.length ≤ 3 && n < 256 &&
    (s.head? ≠ some '0' || s.length = 1)

/-- Four such numbers with points between them. -/
def isNumericHost (s : List Char) : Bool :=
  let parts := Text.splitAt '.' s
  parts.length = 4 && parts.all isByteText

/-- One to four hexadecimal digits. -/
def isGroup (s : List Char) : Bool :=
  !s.isEmpty && s.length ≤ 4 && s.all fun c => (Text.hexDigit? c).isSome

/-- The groups of an address of eight groups, of which the last two may be written as four numbers. -/
def groups? (s : List Char) : Option (List (List Char)) :=
  let parts := Text.splitAt ':' s
  let last := parts.getLast?.getD []
  if last.contains '.' then
    if isNumericHost last then some (parts.dropLast ++ [['0'], ['0']]) else none
  else some parts

/-- Eight groups with colons between them, of which one run may be left out. -/
def isGroupedHost (s : List Char) : Bool :=
  let s := s.takeWhile (· ≠ '%')
  match groups? s with
  | none => false
  | some parts =>
    let inner := (parts.drop 1).dropLast
    let left := (parts.head?.getD []).isEmpty
    let right := (parts.getLast?.getD []).isEmpty
    let gaps := (inner.filter (·.isEmpty)).length
    3 ≤ parts.length && parts.length ≤ 9 && (parts.filter (!·.isEmpty)).all isGroup &&
      (if gaps = 0 then parts.length = 8 && !left && !right
       else gaps = 1 && (!left || (parts.drop 1).head? = some []) &&
         (!right || inner.getLast? = some []) && (parts.filter (!·.isEmpty)).length < 8)

/-- A part of the name of a host: letters and digits of any script, and hyphens that are not at its ends. -/
def isNamePart (s : List Char) : Bool :=
  !s.isEmpty && s.head? ≠ some '-' && s.getLast? ≠ some '-' &&
    s.all fun c => c = '-' || c.isAlphanum || Text.inRanges Text.wordRanges c.toNat

/-- Such parts with points between them, and perhaps one behind them. -/
def isNamedHost (s : List Char) : Bool :=
  let parts := Text.splitAt '.' s
  (if parts.getLast? = some [] then parts.dropLast else parts).all isNamePart

/-- The host of an authority: in brackets, or up to a colon; and what follows it. -/
def hostPart (s : List Char) : List Char × List Char :=
  match s, Text.cutAtLast? ']' s with
  | '[' :: _, some (inside, rest) => (inside ++ [']'], rest)
  | _, _ => Text.cutAt (· = ':') s

/-- A host that makes sense, without its brackets. -/
def checkHost (s : List Char) : Except AddressFault (List Char) :=
  let numeric := ((s.getLast?.map Text.isAsciiDigit).getD false) && looksNumeric false 3 s
  if numeric then if isNumericHost s then .ok s else .error .invalid
  else
    match s, s.getLast? with
    | '[' :: rest, some ']' =>
      if isGroupedHost rest.dropLast then .ok rest.dropLast else .error .invalid
    | s, _ => if s.all (·.toNat < 0x80) || isNamedHost s then .ok s else .error .invalid

/-- The port behind a host, unless none is given. -/
def readPort (s : List Char) : Except AddressFault (Option Int) :=
  let s := match s with
    | ':' :: rest => rest
    | s => s
  if s.isEmpty then .ok none
  else
    match readInteger (String.ofList s) with
    | .ok n => .ok (some n)
    | .error _ => .error .invalid

/-! ## Paths -/

/-- Takes the steps up and on the spot in the parts of a path; `done` are the parts so far, the last
one first. -/
def walk : List (List Char) → List (List Char) → List (List Char)
  | done, [] => done.reverse
  | done, ['.'] :: rest => walk done rest
  | done, ['.', '.'] :: rest =>
    match done with
    | [] => walk [] rest
    | [[]] => walk [[]] rest
    | _ :: before => walk before rest
  | done, part :: rest => walk (part :: done) rest

/-- A path without steps up and on the spot. -/
def walked (path : List Char) : List Char := List.intercalate ['/'] (walk [] (Text.splitAt '/' path))

/-- Refuses a text with half of a character. -/
def checkEncodable (s : List Char) : Except AddressFault Unit :=
  match Text.encodeError? (String.ofList s) with
  | some e => .error (.notEncodable e)
  | none => .ok ()

/-- The path of an address, if it can be told from its other parts. -/
def checkPath (hasScheme hasAuthority : Bool) (path : List Char) : Except AddressFault (List Char) :=
  if hasAuthority && !path.isEmpty && path.head? ≠ some '/' then .error .invalid
  else if !hasScheme && !hasAuthority && (['/', '/'].isPrefixOf path || path.head? = some ':') then
    .error .invalid
  else .ok (if hasScheme || hasAuthority then walked path else path)

/-! ## Reading -/

/-- The most characters of an address. -/
def maxLength : Nat := 65536

/-- A character of a scheme. -/
def isSchemeChar (c : Char) : Bool := c.isAlphanum || c = '+' || c = '.' || c = '-'

/-- The scheme in front of an address, which may be empty, and the rest. -/
def schemePart (s : List Char) : List Char × List Char :=
  match s.takeWhile isSchemeChar, s.dropWhile isSchemeChar with
  | [], ':' :: rest => ([], rest)
  | c :: cs, ':' :: rest => if c.isAlpha then (c :: cs, rest) else ([], s)
  | _, _ => ([], s)

/-- The authority behind a scheme, if there is one, and the rest. -/
def authorityPart (s : List Char) : List Char × List Char :=
  match s with
  | '/' :: '/' :: rest => Text.cutAt (fun c => c = '/' || c = '?' || c = '#') rest
  | s => ([], s)

/-- Reads an address. -/
def read (s : String) : Except AddressFault Address := do
  let cs := s.toList
  if maxLength < cs.length || cs.any fun c => c.toNat < 0x20 || c.toNat = 0x7F then throw .invalid
  let (scheme, rest) := schemePart cs
  let (authority, rest) := authorityPart rest
  let (rest, fragment) := Text.cutAt (· = '#') rest
  let (path, query) := Text.cutAt (· = '?') rest
  let (user, place) := (Text.cutAtLast? '@' authority).getD ([], authority)
  let (host, port) := hostPart place
  checkEncodable user
  let host ← checkHost host
  let port ← readPort port
  let path ← checkPath (!scheme.isEmpty) (!user.isEmpty || !host.isEmpty || port.isSome) path
  checkEncodable path
  checkEncodable query
  checkEncodable fragment
  return { scheme := (String.ofList scheme).toLower, user := String.ofList user, host := String.ofList host,
           port, path, query := if query.isEmpty then none else some query.tail }

/-- An address that names its host itself. -/
def isAbsolute (a : Address) : Bool := !a.scheme.isEmpty && !a.host.isEmpty

/-- Refuses an absolute address with the scheme of another protocol or of none, or with a host that could
be taken for one with a port. -/
def checkReachable (a : Address) : Except AddressFault Unit :=
  let known := ["http", "https", "ws", "wss"].contains a.scheme
  if !known then .error (.unknownScheme a.scheme)
  else if a.host.toList.contains ':' then .error .bracketedHost
  else if a.scheme = "ws" ∨ a.scheme = "wss" then .error .otherProtocol
  else .ok ()

end Address

end RuleLabels.Http
