import RuleLabels.Files.Location
import RuleLabels.Number.Reading
import RuleLabels.Text.Case
import RuleLabels.Text.Cut
import RuleLabels.Text.Percent
import RuleLabels.Text.WordTable

/-!
# Database addresses

An address names a driver and, as far as they are given, a user, a password, a host, a port, a database
and options. Its printed form hides the password, and an address that makes no sense is printed as it
is.
-/

namespace RuleLabels

/-- The address of a database. -/
structure DatabaseUrl where
  driver : String
  user : Option String
  password : Option String
  host : Option String
  port : Option Int
  database : Option String
  options : List (String × String)

namespace DatabaseUrl

/-! ## Reading -/

/-- Why a text is no address. -/
inductive Fault where
  | notAnAddress
  | emptyPort
  | badPort (s : String) (fault : IntegerFault)
  deriving DecidableEq

/-- The wording of a fault. -/
def Fault.text : Fault → String
  | notAnAddress => "Could not parse SQLAlchemy URL from given URL string"
  | emptyPort => "Port argument must be an integer or None"
  | badPort s fault => fault.text 10 s

/-- A letter, a digit or another number of any script, the underscore or the plus sign. -/
def isDriverChar (c : Char) : Bool :=
  c.isAlphanum || c = '_' || c = '+' || Text.inRanges Text.wordRanges c.toNat

/-- User, password and the rest behind the sign that ends them. A password reaches to the first such
sign, and a user without a password to the last one before a colon or a slash. -/
def credentials (s : List Char) : Option (List Char) × Option (List Char) × List Char :=
  let (name, rest) := Text.cutAt (fun c => c = ':' || c = '/') s
  let withPassword := match rest with
    | ':' :: behind =>
      match Text.cutAt (· = '@') behind with
      | (password, '@' :: rest) => some (some name, some password, rest)
      | _ => none
    | _ => none
  match withPassword with
  | some found => found
  | none =>
    match Text.cutAtLast? '@' name with
    | some (user, tail) => (some user, none, tail ++ rest)
    | none => (none, none, s)

/-- The host, which stands in brackets if it holds colons, and the rest. -/
def hostPart (s : List Char) : Option (List Char) × List Char :=
  let bracketed := match s with
    | '[' :: inside =>
      let (run, behind) := Text.cutAt (fun c => c = '/' || c = '?') inside
      match Text.cutAtLast? ']' run with
      | some (host, tail) => if host.isEmpty then none else some (some host, tail ++ behind)
      | none => none
    | _ => none
  match bracketed with
  | some found => found
  | none =>
    match Text.cutAt (fun c => c = '/' || c = ':' || c = '?') s with
    | ([], _) => (none, s)
    | (host, rest) => (some host, rest)

/-- The part behind a mark, up to the first character with a property. -/
def partBehind (mark : Char) (ends : Char → Bool) (s : List Char) : Option (List Char) × List Char :=
  match s with
  | c :: rest =>
    if c = mark then
      let (part, rest) := Text.cutAt ends rest
      (some part, rest)
    else (none, s)
  | [] => (none, s)

/-- The options of a query: those with a name and a value. -/
def readOptions (s : List Char) : List (String × String) :=
  (Text.splitAt '&' s).filterMap fun part =>
    match Text.cutAt (· = '=') part with
    | (name, '=' :: value) =>
      if value.isEmpty then none
      else some (Text.percentDecodeQuery (String.ofList name), Text.percentDecodeQuery (String.ofList value))
    | _ => none

/-- A port, if one is given; it has to be an integer. -/
def readPort (s : Option (List Char)) : Except Fault (Option Int) :=
  match s with
  | none => .ok none
  | some [] => .error .emptyPort
  | some cs =>
    let s := String.ofList cs
    match readInteger s with
    | .ok n => .ok (some n)
    | .error fault => .error (.badPort s fault)

/-- What stands behind the credentials of an address, as it is written: the host, and each part that is
given behind its mark. -/
structure Parts where
  host : Option (List Char)
  port : Option (List Char)
  database : Option (List Char)
  query : Option (List Char)

/-- The parts of a place. What follows them is passed over. -/
def Parts.ofPlace (s : List Char) : Parts :=
  let (host, rest) := hostPart s
  let (port, rest) := partBehind ':' (fun c => c = '/' || c = '?') rest
  let (database, rest) := partBehind '/' (· = '?') rest
  let (query, _) := partBehind '?' (· = '\n') rest
  ⟨host, port, database, query⟩

/-- The options that are given. -/
def Parts.options (p : Parts) : List (String × String) := (p.query.map readOptions).getD []

/-- The text of a part that is given. -/
def decoded (part : Option (List Char)) : Option String :=
  part.map fun cs => Text.percentDecode (String.ofList cs)

/-- Reads an address. -/
def read (s : String) : Except Fault DatabaseUrl :=
  match s.toList.takeWhile isDriverChar, s.toList.dropWhile isDriverChar with
  | [], _ => .error .notAnAddress
  | driver, ':' :: '/' :: '/' :: rest => do
    let (user, password, rest) := credentials rest
    let parts := Parts.ofPlace rest
    let port ← readPort parts.port
    return { driver := String.ofList driver, user := decoded user, password := decoded password,
             host := parts.host.map String.ofList, port, database := decoded parts.database,
             options := parts.options }
  | _, _ => .error .notAnAddress

/-! ## Printing -/

/-- The options in the order of their names, where those of one name keep their order. -/
def sortedOptions (u : DatabaseUrl) : List (String × String) :=
  u.options.mergeSort fun a b => a.1 ≤ b.1

/-- The text of an address with stars for the password. -/
def redacted (u : DatabaseUrl) : String :=
  let credentials := match u.user with
    | some user =>
      Text.percentEncode [' ', '+'] user ++ (if u.password.isSome then ":***" else "") ++ "@"
    | none => ""
  let host := match u.host with
    | some h => if h.toList.contains ':' then "[" ++ h ++ "]" else h
    | none => ""
  let port := match u.port with
    | some p => ":" ++ toString p
    | none => ""
  let database := match u.database with
    | some d => "/" ++ Text.percentEncode [' ', '+', '/'] d
    | none => ""
  let options := u.sortedOptions.map fun (k, v) =>
    Text.percentEncodeQuery k ++ "=" ++ Text.percentEncodeQuery v
  u.driver ++ "://" ++ credentials ++ host ++ port ++ database
    ++ (if options.isEmpty then "" else "?" ++ "&".intercalate options)

/-- A text among the encoded parts of an address holds half of a character. -/
def hasHalf (u : DatabaseUrl) : Bool :=
  let half (s : String) : Bool := s.toList.any Text.isHalf
  u.user.any half || u.database.any half || u.options.any fun (k, v) => half k || half v

/-- A text with the password hidden, if it is an address whose parts can be encoded. -/
def redact (s : String) : String :=
  let s := Text.trim s
  match read s with
  | .ok u => if u.hasHalf then s else u.redacted
  | .error _ => s

/-! ## Database files -/

/-- An address of a database that is a file or private memory. -/
def isLocal (u : DatabaseUrl) : Bool := u.driver.startsWith "sqlite"

/-- The file of a database, unless it is in private memory. -/
def file? (u : DatabaseUrl) : Option Location :=
  match u.database with
  | some name =>
    if u.isLocal ∧ name ≠ "" ∧ name ≠ ":memory:" then some (.ofText name) else none
  | none => none

/-- The file that a text names as an address. -/
def fileOfText? (s : String) : Option Location := (read s).toOption.bind file?

/-! ## Connections -/

/-- How connections are made: whether statements are shown, and what the driver asks for. -/
structure Connection where
  echo : Bool
  pool : Option (Nat × Nat)
  singleThread : Option Bool

/-- The way in which connections to an address are made. -/
def connection (url : String) (echo : Bool) : Connection :=
  let u := Text.lower (Text.trim url)
  if u.startsWith "postgresql" then ⟨echo, some (5, 10), none⟩
  else if u.startsWith "sqlite" then ⟨echo, none, some false⟩
  else ⟨echo, none, none⟩

end DatabaseUrl

end RuleLabels
