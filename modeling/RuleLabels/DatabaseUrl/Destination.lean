import RuleLabels.DatabaseUrl.Engine

/-!
# Where databases are

The file or the memory that an engine keeps its database in. The name of a file may be an address of its
own, with options for how the file is opened.
-/

namespace RuleLabels.DatabaseUrl

/-- Why a connection cannot be made: the arguments make no sense, or the driver says so. -/
inductive ConnectFault where
  | argument (message : String)
  | driver (message : String)

/-- The wording of a fault. -/
def ConnectFault.text : ConnectFault → String
  | argument message => message
  | driver message =>
    s!"(sqlite3.OperationalError) {message}\n(Background on this error at: https://sqlalche.me/e/21/e3q8)"

/-- How the file of a database is opened. -/
structure Access where
  creates : Bool
  writes : Bool

/-- The file of a database, or memory, which may be another one for each thread. -/
inductive Destination where
  | memory (separate : Bool)
  | file (l : Location) (access : Access)

/-! ## Names with options -/

/-- The text in a part of a name, up to a zero. -/
def unescaped (s : List Char) : String :=
  let bytes := (Text.percentBytes s).takeWhile (· ≠ 0)
  String.ofList (Text.decodeLossily bytes.length bytes [])

/-- The options behind the name of a file; those without a name are passed over. -/
def nameOptions (s : List Char) : List (String × String) :=
  (Text.splitAt '&' s).filterMap fun part =>
    let name := unescaped (part.takeWhile (· ≠ '='))
    if name.isEmpty then none else some (name, unescaped ((part.dropWhile (· ≠ '=')).drop 1))

/-- The ways to open a file, by the bits that stand for them: to read, to read and write, to create, and
to use memory instead. -/
def modes : List (String × Nat) := [("ro", 1), ("rw", 2), ("rwc", 6), ("memory", 128)]

/-- What options ask for: the bits of the mode, whether memory is shared between threads, whether the file
never changes, and the name of the system of files. -/
structure Request where
  mode : Nat
  shared : Bool
  fixed : Bool
  system : String

/-- What is asked for by default. -/
def Request.default : Request := ⟨6, false, false, "unix"⟩

/-- The words and numbers that say yes. -/
def saysYes (s : String) : Bool :=
  ["yes", "true", "on"].contains (Text.lower s) ||
    (s.toList.takeWhile Text.isAsciiDigit).any (· ≠ '0')

/-- A request with one option. -/
def Request.add (r : Request) (name value : String) : Except ConnectFault Request :=
  if name = "vfs" then .ok { r with system := value }
  else if name = "cache" then
    if value = "shared" ∨ value = "private" then .ok { r with shared := value = "shared" }
    else .error (.driver s!"no such cache mode: {value}")
  else if name = "mode" then
    match modes.lookup value with
    | none => .error (.driver s!"no such access mode: {value}")
    | some mode =>
      if mode ≠ 128 ∧ r.mode < mode then .error (.driver s!"access mode not allowed: {value}")
      else .ok { r with mode }
  else if name = "immutable" then .ok { r with fixed := saysYes value }
  else .ok r

/-- The systems of files that there are. -/
def systems : List String := ["unix", "unix-none", "unix-dotfile", "unix-excl", "memdb"]

/-! ## Locations -/

/-- The parts of a name with its steps up taken; those at its start stay unless it starts at a root. -/
def steppedUp (rooted : Bool) : List String → List String → List String
  | done, [] => done.reverse
  | done, ".." :: rest =>
    match done with
    | [] => steppedUp rooted (if rooted then [] else [".."]) rest
    | ".." :: _ => steppedUp rooted (".." :: done) rest
    | _ :: before => steppedUp rooted before rest
  | done, part :: rest => steppedUp rooted (part :: done) rest

/-- The location of a database file, whose steps up are taken whatever folders there are. -/
def fileLocation (name : String) : Location :=
  let l := Location.ofText name
  { l with parts := steppedUp (l.root ≠ "") [] l.parts }

/-- The place of a file with a name, or memory where the name says so. -/
def placeOfName (separate : Bool) (name : String) (access : Access) : Destination :=
  if name = "" ∨ name = ":memory:" then .memory separate else .file (fileLocation name) access

/-- The place that a name with options leads to. -/
def placeOfUri (separate : Bool) (s : List Char) : Except ConnectFault Destination := do
  let s := s.takeWhile (· ≠ '#')
  let s ← match s with
    | '/' :: '/' :: rest =>
      let authority := String.ofList (rest.takeWhile (· ≠ '/'))
      if authority = "" ∨ authority = "localhost" then pure (rest.dropWhile (· ≠ '/'))
      else throw (.driver s!"invalid uri authority: {authority}")
    | s => pure s
  let path := unescaped (s.takeWhile (· ≠ '?'))
  let options := nameOptions ((s.dropWhile (· ≠ '?')).drop 1)
  let r ← options.foldlM (fun r (name, value) => r.add name value) Request.default
  if !systems.contains r.system then throw (.driver s!"no such vfs: {r.system}")
  if r.mode = 128 ∨ r.system = "memdb" then return .memory (separate && !r.shared)
  return placeOfName (separate && !r.shared) path ⟨r.mode = 6, r.mode ≠ 1 && !r.fixed⟩

/-- An integer of 32 bits. -/
def isSmall (i : Int) : Bool := -2 ^ 31 ≤ i && i < 2 ^ 31

/-- Where an engine has its database. -/
def Engine.destination (e : Engine) : Except ConnectFault Destination := do
  let tooLarge : ConnectFault := .argument "Python int too large to convert to C int"
  if !isSmall e.detectTypes then throw tooLarge
  if e.isolation then
    throw (.argument "isolation_level string must be '', 'DEFERRED', 'IMMEDIATE', or 'EXCLUSIVE'")
  if !isSmall e.cachedStatements then throw tooLarge
  match e.name with
  | none => throw (.argument "expected str, bytes or os.PathLike object, not NoneType")
  | some name =>
    if name.toList.contains '\x00' then throw (.argument "embedded null byte")
    match e.uri, name.toList with
    | true, 'f' :: 'i' :: 'l' :: 'e' :: ':' :: rest => placeOfUri e.separate rest
    | _, _ => return placeOfName e.separate name ⟨true, true⟩

end RuleLabels.DatabaseUrl
