import RuleLabels.Failure
import RuleLabels.Log
import RuleLabels.Settings

/-!
# The world of an operation

What operations see and change besides the store: the time, the source of identifiers, the environment,
the files and the log. An operation that fails keeps what it has done to them.
-/

namespace RuleLabels

/-- A source of identifiers: its number, and the number of identifiers that it has given. -/
structure IdSource where
  number : Nat
  given : Nat

namespace IdSource

/-- The next identifier: 32 hexadecimal digits that begin with the two numbers. -/
def next (s : IdSource) : String :=
  String.ofList (Text.padded 16 6 s.number ++ Text.padded 16 6 s.given ++ List.replicate 20 '0')

/-- The source after it has given the next identifier. -/
def rest (s : IdSource) : IdSource := { s with given := s.given + 1 }

end IdSource

/-- The surroundings of an operation. -/
structure World where
  now : Timestamp
  ids : IdSource
  environment : Environment
  files : Files
  log : Log

/-- An operation on the world that may fail. -/
abbrev Action := ExceptT Failure (StateM World)

namespace Action

/-- The time. -/
def now : Action Timestamp := return (← get).now

/-- A new identifier. -/
def freshId : Action String := do
  let w ← get
  set { w with ids := w.ids.rest }
  return w.ids.next

/-- Sends a message to the log. -/
def log (level : Level) (sender message : String) : Action Unit :=
  modify fun w => { w with log := w.log.send ⟨level, sender, message⟩ }

/-- The outcome of a check of a document. -/
def ofChecked {α : Type} : Checked α → Action α
  | .ok a => pure a
  | .error e => throw (.ofInvalid e)

/-- Changes the files. -/
def changeFiles (f : Files → Except FileError Files) : Action Unit := do
  let w ← get
  match f w.files with
  | .ok files => set { w with files }
  | .error e => throw (.file e)

/-- Makes an empty draft of a file, and gives its key. -/
def makeDraft (l : Location) : Action FileKey := do
  let w ← get
  match w.files.makeDraft l with
  | .ok (draft, files) =>
    set { w with files }
    return draft
  | .error e => throw (.file e)

/-- Removes a draft. -/
def discard (draft : FileKey) : Action Unit := modify fun w => { w with files := w.files.discard draft }

/-- Changes the files, of which some may be changed even where it fails. -/
def tryFiles (f : Files → Except (FileError × Files) Files) : Action Unit := do
  let w ← get
  match f w.files with
  | .ok files => set { w with files }
  | .error (e, files) =>
    set { w with files }
    throw (.file e)

/-- Gives a file a text, and makes the folders that are missing. A text without bytes leaves it empty. -/
def placeText (l : Location) (s : String) : Action Unit := do
  match Text.encodeError? s with
  | none => tryFiles fun files => files.place l (.text s)
  | some e =>
    tryFiles fun files => files.place l (.text "")
    throw (.notEncodable e)

end Action

end RuleLabels
