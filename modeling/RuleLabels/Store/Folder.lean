import RuleLabels.Json.Read
import RuleLabels.Record
import RuleLabels.Store.Defaults
import RuleLabels.World

/-!
# Stores in folders

A store that keeps its rules in one file of a folder and its records in another, both as JSON arrays. A
missing file counts as an empty array, and whatever else a file may hold is refused with the reason. A file
is only replaced by a draft that is complete.
-/

namespace RuleLabels

/-- A folder with a file of rules and a file of records, and the most collections inside each other in its
documents. -/
structure FolderStore where
  place : Location
  maxDepth : Option Nat

namespace FolderStore

/-- The sender of this store's messages. -/
def sender : String := "labeler.store"

/-- The file of the rules. -/
def rulesFile (s : FolderStore) : Location := s.place.child "rules.json"

/-- The file of the records. -/
def recordsFile (s : FolderStore) : Location := s.place.child "processed_data.json"

/-! ## Files -/

/-- The document in a file. -/
def readDocument (l : Location) : Action Value := do
  let unreadable (reason : String) : Action Value := throw (.store (.unreadable l.text reason))
  match (← get).files.content l with
  | .error e =>
    match e.fault with
    | .notFound => return .array []
    | .zeroInName | .nameWithoutBytes _ => throw (.file e)
    | _ => unreadable e.text
  | .ok (.document v) => return v
  | .ok c =>
    match c.decoded with
    | .error e => throw (.notUtf8 e)
    | .ok text =>
      match Json.read text with
      | .ok v => return v
      | .error (.malformed fault position) => unreadable (Json.Error.text text (.malformed fault position))
      | .error e => throw (.ofJson text e)

/-- Fills a draft with a document. -/
def fill (s : FolderStore) (draft : FileKey) (v : Value) : Action Unit := do
  match Json.refusal? (.file s.maxDepth) v with
  | some r => throw (.unwritable r)
  | none => Action.changeFiles fun files => .ok (files.setContent draft (.document v))

/-- Gives a file a document: a draft beside it is filled and then takes its place. If that fails, the draft
is removed. -/
def writeDocument (s : FolderStore) (l : Location) (v : Value) : Action Unit := do
  let draft ← Action.makeDraft l
  try
    s.fill draft v
    Action.changeFiles fun files => files.replace draft l
  catch e =>
    Action.discard draft
    throw e

/-- The document of a list of rules. -/
def rulesDocument (rules : List Rule) : Value := .array (rules.map Rule.toValue)

/-! ## Operations -/

/-- The rules. -/
def rules (s : FolderStore) : Action (List Rule) := do
  let v ← readDocument s.rulesFile
  match Rule.readAll (← Action.now) v .document with
  | .ok rules => return rules
  | .error e => throw (.store (.invalidRule s.rulesFile.text e))

/-- Replaces the rules. -/
def saveRules (s : FolderStore) (rules : List Rule) : Action Unit := do
  s.writeDocument s.rulesFile (rulesDocument rules)
  Action.log .debug sender s!"saved {rules.length} rules to {s.rulesFile.text}"

/-- The written records. -/
def recordItems (s : FolderStore) : Action (List Value) := do
  match ← readDocument s.recordsFile with
  | .array items => return items
  | _ => throw (.store (.notAnArray s.recordsFile.text))

/-- The records. -/
def records (s : FolderStore) : Action (List Record) := do
  let items ← s.recordItems
  match Record.readEach .document 0 items with
  | .ok records => return records
  | .error e => throw (.store (.invalidRecord s.recordsFile.text e))

/-- Adds a record. -/
def append (s : FolderStore) (r : Record) : Action Unit := do
  let items ← s.recordItems
  s.writeDocument s.recordsFile (.array (items ++ [r.toValue]))

/-- Does what makes a file where it is missing. -/
def unlessThere (l : Location) (make : Action Unit) : Action Unit := do
  if !(← get).files.has l then make

/-- Makes the file of the rules, with the default rules if it is to be seeded. -/
def makeRules (s : FolderStore) (seed : Bool) : Action Unit := do
  let now ← Action.now
  let initial := if seed then Rule.defaults now else []
  s.writeDocument s.rulesFile (rulesDocument initial)
  Action.log .info sender s!"created {s.rulesFile.text} with {initial.length} rules"

/-- Makes the folder and its files where they are missing. -/
def prepare (s : FolderStore) (seed : Bool) : Action Unit := do
  Action.tryFiles fun files => files.makeFolder s.place
  unlessThere s.rulesFile (s.makeRules seed)
  unlessThere s.recordsFile (s.writeDocument s.recordsFile (.array []))

end FolderStore

end RuleLabels
