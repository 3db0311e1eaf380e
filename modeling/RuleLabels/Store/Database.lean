import RuleLabels.DatabaseUrl.Destination
import RuleLabels.Record
import RuleLabels.Store.Defaults
import RuleLabels.World

/-!
# Stores in databases

A store that keeps a row for each rule and for each record. A write that fails leaves the tables as they
were: a document that cannot be written, a text without bytes, a priority of more than 64 bits and a
repeated key all refuse it. A database that is open stays readable when its file is removed, and shows what
is written into its file.
-/

namespace RuleLabels

/-! ## Rows -/

namespace RuleRow

/-- The row of a rule at a position. -/
def ofRule (position : Nat) (r : Rule) : RuleRow where
  id := r.id
  position := position
  name := r.name
  label := r.label
  priority := r.priority
  enabled := r.enabled
  conditions := Json.joinedHalves r.conditions.toValue
  createdAt := r.createdAt.text
  updatedAt := r.updatedAt.text

/-- The rows of rules, from a position on. -/
def ofRulesFrom (position : Nat) : List Rule → List RuleRow
  | [] => []
  | r :: rest => ofRule position r :: ofRulesFrom (position + 1) rest

/-- The rows of rules. -/
def ofRules (rules : List Rule) : List RuleRow := ofRulesFrom 0 rules

/-- A row is read before another, or they are at one position with one time of creation. -/
def isBefore (row other : RuleRow) : Bool :=
  row.position < other.position || (row.position = other.position && row.createdAt ≤ other.createdAt)

/-- The rule of a row. -/
def toRule (row : RuleRow) : Checked Rule := do
  let place := Path.ofRoot s!"labeling_rules[{row.id}].conditions_json"
  let conditions ← Tree.readConditions row.conditions place
  let createdAt ← (Value.text row.createdAt).readTimestamp .document
  let updatedAt ← (Value.text row.updatedAt).readTimestamp .document
  return { id := row.id, name := row.name, label := row.label, conditions, priority := row.priority,
           enabled := row.enabled, createdAt, updatedAt }

/-- A priority that a column of 64 bits holds. -/
def fits (row : RuleRow) : Bool := -2 ^ 63 ≤ row.priority && row.priority < 2 ^ 63

/-- The first text of a row that has no bytes. -/
def encodeError? (row : RuleRow) : Option Text.EncodeError :=
  [row.id, row.name, row.label].findSome? Text.encodeError?

/-- The rules of rows. -/
def toRules : List RuleRow → Checked (List Rule)
  | [] => .ok []
  | row :: rest =>
    match row.toRule with
    | .error e => .error e
    | .ok r => (toRules rest).map (r :: ·)

end RuleRow

namespace RecordRow

/-- The row of a record. -/
def ofRecord (r : Record) : RecordRow where
  id := r.id
  payload := Json.joinedFields r.payload
  labels := r.labels.map Text.joinedHalves
  createdAt := r.createdAt.text

/-- The record of a row. -/
def toRecord (row : RecordRow) : Checked Record :=
  ((Value.text row.createdAt).readTimestamp .document).map fun createdAt =>
    ⟨row.id, row.payload, row.labels, createdAt⟩

/-- The records of rows. -/
def toRecords : List RecordRow → Checked (List Record)
  | [] => .ok []
  | row :: rest =>
    match row.toRecord with
    | .error e => .error e
    | .ok r => (toRecords rest).map (r :: ·)

end RecordRow

/-! ## Changes of tables -/

namespace Tables

/-- The tables with a row of a rule added, unless it is refused. -/
def addRule (t : Tables) (row : RuleRow) : Except Failure Tables :=
  match row.encodeError? with
  | some e => .error (.notEncodable e)
  | none =>
    if !row.fits then .error .integerTooWide
    else if t.rules.any (·.id = row.id) then .error (.duplicateKey "labeling_rules.id")
    else .ok { t with rules := t.rules ++ [row] }

/-- The tables with rows of rules added one after another, up to one that is refused. -/
def addRules : Tables → List RuleRow → Except Failure Tables
  | t, [] => .ok t
  | t, row :: rest => do addRules (← t.addRule row) rest

/-- The tables without rules. -/
def withoutRules (t : Tables) : Tables := { t with rules := [] }

/-- The tables with other rules: first the old ones are removed, and then the new ones are added, if every
document among them can be written. -/
def replaceRules (maxDepth : Option Nat) (rules : List Rule) (t : Tables) : Except Failure Tables :=
  match rules.findSome? fun r => Json.refusal? (.column maxDepth) r.conditions.toValue with
  | some r => .error (.unstorable r)
  | none => t.withoutRules.addRules (RuleRow.ofRules rules)

end Tables

/-! ## The store -/

/-- Where a database is: in memory, which other threads may not share; in memory of another thread, where
this one finds no tables; or in a file with a number, which may be read only. -/
inductive DatabasePlace where
  | memory (separate : Bool) (t : Tables)
  | bare
  | file (l : Location) (number : Nat) (writes : Bool)

/-- A database with its address, and the most collections inside each other in its documents. -/
structure DatabaseStore where
  url : String
  place : DatabasePlace
  maxDepth : Option Nat

/-- A content without bytes, or with one, is a database without tables, and other texts are none. -/
def Content.fault : Content → DatabaseFault
  | .text s => if (Text.utf8Bytes s).length ≤ 1 then .noTables else .notADatabase
  | .bytes b => if b.length ≤ 1 then .noTables else .notADatabase
  | _ => .notADatabase

namespace DatabaseStore

/-- The sender of this store's messages. -/
def sender : String := "labeler.store.sa"

/-- The tables of the database. -/
def tables (s : DatabaseStore) : Action Tables := do
  match s.place with
  | .memory _ t => return t
  | .bare => throw (.database .noTables)
  | .file _ number _ =>
    match (← get).files.contentOf? number with
    | some (.tables t) => return t
    | some c => throw (.database c.fault)
    | none => throw (.database .noTables)

/-- The database may be written. -/
def writes (s : DatabaseStore) : Bool :=
  match s.place with
  | .file _ _ writes => writes
  | _ => true

/-- The file of the database, if it has one, is still in its place. -/
def inPlace (s : DatabaseStore) (files : Files) : Bool :=
  match s.place with
  | .file l number _ => files.numberAt? l = some number
  | _ => true

/-- Refuses to write a database that may not be written, or whose file is gone from its place. -/
def checkWritable (s : DatabaseStore) : Action Unit := do
  if !s.writes || !s.inPlace (← get).files then throw (.database .readOnly)

/-- The database with other tables. -/
def setTables (s : DatabaseStore) (t : Tables) : Action DatabaseStore := do
  match s.place with
  | .memory separate _ => return { s with place := .memory separate t }
  | .bare => return s
  | .file l _ _ =>
    Action.changeFiles fun files => files.write l (.tables t)
    return s

/-- The rules. -/
def rules (s : DatabaseStore) : Action (List Rule) := do
  match RuleRow.toRules ((← s.tables).rules.mergeSort RuleRow.isBefore) with
  | .ok rules => return rules
  | .error e => throw (.store (.invalidRule "labeling_rules" e))

/-- Changes the tables in one transaction: where the change fails, it is as if it had not begun. -/
def transact (s : DatabaseStore) (change : Tables → Except Failure Tables) : Action DatabaseStore := do
  let t ← s.tables
  s.checkWritable
  match change t with
  | .error e => throw e
  | .ok t => s.setTables t

/-- Replaces the rules. -/
def saveRules (s : DatabaseStore) (rules : List Rule) : Action DatabaseStore := do
  let s ← s.transact (Tables.replaceRules s.maxDepth rules)
  Action.log .debug sender s!"saved {rules.length} rules"
  return s

/-- The records. -/
def records (s : DatabaseStore) : Action (List Record) := do
  Action.ofChecked (RecordRow.toRecords (← s.tables).records)

/-- Adds a record. -/
def append (s : DatabaseStore) (r : Record) : Action DatabaseStore := do
  match Json.refusal? (.column s.maxDepth) (.object r.payload) with
  | some r => throw (.unstorable r)
  | none => pure ()
  match Text.encodeError? r.id with
  | some e => throw (.notEncodable e)
  | none => pure ()
  let t ← s.tables
  if s.writes && t.records.any (·.id = r.id) then throw (.duplicateKey "processed_records.id")
  s.checkWritable
  s.setTables { t with records := t.records ++ [RecordRow.ofRecord r] }

/-! ## Opening -/

/-- The most bytes of the name of a file. -/
def maxNameBytes : Nat := 480

/-- Refuses to open the database with an address. -/
def refuse {α : Type} (url : String) (reason : SchemaFault) : Action α :=
  throw (.store (.noSchema (DatabaseUrl.redact url) reason))

/-- The file of a database, which is made if it is missing and may be. -/
def fileContent (url : String) (l : Location) (creates : Bool) : Action Content := do
  let cannotOpen : Action Content := refuse url (.connect (.driver "unable to open database file"))
  if maxNameBytes < Files.nameBytes l.text then cannotOpen
  else
    let files := (← get).files
    match files.content l, files.write l (.text "") with
    | .ok c, _ => return c
    | .error ⟨.notFound, _⟩, .ok made =>
      if creates then
        modify fun w => { w with files := made }
        return .text ""
      else cannotOpen
    | .error _, _ => cannotOpen

/-- Opens the database in a file, and makes its tables where they are missing. -/
def openFile (url : String) (maxDepth : Option Nat) (l : Location) (access : DatabaseUrl.Access) :
    Action DatabaseStore := do
  let c ← fileContent url l access.creates
  let number := ((← get).files.numberAt? l).getD 0
  let s : DatabaseStore := ⟨url, .file l number access.writes, maxDepth⟩
  match c with
  | .tables _ => return s
  | c =>
    match c.fault with
    | .noTables => if access.writes then s.setTables .empty else refuse url (.database .readOnly)
    | f => refuse url (.database f)

/-- Makes the folder of the file that an address names. -/
def makeFolder (url : String) : Action Unit :=
  match DatabaseUrl.fileOfText? url with
  | some l => Action.tryFiles fun files => files.makeFolder l.parent
  | none => pure ()

/-- Connects to the database with an address. -/
def connect (url : String) (maxDepth : Option Nat) : Action DatabaseStore :=
  match DatabaseUrl.engineOfText url with
  | .error r => throw (.unusableUrl r)
  | .ok engine =>
    match engine.destination with
    | .error f => refuse url (.connect f)
    | .ok (.memory separate) => pure ⟨url, .memory separate .empty, maxDepth⟩
    | .ok (.file l access) => openFile url maxDepth l access

/-- Opens the database with an address, which is made if it is missing. -/
def openTables (url : String) (maxDepth : Option Nat) : Action DatabaseStore := do
  makeFolder url
  connect url maxDepth

/-- Opens the database with an address. One without rules gets the default rules if it is to be
seeded. -/
def openAt (url : String) (maxDepth : Option Nat) (seed : Bool) : Action DatabaseStore := do
  let s ← openTables url maxDepth
  if seed && (← s.tables).rules.isEmpty then
    let s ← s.saveRules (Rule.defaults (← Action.now))
    Action.log .info sender s!"seeded default rules into {DatabaseUrl.redact url}"
    return s
  return s

/-- The database as another thread sees it. -/
def elsewhere (s : DatabaseStore) : DatabaseStore :=
  match s.place with
  | .memory true _ => { s with place := .bare }
  | _ => s

end DatabaseStore

end RuleLabels
