import RuleLabels.Files
import RuleLabels.Json.Read

/-!
# Files as bytes

How the contents of files are kept: texts and documents in UTF-8, and the tables of a database as a
document with a list of rows for each of them.
-/

namespace RuleLabels

/-! ## Rows -/

/-- The row of a rule as a document. -/
def RuleRow.toValue (row : RuleRow) : Value :=
  .object [("id", .text row.id), ("position", .int row.position), ("name", .text row.name),
    ("label", .text row.label), ("priority", .int row.priority), ("enabled", .bool row.enabled),
    ("conditions", row.conditions), ("createdAt", .text row.createdAt), ("updatedAt", .text row.updatedAt)]

/-- The row that a document stands for. -/
def RuleRow.ofValue? : Value → Option RuleRow
  | .object [("id", .text id), ("position", .int (.ofNat position)), ("name", .text name),
      ("label", .text label), ("priority", .int priority), ("enabled", .bool enabled),
      ("conditions", conditions), ("createdAt", .text createdAt), ("updatedAt", .text updatedAt)] =>
    some { id, position, name, label, priority, enabled, conditions, createdAt, updatedAt }
  | _ => none

/-- The row of a record as a document. -/
def RecordRow.toValue (row : RecordRow) : Value :=
  .object [("id", .text row.id), ("payload", .object row.payload),
    ("labels", .ofTexts row.labels), ("createdAt", .text row.createdAt)]

/-- The text that a value is. -/
def Value.text? : Value → Option String
  | .text s => some s
  | _ => none

/-- The row that a document stands for. -/
def RecordRow.ofValue? : Value → Option RecordRow
  | .object [("id", .text id), ("payload", .object payload), ("labels", .array labels),
      ("createdAt", .text createdAt)] => do
    return { id, payload, labels := ← labels.mapM Value.text?, createdAt }
  | _ => none

/-! ## Tables -/

namespace Tables

/-- Tables as a document. -/
def toValue (t : Tables) : Value :=
  .object [("rules", .array (t.rules.map RuleRow.toValue)),
    ("records", .array (t.records.map RecordRow.toValue))]

/-- The tables that a document stands for. -/
def ofValue? : Value → Option Tables
  | .object [("rules", .array rules), ("records", .array records)] => do
    return ⟨← rules.mapM RuleRow.ofValue?, ← records.mapM RecordRow.ofValue?⟩
  | _ => none

/-- The tables that bytes stand for. -/
def ofBytes? (b : List UInt8) : Option Tables :=
  match Text.decodeUtf8 b with
  | .error _ => none
  | .ok s =>
    match Json.read s with
    | .error _ => none
    | .ok v => ofValue? v

end Tables

/-! ## Contents -/

/-- The bytes that keep a content. -/
def Content.kept : Content → List UInt8
  | text s => Text.utf8Bytes s
  | bytes b => b
  | document v => Text.utf8Bytes (Json.indented v)
  | tables t => Text.utf8Bytes (Json.indented t.toValue)

/-- The bytes that keep a file; a folder has none. -/
def Entry.kept? : Entry → Option (List UInt8)
  | folder => none
  | file _ c => some c.kept

/-- The text of the path to an entry. -/
def FileKey.text : FileKey → String
  | [] => "."
  | first :: rest =>
    if first = "/" ∨ first = "//" then first ++ "/".intercalate rest else "/".intercalate (first :: rest)

/-- The entries that are new, or kept as other bytes than before. -/
def Files.changesSince (before after : Files) : List (FileKey × Entry) :=
  after.entries.filter fun (key, e) => (before.entries.lookup key).map Entry.kept? ≠ some e.kept?

end RuleLabels
