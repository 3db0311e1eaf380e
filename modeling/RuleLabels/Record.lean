import RuleLabels.Rule

/-!
# Records

A record keeps a payload that was processed, the labels that it got and when it got them.
-/

namespace RuleLabels

/-- A processed payload. -/
structure Record where
  id : String
  payload : Fields
  labels : List String
  createdAt : Timestamp
  deriving Inhabited

namespace Value

/-- Null, false, zero, and whatever is empty. -/
def isHollow : Value → Bool
  | null => true
  | bool b => !b
  | int i => i = 0
  | float x => x.units? = some 0
  | text s => s.isEmpty
  | array items => items.isEmpty
  | object fields => fields.isEmpty
  | moment _ => false
  | date _ => false
  | bytes b => b.isEmpty
  | tuple items => items.isEmpty
  | set items => items.isEmpty
  | mapping entries => entries.isEmpty
  | looped _ v => v.isHollow

/-- Reads a payload. -/
def readPayload (v : Value) : Checked Fields :=
  match v.fields? with
  | some fields => .ok fields
  | none => refuse .document (.notAPayload v.kind)

/-- The texts that make up an array of texts. -/
def texts? : List Value → Option (List String)
  | [] => some []
  | text s :: rest => (texts? rest).map (s :: ·)
  | _ :: _ => none

/-- Reads the labels of a record; what is hollow stands for none. -/
def readLabels (v : Value) (path : Path) : Checked (List String) :=
  if v.isHollow then .ok []
  else
    match v.items?.bind texts? with
    | some labels => .ok labels
    | none => refuse path .notLabels

end Value

namespace Record

/-- The written form of a record. -/
def toValue (r : Record) : Value :=
  .object [("id", .text r.id), ("payload", .object r.payload),
    ("labels", .ofTexts r.labels), ("createdAt", .text r.createdAt.text)]

/-- Reads a record. -/
def read (v : Value) (path : Path) : Checked Record := do
  let fields ← v.fields path
  let id ← fields.require "id" path
  let payload ← (← fields.require "payload" path).fields (path.field "payload")
  let labels ← ((fields.get? "labels").getD .null).readLabels (path.field "labels")
  match fields.firstPresent? ["createdAt", "created_at", "timestamp"] with
  | none => refuse (path.field "createdAt") .missing
  | some (name, time) =>
    if !id.hasText then refuse path .longInteger
    else return ⟨id.asText, payload, labels, ← time.readTimestamp (path.field name)⟩

/-- Reads the records from number `i` on. -/
def readEach (path : Path) : Nat → List Value → Checked (List Record)
  | _, [] => .ok []
  | i, v :: rest =>
    match read v (path.index i) with
    | .error e => .error e
    | .ok r => (readEach path (i + 1) rest).map (r :: ·)

end Record

end RuleLabels
