import RuleLabels.Time.Iso
import RuleLabels.Tree.Evaluate
import RuleLabels.Tree.Read
import RuleLabels.Tree.Write
import RuleLabels.Number.Reading

/-!
# Rules

A rule gives its label to the payloads for which its conditions hold. The module holds the written form
of rules and how documents of rules are read; what a document leaves out gets a default.
-/

namespace RuleLabels

/-- A named condition tree with a label. Rules with higher priority come first. -/
structure Rule where
  id : String
  name : String
  label : String
  conditions : Tree
  priority : Int
  enabled : Bool
  createdAt : Timestamp
  updatedAt : Timestamp
  deriving Inhabited

/-! ## Writing -/

namespace Rule

/-- The written form of a rule. -/
def toValue (r : Rule) : Value :=
  .object [("id", .text r.id), ("name", .text r.name), ("conditions", r.conditions.toValue),
    ("label", .text r.label), ("priority", .int r.priority), ("enabled", .bool r.enabled),
    ("createdAt", .text r.createdAt.text), ("updatedAt", .text r.updatedAt.text)]

end Rule

/-! ## Parts of rules -/

namespace Value

/-- Reads a priority: an integer, a float without a fraction, or the text of an integer. -/
def readPriority (v : Value) (path : Path) : Checked Int :=
  match v with
  | bool _ => refuse path .boolForInteger
  | int i => .ok i
  | float x =>
    match x.toInt? with
    | some i => .ok i
    | none => refuse path (.notAnInteger v)
  | text s =>
    match readInteger (Text.trim s) with
    | .ok i => .ok i
    | .error _ => refuse path (.notAnInteger v)
  | v => refuseShown path .notAnInteger v

/-- Reads a switch. -/
def readEnabled (v : Value) (path : Path) : Checked Bool :=
  match v with
  | bool b => .ok b
  | v => refuse path (.notABoolean v.kind)

/-- Reads a timestamp; one without a distance from universal time is universal time. -/
def readTimestamp (v : Value) (path : Path) : Checked Timestamp :=
  match v with
  | moment m => .ok m.toTimestamp
  | text s =>
    if Text.allBlank s then refuse path (.notATimestamp v.kind)
    else
      match Iso.moment? s with
      | some m => .ok m.toTimestamp
      | none => refuse path (.badTimestamp s)
  | v => refuse path (.notATimestamp v.kind)

/-- Reads an identifier: a text or another value, not a switch and no collection, whose text is more than
blanks. -/
def readId (v : Value) (path : Path) : Checked String :=
  match v with
  | bool _ => refuse path .blankText
  | v =>
    if v.items?.isSome || v.fields?.isSome then refuse path .blankText
    else if !v.hasText then refuse path .longInteger
    else if Text.allBlank v.asText then refuse path .blankText
    else .ok v.asText

end Value

namespace Fields

/-- The timestamp under the first of some names that is present. -/
def timestamp? (fields : Fields) (names : List String) (path : Path) : Checked (Option Timestamp) :=
  match fields.firstPresent? names with
  | some (name, v) => (v.readTimestamp (path.field name)).map some
  | none => .ok none

end Fields

/-! ## Documents of rules -/

namespace Rule

/-- Reads a rule. Without a time of creation it is created `now`, and without a time of its last change
it has not changed since it was created. -/
def read (now : Timestamp) (v : Value) (path : Path) : Checked Rule := do
  let fields ← v.fields path
  let id ← (← fields.require "id" path).readId (path.field "id")
  let name ← fields.requireText "name" path
  let label ← fields.requireText "label" path
  let conditions ←
    Tree.readConditions (← fields.require "conditions" path) (path.field "conditions")
  let priority ← ((fields.get? "priority").getD (.int 1)).readPriority (path.field "priority")
  let enabled ← ((fields.get? "enabled").getD (.bool true)).readEnabled (path.field "enabled")
  let created ← fields.timestamp? ["createdAt", "created_at"] path
  let updated ← fields.timestamp? ["updatedAt", "updated_at"] path
  let createdAt := created.getD now
  return { id, name, label, conditions, priority, enabled, createdAt,
           updatedAt := updated.getD createdAt }

/-- Reads the rules from number `i` on, each by itself. -/
def readEach (now : Timestamp) (path : Path) : Nat → List Value → Checked (List Rule)
  | _, [] => .ok []
  | i, v :: rest =>
    match read now v (path.index i) with
    | .error e => .error e
    | .ok r => (readEach now path (i + 1) rest).map (r :: ·)

/-- Refuses the first rule, from number `i` on, with an identifier that was seen before. -/
def checkDistinct (path : Path) : Nat → List String → List Rule → Checked Unit
  | _, _, [] => .ok ()
  | i, seen, r :: rest =>
    if seen.contains r.id then refuse ((path.index i).field "id") (.duplicateId r.id)
    else checkDistinct path (i + 1) (r.id :: seen) rest

/-- Reads a document of rules: an array, or an object with one under `rules`. -/
def readAll (now : Timestamp) (v : Value) (path : Path) : Checked (List Rule) := do
  let (v, path) :=
    match v.fields?.bind fun fields => Fields.get? fields "rules" with
    | some v => (v, path.field "rules")
    | none => (v, path)
  match v.items? with
  | some items =>
    let rules ← readEach now path 0 items
    checkDistinct path 0 [] rules
    return rules
  | none => refuse path (.notAListOfRules v.kind)

/-! ## Evaluation -/

/-- Why it cannot be told whether the conditions of a rule hold: an integer is too large for a comparison
or too long for a text, arrays are nested too deeply for one, a lone condition stands where a group has to,
or what is asked for a field has none. -/
inductive EvaluationFault where
  | numberTooLarge
  | longInteger
  | nestedTooDeeply
  | loneCondition
  | noFields (kind : String)
  deriving DecidableEq

/-- The fault of a comparison. -/
def EvaluationFault.ofComparison : Value.ComparisonFault → EvaluationFault
  | .tooLarge => numberTooLarge
  | .tooLong => longInteger
  | .tooDeep => nestedTooDeeply

/-- The conditions of a rule, which have to be a group, hold for a payload. -/
def holds (levels : Nat) (payload : Fields) (r : Rule) : Except EvaluationFault Bool :=
  match r.conditions with
  | .leaf _ => .error .loneCondition
  | t => (t.evaluate levels payload).mapError .ofComparison

/-- A rule applies to a payload: it is enabled and its conditions hold. -/
def applies (levels : Nat) (payload : Fields) (r : Rule) : Except EvaluationFault Bool :=
  if r.enabled then r.holds levels payload else .ok false

end Rule

end RuleLabels
