import RuleLabels.Json.Read
import RuleLabels.Record
import RuleLabels.World
import RuleLabels.Yaml.Read

/-!
# Files of rules

Rules may come from JSON and from YAML files, as an array or under the key `rules`. Rules that are
written without an identifier get one.
-/

namespace RuleLabels

namespace Rule

/-- The identifier of a rule that a new identifier makes. -/
def idOf (id : String) : String := "rule-" ++ String.ofList (id.toList.take 12)

/-- A new identifier for a rule. -/
def freshId : Action String := do return idOf (← Action.freshId)

/-! ## Documents -/

/-- Refuses a file of rules. -/
def unusable {α : Type} (l : Location) (cause : RulesFileFault) : Action α :=
  throw (.unusableRules l.text cause)

/-- The document in a JSON text. -/
def jsonDocument (l : Location) (text : String) : Action Value :=
  match Json.read text with
  | .ok v => return v
  | .error (.tooDeep c) => throw (.ofJson text (.tooDeep c))
  | .error e => unusable l (.notJson (e.text text))

/-- The document in a YAML text. -/
def yamlDocument (l : Location) (text : String) : Action Value :=
  match Yaml.read text with
  | .ok v => return v
  | .error (.misfit m) => throw (.unreadableYaml m)
  | .error e => unusable l (.notYaml e)

/-- The document in a file of rules: JSON where the name of the file says so, and YAML otherwise. -/
def readDocument (l : Location) : Action Value := do
  match (← get).files.content l with
  | .error e => unusable l (.file e)
  | .ok c =>
    match c.decoded with
    | .error e => unusable l (.notUtf8 e)
    | .ok text =>
      if Text.lower l.suffix = ".json" then jsonDocument l text else yamlDocument l text

/-! ## Rules -/

/-- The written rules of a document. -/
def itemsOf? (v : Value) : Option (List Value) :=
  match v.fields? with
  | some fields => (Fields.get? fields "rules").bind Value.items?
  | none => v.items?

/-- An object with a text as its identifier. -/
def withId (id : String) : Value → Value
  | .object fields => .object (Fields.set fields "id" (.text id))
  | .mapping entries => .mapping (Value.putEntry (.text "id") (.text id) entries)
  | .looped _ v => withId id v
  | v => v

/-- A written rule with an identifier of its own where it lacks one. -/
def identified (v : Value) : Action Value := do
  match v.fields? with
  | some fields =>
    if ((Fields.get? fields "id").getD .null).isHollow then return withId (← freshId) v else return v
  | none => return v

/-- Written rules with identifiers. -/
def identifiedEach : List Value → Action (List Value)
  | [] => pure []
  | v :: rest => do
    let v ← identified v
    return v :: (← identifiedEach rest)

/-- The rules in a file. -/
def load (l : Location) : Action (List Rule) := do
  match itemsOf? (← readDocument l) with
  | none => unusable l .noRules
  | some items =>
    let items ← identifiedEach items
    Action.ofChecked (readAll (← Action.now) (.array items) .document)

end Rule

end RuleLabels
