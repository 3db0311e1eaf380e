import RuleLabels.Rule

/-!
# Edits of rules

What it takes to make a rule and what may be changed of one, and the edits of a list of rules: finding,
changing, removing and merging rules by their identifiers.
-/

namespace RuleLabels

namespace Fields

/-- An optional field, read if it is neither absent nor null. -/
def optional {α : Type} (fields : Fields) (key : String) (read : Value → Path → Checked α) :
    Checked (Option α) :=
  match fields.present? key with
  | some v => (read v (Path.document.field key)).map some
  | none => .ok none

/-- Refuses fields of which one is absent, null or the empty text. -/
def checkGiven (fields : Fields) : List String → Checked Unit
  | [] => .ok ()
  | key :: rest =>
    match fields.present? key with
    | none | some (.text "") => refuse (Path.document.field key) .missing
    | some _ => checkGiven fields rest

end Fields

/-! ## New rules -/

/-- What a new rule consists of, besides its identifier and its times. -/
structure Draft where
  name : String
  label : String
  conditions : Tree
  priority : Int
  enabled : Bool

namespace Draft

/-- The fields that a new rule has to give. -/
def required : List String := ["name", "conditions", "label"]

/-- Reads the fields of a new rule, of which the required ones are given. -/
def read (fields : Fields) : Checked Draft := do
  let given (key : String) : Value := (fields.get? key).getD .null
  let name ← (given "name").nonBlank (Path.document.field "name")
  let label ← (given "label").nonBlank (Path.document.field "label")
  let conditions ← Tree.readConditions (given "conditions") (Path.document.field "conditions")
  let priority ← fields.optional "priority" Value.readPriority
  let enabled ← fields.optional "enabled" Value.readEnabled
  return ⟨name, label, conditions, priority.getD 1, enabled.getD true⟩

/-- The rule with an identifier, made now. -/
def toRule (d : Draft) (id : String) (now : Timestamp) : Rule :=
  { id, name := d.name, label := d.label, conditions := d.conditions, priority := d.priority,
    enabled := d.enabled, createdAt := now, updatedAt := now }

end Draft

/-! ## Changes -/

/-- The parts of a rule that are to change. -/
structure Change where
  name : Option String
  label : Option String
  priority : Option Int
  enabled : Option Bool
  conditions : Option Tree

namespace Change

/-- Reads the fields of a change. -/
def read (fields : Fields) : Checked Change := do
  let name ← fields.optional "name" Value.nonBlank
  let label ← fields.optional "label" Value.nonBlank
  let priority ← fields.optional "priority" Value.readPriority
  let enabled ← fields.optional "enabled" Value.readEnabled
  let conditions ← fields.optional "conditions" Tree.readConditions
  return ⟨name, label, priority, enabled, conditions⟩

/-- A change of the switch alone. -/
def switch (enabled : Bool) : Change := ⟨none, none, none, some enabled, none⟩

/-- The names of the parts that change, sorted. -/
def names (c : Change) : List String :=
  [("conditions", c.conditions.isSome), ("enabled", c.enabled.isSome), ("label", c.label.isSome),
    ("name", c.name.isSome), ("priority", c.priority.isSome)].filterMap fun (name, given) =>
      if given then some name else none

/-- A rule after a change at a time. -/
def apply (c : Change) (now : Timestamp) (r : Rule) : Rule :=
  { r with
    name := c.name.getD r.name
    label := c.label.getD r.label
    conditions := c.conditions.getD r.conditions
    priority := c.priority.getD r.priority
    enabled := c.enabled.getD r.enabled
    updatedAt := now }

end Change

/-! ## Lists of rules -/

namespace Rule

/-- The first rule with an identifier. -/
def withId? (id : String) (rules : List Rule) : Option Rule := rules.find? fun r => r.id = id

/-- Applies a function to the first rule with an identifier. -/
def editFirst (id : String) (f : Rule → Rule) : List Rule → List Rule
  | [] => []
  | r :: rest => if r.id = id then f r :: rest else r :: editFirst id f rest

/-- The rules with other identifiers. -/
def withoutId (id : String) (rules : List Rule) : List Rule := rules.filter fun r => r.id ≠ id

/-- Puts a rule in the place of the last one with its identifier, with `now` as the time of its change,
or else at the end. -/
def mergeOne (now : Timestamp) (rules : List Rule) (r : Rule) : List Rule :=
  if (withId? r.id rules).isSome then
    (editFirst r.id (fun _ => { r with updatedAt := now }) rules.reverse).reverse
  else rules ++ [r]

/-- Puts rules in the places of those with their identifiers, and the others at the end. -/
def merge (now : Timestamp) (rules incoming : List Rule) : List Rule :=
  incoming.foldl (mergeOne now) rules

end Rule

end RuleLabels
