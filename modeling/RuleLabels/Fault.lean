import RuleLabels.Condition
import RuleLabels.Path
import RuleLabels.Value.Shown

/-!
# Faults in documents

What can be wrong with a document of rules, a record or a payload, where it is wrong, and how that is
worded.
-/

namespace RuleLabels

/-! ## Junctions -/

/-- The ways in which a group joins its members. -/
inductive Junction where
  | all
  | any
  deriving DecidableEq

namespace Junction

/-- The operators of groups, in the order in which messages list them. -/
def operators : List (String × Junction) := [("AND", all), ("OR", any)]

/-- The junction that an operator names. -/
def ofOperator? (operator : String) : Option Junction := operators.lookup operator

/-- A member with this outcome decides its group. -/
def settles : Junction → Bool → Bool
  | all, b => !b
  | any, b => b

/-- The outcome of a group that none of its members decides. -/
def unsettled : Junction → Bool
  | all => true
  | any => false

end Junction

/-! ## Faults -/

/-- What is wrong with a value. -/
inductive Fault where
  | missing
  | blankText
  | notAnObject (kind : String)
  | unknownNodeType (v : Value)
  | undecidedNodeType
  | unknownComparison (v : Value)
  | unknownJunction (v : Value)
  | notAScalar
  | notAnArray (kind : String)
  | emptyGroup
  | boolForInteger
  | notAnInteger (v : Value)
  | notABoolean (kind : String)
  | badTimestamp (s : String)
  | notATimestamp (kind : String)
  | notAListOfRules (kind : String)
  | duplicateId (id : String)
  | notLabels
  | notAPayload (kind : String)
  | longInteger
  | noFields (kind : String)
  | notAPair (number length : Nat)

namespace Fault

/-- The wording of a fault. -/
def text : Fault → String
  | missing => "missing required field"
  | blankText => "expected non-empty string"
  | notAnObject kind => s!"expected object, got {kind}"
  | unknownNodeType v => s!"expected 'condition' or 'group', got {v.shown}"
  | undecidedNodeType => "cannot tell condition from group: missing 'key' or 'conditions'"
  | unknownComparison v =>
    "expected one of " ++ Value.shownTexts (Comparison.operators.map Prod.fst) ++ ", got " ++ v.shown
  | unknownJunction v =>
    "expected one of " ++ Value.shownTexts (Junction.operators.map Prod.fst) ++ ", got " ++ v.shown
  | notAScalar => "expected scalar value"
  | notAnArray kind => s!"expected array, got {kind}"
  | emptyGroup => "group needs at least one condition"
  | boolForInteger => "expected integer, got bool"
  | notAnInteger v => s!"expected integer, got {v.shown}"
  | notABoolean kind => s!"expected boolean, got {kind}"
  | badTimestamp s => "invalid ISO timestamp " ++ Text.quoted s
  | notATimestamp kind => s!"expected ISO timestamp, got {kind}"
  | notAListOfRules kind => s!"expected array of rules, got {kind}"
  | duplicateId id => "duplicate rule id " ++ Text.quoted id
  | notLabels => "expected array of strings"
  | notAPayload kind => s!"expected JSON object, got {kind}"
  | longInteger => Value.longIntegerText
  | noFields kind => s!"'{kind}' object is not iterable"
  | notAPair number length =>
    s!"dictionary update sequence element #{number} has length {length}; 2 is required"

end Fault

/-- A fault and its place. -/
structure Invalid where
  path : Path
  fault : Fault

/-- A fault at a place that is named from the value at `path`. -/
def Invalid.within (path : Path) (e : Invalid) : Invalid := { e with path := path.append e.path }

/-- The outcome of reading a part of a document. -/
abbrev Checked := Except Invalid

/-- Refuses the value at a place. -/
def refuse {α : Type} (path : Path) (fault : Fault) : Checked α := .error ⟨path, fault⟩

/-- Refuses the value at a place for a fault whose wording shows it, or because it cannot be shown. -/
def refuseShown {α : Type} (path : Path) (fault : Value → Fault) (v : Value) : Checked α :=
  refuse path (if v.hasText then fault v else .longInteger)

namespace Fields

/-- The value of a field that has to be there. -/
def require (fields : Fields) (key : String) (path : Path) : Checked Value :=
  match fields.present? key with
  | some v => .ok v
  | none => refuse (path.field key) .missing

end Fields

namespace Value

/-- The fields of a value that has to be an object. -/
def fields (v : Value) (path : Path) : Checked Fields :=
  match v.fields? with
  | some fields => .ok fields
  | none => refuse path (.notAnObject v.kind)

/-- A text that has to hold more than blanks. -/
def nonBlank (v : Value) (path : Path) : Checked String :=
  match v with
  | text s => if Text.allBlank s then refuse path .blankText else .ok s
  | _ => refuse path .blankText

end Value

/-- The text of a field that has to be there and to hold more than blanks. -/
def Fields.requireText (fields : Fields) (key : String) (path : Path) : Checked String := do
  (← fields.require key path).nonBlank (path.field key)

end RuleLabels
