import RuleLabels.Rule
import RuleLabels.Text.Cut

/-!
# Payloads of any kind

A payload is meant to be an object. What is none has no fields: conditions that ask a text or an array for
a name it does not hold are false, and to ask for more is a fault.
-/

namespace RuleLabels

/-- A value holds a name: a text has it inside, or an array has it as an item. -/
def Value.holdsName? (name : String) : Value → Option Bool
  | text s => some (Text.isInside name.toList s.toList)
  | v =>
    v.items?.map fun items => items.any fun
      | text s => s = name
      | _ => false

/-- A condition holds for a payload of any kind. -/
def Condition.holdsFor (levels : Nat) (payload : Value) (c : Condition) : Except Rule.EvaluationFault Bool :=
  match payload.fields? with
  | some fields => (c.holds levels fields).mapError .ofComparison
  | none =>
    match payload.holdsName? c.key with
    | some false => .ok false
    | _ => .error (.noFields payload.kind)

/-- A tree holds for a payload of any kind, by a loop. -/
def Tree.evaluateFor (levels : Nat) (payload : Value) : Tree → Except Rule.EvaluationFault Bool :=
  evaluateBy (·.holdsFor levels payload)

/-- A rule applies to a payload of any kind: it is enabled and its conditions, which have to be a group,
hold. -/
def Rule.appliesFor (levels : Nat) (payload : Value) (r : Rule) : Except EvaluationFault Bool :=
  if r.enabled then
    match r.conditions with
    | .leaf _ => .error .loneCondition
    | t => t.evaluateFor levels payload
  else .ok false

end RuleLabels
