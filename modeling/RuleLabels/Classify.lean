import RuleLabels.Record

/-!
# Classification

The labels of a payload: those of the enabled rules whose conditions hold for it, the rules of higher
priority first and rules of one priority in their given order.
-/

namespace RuleLabels

namespace Rule

/-- The enabled rules by falling priority; rules of one priority keep their order. -/
def ordered (rules : List Rule) : List Rule :=
  (rules.filter (·.enabled)).mergeSort fun r s => s.priority ≤ r.priority

/-- The rules of a list whose conditions hold. -/
def holding (levels : Nat) (payload : Fields) : List Rule → Except EvaluationFault (List Rule)
  | [] => .ok []
  | r :: rest =>
    match r.holds levels payload with
    | .error e => .error e
    | .ok b => (holding levels payload rest).map fun rs => if b then r :: rs else rs

/-- The rules that apply to a payload, in the order of their labels. -/
def matching (levels : Nat) (payload : Fields) (rules : List Rule) : Except EvaluationFault (List Rule) :=
  holding levels payload (ordered rules)

/-- The labels of a payload. -/
def labels (levels : Nat) (payload : Fields) (rules : List Rule) : Except EvaluationFault (List String) :=
  (matching levels payload rules).map fun rs => rs.map (·.label)

end Rule

end RuleLabels
