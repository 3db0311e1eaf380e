import RuleLabels.Condition
import RuleLabels.Fault

/-!
# Condition trees

Conditions joined by groups, and what it means that a tree holds for a payload: the members of a group
are looked at from the left, and the first that decides the group ends the search.
-/

namespace RuleLabels

/-- A condition, or a group of trees. The operator of a group may be any text; a group whose operator
names no junction never holds. -/
inductive Tree where
  | leaf (c : Condition)
  | group (operator : String) (children : List Tree)
  deriving Inhabited

namespace Tree

/-! ## Size -/

mutual

/-- The work that a tree stands for: one for a condition, two for a group besides its children. -/
def weight : Tree → Nat
  | leaf _ => 1
  | group _ children => 2 + weights children

/-- The work that a list of trees stands for. -/
def weights : List Tree → Nat
  | [] => 0
  | t :: rest => t.weight + weights rest

end

/-! ## Meaning -/

mutual

/-- A tree holds, where `ask` tells whether a condition does. -/
def holdsBy {ε : Type} (ask : Condition → Except ε Bool) : Tree → Except ε Bool
  | leaf c => ask c
  | group operator children =>
    match Junction.ofOperator? operator with
    | none => .ok false
    | some j => joinedBy ask j children

/-- The outcome of a group whose members up to here have not decided it. -/
def joinedBy {ε : Type} (ask : Condition → Except ε Bool) (j : Junction) : List Tree → Except ε Bool
  | [] => .ok j.unsettled
  | t :: rest =>
    match holdsBy ask t with
    | .error e => .error e
    | .ok b => if j.settles b then .ok b else joinedBy ask j rest

end

/-- A tree holds for a payload. -/
def holds (levels : Nat) (payload : Fields) : Tree → Except Value.ComparisonFault Bool :=
  holdsBy (·.holds levels payload)

end Tree

end RuleLabels
