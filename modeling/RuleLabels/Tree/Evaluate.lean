import RuleLabels.Tree

/-!
# Evaluation with a stack

The same outcome as `Tree.holdsBy`, found by a loop over the open groups. Trees may be nested to any
depth, so their nesting is kept as data.
-/

namespace RuleLabels.Tree

/-- A group under evaluation, with the children that have not been looked at. -/
structure Frame where
  operator : String
  pending : List Tree

/-- The work left in the open groups. -/
def workLeft : List Frame → Nat
  | [] => 0
  | f :: below => 1 + weights f.pending + workLeft below

/-- Runs the open groups, the innermost first, to the outcome of the outermost, where `ask` tells whether
a condition holds. `last` is the outcome of the child that just ended. -/
def run {ε : Type} (ask : Condition → Except ε Bool) : List Frame → Option Bool → Except ε Bool
  | [], last => .ok (last.getD false)
  | ⟨operator, pending⟩ :: below, last =>
    match Junction.ofOperator? operator with
    | none => run ask below (some false)
    | some j =>
      if last.any j.settles then run ask below last
      else
        match pending with
        | [] => run ask below (some j.unsettled)
        | leaf c :: rest =>
          match ask c with
          | .error e => .error e
          | .ok b => run ask (⟨operator, rest⟩ :: below) (some b)
        | group inner children :: rest =>
          run ask (⟨inner, children⟩ :: ⟨operator, rest⟩ :: below) none
termination_by stack => workLeft stack
decreasing_by all_goals simp [workLeft, weights, weight] <;> omega

/-- A tree holds, by a loop, where `ask` tells whether a condition does. -/
def evaluateBy {ε : Type} (ask : Condition → Except ε Bool) : Tree → Except ε Bool
  | leaf c => ask c
  | group operator children => run ask [⟨operator, children⟩] none

/-- A tree holds for a payload, by a loop. -/
def evaluate (levels : Nat) (payload : Fields) : Tree → Except Value.ComparisonFault Bool :=
  evaluateBy (·.holds levels payload)

end RuleLabels.Tree
