import RuleLabels.Text.Case
import RuleLabels.Value.Rendered

/-!
# Conditions

A condition compares one field of a payload with a value. Equality is that of the rendered texts, in
any letter case; order is that of the numbers at their fronts, and fails where either has none.
-/

namespace RuleLabels

/-- A comparison of a field of a payload with a value. The operator may be any text; those that name
no comparison never hold. -/
structure Condition where
  key : String
  operator : String
  value : Value
  deriving Inhabited

/-! ## Comparisons -/

/-- The comparisons that a condition can make. -/
inductive Comparison where
  | equal
  | notEqual
  | less
  | greater
  | atMost
  | atLeast
  deriving DecidableEq

namespace Comparison

/-- The operators, in the order in which messages list them. -/
def operators : List (String × Comparison) :=
  [("=", equal), ("!=", notEqual), ("<", less), (">", greater), ("<=", atMost), (">=", atLeast)]

/-- The comparison that an operator names. -/
def ofOperator? (operator : String) : Option Comparison := operators.lookup operator

/-- An order between numbers is one that the comparison asks for. -/
def admits : Comparison → Ordering → Bool
  | equal, o => o = .eq
  | notEqual, o => o ≠ .eq
  | less, o => o = .lt
  | greater, o => o = .gt
  | atMost, o => o ≠ .gt
  | atLeast, o => o ≠ .lt

end Comparison

/-! ## Evaluation -/

namespace Value

/-- Two values have the same text in any letter case. -/
def sameText (levels : Nat) (v w : Value) : Except ComparisonFault Bool := do
  let s ← v.render levels
  let t ← w.render levels
  return Text.lower s = Text.lower t

/-- The numbers of two values stand in an order that the comparison asks for. -/
def inOrder (levels : Nat) (c : Comparison) (v w : Value) : Except ComparisonFault Bool := do
  let x ← v.number? levels
  let y ← w.number? levels
  match x, y with
  | some x, some y => return ((x.compare? y).map c.admits).getD false
  | _, _ => return false

/-- A comparison holds between two values. -/
def compares (levels : Nat) (c : Comparison) (v w : Value) : Except ComparisonFault Bool :=
  match c with
  | .equal => v.sameText levels w
  | .notEqual => (v.sameText levels w).map (!·)
  | c => v.inOrder levels c w

end Value

/-- A condition holds for a payload. It fails where the payload lacks the field. -/
def Condition.holds (levels : Nat) (payload : Fields) (c : Condition) : Except Value.ComparisonFault Bool :=
  match payload.get? c.key with
  | none => .ok false
  | some actual =>
    match Comparison.ofOperator? c.operator with
    | none => .ok false
    | some comparison => actual.compares levels comparison c.value

end RuleLabels
