import RuleLabels.Value

/-!
# Tables

The contents of a database: a row for each rule, with its position in the list of rules, and a row for each
record, in the order in which they were added. Timestamps are kept as texts, and trees, payloads and labels
as documents.
-/

namespace RuleLabels

/-- The row of a rule. -/
structure RuleRow where
  id : String
  position : Nat
  name : String
  label : String
  priority : Int
  enabled : Bool
  conditions : Value
  createdAt : String
  updatedAt : String

/-- The row of a record. -/
structure RecordRow where
  id : String
  payload : Fields
  labels : List String
  createdAt : String

/-- The tables of a database. -/
structure Tables where
  rules : List RuleRow
  records : List RecordRow

/-- Tables without rows. -/
def Tables.empty : Tables := ⟨[], []⟩

instance : Inhabited Tables := ⟨.empty⟩

end RuleLabels
