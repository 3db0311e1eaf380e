/-!
# Paths into documents

Where in a document a value stands: a name for the document, and the steps from its root to the value.
Paths share their beginnings, so the path of a child costs one step however deep its parent is. A path
without a name starts at a value that is known from elsewhere.
-/

namespace RuleLabels

/-- A step from a value into one that it holds. -/
inductive Step where
  | field (name : String)
  | index (i : Nat)
  deriving DecidableEq

/-- The text of a step. -/
def Step.text : Step → String
  | field name => "." ++ name
  | index i => s!"[{i}]"

/-- A place in a document: the name of the document and the steps to the place, the last one first. -/
structure Path where
  root : String
  steps : List Step
  deriving DecidableEq

namespace Path

/-- The root of the document with a name. -/
def ofRoot (root : String) : Path := ⟨root, []⟩

/-- The root of the document at hand. -/
def document : Path := ofRoot "$"

/-- The value at hand, wherever it stands. -/
def here : Path := ofRoot ""

/-- The place of a field. -/
def field (p : Path) (name : String) : Path := { p with steps := .field name :: p.steps }

/-- The place of an item. -/
def index (p : Path) (i : Nat) : Path := { p with steps := .index i :: p.steps }

/-- The place that the steps of `q` lead to from `p`. -/
def append (p q : Path) : Path := { p with steps := q.steps ++ p.steps }

/-- The text of a path. -/
def text (p : Path) : String := p.root ++ String.join (p.steps.reverse.map Step.text)

end Path

end RuleLabels
