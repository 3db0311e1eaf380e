import RuleLabels.Rule

/-!
# Default rules

The rules that a new store may begin with.
-/

namespace RuleLabels.Rule

/-- A condition whose value is a text. -/
def comparing (key operator value : String) : Tree := .leaf ⟨key, operator, .text value⟩

/-- The rules of a new store. -/
def defaults (now : Timestamp) : List Rule := [
  { id := "rule-1", name := "High Value Companies", label := "Green", priority := 3, enabled := true,
    conditions := .group "OR" [
      comparing "CompanyName" "=" "Google",
      .group "AND" [comparing "CompanyName" "=" "Amazon", comparing "Price" "<" "2.5"]],
    createdAt := now, updatedAt := now },
  { id := "rule-2", name := "Standard Price Products", label := "Orange", priority := 2, enabled := true,
    conditions := .group "AND" [comparing "Price" "=" "2"],
    createdAt := now, updatedAt := now },
  { id := "rule-3", name := "Low MOQ Budget Products", label := "Green", priority := 1, enabled := true,
    conditions := .group "AND" [comparing "MOQ" "<" "100", comparing "Price" "<" "1.5"],
    createdAt := now, updatedAt := now }]

end RuleLabels.Rule
