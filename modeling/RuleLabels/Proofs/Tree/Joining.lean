import Mathlib.Tactic.Common
import RuleLabels.Proofs.Text.Joining
import RuleLabels.Proofs.Text.Whole
import RuleLabels.Proofs.Tree.Writing

/-!
# Trees in columns

A column joins the halves of characters in what it is given.  The written form of a well-formed tree stays
one: its own words hold no halves, and its keys stay more than blanks.

* `isWellFormed_joined`: a well-formed tree is well-formed with its halves joined;
* `joinedHalves_toValue`: its written form is what a column makes of that of the tree.
-/

namespace RuleLabels.Tree

open Text

/-! ## Joining by recursion -/

mutual

/-- A tree in whose keys and values the halves of characters are joined. -/
def joined : Tree → Tree
  | leaf c => leaf ⟨joinedHalves c.key, c.operator, Json.joinedHalves c.value⟩
  | group operator children => group operator (joinedEach children)

/-- Trees joined one by one. -/
def joinedEach : List Tree → List Tree
  | [] => []
  | t :: rest => t.joined :: joinedEach rest

end

theorem isGroup_joined (t : Tree) : t.joined.isGroup = t.isGroup := by
  cases t with
  | leaf c => rfl
  | group operator children => rfl

mutual

theorem isWellFormed_joined : ∀ {t : Tree}, t.isWellFormed = true → t.joined.isWellFormed = true
  | leaf ⟨key, operator, value⟩, h => by
    cases value with
    | text s =>
      rw [joined, isWellFormed, allBlank_joinedHalves]
      exact h
    | _ =>
      rw [isWellFormed, Bool.and_false] at h
      cases h
  | group operator children, h => by
    rw [isWellFormed, Bool.and_eq_true, Bool.and_eq_true] at h
    obtain ⟨⟨hknown, hne⟩, hall⟩ := h
    have hne' : (joinedEach children).isEmpty = children.isEmpty := by cases children <;> rfl
    rw [joined, isWellFormed, hknown, hne', hne, allWellFormed_joinedEach hall]
    rfl

theorem allWellFormed_joinedEach : ∀ {ts : List Tree}, allWellFormed ts = true →
    allWellFormed (joinedEach ts) = true
  | [], _ => rfl
  | t :: rest, h => by
    rw [allWellFormed, Bool.and_eq_true] at h
    rw [joinedEach, allWellFormed, isWellFormed_joined h.1, allWellFormed_joinedEach h.2]
    rfl

end

/-! ## Written forms -/

/-- The operators of conditions and groups hold no halves. -/
theorem joinedHalves_operator {operator : String}
    (h : (Comparison.operators.map Prod.fst).contains operator = true ∨
      (Junction.operators.map Prod.fst).contains operator = true) : joinedHalves operator = operator := by
  have hcomparisons : (Comparison.operators.map Prod.fst).all isWhole = true := by decide
  have hjunctions : (Junction.operators.map Prod.fst).all isWhole = true := by decide
  refine joinedHalves_of_isWhole ?_
  rcases h with h | h
  · exact List.all_eq_true.1 hcomparisons operator (List.contains_iff_mem.1 h)
  · exact List.all_eq_true.1 hjunctions operator (List.contains_iff_mem.1 h)

/-- The names of the fields of nodes and the names of their types hold no halves. -/
theorem joinedHalves_names : ["type", "condition", "key", "operator", "value", "group", "conditions"].map
    joinedHalves = ["type", "condition", "key", "operator", "value", "group", "conditions"] := by
  decide

mutual

theorem joinedHalves_written : ∀ {t : Tree}, t.isWellFormed = true →
    Json.joinedHalves t.written = t.joined.written
  | leaf ⟨key, operator, value⟩, h => by
    rw [isWellFormed, Bool.and_eq_true, Bool.and_eq_true] at h
    have hnames := joinedHalves_names
    simp only [List.map_cons, List.cons.injEq] at hnames
    obtain ⟨htype, hcondition, hkey, hoperator, hvalue, -⟩ := hnames
    simp only [written, Condition.toValue, Json.joinedHalves, Json.joinedFields, joined, htype, hcondition,
      hkey, hoperator, hvalue, joinedHalves_operator (.inl h.1.2)]
  | group operator children, h => by
    rw [isWellFormed, Bool.and_eq_true, Bool.and_eq_true] at h
    have hnames := joinedHalves_names
    simp only [List.map_cons, List.cons.injEq] at hnames
    obtain ⟨htype, -, -, hoperator, -, hgroup, hconditions, -⟩ := hnames
    simp only [written, groupValue, Json.joinedHalves, Json.joinedFields, joined, htype, hoperator, hgroup,
      hconditions, joinedHalves_operator (.inr h.1.1), joinedItems_writtenEach h.2]

theorem joinedItems_writtenEach : ∀ {ts : List Tree}, allWellFormed ts = true →
    Json.joinedItems (writtenEach ts) = writtenEach (joinedEach ts)
  | [], _ => rfl
  | t :: rest, h => by
    rw [allWellFormed, Bool.and_eq_true] at h
    rw [writtenEach, Json.joinedItems, joinedHalves_written h.1, joinedItems_writtenEach h.2, joinedEach,
      writtenEach]

end

/-- What a column makes of the written form of a well-formed tree is the written form of the tree with its
halves joined. -/
theorem joinedHalves_toValue {t : Tree} (h : t.isWellFormed = true) :
    Json.joinedHalves t.toValue = t.joined.toValue := by
  rw [toValue_eq_written, toValue_eq_written, joinedHalves_written h]

/-- A tree is as it was with its halves joined, if its written form is. -/
theorem joined_eq_self {t : Tree} (hw : t.isWellFormed = true) (hg : t.isGroup = true)
    (h : Json.joinedHalves t.toValue = t.toValue) : t.joined = t := by
  -- Two trees with one written form are one tree, since either is read back from it.
  have hread := readConditions_toValue (isWellFormed_joined hw) ((isGroup_joined t).trans hg) .document
  rw [← joinedHalves_toValue hw, h, readConditions_toValue hw hg] at hread
  exact (Except.ok.inj hread).symm

end RuleLabels.Tree
