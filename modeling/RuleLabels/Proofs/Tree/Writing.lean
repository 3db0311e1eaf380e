import Mathlib.Data.List.Basic
import Mathlib.Tactic.Common
import RuleLabels.Proofs.Tree.Filling
import RuleLabels.Proofs.Tree.Spelling

/-!
# Written trees

* `spells_toValue`: the written form of a well-formed tree spells the tree;
* `readConditions_toValue`: the conditions of a rule are read back from their written form.
-/

namespace RuleLabels.Tree

theorem isNull_toValue (t : Tree) : t.toValue.isNull = false := by
  rw [toValue_eq_written]
  cases t with
  | leaf c => rfl
  | group operator children => rfl

/-! ## Reading back -/

theorem isCondition_toValue {c : Condition} (h : (leaf c).isWellFormed = true) :
    IsCondition [("type", .text "condition"), ("key", .text c.key), ("operator", .text c.operator),
      ("value", c.value)] c := by
  rw [isWellFormed, Bool.and_eq_true, Bool.and_eq_true, Bool.not_eq_true'] at h
  obtain ⟨⟨hkey, hknown⟩, hvalue⟩ := h
  cases hv : c.value with
  | text s =>
    refine ⟨.inl rfl, rfl, hkey, rfl, List.contains_iff_mem.1 hknown, .text s, rfl, ?_, hv⟩
    exact ⟨rfl, rfl, rfl, rfl⟩
  | _ =>
    rw [hv] at hvalue
    exact nomatch hvalue

theorem isGroup_groupValue {operator : String} (h : operator ∈ Junction.operators.map Prod.fst)
    {members : List Value} (hm : members ≠ []) :
    IsGroup [("type", .text "group"), ("operator", .text operator), ("conditions", .array members)]
      operator members := by
  have hupper : operator.toList.map Char.toUpper = operator.toList := by
    simp only [Junction.operators, List.map_cons, List.map_nil, List.mem_cons, List.not_mem_nil,
      or_false] at h
    rcases h with rfl | rfl
    · decide
    · decide
  exact ⟨.inl rfl, ⟨operator, rfl, hupper⟩, h, ⟨_, rfl, .inl rfl⟩, hm⟩

mutual

theorem spells_written : ∀ {t : Tree}, t.isWellFormed = true → Spells t.written t
  | leaf _, h => .condition rfl (isCondition_toValue h)
  | group operator children, h => by
    rw [isWellFormed, Bool.and_eq_true, Bool.and_eq_true, Bool.not_eq_true', List.contains_iff_mem,
      List.isEmpty_eq_false_iff] at h
    obtain ⟨⟨hknown, hne⟩, hall⟩ := h
    have hmembers : writtenEach children ≠ [] := by
      rw [← List.length_pos_iff, length_writtenEach, List.length_pos_iff]
      exact hne
    exact .group rfl (isGroup_groupValue hknown hmembers) (spellsEach_written hall)

theorem spellsEach_written : ∀ {ts : List Tree}, allWellFormed ts = true → SpellsEach (writtenEach ts) ts
  | [], _ => .nil
  | t :: rest, h => by
    rw [allWellFormed, Bool.and_eq_true] at h
    exact .cons (spells_written h.1) (spellsEach_written h.2)

end

/-- The written form of a well-formed tree spells it. -/
theorem spells_toValue {t : Tree} (h : t.isWellFormed = true) : Spells t.toValue t := by
  rw [toValue_eq_written]
  exact spells_written h

/-! ## The conditions of rules -/

/-- The tree is a group. -/
def isGroup : Tree → Bool
  | leaf _ => false
  | group _ _ => true

theorem isGroup_rooted (t : Tree) : t.rooted.isGroup = true := by
  cases t with
  | leaf c => rfl
  | group operator children => rfl

theorem isWellFormed_rooted {t : Tree} (h : t.isWellFormed = true) : t.rooted.isWellFormed = true := by
  cases t with
  | leaf c => rw [rooted, isWellFormed, allWellFormed, h]; rfl
  | group operator children => exact h

theorem rooted_of_isGroup {t : Tree} (h : t.isGroup = true) : t.rooted = t := by
  cases t with
  | leaf c => exact nomatch h
  | group operator children => rfl

/-- The conditions of a rule are a well-formed group. -/
theorem isWellFormed_of_readConditions {v : Value} {path : Path} {t : Tree}
    (h : readConditions v path = .ok t) : t.isWellFormed = true ∧ t.isGroup = true := by
  obtain ⟨t', ht, rfl⟩ := except_map_eq_ok.1 h
  rw [read_eq_ok_iff] at ht
  exact ⟨isWellFormed_rooted ht.isWellFormed, isGroup_rooted t'⟩

/-- A well-formed group is read back from its written form, wherever it stands. -/
theorem readConditions_toValue {t : Tree} (hw : t.isWellFormed = true) (hg : t.isGroup = true)
    (path : Path) : readConditions t.toValue path = .ok t := by
  refine except_map_eq_ok.2 ⟨t, ?_, rooted_of_isGroup hg⟩
  rw [read_eq_ok_iff]
  exact spells_toValue hw

end RuleLabels.Tree
