import Mathlib.Tactic.Common
import RuleLabels.Classify
import RuleLabels.Management
import RuleLabels.Proofs.Rule.Edit
import RuleLabels.Proofs.Store.Rows

/-!
# Plain rules and records of services

What services make of whole texts, of JSON and of priorities of 64 bits is plain: new and changed rules,
records, and the identifiers that are given to them.
-/

namespace RuleLabels

open Text Value

/-! ## Identifiers -/

theorem isWhole_next (ids : IdSource) : isWhole ids.next = true := by
  refine isWhole_of_ascii fun c hc => ?_
  rw [IdSource.next, String.toList_ofList, List.mem_append, List.mem_append] at hc
  rcases hc with (hc | hc) | hc
  · exact toNat_lt_of_mem_padded (by decide) hc
  · exact toNat_lt_of_mem_padded (by decide) hc
  · rw [List.eq_of_mem_replicate hc]
    decide

theorem isWhole_idOf {id : String} (h : isWhole id = true) : isWhole (Rule.idOf id) = true := by
  refine isWhole_append (by decide) ?_
  rw [isWhole, String.toList_ofList, List.all_eq_true]
  intro c hc
  exact List.all_eq_true.1 h c (List.mem_of_mem_take hc)

/-! ## Rules -/

/-- The texts of a new rule are whole, and its priority has no more than 64 bits. -/
structure Draft.IsPlain (d : Draft) : Prop where
  name : isWhole d.name = true
  label : isWhole d.label = true
  conditions : d.conditions.toValue.isJson = true
  priority : IsWide d.priority

theorem Draft.isPlain_toRule {d : Draft} (h : d.IsPlain) {id : String} (hid : isWhole id = true)
    (now : Timestamp) : (d.toRule id now).IsPlain :=
  ⟨hid, h.name, h.label, h.conditions, h.priority⟩

/-- The texts that change are whole, and a changed priority has no more than 64 bits. -/
structure Change.IsPlain (c : Change) : Prop where
  name : ∀ s, c.name = some s → isWhole s = true
  label : ∀ s, c.label = some s → isWhole s = true
  conditions : ∀ t, c.conditions = some t → t.toValue.isJson = true
  priority : ∀ i, c.priority = some i → IsWide i

/-- A change without texts, conditions and a priority is plain. -/
theorem Change.isPlain_of_none (enabled : Option Bool) : Change.IsPlain ⟨none, none, none, enabled, none⟩ :=
  ⟨fun _ h => (nomatch h), fun _ h => (nomatch h), fun _ h => (nomatch h), fun _ h => (nomatch h)⟩

theorem Change.isPlain_switch (enabled : Bool) : (Change.switch enabled).IsPlain :=
  isPlain_of_none (some enabled)

/-- A change of the switch alone has no texts and no priority. -/
theorem Change.isPlain_of_readEnabled {v : Value} {c : Change}
    (h : Change.read [("enabled", v)] = .ok c) : c.IsPlain := by
  simp only [Change.read, except_bind_eq_ok] at h
  obtain ⟨name, hname, label, hlabel, priority, hpriority, enabled, -, conditions, hconditions, hc⟩ := h
  cases hname
  cases hlabel
  cases hpriority
  cases hconditions
  cases hc
  exact isPlain_of_none enabled

theorem Change.isPlain_apply {c : Change} (h : c.IsPlain) {r : Rule} (hr : r.IsPlain) (now : Timestamp) :
    (c.apply now r).IsPlain where
  id := hr.id
  name := getD_of_forall h.name hr.name
  label := getD_of_forall h.label hr.label
  conditions := getD_of_forall h.conditions hr.conditions
  priority := getD_of_forall h.priority hr.priority

/-! ## Records -/

theorem Value.fieldsAreJson_of_readPayload {v : Value} (h : v.isJson = true) {payload : Fields}
    (hp : v.readPayload = .ok payload) : fieldsAreJson payload = true := by
  rw [readPayload] at hp
  cases v with
  | object fields =>
    cases hp
    exact h
  | mapping _ | looped _ _ => cases h
  | _ => cases hp

theorem Rule.mem_holding {levels : Nat} {payload : Fields} {rules held : List Rule} {r : Rule}
    (h : holding levels payload rules = .ok held) (hr : r ∈ held) : r ∈ rules := by
  induction rules generalizing held with
  | nil =>
    cases h
    exact hr
  | cons s rest ih =>
    rw [holding] at h
    split at h
    · exact nomatch h
    · obtain ⟨kept, hrest, hheld⟩ := except_map_eq_ok.1 h
      subst hheld
      split at hr
      · rcases List.mem_cons.1 hr with rfl | hr
        · exact List.mem_cons_self
        · exact List.mem_cons_of_mem s (ih hrest hr)
      · exact List.mem_cons_of_mem s (ih hrest hr)

/-- The labels of a payload are labels of rules. -/
theorem Rule.exists_of_mem_labels {levels : Nat} {payload : Fields} {rules : List Rule} {labels : List String}
    {label : String} (h : Rule.labels levels payload rules = .ok labels) (hl : label ∈ labels) :
    ∃ r ∈ rules, r.label = label := by
  obtain ⟨held, hheld, hlabels⟩ := except_map_eq_ok.1 h
  subst hlabels
  obtain ⟨r, hr, rfl⟩ := List.mem_map.1 hl
  have hordered := mem_holding hheld hr
  rw [ordered, List.mem_mergeSort] at hordered
  exact ⟨r, (List.mem_filter.1 hordered).1, rfl⟩

end RuleLabels
