import Mathlib.Data.List.Nodup
import Mathlib.Tactic.Common
import RuleLabels.Proofs.Rule.RoundTrip
import RuleLabels.Rule.Edit

/-!
# Edits keep lists of rules in order

A list of rules is orderly if its rules are valid and no two of them have one identifier.  What documents
hold is orderly, and no edit of an orderly list makes one that is not.

* `Rule.areOrderly_of_readAll`: the rules of a document are orderly;
* `Rule.AreOrderly.append`, `.editFirst`, `.withoutId` and `.merge`: so are edited rules;
* `Draft.isValid_toRule` and `Change.isValid_apply`: a new rule and a changed rule are valid.
-/

namespace RuleLabels

/-! ## Fields -/

theorem Value.not_allBlank_of_nonBlank {v : Value} {path : Path} {s : String}
    (h : v.nonBlank path = .ok s) : Text.allBlank s = false := by
  rw [Value.nonBlank.eq_def] at h
  split at h
  · split at h
    · exact absurd h refuse_ne_ok
    · rename_i hb
      cases h
      simpa using hb
  · exact absurd h refuse_ne_ok

/-- What is read from an optional field was read from its value. -/
theorem Fields.exists_of_optional {α : Type} {fields : Fields} {key : String}
    {read : Value → Path → Checked α} {a : α} (h : fields.optional key read = .ok (some a)) :
    ∃ v path, read v path = .ok a := by
  rw [optional] at h
  split at h
  · obtain ⟨_, hread, heq⟩ := except_map_eq_ok.1 h
    cases heq
    exact ⟨_, _, hread⟩
  · exact nomatch h

/-! ## New rules and changes -/

/-- A new rule with an identifier is valid. -/
theorem Draft.isValid_toRule {fields : Fields} {d : Draft} (h : Draft.read fields = .ok d) {id : String}
    (hid : Text.allBlank id = false) (now : Timestamp) : (d.toRule id now).IsValid := by
  simp only [Draft.read, except_bind_eq_ok] at h
  obtain ⟨name, hname, label, hlabel, t, ht, _, -, _, -, hd⟩ := h
  obtain ⟨hw, hg⟩ := Tree.isWellFormed_of_readConditions ht
  cases hd
  exact ⟨hid, Value.not_allBlank_of_nonBlank hname, Value.not_allBlank_of_nonBlank hlabel, hw, hg⟩

/-- What holds of a part of a rule, and of what is set in its place, holds of the part after that. -/
theorem getD_of_forall {α : Type} {p : α → Prop} {given : Option α} {a : α}
    (h : ∀ b, given = some b → p b) (ha : p a) : p (given.getD a) := by
  cases given with
  | none => exact ha
  | some b => exact h b rfl

/-- The parts that a change sets are those of valid rules. -/
structure Change.IsValid (c : Change) : Prop where
  name : ∀ s, c.name = some s → Text.allBlank s = false
  label : ∀ s, c.label = some s → Text.allBlank s = false
  conditions : ∀ t, c.conditions = some t → t.isWellFormed = true ∧ t.isGroup = true

namespace Change

/-- What fields change is valid. -/
theorem isValid_of_read {fields : Fields} {c : Change} (h : read fields = .ok c) : c.IsValid := by
  simp only [read, except_bind_eq_ok] at h
  obtain ⟨name, hname, label, hlabel, _, -, _, -, conditions, hconditions, hc⟩ := h
  cases hc
  constructor
  · rintro s rfl
    obtain ⟨_, _, hread⟩ := Fields.exists_of_optional hname
    exact Value.not_allBlank_of_nonBlank hread
  · rintro s rfl
    obtain ⟨_, _, hread⟩ := Fields.exists_of_optional hlabel
    exact Value.not_allBlank_of_nonBlank hread
  · rintro t rfl
    obtain ⟨_, _, hread⟩ := Fields.exists_of_optional hconditions
    exact Tree.isWellFormed_of_readConditions hread

theorem isValid_switch (enabled : Bool) : (switch enabled).IsValid :=
  ⟨fun _ h => (nomatch h), fun _ h => (nomatch h), fun _ h => (nomatch h)⟩

/-- A group of conditions is one after a valid change. -/
theorem IsValid.isGroup_apply {c : Change} (h : c.IsValid) {r : Rule}
    (hr : r.conditions.isWellFormed = true ∧ r.conditions.isGroup = true) (now : Timestamp) :
    (c.apply now r).conditions.isWellFormed = true ∧ (c.apply now r).conditions.isGroup = true :=
  getD_of_forall (p := fun t : Tree => t.isWellFormed = true ∧ t.isGroup = true) h.conditions hr

/-- A valid rule is valid after a valid change. -/
theorem IsValid.isValid_apply {c : Change} (h : c.IsValid) {r : Rule} (hr : r.IsValid) (now : Timestamp) :
    (c.apply now r).IsValid where
  id := hr.id
  name := getD_of_forall h.name hr.name
  label := getD_of_forall h.label hr.label
  wellFormed := (h.isGroup_apply ⟨hr.wellFormed, hr.isGroup⟩ now).1
  isGroup := (h.isGroup_apply ⟨hr.wellFormed, hr.isGroup⟩ now).2

/-- A valid rule is valid after a change. -/
theorem isValid_apply {fields : Fields} {c : Change} (h : read fields = .ok c) {r : Rule} (hr : r.IsValid)
    (now : Timestamp) : (c.apply now r).IsValid := (isValid_of_read h).isValid_apply hr now

end Change

/-! ## Keys -/

/-- Something with a new key may be put behind things with different keys. -/
theorem nodup_append_key {α : Type} {key : α → String} {as : List α} {a : α} (h : (as.map key).Nodup)
    (ha : key a ∉ as.map key) : ((as ++ [a]).map key).Nodup := by
  rw [List.map_append, List.map_singleton, List.nodup_append]
  refine ⟨h, List.nodup_singleton _, ?_⟩
  rintro id hid _ hmem rfl
  rw [List.mem_singleton] at hmem
  exact ha (hmem ▸ hid)

namespace Rule

/-! ## Editing -/

theorem map_id_editFirst {id : String} {f : Rule → Rule} (hf : ∀ r, r.id = id → (f r).id = id)
    (rules : List Rule) : (editFirst id f rules).map Rule.id = rules.map Rule.id := by
  induction rules with
  | nil => rfl
  | cons r rest ih =>
    rw [editFirst]
    split
    · rename_i hr
      rw [List.map_cons, List.map_cons, hf r hr, hr]
    · rw [List.map_cons, List.map_cons, ih]

theorem mem_editFirst {id : String} {f : Rule → Rule} {rules : List Rule} {s : Rule}
    (h : s ∈ editFirst id f rules) : s ∈ rules ∨ ∃ r ∈ rules, s = f r := by
  induction rules with
  | nil => exact nomatch h
  | cons r rest ih =>
    rw [editFirst] at h
    split at h
    · rcases List.mem_cons.1 h with rfl | h
      · exact .inr ⟨r, List.mem_cons_self, rfl⟩
      · exact .inl (List.mem_cons_of_mem r h)
    · rcases List.mem_cons.1 h with rfl | h
      · exact .inl List.mem_cons_self
      · rcases ih h with h | ⟨r', hr', rfl⟩
        · exact .inl (List.mem_cons_of_mem r h)
        · exact .inr ⟨r', List.mem_cons_of_mem r hr', rfl⟩

theorem mem_mergeOne {now : Timestamp} {rules : List Rule} {r s : Rule} (h : s ∈ mergeOne now rules r) :
    s ∈ rules ∨ s = r ∨ s = { r with updatedAt := now } := by
  rw [mergeOne] at h
  split at h
  · rw [List.mem_reverse] at h
    rcases mem_editFirst h with h | ⟨_, -, rfl⟩
    · exact .inl (List.mem_reverse.1 h)
    · exact .inr (.inr rfl)
  · rcases List.mem_append.1 h with h | h
    · exact .inl h
    · exact .inr (.inl (List.mem_singleton.1 h))

/-- What holds of rules and of those that are merged into them, at any time, holds of the outcome. -/
theorem forall_mem_merge {p : Rule → Prop} {now : Timestamp} {rules incoming : List Rule}
    (h : ∀ r ∈ rules, p r) (hin : ∀ r ∈ incoming, p r) (hnow : ∀ r, p r → p { r with updatedAt := now }) :
    ∀ r ∈ merge now rules incoming, p r := by
  induction incoming generalizing rules with
  | nil => exact h
  | cons r rest ih =>
    refine ih ?_ fun s hs => hin s (List.mem_cons_of_mem r hs)
    have hr : p r := hin r List.mem_cons_self
    intro s hs
    rcases mem_mergeOne hs with hs | rfl | rfl
    · exact h s hs
    · exact hr
    · exact hnow r hr

theorem isSome_withId?_iff {id : String} {rules : List Rule} :
    (withId? id rules).isSome = true ↔ id ∈ rules.map Rule.id := by
  rw [withId?, List.find?_isSome, List.mem_map]
  refine exists_congr fun r => and_congr_right fun _ => ?_
  rw [decide_eq_true_eq]

/-! ## Order -/

/-- Valid rules with different identifiers. -/
structure AreOrderly (rules : List Rule) : Prop where
  valid : ∀ r ∈ rules, r.IsValid
  distinct : (rules.map Rule.id).Nodup

/-- Merging a rule adds its identifier if it is new. -/
theorem map_id_mergeOne (now : Timestamp) (rules : List Rule) (r : Rule) :
    (mergeOne now rules r).map Rule.id =
      if (withId? r.id rules).isSome then rules.map Rule.id else rules.map Rule.id ++ [r.id] := by
  rw [mergeOne]
  split
  · have hids : (editFirst r.id (fun _ => { r with updatedAt := now }) rules.reverse).map Rule.id =
        rules.reverse.map Rule.id := by
      refine map_id_editFirst ?_ _
      intro _ _
      rfl
    rw [List.map_reverse, hids, List.map_reverse, List.reverse_reverse]
  · rw [List.map_append, List.map_singleton]

theorem nodup_mergeOne {now : Timestamp} {rules : List Rule} (h : (rules.map Rule.id).Nodup) (r : Rule) :
    ((mergeOne now rules r).map Rule.id).Nodup := by
  rw [map_id_mergeOne]
  split
  · exact h
  · rename_i hnew
    have hadded := nodup_append_key h fun hmem => hnew (isSome_withId?_iff.2 hmem)
    rwa [List.map_append, List.map_singleton] at hadded

/-- The identifiers of rules are still there when others are merged into them. -/
theorem mem_map_id_merge {id : String} {now : Timestamp} {rules incoming : List Rule}
    (h : id ∈ rules.map Rule.id) : id ∈ (merge now rules incoming).map Rule.id := by
  induction incoming generalizing rules with
  | nil => exact h
  | cons r rest ih =>
    refine ih ?_
    rw [map_id_mergeOne]
    split
    · exact h
    · exact List.mem_append_left _ h

namespace AreOrderly

variable {rules : List Rule}

theorem append (h : AreOrderly rules) {r : Rule} (hr : r.IsValid) (hid : r.id ∉ rules.map Rule.id) :
    AreOrderly (rules ++ [r]) := by
  refine ⟨?_, nodup_append_key h.distinct hid⟩
  intro s hs
  rcases List.mem_append.1 hs with hs | hs
  · exact h.valid s hs
  · rw [List.mem_singleton.1 hs]
    exact hr

theorem editFirst (h : AreOrderly rules) {id : String} {f : Rule → Rule}
    (hf : ∀ r, r.id = id → (f r).id = id) (hvalid : ∀ r, r.IsValid → (f r).IsValid) :
    AreOrderly (editFirst id f rules) := by
  constructor
  · intro s hs
    rcases mem_editFirst hs with hs | ⟨r, hr, rfl⟩
    · exact h.valid s hs
    · exact hvalid r (h.valid r hr)
  · rw [map_id_editFirst hf]
    exact h.distinct

theorem withoutId (h : AreOrderly rules) (id : String) : AreOrderly (withoutId id rules) :=
  ⟨fun r hr => h.valid r (List.mem_filter.1 hr).1, (List.filter_sublist.map _).nodup h.distinct⟩

theorem merge (h : AreOrderly rules) {incoming : List Rule} (hin : ∀ r ∈ incoming, r.IsValid)
    (now : Timestamp) : AreOrderly (merge now rules incoming) := by
  constructor
  · exact forall_mem_merge h.valid hin fun r hr => ⟨hr.id, hr.name, hr.label, hr.wellFormed, hr.isGroup⟩
  · have hdistinct := h.distinct
    clear h hin
    induction incoming generalizing rules with
    | nil => exact hdistinct
    | cons r rest ih => exact ih (nodup_mergeOne hdistinct r)

end AreOrderly

/-! ## Documents -/

/-- Rules of which none is refused for its identifier have different ones. -/
theorem nodup_of_checkDistinct {path : Path} {i : Nat} {seen : List String} {rules : List Rule}
    (h : checkDistinct path i seen rules = .ok ()) :
    (rules.map Rule.id).Nodup ∧ ∀ r ∈ rules, r.id ∉ seen := by
  induction rules generalizing i seen with
  | nil => exact ⟨.nil, fun _ hr => nomatch hr⟩
  | cons r rest ih =>
    rw [checkDistinct] at h
    split at h
    · exact absurd h refuse_ne_ok
    · rename_i hnew
      rw [List.contains_iff_mem] at hnew
      obtain ⟨hrest, hseen⟩ := ih h
      refine ⟨List.nodup_cons.2 ⟨?_, hrest⟩, ?_⟩
      · intro hmem
        obtain ⟨s, hs, hid⟩ := List.mem_map.1 hmem
        exact hseen s hs (hid ▸ List.mem_cons_self)
      · intro s hs
        rcases List.mem_cons.1 hs with rfl | hs
        · exact hnew
        · exact fun hmem => hseen s hs (List.mem_cons_of_mem _ hmem)

/-- The rules of a document are orderly. -/
theorem areOrderly_of_readAll {now : Timestamp} {v : Value} {path : Path} {rules : List Rule}
    (h : readAll now v path = .ok rules) : AreOrderly rules := by
  rw [readAll] at h
  dsimp only at h
  split at h
  · obtain ⟨_, hread, h⟩ := except_bind_eq_ok.1 h
    obtain ⟨_, hdistinct, h⟩ := except_bind_eq_ok.1 h
    cases h
    exact ⟨isValid_of_readEach hread, (nodup_of_checkDistinct hdistinct).1⟩
  · exact absurd h refuse_ne_ok

end Rule

end RuleLabels
