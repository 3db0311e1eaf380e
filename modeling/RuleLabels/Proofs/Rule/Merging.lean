import Mathlib.Data.List.Nodup
import Mathlib.Tactic.Common
import RuleLabels.Proofs.Rule.Edit
import RuleLabels.Proofs.Text.Distinct

/-!
# Merging rules

Rules are merged into others one after another, each into what the ones before it have left.  Where neither
list repeats an identifier, the outcome is told at once: an incoming rule stands in the place of the one with
its identifier, with the time of the merge as that of its change, and the new ones follow in their order.

* `mergeOne_of_mem` and `mergeOne_of_not_mem`: what merging one rule does;
* `merge_eq`: what merging a list of rules does;
* `map_id_merge`: the identifiers that merged rules have;
* `merge_self`: rules that are merged into themselves.
-/

namespace RuleLabels.Rule

variable {now : Timestamp} {rules incoming : List Rule}

/-- A rule that was changed at a time. -/
def changedAt (now : Timestamp) (r : Rule) : Rule := { r with updatedAt := now }

/-! ## Replacements -/

/-- What merging makes of a rule that is there: the incoming one with its identifier, changed now, or else the
rule itself. -/
def replacedFrom (now : Timestamp) (incoming : List Rule) (r : Rule) : Rule :=
  match withId? r.id incoming with
  | some s => s.changedAt now
  | none => r

theorem id_of_withId? {id : String} {r : Rule} (h : withId? id rules = some r) : r.id = id := by
  have hfound := List.find?_some h
  rwa [decide_eq_true_eq] at hfound

theorem withId?_eq_none_iff {id : String} : withId? id rules = none ↔ id ∉ rules.map Rule.id := by
  rw [← isSome_withId?_iff, Bool.not_eq_true, Option.isSome_eq_false_iff, Option.isNone_iff_eq_none]

theorem withId?_eq_some_of_mem (h : (rules.map Rule.id).Nodup) {r : Rule} (hr : r ∈ rules) :
    withId? r.id rules = some r := by
  obtain ⟨s, hs⟩ := Option.isSome_iff_exists.1 (isSome_withId?_iff.2 (List.mem_map_of_mem hr))
  have hsame : s = r := List.inj_on_of_nodup_map h (List.mem_of_find?_eq_some hs) hr (id_of_withId? hs)
  rw [hs, hsame]

theorem id_replacedFrom (now : Timestamp) (incoming : List Rule) (r : Rule) :
    (replacedFrom now incoming r).id = r.id := by
  rw [replacedFrom]
  split
  · rename_i s hs
    have hid : s.id = r.id := id_of_withId? hs
    exact hid
  · rfl

theorem map_id_map_replacedFrom (now : Timestamp) (incoming rules : List Rule) :
    (rules.map (replacedFrom now incoming)).map Rule.id = rules.map Rule.id := by
  rw [List.map_map]
  exact List.map_congr_left fun r _ => id_replacedFrom now incoming r

theorem replacedFrom_of_not_mem {r : Rule} (h : r.id ∉ incoming.map Rule.id) :
    replacedFrom now incoming r = r := by
  rw [replacedFrom, withId?_eq_none_iff.2 h]

/-- Nothing takes the places of rules if all that comes in is new. -/
theorem map_replacedFrom_of_not_mem (h : ∀ r ∈ rules, r.id ∉ incoming.map Rule.id) :
    rules.map (replacedFrom now incoming) = rules := by
  refine (List.map_congr_left fun r hr => ?_).trans (List.map_id rules)
  exact replacedFrom_of_not_mem (h r hr)

theorem replacedFrom_singleton (now : Timestamp) (r s : Rule) :
    replacedFrom now [r] s = if s.id = r.id then r.changedAt now else s := by
  rw [replacedFrom, withId?, List.find?_cons, List.find?_nil]
  by_cases h : s.id = r.id
  · rw [if_pos h, decide_eq_true h.symm]
  · rw [if_neg h, decide_eq_false (Ne.symm h)]

/-- A rule takes a place first, and the ones behind it leave it there. -/
theorem replacedFrom_cons {r : Rule} (h : r.id ∉ incoming.map Rule.id) (s : Rule) :
    replacedFrom now incoming (replacedFrom now [r] s) = replacedFrom now (r :: incoming) s := by
  rw [replacedFrom_singleton]
  by_cases hid : s.id = r.id
  · have hfound : withId? s.id (r :: incoming) = some r := List.find?_cons_of_pos (decide_eq_true hid.symm)
    have hkept : replacedFrom now incoming (r.changedAt now) = r.changedAt now := replacedFrom_of_not_mem h
    rw [if_pos hid, hkept]
    simp only [replacedFrom, hfound]
  · have hpassed : withId? s.id (r :: incoming) = withId? s.id incoming :=
      List.find?_cons_of_neg (by rw [decide_eq_true_eq]; exact Ne.symm hid)
    rw [if_neg hid]
    simp only [replacedFrom, hpassed]

/-! ## One rule -/

theorem editFirst_eq_map {id : String} {f : Rule → Rule} (h : (rules.map Rule.id).Nodup) :
    editFirst id f rules = rules.map fun r => if r.id = id then f r else r := by
  induction rules with
  | nil => rfl
  | cons r rest ih =>
    obtain ⟨hr, hrest⟩ := List.nodup_cons.1 h
    rw [editFirst, List.map_cons]
    by_cases hid : r.id = id
    · have hothers : (rest.map fun s => if s.id = id then f s else s) = rest := by
        refine (List.map_congr_left fun s hs => ?_).trans (List.map_id rest)
        have hne : ¬ s.id = id := fun heq => hr (hid.trans heq.symm ▸ List.mem_map_of_mem hs)
        exact if_neg hne
      rw [if_pos hid, if_pos hid, hothers]
    · rw [if_neg hid, if_neg hid, ih hrest]

/-- A rule is merged into the place of the one with its identifier. -/
theorem mergeOne_of_mem (h : (rules.map Rule.id).Nodup) {r : Rule} (hr : r.id ∈ rules.map Rule.id) :
    mergeOne now rules r = rules.map (replacedFrom now [r]) := by
  have hreverse : (rules.reverse.map Rule.id).Nodup := by
    rw [List.map_reverse]
    exact List.nodup_reverse.2 h
  rw [mergeOne, if_pos (isSome_withId?_iff.2 hr), editFirst_eq_map hreverse, List.map_reverse,
    List.reverse_reverse]
  exact List.map_congr_left fun s _ => (replacedFrom_singleton now r s).symm

/-- A rule with a new identifier is put at the end. -/
theorem mergeOne_of_not_mem {r : Rule} (hr : r.id ∉ rules.map Rule.id) : mergeOne now rules r = rules ++ [r] :=
  if_neg fun hsome => hr (isSome_withId?_iff.1 hsome)

/-! ## Lists of rules -/

/-- **What merging does.**  Each rule stays in its place or leaves it to the incoming one with its identifier,
and the incoming ones with new identifiers follow in their order. -/
theorem merge_eq (h : (rules.map Rule.id).Nodup) (hin : (incoming.map Rule.id).Nodup) :
    merge now rules incoming =
      rules.map (replacedFrom now incoming) ++ incoming.filter fun r => r.id ∉ rules.map Rule.id := by
  induction incoming generalizing rules with
  | nil =>
    have hkept : rules.map (replacedFrom now []) = rules :=
      map_replacedFrom_of_not_mem fun _ _ => List.not_mem_nil
    rw [List.filter_nil, List.append_nil, hkept]
    rfl
  | cons r rest ih =>
    obtain ⟨hr, hrest⟩ := List.nodup_cons.1 hin
    -- the step replaces a rule or adds one, and the rest sees the list after it
    have hstep : merge now rules (r :: rest) = merge now (mergeOne now rules r) rest := rfl
    rw [hstep, ih (nodup_mergeOne h r) hrest]
    by_cases hmem : r.id ∈ rules.map Rule.id
    · have hplaces : (rules.map (replacedFrom now [r])).map (replacedFrom now rest) =
          rules.map (replacedFrom now (r :: rest)) := by
        rw [List.map_map]
        exact List.map_congr_left fun s _ => replacedFrom_cons hr s
      have hdropped : ((r :: rest).filter fun s => s.id ∉ rules.map Rule.id) =
          rest.filter fun s => s.id ∉ rules.map Rule.id := List.filter_cons_of_neg (by simpa using hmem)
      rw [mergeOne_of_mem h hmem, hplaces, map_id_map_replacedFrom, hdropped]
    · have hplaces : rules.map (replacedFrom now rest) = rules.map (replacedFrom now (r :: rest)) := by
        refine List.map_congr_left fun s hs => ?_
        have hne : ¬ s.id = r.id := fun heq => hmem (heq ▸ List.mem_map_of_mem hs)
        rw [← replacedFrom_cons hr, replacedFrom_singleton, if_neg hne]
      have hlast : replacedFrom now rest r = r := replacedFrom_of_not_mem hr
      have hothers : (rest.filter fun s => s.id ∉ (rules ++ [r]).map Rule.id) =
          rest.filter fun s => s.id ∉ rules.map Rule.id := by
        refine List.filter_congr fun s hs => ?_
        have hne : s.id ≠ r.id := fun heq => hr (heq ▸ List.mem_map_of_mem hs)
        simp only [List.map_append, List.map_singleton, List.mem_append, List.mem_singleton, hne, or_false]
      have hfirst : ((r :: rest).filter fun s => s.id ∉ rules.map Rule.id) =
          r :: rest.filter fun s => s.id ∉ rules.map Rule.id := List.filter_cons_of_pos (by simpa using hmem)
      rw [mergeOne_of_not_mem hmem, List.map_append, List.map_singleton, hplaces, hlast, hothers, hfirst,
        List.append_assoc, List.singleton_append]

/-- Merged rules have the identifiers of both lists, each once. -/
theorem map_id_merge (now : Timestamp) (h : (rules.map Rule.id).Nodup) (hin : (incoming.map Rule.id).Nodup) :
    (merge now rules incoming).map Rule.id = ((rules ++ incoming).map Rule.id).eraseDups := by
  have hnew : (incoming.filter fun r => r.id ∉ rules.map Rule.id).map Rule.id =
      (incoming.map Rule.id).removeAll (rules.map Rule.id) := by
    rw [List.removeAll, List.filter_map]
    refine congrArg _ (List.filter_congr fun r _ => ?_)
    rw [Function.comp_apply, List.elem_eq_mem, decide_not]
  have hdistinct : ((incoming.map Rule.id).removeAll (rules.map Rule.id)).Nodup := hin.filter _
  rw [merge_eq h hin, List.map_append, map_id_map_replacedFrom, hnew, List.map_append, List.eraseDups_append,
    Text.eraseDups_eq_self h, Text.eraseDups_eq_self hdistinct]

/-- A merged rule that has the identifier of an incoming one is this one, but for the time of its change. -/
theorem eq_of_mem_merge (h : (rules.map Rule.id).Nodup) (hin : (incoming.map Rule.id).Nodup) {r s : Rule}
    (hr : r ∈ merge now rules incoming) (hs : withId? r.id incoming = some s) :
    ∃ updated, r = { s with updatedAt := updated } := by
  rw [merge_eq h hin] at hr
  rcases List.mem_append.1 hr with hold | hnew
  · obtain ⟨r₀, -, rfl⟩ := List.mem_map.1 hold
    rw [id_replacedFrom] at hs
    exact ⟨now, by simp only [replacedFrom, hs, changedAt]⟩
  · have hsame := withId?_eq_some_of_mem hin (List.mem_filter.1 hnew).1
    rw [hs] at hsame
    cases hsame
    exact ⟨r.updatedAt, rfl⟩

/-- **Rules that are merged into themselves have only the time of their change set.** -/
theorem merge_self (now : Timestamp) (h : (rules.map Rule.id).Nodup) :
    merge now rules rules = rules.map (changedAt now) := by
  have hnone : (rules.filter fun r => r.id ∉ rules.map Rule.id) = [] := by
    refine List.filter_eq_nil_iff.2 fun r hr => ?_
    simp only [List.mem_map_of_mem hr, not_true_eq_false, decide_false, Bool.false_eq_true, not_false_eq_true]
  rw [merge_eq h h, hnone, List.append_nil]
  refine List.map_congr_left fun r hr => ?_
  simp only [replacedFrom, withId?_eq_some_of_mem h hr]

end RuleLabels.Rule
