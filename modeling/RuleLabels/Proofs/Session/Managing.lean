import Mathlib.Tactic.Common
import RuleLabels.Proofs.Session.Updating
import RuleLabels.Proofs.Store.Giving

/-!
# Operations on one rule

A session has rules, and its store would take each of them again.  Then any of them can be removed, and it can be
changed to whatever the store accepts; the others stay as they are.

* `HasRules.run_change` and `HasRules.run_delete`: what comes of a change and of a removal;
* `HasRules.run_toggleRule_bool`: to switch a rule to a side is a change.
-/

namespace RuleLabels

open Rule

namespace Session

variable {t : Session} {rules : List Rule} {r : Rule} {c : Change}

/-- A session gives some rules at any time, for as long as no file changes. -/
def GivesOn (t : Session) (rules : List Rule) : Prop :=
  ∀ u : Session, u.Follows t → (u.run Service.rules).1 = .ok rules

/-- A change succeeds that the store accepts, if the store would take all other rules again. -/
theorem HasRules.run_change (h : t.HasRules rules) (hwritable : t.store.IsWritable t.world.files)
    (haccepts : ∀ q ∈ rules, t.store.Accepts q) (hr : r ∈ rules) (hc : c.IsValid)
    (haccepted : t.store.Accepts (c.apply t.world.now r)) :
    ∃ u, t.run (Service.changeRule r.id c) = (.ok (c.apply t.world.now r), u) ∧
      u.store.isSeparate = t.store.isSeparate ∧
      u.GivesOn (put (t.store.keep (c.apply t.world.now r)) rules) := by
  have hok := (succeeds_changeRule_iff h hr c).2 ⟨hwritable, forall_mem_put haccepted haccepts⟩
  have hleaves := (leaves_changeRule h hr hc hok).2
  unfold Succeeds at hok
  rcases changeRule_or h hr c with ⟨e, w, -, hrun⟩ | ⟨store, w, log, hsave, hrun⟩
  · rw [hrun] at hok
    cases hok
  · rw [hrun] at hleaves
    exact ⟨_, hrun, Store.isSeparate_of_saveRules hsave, hleaves⟩

/-- A rule that is there is removed, and no other. -/
theorem HasRules.run_delete (h : t.HasRules rules) (hwritable : t.store.IsWritable t.world.files)
    (haccepts : ∀ q ∈ rules, t.store.Accepts q) (hr : r ∈ rules) :
    ∃ u, t.run (Service.deleteRule r.id) = (.ok (), u) ∧ u.store.isSeparate = t.store.isSeparate ∧
      u.GivesOn (withoutId r.id rules) := by
  have hsub : ∀ q ∈ withoutId r.id rules, q ∈ rules := fun q hq => (List.mem_filter.1 hq).1
  have hdistinct : ((withoutId r.id rules).map Rule.id).Nodup :=
    h.distinct.sublist (List.filter_sublist.map Rule.id)
  have hkeep : (withoutId r.id rules).map t.store.keep = withoutId r.id rules :=
    (List.map_congr_left fun q hq => h.kept q (hsub q hq)).trans (List.map_id _)
  have hshorter : (withoutId r.id rules).length ≠ rules.length := by
    intro hsame
    have hkept := List.length_filter_eq_length_iff.1 hsame r hr
    simp at hkept
  obtain ⟨store, w, hsave⟩ := (Store.takes_iff hdistinct).2 ⟨hwritable, fun q hq => haccepts q (hsub q hq)⟩
  refine ⟨⟨store, { w with log := w.log.send ⟨.info, Service.rulesSender, s!"deleted rule id={r.id}"⟩ }⟩, ?_,
    Store.isSeparate_of_saveRules hsave, ?_⟩
  · rw [Service.deleteRule, run_bind_ok (run_rules_of_gives h.gives), if_neg hshorter,
      run_bind_ok (run_saveRules hsave), run_lift (Action.run_log _ _ _ _)]
  · rintro u ⟨hstore, hfiles⟩
    rw [run_rules_fst, hstore, Store.run_rules_of_saveRules (h.suits.withoutId r.id) hsave hfiles, hkeep]

/-- To switch a rule to a side is to change its switch. -/
theorem HasRules.run_toggleRule_bool (h : t.HasRules rules) (hr : r ∈ rules) (enabled : Bool) :
    t.run (Service.toggleRule r.id (.bool enabled)) = t.run (Service.changeRule r.id (.switch enabled)) := by
  have hread : Change.read [("enabled", .bool enabled)] = .ok (.switch enabled) := rfl
  rw [Service.toggleRule, run_bind_ok (h.run_rule hr), if_neg (by exact Bool.false_ne_true), updateRule_eq hread]

end Session

end RuleLabels
