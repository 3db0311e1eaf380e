import Mathlib.Tactic.Common
import RuleLabels.Proofs.Race.Threads
import RuleLabels.Proofs.Session.Order

/-!
# Which rules a call leaves

What a call saves, and what it answers, said of the rules that it may have read.  The rule that is made is
among those saved; and a rule that is there before another edit is there after it, unless the edit removes
it or brings in other rules for all.

* `Call.Saves`, and `Call.Saves.took` of what the store is then asked to take;
* `Session.hasId_of_create` and `Session.hasId_of_keeps`: which identifiers the store has after an edit.
-/

namespace RuleLabels

/-! ## What a store takes -/

namespace Session

/-- The store of a session took rules, and came to be that of another session. -/
def Took (s : Session) (rules : List Rule) (t : Session) : Prop :=
  ∃ v w, s.world.Alike v ∧ ExceptT.run (s.store.saveRules rules) v = (.ok t.store, w) ∧ w.Alike t.world

variable {α β : Type} {s t : Session}

/-- What comes after a look is done in a world that is alike. -/
theorem took_of_look {x : Service α} {f : α → Service β} {b : β} {p : List Rule → Prop}
    (hx : Takes s (s.run x)) (h : s.run (x >>= f) = (.ok b, t))
    (hf : ∀ a u, s.world.Alike u → s.run x = (.ok a, ⟨s.store, u⟩) →
      (Session.mk s.store u).run (f a) = (.ok b, t) → ∃ rules, p rules ∧ (Session.mk s.store u).Took rules t) :
    ∃ rules, p rules ∧ s.Took rules t := by
  rw [run_bind] at h
  generalize hr : s.run x = r at hx h
  cases hx with
  | ok a ids =>
    obtain ⟨rules, hp, v, w, hv, hrun, hw⟩ := hf a _ (.ids _ _) hr h
    exact ⟨rules, hp, v, w, (World.Alike.ids _ _).trans hv, hrun, hw⟩
  | error e u => cases h

end Session

/-! ## What a call saves -/

/-- If a call reads rules of which `given` holds, then `post` holds of the rules that it saves and of its
answer. -/
def Call.Saves (given : List Rule → Prop) (post : List Rule → Answer → Prop) : Call → Prop
  | fail _ => True
  | now next => ∀ now, (next now).Saves given post
  | ruleId next => ∀ id, (next id).Saves given post
  | load _ next => ∀ rules, (next rules).Saves given post
  | seek _ next => next.Saves given post
  | read next => ∀ rules, given rules → (next rules).Saves given post
  | save rules _ a => post rules a

namespace Call

variable {given : List Rule → Prop} {post : List Rule → Answer → Prop}

theorem saves_ofChecked {α : Type} {x : Checked α} {next : α → Call}
    (h : ∀ a, (next a).Saves given post) : (ofChecked x next).Saves given post := by
  cases x with
  | ok a => exact h a
  | error e => trivial

/-- What holds of the rules that a session gives holds of those that it gives in a world that is alike. -/
theorem given_of_alike {s : Session} {u : World} (hu : s.world.Alike u)
    (h : ∀ rules, (s.run Service.rules).1 = .ok rules → given rules) :
    ∀ rules, ((Session.mk s.store u).run Service.rules).1 = .ok rules → given rules :=
  fun rules hrules => h rules ((Session.run_rules_congr hu).symm.trans hrules)

open Session in
/-- A call that succeeds has the store take the rules that it saves. -/
theorem Saves.took {c : Call} (hc : c.Saves given post) {s t : Session} {a : Answer}
    (hgiven : ∀ rules, (s.run Service.rules).1 = .ok rules → given rules)
    (h : s.run c.perform = (.ok a, t)) : ∃ rules, post rules a ∧ s.Took rules t := by
  induction c generalizing s with
  | fail e => cases h
  | now next ih =>
    exact took_of_look (.of_peeks .now) h fun now u hu _ => ih now (hc now) (given_of_alike hu hgiven)
  | ruleId next ih =>
    exact took_of_look takes_freshId h fun id u hu _ => ih id (hc id) (given_of_alike hu hgiven)
  | load l next ih =>
    exact took_of_look (takes_load l) h fun rules u hu _ => ih rules (hc rules) (given_of_alike hu hgiven)
  | seek id next ih =>
    exact took_of_look (.of_peeks (peeks_rule id)) h fun _ u hu _ => ih hc (given_of_alike hu hgiven)
  | read next ih =>
    refine took_of_look (.of_peeks .rules) h fun rules u hu hrules => ?_
    refine ih rules (hc rules (hgiven rules ?_)) (given_of_alike hu hgiven)
    rw [hrules]
  | save rules message b =>
    rw [perform, run_bind] at h
    have hask := (Write.rules rules).run_ask s
    rw [Write.ask, Write.carry] at hask
    rw [hask] at h
    rcases hrun : ExceptT.run (s.store.saveRules rules) s.world with ⟨e | store', v⟩
    · rw [hrun] at h
      cases h
    · rw [hrun] at h
      cases h
      exact ⟨rules, hc, s.world, v, .refl _, hrun, .log _ _⟩

end Call

namespace Edit

/-- The rule that is made is among the rules that are saved. -/
theorem saves_createCall (fields : Fields) : (createCall fields).Saves (fun _ => True) fun rules a =>
    ∀ r, a = .rule r → r.id ∈ rules.map Rule.id := by
  refine Call.saves_ofChecked fun _ now id => Call.saves_ofChecked fun draft current _ r hr => ?_
  cases hr
  simp

/-- An edit leaves a rule with an identifier where there is one. -/
def Keeps (id : String) : Edit → Prop
  | delete id' => id' ≠ id
  | load _ replace => replace = false
  | _ => True

/-- If rules with an identifier are read, such rules are saved. -/
abbrev SavesId (id : String) (c : Call) : Prop :=
  c.Saves (fun rules => id ∈ rules.map Rule.id) fun rules _ => id ∈ rules.map Rule.id

variable {id : String}

theorem savesId_changeCall (id' : String) (c : Change) : SavesId id (changeCall id' c) := by
  intro current hcurrent
  dsimp only
  split
  · trivial
  · intro now
    show id ∈ (Rule.editFirst id' (c.apply now) current).map Rule.id
    have hids : (Rule.editFirst id' (c.apply now) current).map Rule.id = current.map Rule.id :=
      Rule.map_id_editFirst (f := c.apply now) (fun _ h => h) current
    rwa [hids]

theorem savesId_toggleCall (id' : String) (enabled : Value) : SavesId id (toggleCall id' enabled) := by
  rw [toggleCall, SavesId]
  split
  · intro current _
    dsimp only
    split
    · trivial
    · exact savesId_changeCall id' _
  · exact Call.saves_ofChecked fun c => savesId_changeCall id' c

theorem savesId_call {e : Edit} (h : e.Keeps id) : SavesId id e.call := by
  cases e with
  | create fields =>
    refine Call.saves_ofChecked fun _ now id' => Call.saves_ofChecked fun draft current hcurrent => ?_
    show id ∈ (current ++ [draft.toRule id' now]).map Rule.id
    rw [List.map_append]
    exact List.mem_append_left _ hcurrent
  | update id' fields => exact Call.saves_ofChecked fun c => savesId_changeCall id' c
  | delete id' =>
    intro current hcurrent
    dsimp only
    split
    · trivial
    · obtain ⟨r, hr, hid⟩ := List.mem_map.1 hcurrent
      refine List.mem_map.2 ⟨r, List.mem_filter.2 ⟨hr, ?_⟩, hid⟩
      rw [hid, decide_eq_true_eq]
      exact Ne.symm h
  | toggle id' enabled => exact savesId_toggleCall id' enabled
  | load l replace =>
    cases h
    exact fun incoming current hcurrent now => Rule.mem_map_id_merge hcurrent

end Edit

/-! ## What a store has -/

/-- The rows of rules have their identifiers. -/
theorem RuleRow.map_id_ofRules (rules : List Rule) : (ofRules rules).map RuleRow.id = rules.map Rule.id :=
  map_ofRulesFrom (fun _ _ => rfl) 0 rules

theorem Rule.map_id_of_map_toValue {rules rules' : List Rule}
    (h : rules.map Rule.toValue = rules'.map Rule.toValue) : rules.map Rule.id = rules'.map Rule.id := by
  induction rules generalizing rules' with
  | nil => rw [List.map_eq_nil_iff.1 h.symm]
  | cons r rest ih =>
    obtain ⟨r', rest', rfl, hr, hrest⟩ := List.map_eq_cons_iff.1 h.symm
    simp only [toValue, Value.object.injEq, List.cons.injEq, Prod.mk.injEq, Value.text.injEq] at hr
    rw [List.map_cons, List.map_cons, ih hrest.symm, hr.1.2]

namespace Store

variable {s : Store} {since since' : Nat} {w : World} {k k' : Stock}

/-- A store stores rules with one list of identifiers. -/
theorem Stores.map_id_eq (h : s.Stores since w.files k) (h' : s.Stores since' w.files k') :
    k.rules.map Rule.id = k'.rules.map Rule.id := by
  cases s with
  | memory rules records => rw [← h.1, ← h'.1]
  | folder s =>
    obtain ⟨_, _, -, -, -, hrules, -⟩ := h
    obtain ⟨_, _, -, -, -, hrules', -⟩ := h'
    have hdocument := hrules.symm.trans hrules'
    simp only [Except.ok.injEq, Entry.file.injEq, Content.document.injEq, FolderStore.rulesDocument,
      Value.array.injEq] at hdocument
    exact Rule.map_id_of_map_toValue hdocument.2
  | database s =>
    have htables := (DatabaseStore.run_tables h).symm.trans (DatabaseStore.run_tables h')
    have hrows := congrArg Tables.rules (Except.ok.inj (congrArg Prod.fst htables))
    rw [← RuleRow.map_id_ofRules, ← RuleRow.map_id_ofRules]
    exact congrArg (List.map RuleRow.id) hrows

end Store

namespace Session

variable {since : Nat} {id : String} {s t : Session}

/-- The store stores rules of which one has an identifier. -/
def HasId (since : Nat) (id : String) (s : Session) : Prop :=
  ∃ k, s.store.Stores since s.world.files k ∧ id ∈ k.rules.map Rule.id

theorem HasId.of_matches (h : s.HasId since id) (hst : s.Matches t) : t.HasId since id := by
  obtain ⟨k, hstores, hid⟩ := h
  refine ⟨k, ?_, hid⟩
  rw [hst.store, hst.files]
  exact hstores

theorem HasOrder.of_matches (h : HasOrder since s.store s.world) (hst : s.Matches t) :
    HasOrder since t.store t.world := by
  obtain ⟨k, hstores, horderly⟩ := h
  refine ⟨k, ?_, horderly⟩
  rw [hst.store, hst.files]
  exact hstores

/-- A store with order gives rules with the identifiers that it has. -/
theorem HasOrder.exists_rules (h : HasOrder since s.store s.world) (hid : s.HasId since id) :
    ∃ rules, (s.run Service.rules).1 = .ok rules ∧ id ∈ rules.map Rule.id := by
  obtain ⟨k, hstores, horderly⟩ := h
  obtain ⟨k', hstores', hid⟩ := hid
  obtain ⟨rules, hrun, -, hids⟩ := Store.run_rules_of_stores hstores horderly
  refine ⟨rules, ?_, ?_⟩
  · rw [run_rules_fst, hrun]
  · rwa [hids, hstores.map_id_eq hstores']

/-- A store that has taken rules has their identifiers. -/
theorem Took.hasId {rules : List Rule} (h : s.Took rules t) (hs : HasOrder since s.store s.world)
    (hid : id ∈ rules.map Rule.id) : t.HasId since id := by
  obtain ⟨v, w, hv, hrun, hw⟩ := h
  obtain ⟨k, hstores, -⟩ := hs
  exact ⟨⟨rules, k.records⟩, (Store.stores_of_saveRules (hstores.congr hv.entries) hrun).1.congr hw.entries, hid⟩

variable {e : Editor} {a : Answer} {r : Rule}

/-- The store has the rule whose creation is answered. -/
theorem hasId_of_create (hs : HasOrder since s.store s.world) {fields : Fields} (he : e.edit = .create fields)
    (h : e.thread.Gives s (.rule r) t) : t.HasId since r.id := by
  obtain ⟨u, hrun, hu⟩ := h
  have hsaves := Edit.saves_createCall fields
  have hcall : e.thread.task.finish = (Edit.createCall fields).perform := by rw [Editor.thread, he]; rfl
  rw [hcall] at hrun
  obtain ⟨rules, hanswer, htook⟩ := hsaves.took (fun _ _ => trivial) hrun
  exact (htook.hasId hs (hanswer r rfl)).of_matches hu.symm

/-- The store has the rules that it had, but for those that an edit does not keep. -/
theorem hasId_of_keeps (hs : HasOrder since s.store s.world) (hid : s.HasId since id)
    (he : e.edit.Keeps id) (h : e.thread.Gives s a t) : t.HasId since id := by
  obtain ⟨u, hrun, hu⟩ := h
  have hgiven (rules : List Rule) (hrules : ((e.thread.enter s).run Service.rules).1 = .ok rules) :
      id ∈ rules.map Rule.id := by
    obtain ⟨rules', hrules', hmem⟩ := HasOrder.exists_rules (s := e.thread.enter s) hs hid
    cases hrules.symm.trans hrules'
    exact hmem
  obtain ⟨rules, hmem, htook⟩ := (Edit.savesId_call he).took hgiven hrun
  exact (htook.hasId hs hmem).of_matches hu.symm

end Session

end RuleLabels
