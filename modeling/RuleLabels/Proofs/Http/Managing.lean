import Mathlib.Tactic.Common
import RuleLabels.Proofs.Http.Paths
import RuleLabels.Proofs.Http.Rules
import RuleLabels.Proofs.Session.Managing
import RuleLabels.Proofs.Session.Retaking

/-!
# What is listed can be managed

The rules that are listed can be read, changed, switched and removed, each by its own path and without touching the
others.  This holds of every list that can be reached, whatever the identifiers are, but for those with a slash in
them: the files that rules are imported from may have them, and no path leads to such a rule.

* `Manages`: a session has rules that it can send, and that its store would take again;
* `Manages.refused_or`: a request changes nothing, or its operation succeeds;
* `Manages.read`, `.delete`, `.toggle` and `.update`: what a request about one rule comes to;
* `managed_of_listed`: which rules of a list can be managed.
-/

namespace RuleLabels

open Rule

namespace Http

open Session

/-! ## Requests about one rule -/

/-- The side that a request switches a rule to: the other one, unless its body names a side. -/
def Visit.Switches (v : Visit) (r : Rule) (enabled : Bool) : Prop :=
  ∃ body side, readBody v.request.body = .ok body ∧ readSwitch body = .ok side ∧
    (side = .null ∧ enabled = !r.enabled ∨ side = .bool enabled)

/-- The change that the body of a request asks for. -/
def Visit.Changes (v : Visit) (c : Change) : Prop :=
  ∃ body fields, readBody v.request.body = .ok body ∧ readRule body = .ok fields ∧ Change.read fields = .ok c

theorem side_of_switchField {v side : Value} (h : switchField v = .ok side) : ∃ enabled, side = .bool enabled := by
  have hnumber {x : Except BodyFault Bool} (h : x.map Value.bool = .ok side) : ∃ enabled, side = .bool enabled := by
    obtain ⟨enabled, -, rfl⟩ := except_map_eq_ok.1 h
    exact ⟨enabled, rfl⟩
  cases v with
  | bool b =>
    cases h
    exact ⟨b, rfl⟩
  | text s =>
    obtain ⟨word, -, h⟩ := except_bind_eq_ok.1 h
    split at h
    · rename_i b _
      cases h
      exact ⟨b, rfl⟩
    · cases h
  | int i =>
    rw [switchField] at h
    split at h
    · exact hnumber h
    · cases h
  | float x =>
    rw [switchField] at h
    split at h
    · exact hnumber h
    · cases h
  | _ => cases h

/-- A body with a switch names a side, or is left out. -/
theorem side_of_readSwitch {body : Option Value} {side : Value} (h : readSwitch body = .ok side) :
    side = .null ∨ ∃ enabled, side = .bool enabled := by
  unfold readSwitch at h
  split at h
  · cases h
    exact .inl rfl
  · cases h
    exact .inl rfl
  · rename_i fields
    obtain ⟨found, hfound, rfl⟩ := except_map_eq_ok.1 h
    rw [readFields] at hfound
    split at hfound
    · rw [readFields] at hfound
      cases hfound
      exact .inl rfl
    · split at hfound
      · cases hfound
      · rename_i given hgiven
        obtain ⟨enabled, rfl⟩ := side_of_switchField hgiven
        cases hfound
        exact .inr ⟨enabled, rfl⟩
  · cases h

/-- A session gives some rules at any time, and lists them whenever it is asked. -/
structure Lists (t : Session) (rules : List Rule) : Prop where
  gives : t.GivesOn rules
  listed : ∀ v : Visit, v.Asks .listRules → v.response? t = some (success 200 (ruleListing rules))

/-- A request gets a response, and then some rules are listed. -/
def Visit.Leaves (v : Visit) (t : Session) (response : Response) (rules : List Rule) : Prop :=
  v.response? t = some response ∧ Lists (v.leave t) rules

/-- A request is refused, and the rules that are listed stay as they are. -/
def Visit.IsRefused (v : Visit) (t : Session) (rules : List Rule) : Prop :=
  ∃ response, v.Leaves t response rules ∧ 400 ≤ response.status

variable {t u : Session} {rules : List Rule} {r : Rule} {v : Visit} {e : Endpoint} {body : Option Value}

theorem follows_enter (v : Visit) (t : Session) : (v.enter t).Follows t := ⟨rfl, rfl⟩

/-- What an operation comes to is what its request comes to, where a session is shared. -/
theorem visit_of_run {α : Type} {x : Service α} {f : α → Response} {a : α}
    (hshared : t.store.isSeparate = false) (hasks : v.Asks e) (he : e ≠ .document)
    (hbody : v.request.bodyFor e = .ok body)
    (hperform : ∀ target, perform e target body = x >>= fun a => pure (f a))
    (hrun : (v.enter t).run x = (.ok a, u)) : v.response? t = some (f a) ∧ v.leave t = u := by
  have hout : (v.enter t).run (perform e v.request.target body) = (.ok (f a), u) := by
    rw [hperform, run_bind_ok hrun]
    rfl
  exact Visit.visit_of_run (run_respond_of_perform (s := v.enter t) hshared hasks he hbody hout)

/-- Rules that a shared session gives at any time are listed. -/
theorem lists_of_givesOn (hshared : t.store.isSeparate = false) (h : t.GivesOn rules) : Lists t rules := by
  refine ⟨h, fun v hasks => ?_⟩
  have hrun := run_rules_of_gives (h _ (follows_enter v t))
  exact (visit_of_run hshared hasks (by decide) rfl (fun _ => rfl) hrun).1

/-- A shared session has rules that it can send, and that its store would take again. -/
structure Manages (t : Session) (rules : List Rule) : Prop where
  shared : t.store.isSeparate = false
  stored : ∃ since k, t.store.Retakes since t.world.files k ∧ rules = k.rules.map t.store.keep
  sendable : ∀ r ∈ rules, r.isSendable = true

namespace Manages

theorem of_follows (h : Manages t rules) (hu : u.Follows t) : Manages u rules := by
  obtain ⟨hshared, hstored, hsendable⟩ := h
  refine ⟨?_, ?_, hsendable⟩
  · rw [hu.store]
    exact hshared
  · rw [hu.store, hu.files]
    exact hstored

theorem of_alike {w : World} (h : Manages t rules) (hw : t.world.Alike w) : Manages ⟨t.store, w⟩ rules := by
  obtain ⟨hshared, ⟨since, k, hretakes, hrules⟩, hsendable⟩ := h
  exact ⟨hshared, ⟨since, k, hretakes.of_alike hw, hrules⟩, hsendable⟩

theorem enter (h : Manages t rules) (v : Visit) : Manages (v.enter t) rules := h.of_follows (follows_enter v t)

theorem orderly (h : Manages t rules) : AreOrderly rules := by
  obtain ⟨-, ⟨_, _, hretakes, rfl⟩, -⟩ := h
  exact hretakes.areOrderly_map_keep

theorem writable (h : Manages t rules) : t.store.IsWritable t.world.files := by
  obtain ⟨-, ⟨_, _, hretakes, -⟩, -⟩ := h
  exact hretakes.isWritable

theorem accepts (h : Manages t rules) : ∀ r ∈ rules, t.store.Accepts r := by
  obtain ⟨-, ⟨_, _, hretakes, rfl⟩, -⟩ := h
  exact hretakes.accepts_map_keep

theorem hasRules (h : Manages t rules) : t.HasRules rules := by
  refine ⟨?_, h.orderly.distinct, fun r hr => t.store.keep_of_isSendable (h.orderly.valid r hr) (h.sendable r hr)⟩
  obtain ⟨-, ⟨_, _, hretakes, rfl⟩, -⟩ := h
  rw [run_rules_fst, hretakes.run_rules]

theorem lists (h : Manages t rules) : Lists t rules :=
  lists_of_givesOn h.shared fun _ hu => (h.of_follows hu).hasRules.gives

/-- **Reading** a rule tells it and leaves all rules as they are. -/
theorem read (h : Manages t rules) (hr : r ∈ rules) (hasks : v.Asks (.readRule r.id)) :
    v.Leaves t (ruleResponse 200 r) rules := by
  have hrun := (h.enter v).hasRules.run_rule hr
  obtain ⟨hresponse, hleave⟩ := visit_of_run h.shared hasks (by rintro ⟨⟩) rfl (fun _ => rfl) hrun
  exact ⟨hresponse, hleave ▸ (h.enter v).lists⟩

/-- **Removing** a rule leaves the others. -/
theorem delete (h : Manages t rules) (hr : r ∈ rules) (hasks : v.Asks (.deleteRule r.id)) :
    v.Leaves t ⟨204, .empty⟩ (withoutId r.id rules) := by
  have hentered := h.enter v
  obtain ⟨u, hrun, hshared, hgives⟩ := hentered.hasRules.run_delete hentered.writable hentered.accepts hr
  obtain ⟨hresponse, hleave⟩ := visit_of_run h.shared hasks (by rintro ⟨⟩) rfl (fun _ => rfl) hrun
  exact ⟨hresponse, hleave ▸ lists_of_givesOn (hshared.trans hentered.shared) hgives⟩

/-- What a request leaves whose operation is a change that the store accepts. -/
theorem change {x : Service Rule} {c : Change} (h : Manages t rules) (hr : r ∈ rules) (hc : c.IsValid)
    (haccepted : t.store.Accepts (c.apply v.now r)) (hasks : v.Asks e) (he : e ≠ .document)
    (hbody : v.request.bodyFor e = .ok body)
    (hperform : ∀ target, perform e target body = x >>= fun a => pure (ruleResponse 200 a))
    (hx : (v.enter t).run x = (v.enter t).run (Service.changeRule r.id c)) :
    v.Leaves t (ruleResponse 200 (c.apply v.now r)) (put (t.store.keep (c.apply v.now r)) rules) := by
  have hentered := h.enter v
  obtain ⟨u, hrun, hshared, hgives⟩ :=
    hentered.hasRules.run_change hentered.writable hentered.accepts hr hc haccepted
  obtain ⟨hresponse, hleave⟩ := visit_of_run h.shared hasks he hbody hperform (hx.trans hrun)
  exact ⟨hresponse, hleave ▸ lists_of_givesOn (hshared.trans hentered.shared) hgives⟩

/-- A request is refused, or its operation succeeds. -/
theorem refused_or (h : Manages t rules) (hasks : v.Asks e) : v.IsRefused t rules ∨
    ∃ body response after, v.request.bodyFor e = .ok body ∧ e.bodyError? body = none ∧
      (v.enter t).run (perform e v.request.target body) = (.ok response, after) := by
  have hentered := h.enter v
  obtain ⟨response, after, hrun, hcarried⟩ := exists_carried (v.enter t) v.request
  rw [back_of_shared hentered.shared] at hrun
  rw [elsewhere_of_shared hentered.shared] at hcarried
  cases hcarried with
  | @refused c w _ _ hw =>
    obtain ⟨hresponse, hleave⟩ := Visit.visit_of_run hrun
    refine .inl ⟨_, ⟨hresponse, ?_⟩, ?_⟩
    · rw [hleave]
      exact (hentered.of_alike hw).lists
    · rw [Response.status_seenBy]
      exact c.le_status_response
  | moved hroute => cases hroute.symm.trans hasks
  | @done e' body _ _ hroute hbody herror hperform =>
    cases hroute.symm.trans hasks
    exact .inr ⟨body, response, after, hbody, herror, hperform⟩

/-- **Switching** a rule changes its switch. -/
theorem toggle {enabled : Bool} (h : Manages t rules) (hr : r ∈ rules) (hasks : v.Asks (.toggleRule r.id))
    (hswitches : v.Switches r enabled) :
    let switched := (Change.switch enabled).apply v.now r
    v.Leaves t (ruleResponse 200 switched) (put switched rules) ∧
      (ruleResponse 200 switched).Tells [("rule", switched.toValue)] := by
  obtain ⟨body, side, hbody, hread, hside⟩ := hswitches
  have hvalid := Change.isValid_switch enabled
  have hswitched := hvalid.isValid_apply (h.orderly.valid r hr) v.now
  have hsent := Rule.isSendable_switch (h.sendable r hr) enabled v.now
  have hrules := (h.enter v).hasRules
  have hperform : ∀ target, perform (.toggleRule r.id) target body =
      Service.toggleRule r.id side >>= fun a => pure (ruleResponse 200 a) := by
    intro target
    rw [perform, hread]
  have hx : (v.enter t).run (Service.toggleRule r.id side) =
      (v.enter t).run (Service.changeRule r.id (.switch enabled)) := by
    rcases hside with ⟨rfl, rfl⟩ | rfl
    · exact run_toggleRule hrules hr
    · exact hrules.run_toggleRule_bool hr enabled
  have haccepted := Store.accepts_switch (h.accepts r hr) enabled v.now
  have hleaves := h.change hr hvalid haccepted hasks (by rintro ⟨⟩) hbody hperform hx
  rw [t.store.keep_of_isSendable hswitched hsent] at hleaves
  exact ⟨hleaves, tells_ruleResponse hswitched hsent⟩

/-- A request to switch a rule is refused if its body names no side and is not left out. -/
theorem toggle_or (h : Manages t rules) (hasks : v.Asks (.toggleRule r.id)) :
    v.IsRefused t rules ∨ ∃ enabled, v.Switches r enabled := by
  refine (h.refused_or hasks).imp_right ?_
  rintro ⟨body, response, after, hbody, herror, -⟩
  rw [Endpoint.bodyError?] at herror
  split at herror
  · cases herror
  · rename_i side hread
    rcases side_of_readSwitch hread with rfl | ⟨enabled, rfl⟩
    · exact ⟨!r.enabled, body, .null, hbody, hread, .inl ⟨rfl, rfl⟩⟩
    · exact ⟨enabled, body, _, hbody, hread, .inr rfl⟩

/-- **Changing** a rule changes what its body says. -/
theorem update {c : Change} (h : Manages t rules) (hr : r ∈ rules) (hasks : v.Asks (.updateRule r.id))
    (hchanges : v.Changes c) (haccepted : t.store.Accepts (c.apply v.now r)) :
    v.Leaves t (ruleResponse 200 (c.apply v.now r)) (put (t.store.keep (c.apply v.now r)) rules) := by
  obtain ⟨body, fields, hbody, hread, hfields⟩ := hchanges
  have hperform : ∀ target, perform (.updateRule r.id) target body =
      Service.updateRule r.id fields >>= fun a => pure (ruleResponse 200 a) := by
    intro target
    rw [perform, withRuleFields, hread]
  refine h.change hr (Change.isValid_of_read hfields) haccepted hasks (by rintro ⟨⟩) hbody hperform ?_
  rw [updateRule_eq hfields]

/-- A request to change a rule is refused if its body says no change, or one that the store does not accept. -/
theorem update_or (h : Manages t rules) (hr : r ∈ rules) (hasks : v.Asks (.updateRule r.id)) :
    v.IsRefused t rules ∨ ∃ c, v.Changes c ∧ t.store.Accepts (c.apply v.now r) := by
  refine (h.refused_or hasks).imp_right ?_
  rintro ⟨body, response, after, hbody, herror, hperform⟩
  obtain ⟨fields, hread⟩ := exists_readRule_of_bodyError? herror
  rw [perform, withRuleFields, hread] at hperform
  dsimp only at hperform
  rw [run_bind] at hperform
  cases hfields : Change.read fields with
  | error f =>
    have hfails : (v.enter t).run (Service.updateRule r.id fields) = (.error (.ofInvalid f), v.enter t) := by
      rw [Service.updateRule, hfields]
      rfl
    rw [hfails] at hperform
    cases hperform
  | ok c =>
    rw [updateRule_eq hfields] at hperform
    have hok : (v.enter t).Succeeds (Service.changeRule r.id c) := by
      unfold Succeeds
      rcases hchange : (v.enter t).run (Service.changeRule r.id c) with ⟨f | changed, left⟩
      · rw [hchange] at hperform
        cases hperform
      · rfl
    obtain ⟨-, haccepts⟩ := (succeeds_changeRule_iff (h.enter v).hasRules hr c).1 hok
    exact ⟨c, ⟨body, fields, hbody, hread, hfields⟩, haccepts _ (mem_put_self hr rfl)⟩

end Manages

/-! ## Rules that are listed -/

/-- A rule can be managed by its own path among some rules: it is told, removed, switched and changed there, with the
others as they are.  What is not to be done leaves all rules as they are. -/
structure Managed (t : Session) (rules : List Rule) (r : Rule) : Prop where
  read : ∀ v : Visit, v.SendsTo "GET" (rulePath r.id) →
    v.Leaves t (ruleResponse 200 r) rules ∧ (ruleResponse 200 r).Tells [("rule", r.toValue)]
  delete : ∀ v : Visit, v.SendsTo "DELETE" (rulePath r.id) → v.Leaves t ⟨204, .empty⟩ (withoutId r.id rules)
  toggle : ∀ (v : Visit) (enabled : Bool), v.SendsTo "POST" (switchPath r.id) → v.Switches r enabled →
    let switched := (Change.switch enabled).apply v.now r
    v.Leaves t (ruleResponse 200 switched) (put switched rules) ∧
      (ruleResponse 200 switched).Tells [("rule", switched.toValue)]
  toggle_or : ∀ v : Visit, v.SendsTo "POST" (switchPath r.id) →
    v.IsRefused t rules ∨ ∃ enabled, v.Switches r enabled
  update : ∀ (v : Visit) (c : Change), v.SendsTo "PUT" (rulePath r.id) → v.Changes c →
    t.store.Accepts (c.apply v.now r) →
      v.Leaves t (ruleResponse 200 (c.apply v.now r)) (put (t.store.keep (c.apply v.now r)) rules)
  update_or : ∀ v : Visit, v.SendsTo "PUT" (rulePath r.id) →
    v.IsRefused t rules ∨ ∃ c, v.Changes c ∧ t.store.Accepts (c.apply v.now r)

/-- A rule whose identifier is one part of a path can be managed. -/
theorem Manages.managed (h : Manages t rules) (hr : r ∈ rules) (hid : IsSegment r.id) : Managed t rules r where
  read _ hsends := ⟨h.read hr (hsends.asks_rule hid rfl), tells_ruleResponse (h.orderly.valid r hr) (h.sendable r hr)⟩
  delete _ hsends := h.delete hr (hsends.asks_rule hid rfl)
  toggle _ _ hsends hswitches := h.toggle hr (hsends.asks_switch hid) hswitches
  toggle_or _ hsends := h.toggle_or (hsends.asks_switch hid)
  update _ _ hsends hchanges haccepted := h.update hr (hsends.asks_rule hid rfl) hchanges haccepted
  update_or _ hsends := h.update_or hr (hsends.asks_rule hid rfl)

/-- Rules are listed only in a session that is shared. -/
theorem shared_of_listed {response : Response} (hasks : v.Asks .listRules) (hresponse : v.response? t = some response)
    (hstatus : response.status = 200) : t.store.isSeparate = false := by
  obtain ⟨response', after, hrun, hcarried⟩ := exists_carried (v.enter t) v.request
  have hgiven := Visit.run_of_response? hresponse
  rw [hrun] at hgiven
  cases hgiven
  rw [Response.status_seenBy] at hstatus
  cases hcarried with
  | @refused c _ _ _ _ =>
    have hle := c.le_status_response
    omega
  | moved hroute => cases hroute.symm.trans hasks
  | done hroute _ _ hperform =>
    cases hroute.symm.trans hasks
    rw [perform, run_bind] at hperform
    refine Bool.eq_false_iff.2 fun hseparate => ?_
    rcases hrules : (v.enter t).elsewhere.run Service.rules with ⟨f | rules, left⟩
    · rw [hrules] at hperform
      cases hperform
    · exact run_rules_of_separate (s := v.enter t) hseparate rules (by rw [hrules])

/-- **What is listed can be managed, but for slashes.**  A new store is opened, and after any run of operations, in
which rules are made with new identifiers, a request for the list of rules has the status of success.  Then the
response lists the rules of the session, and each of them can be managed by its own path, unless there is a slash in
its identifier: no request asks for any operation on such a rule. -/
theorem managed_of_listed {limits : Json.Limits} {seed : Bool} {place : Store.Place} {world : World} {s : Session}
    (hopen : openAt? limits seed place world = some s)
    (hnew : s.store.isNew world.files.next s.world.files = true) {steps : List Session.Step} (hfresh : s.AllFresh steps)
    {list : Visit} (hasks : list.Asks .listRules) {response : Response}
    (hresponse : list.response? (s.after steps) = some response) (hstatus : response.status = 200) :
    ∃ rules, ((s.after steps).run Service.rules).1 = .ok rules ∧ response.Tells (ruleListing rules) ∧
      ∀ r ∈ rules,
        if '/' ∈ r.id.toList then ∀ (v : Visit) (e : Endpoint), v.Asks e → e.id? ≠ some r.id
        else Managed (list.leave (s.after steps)) rules r := by
  obtain ⟨k, hk⟩ := retakes_after hopen hnew hfresh
  have hshared := shared_of_listed hasks hresponse hstatus
  have hgives : (s.after steps).GivesOn (k.rules.map (s.after steps).store.keep) := by
    rintro u ⟨hstore, hfiles⟩
    rw [← hstore, ← hfiles] at hk
    rw [run_rules_fst, hk.run_rules, hstore]
  cases hresponse.symm.trans ((lists_of_givesOn hshared hgives).listed list hasks)
  have hmanages : Manages (s.after steps) _ := ⟨hshared, ⟨_, k, hk, rfl⟩, isSendable_of_status hstatus⟩
  have hlist : list.leave (s.after steps) = list.enter (s.after steps) :=
    (visit_of_run hshared hasks (by decide) rfl (fun _ => rfl)
      (run_rules_of_gives (hmanages.enter list).hasRules.gives)).2
  refine ⟨_, hmanages.hasRules.gives, tells_ruleListing hmanages.orderly.valid hmanages.sendable, fun r hr => ?_⟩
  split
  · rename_i hslash
    exact fun v e hv hid => (Visit.isSegment_of_asks hv hid).2 hslash
  · rename_i hslash
    have hne : r.id ≠ "" := by
      intro hempty
      have hblank := (hmanages.orderly.valid r hr).id
      rw [hempty] at hblank
      exact absurd hblank (by decide)
    rw [hlist]
    exact (hmanages.enter list).managed hr ⟨hne, hslash⟩

/-- A request for the list of rules. -/
def rulesWanted : Visit := ⟨.epoch, ⟨0, 0⟩, ⟨"GET", "/api/rules", "", none⟩⟩

/-- A request to remove the first of the default rules. -/
def firstUnwanted : Visit := ⟨.epoch, ⟨0, 0⟩, ⟨"DELETE", "/api/rules/rule-1", "", none⟩⟩

/-- The default rules are listed, and each of them can be managed: the first one, say, is removed. -/
theorem managed_of_listed_defaults :
    ∃ (s : Session) (response : Response), openAt? .unbounded true .memory bareWorld = some s ∧
      s.store.isNew bareWorld.files.next s.world.files = true ∧ s.AllFresh [] ∧ rulesWanted.Asks .listRules ∧
      rulesWanted.response? (s.after []) = some response ∧ response.status = 200 ∧
      response.Tells (ruleListing (Rule.defaults .epoch)) ∧
      (∀ r ∈ Rule.defaults .epoch, Managed (rulesWanted.leave s) (Rule.defaults .epoch) r) ∧
      firstUnwanted.Leaves (rulesWanted.leave s) ⟨204, .empty⟩ ((Rule.defaults .epoch).drop 1) := by
  have hasks : rulesWanted.Asks .listRules := by
    rw [Visit.Asks]
    decide +kernel
  have hruns : (openAt? .unbounded true .memory bareWorld).any fun s =>
      (rulesWanted.response? s).any fun response => response.status = 200 := by
    decide +kernel
  obtain ⟨s, hs, hresponds⟩ := (Option.any_eq_true _ _).1 hruns
  obtain ⟨response, hresponse, hstatus⟩ := (Option.any_eq_true _ _).1 hresponds
  rw [decide_eq_true_eq] at hstatus
  have hnew : s.store.isNew bareWorld.files.next s.world.files = true := by
    cases hs
    rfl
  have hfresh : s.AllFresh [] := trivial
  obtain ⟨rules, hrules, htells, hmanaged⟩ := managed_of_listed hs hnew hfresh hasks hresponse hstatus
  have hdefaults : rules = Rule.defaults .epoch := by
    cases hs
    cases hrules
    rfl
  subst hdefaults
  have hall : ∀ r ∈ Rule.defaults .epoch, Managed (rulesWanted.leave s) (Rule.defaults .epoch) r := by
    intro r hr
    have hslash : ∀ r ∈ Rule.defaults .epoch, '/' ∉ r.id.toList := by decide
    have hr' := hmanaged r hr
    rw [if_neg (hslash r hr)] at hr'
    exact hr'
  have hsends : firstUnwanted.SendsTo "DELETE" (rulePath "rule-1") :=
    Visit.sendsTo_of_path (by decide +kernel)
  exact ⟨s, response, hs, hnew, hfresh, hasks, hresponse, hstatus, htells, hall,
    (hall firstRule List.mem_cons_self).delete firstUnwanted hsends⟩

/-- A written rule with a slash in its identifier. -/
def slashItem : Value :=
  .object [("id", .text "a/b"), ("name", .text "Adults"), ("label", .text "adult"),
    ("conditions", .object [("key", .text "age"), ("operator", .text "="), ("value", .int 18)])]

/-- The bare world with a file of this rule. -/
def slashWorld : World :=
  { bareWorld with files := Files.empty.setContent ["rules.json"] (.document (.array [slashItem])) }

/-- The file is to be imported. -/
def slashImport : Session.Step := ⟨.epoch, ⟨0, 0⟩, .load ⟨"", ["rules.json"]⟩ true⟩

/-- A request for the rule of the file. -/
def slashWanted : Visit := ⟨.epoch, ⟨0, 0⟩, ⟨"GET", "/api/rules/a%2Fb", "", none⟩⟩

/-- An imported rule with a slash in its identifier is listed, and is not found by its path. -/
theorem listed_not_managed :
    ∃ (s : Session) (r : Rule) (listed refused : Response), openAt? .unbounded false .memory slashWorld = some s ∧
      ((s.after [slashImport]).run Service.rules).1 = .ok [r] ∧
      rulesWanted.response? (s.after [slashImport]) = some listed ∧ listed.status = 200 ∧
      slashWanted.SendsTo "GET" (rulePath r.id) ∧
      slashWanted.response? (rulesWanted.leave (s.after [slashImport])) = some refused ∧ refused.status = 404 := by
  have hruns : (openAt? .unbounded false .memory slashWorld).any fun s =>
      passes (fun rules => rules.map Rule.id = ["a/b"]) ((s.after [slashImport]).run Service.rules).1 &&
        ((s.after [slashImport]).run Service.rules).1.isOk &&
        (rulesWanted.response? (s.after [slashImport])).any (fun response => response.status = 200) &&
        (slashWanted.response? (rulesWanted.leave (s.after [slashImport]))).any fun response =>
          response.status = 404 := by
    decide +kernel
  have hpath : slashWanted.request.path = rulePath "a/b" := by decide +kernel
  obtain ⟨s, hs, hall⟩ := (Option.any_eq_true _ _).1 hruns
  simp only [Bool.and_eq_true] at hall
  obtain ⟨⟨⟨hids, hgives⟩, hlists⟩, hrefuses⟩ := hall
  obtain ⟨rules, hrules⟩ := except_isOk_eq_true.1 hgives
  have hid := of_decide_eq_true (of_passes hids rules hrules)
  obtain ⟨r, rfl, hr⟩ := List.map_eq_singleton_iff.1 hid
  obtain ⟨listed, hlisted, hstatus⟩ := (Option.any_eq_true _ _).1 hlists
  obtain ⟨refused, hrefused, hstatus'⟩ := (Option.any_eq_true _ _).1 hrefuses
  rw [← hr] at hpath
  exact ⟨s, r, listed, refused, hs, hrules, hlisted, of_decide_eq_true hstatus, Visit.sendsTo_of_path hpath, hrefused,
    of_decide_eq_true hstatus'⟩

end Http

end RuleLabels
