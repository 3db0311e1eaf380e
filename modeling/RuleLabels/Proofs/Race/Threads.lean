import Mathlib.Tactic.Common
import RuleLabels.Proofs.Race.Log
import RuleLabels.Proofs.Session.Operations
import RuleLabels.Proofs.Session.Writes

/-!
# What one turn of a call does

A thread carries a call out, with a time and identifiers of its own, on a session that it may share.  A turn
that looks at something leaves the session as it is, and what is left of the call then comes to what the call
came to before.  That holds in other sessions too, as long as the call has not read the rules that its save
rests on.

* `Thread.Gives`: what is left of a call comes to an answer;
* `Thread.looks_or_fails` and `Thread.saves_or_fails`: what a turn can come to;
* `Thread.Looks.gives` and `Thread.Looks.elsewhere`: what a look leaves to be done.
-/

namespace RuleLabels

/-! ## Sessions that match -/

/-- Two sessions with the same store, files and environment.  Their times, identifiers and logs may differ. -/
structure Session.Matches (s t : Session) : Prop where
  store : t.store = s.store
  files : t.world.files = s.world.files
  environment : t.world.environment = s.world.environment

namespace Session.Matches

variable {s t u : Session}

theorem refl (s : Session) : s.Matches s := ⟨rfl, rfl, rfl⟩

theorem symm (h : s.Matches t) : t.Matches s := ⟨h.store.symm, h.files.symm, h.environment.symm⟩

theorem trans (h : s.Matches t) (h' : t.Matches u) : s.Matches u :=
  ⟨h'.store.trans h.store, h'.files.trans h.files, h'.environment.trans h.environment⟩

end Session.Matches

/-! ## Threads -/

/-- A task with the time and the identifiers that are given to it. -/
structure Thread where
  now : Timestamp
  ids : IdSource
  task : Task

namespace Thread

/-- A session at the time and with the identifiers of a thread. -/
def enter (th : Thread) (s : Session) : Session :=
  { s with world := { s.world with now := th.now, ids := th.ids } }

/-- The thread after its next turn on a session, and the session after it. -/
def turn (th : Thread) (s : Session) : Thread × Session :=
  match (th.enter s).run th.task.turn with
  | (.ok task, after) => ({ th with ids := after.world.ids, task }, after)
  | (.error e, after) => ({ th with ids := after.world.ids, task := .ended (.error e) }, after)

/-- What is left of a task, done in one go on a session, comes to an answer, and leaves a session that matches
another one. -/
def Gives (th : Thread) (s : Session) (a : Answer) (q : Session) : Prop :=
  ∃ u, (th.enter s).run th.task.finish = (.ok a, u) ∧ q.Matches u

variable {th th' : Thread} {s t q : Session} {a : Answer}

/-- What a thread comes to is the same in sessions that match. -/
theorem Gives.congr (h : th.Gives s a q) (hst : s.Matches t) : th.Gives t a q := by
  obtain ⟨u, hrun, hu⟩ := h
  obtain ⟨log, hlog⟩ := th.task.ignoresLog_finish (th.enter s) t.world.log
  have henter : th.enter t = (th.enter s).withLog t.world.log := by
    obtain ⟨store, world⟩ := t
    obtain ⟨rfl, hfiles, henv⟩ := hst
    cases world
    cases hfiles
    cases henv
    rfl
  rw [hrun] at hlog
  refine ⟨u.withLog log, ?_, ⟨hu.store, hu.files, hu.environment⟩⟩
  rw [henter]
  exact hlog

/-! ## Looks -/

/-- A turn of a thread looks at something in a session: it leaves the store and the world as they are, but for
identifiers that it takes. -/
structure Looks (th : Thread) (s : Session) (th' : Thread) : Prop where
  saves : th.task.saves = false
  now : th'.now = th.now
  outcome : (th.enter s).run th.task.turn = (.ok th'.task, th'.enter s)

/-- A task is its next turn and then the rest. -/
theorem finish_eq (t : Task) : t.finish = t.turn >>= Task.finish := by
  cases t with
  | running c hasRead => exact c.perform_eq hasRead
  | ended outcome => exact (pure_bind _ _).symm

/-- What is left after a look comes to what there was to do before. -/
theorem Looks.gives (h : th.Looks s th') (hgives : th'.Gives s a q) : th.Gives s a q := by
  obtain ⟨u, hrun, hu⟩ := hgives
  refine ⟨u, ?_, hu⟩
  rw [finish_eq, Session.run_bind_ok h.outcome]
  exact hrun

end Thread

/-! ## Turns -/

namespace Session

variable {α β : Type} {s : Session}

/-- An outcome that is a failure, or leaves the session as it is but for identifiers. -/
inductive Takes (s : Session) : Except Failure α × Session → Prop
  | ok (a : α) (ids : IdSource) : Takes s (.ok a, ⟨s.store, { s.world with ids }⟩)
  | error (e : Failure) (t : Session) : Takes s (.error e, t)

theorem Takes.of_peeks {post : α → Prop} {r : Except Failure α × Session} (h : Peeks post s r) :
    Takes s r := by
  cases h with
  | ok a h => exact .ok a s.world.ids
  | error e => exact .error e _

/-- What is made of the value of a service. -/
theorem Takes.bind_pure {x : Service α} (h : Takes s (s.run x)) (f : α → β) :
    Takes s (s.run (x >>= fun a => pure (f a))) := by
  rw [run_bind]
  generalize s.run x = r at h ⊢
  cases h with
  | ok a ids => exact .ok (f a) ids
  | error e t => exact .error e t

theorem takes_freshId : Takes s (s.run (liftM Rule.freshId)) := .ok _ _

theorem takes_load (l : Location) : Takes s (s.run (liftM (Rule.load l))) := by
  obtain ⟨r, ids, -, hload⟩ := Rule.run_load l (s.world.files.find l) s.world.now s.world.ids
  rw [run_lift (hload s.world rfl rfl rfl)]
  cases r with
  | ok rules => exact .ok rules ids
  | error e => exact .error e _

end Session

namespace Thread

variable {th : Thread} {s : Session}

open Session in
/-- A turn that does not save takes no more than identifiers. -/
theorem takes_turn (s : Session) {t : Task} (h : t.saves = false) : Takes s (s.run t.turn) := by
  cases t with
  | ended outcome => exact .ok (Task.ended outcome) s.world.ids
  | running c hasRead =>
    cases c with
    | fail e => exact .error e _
    | now next => exact (Takes.of_peeks .now).bind_pure _
    | ruleId next => exact takes_freshId.bind_pure _
    | load l next => exact (takes_load l).bind_pure _
    | seek id next => exact (Takes.of_peeks (peeks_rule id)).bind_pure _
    | read next => exact (Takes.of_peeks .rules).bind_pure _
    | save rules message a => exact nomatch h

/-- A turn that does not save looks at something or fails. -/
theorem looks_or_fails (th : Thread) (s : Session) (h : th.task.saves = false) :
    (∃ e, (th.turn s).1.task = .ended (.error e)) ∨
      th.Looks s (th.turn s).1 ∧ (th.turn s).2 = (th.turn s).1.enter s := by
  have htakes := takes_turn (th.enter s) h
  rw [turn]
  cases hrun : (th.enter s).run th.task.turn with
  | mk r t =>
    rw [hrun] at htakes
    cases htakes with
    | ok task ids => exact .inr ⟨⟨h, rfl, hrun⟩, rfl⟩
    | error e t => exact .inl ⟨e, rfl⟩

/-- A turn that saves fails, or the store takes the rules and the task is over. -/
theorem saves_or_fails (th : Thread) (s : Session) (h : th.task.saves = true) :
    (∃ e, (th.turn s).1.task = .ended (.error e)) ∨
      ∃ a rules, (th.turn s).1.task = .ended (.ok a) ∧ th.Gives s a (th.turn s).2 ∧
        (th.turn s).2.world.files = ((th.enter s).run (Service.saveRules rules)).2.world.files := by
  obtain ⟨rules, message, a, hasRead, htask⟩ : ∃ rules message a hasRead,
      th.task = .running (.save rules message a) hasRead := by
    cases ht : th.task with
    | ended outcome =>
      rw [ht] at h
      exact nomatch h
    | running c hasRead =>
      rw [ht] at h
      cases c with
      | save rules message a => exact ⟨rules, message, a, hasRead, rfl⟩
      | _ => exact nomatch h
  have hturn : th.task.turn = Service.saveRules rules >>= fun _ =>
      (liftM (Action.log .info Service.rulesSender message) : Service Unit) >>= fun _ =>
        pure (.ended (.ok a)) := by
    rw [htask]
    rfl
  rw [turn, hturn, Session.run_bind]
  rcases hsave : (th.enter s).run (Service.saveRules rules) with ⟨e | u, t⟩
  · exact .inl ⟨e, rfl⟩
  · refine .inr ⟨a, rules, rfl, ⟨_, ?_, .refl _⟩, ?_⟩
    · rw [finish_eq, hturn, Session.run_bind, Session.run_bind, hsave]
      rfl
    · rw [hsave]
      rfl

end Thread

/-! ## Looks in another session -/

/-- The store of a session gives a rule with an identifier. -/
def Session.HasRule (s : Session) (id : String) : Prop :=
  ∃ r, s.run (Service.rule id) = (.ok r, s)

/-- A call loads no file but a given one, and fails where it would not find what it seeks. -/
def Call.IsSound (file? : Option Location) : Call → Prop
  | fail _ => True
  | now next => ∀ now, (next now).IsSound file?
  | ruleId next => ∀ id, (next id).IsSound file?
  | load l next => file? = some l ∧ ∀ rules, (next rules).IsSound file?
  | seek id next =>
    (∀ s a u, Session.run s next.perform = (.ok a, u) → s.HasRule id) ∧ next.IsSound file?
  | read next => ∀ rules, (next rules).IsSound file?
  | save .. => True

/-- What is left of a task is sound. -/
def Task.IsSound (file? : Option Location) : Task → Prop
  | running c _ => c.IsSound file?
  | ended _ => True

namespace Thread

variable {α : Type} {th th' : Thread} {s : Session} {file? : Option Location}

/-- A turn that passes on what a service gives looks at something if the service takes no more than
identifiers. -/
theorem Looks.of_eq {x : Service α} {f : α → Task} {v : α} (hsaves : th.task.saves = false)
    (hturn : th.task.turn = x >>= fun v => pure (f v)) (hnow : th'.now = th.now)
    (hrun : (th.enter s).run x = (.ok v, th'.enter s)) (htask : th'.task = f v) : th.Looks s th' := by
  refine ⟨hsaves, hnow, ?_⟩
  rw [hturn, Session.run_bind_ok hrun, htask]
  rfl

theorem Looks.exists_eq (h : th.Looks s th') {x : Service α} {f : α → Task}
    (hturn : th.task.turn = x >>= fun v => pure (f v)) :
    ∃ v, (th.enter s).run x = (.ok v, th'.enter s) ∧ th'.task = f v := by
  have houtcome := h.outcome
  rw [hturn, Session.run_bind] at houtcome
  rcases hrun : (th.enter s).run x with ⟨e | v, t⟩
  · rw [hrun] at houtcome
    cases houtcome
  · rw [hrun] at houtcome
    have hpure : ((.ok (f v), t) : Except Failure Task × Session) = (.ok th'.task, th'.enter s) := houtcome
    simp only [Prod.mk.injEq, Except.ok.injEq] at hpure
    exact ⟨v, by rw [hpure.2], hpure.1.symm⟩

/-- What is left after a look is sound if the call was.  Unless it has read the rules, it comes to what the
call would have come to in every session with the same file to load. -/
theorem Looks.elsewhere (h : th.Looks s th') (hsound : th.task.IsSound file?) :
    th'.task.IsSound file? ∧ (th'.task.isOpen = false → th.task.isOpen = false ∧
      ∀ t, (∀ l, file? = some l → t.world.files.find l = s.world.files.find l) →
        ∀ a q, th'.Gives t a q → th.Gives t a q) := by
  obtain ⟨now, ids, task⟩ := th
  obtain ⟨now', ids', task'⟩ := th'
  have hnow : now' = now := h.now
  subst hnow
  cases task with
  | ended outcome =>
    obtain ⟨⟨⟩, hrun, rfl⟩ := h.exists_eq (x := pure ()) (f := fun _ => .ended outcome) rfl
    cases hrun
    exact ⟨trivial, fun _ => ⟨rfl, fun _ _ _ _ hgives => hgives⟩⟩
  | running c hasRead =>
    cases c with
    | fail e => exact nomatch h.outcome
    | now next =>
      obtain ⟨v, hrun, rfl⟩ := h.exists_eq (f := fun v => .running (next v) hasRead) rfl
      cases hrun
      exact ⟨hsound _, fun hopen => ⟨hopen, fun _ _ _ _ => Looks.gives ⟨rfl, rfl, rfl⟩⟩⟩
    | ruleId next =>
      obtain ⟨v, hrun, rfl⟩ := h.exists_eq (f := fun v => .running (next v) hasRead) rfl
      cases hrun
      exact ⟨hsound _, fun hopen => ⟨hopen, fun _ _ _ _ => Looks.gives ⟨rfl, rfl, rfl⟩⟩⟩
    | load l next =>
      obtain ⟨v, hrun, rfl⟩ := h.exists_eq (f := fun v => .running (next v) hasRead) rfl
      refine ⟨hsound.2 v, fun hopen => ⟨hopen, fun t hfind _ _ => ?_⟩⟩
      refine Looks.gives (.of_eq rfl rfl rfl ?_ rfl)
      obtain ⟨r, ids₁, -, hload⟩ := Rule.run_load l (s.world.files.find l) now' ids
      let th : Thread := ⟨now', ids, .running (.load l next) hasRead⟩
      rw [Session.run_lift (hload (th.enter s).world rfl rfl rfl)] at hrun
      rw [Session.run_lift (hload (th.enter t).world (hfind l hsound.1) rfl rfl)]
      cases r with
      | ok rules =>
        cases hrun
        rfl
      | error e => cases hrun
    | seek id next =>
      obtain ⟨v, hrun, rfl⟩ := h.exists_eq (f := fun _ => .running next hasRead) rfl
      let th : Thread := ⟨now', ids, .running (.seek id next) hasRead⟩
      have hpeeks := Session.peeks_rule (s := th.enter s) id
      rw [hrun] at hpeeks
      cases hpeeks
      refine ⟨hsound.2, fun hopen => ⟨hopen, fun t _ a q hgives => Looks.gives ?_ hgives⟩⟩
      obtain ⟨u, hfinish, -⟩ := hgives
      obtain ⟨r, hr⟩ := hsound.1 _ _ _ hfinish
      exact .of_eq rfl rfl rfl hr rfl
    | read next =>
      obtain ⟨v, -, rfl⟩ := h.exists_eq (f := fun v => .running (next v) true) rfl
      exact ⟨hsound v, fun hopen => nomatch hopen⟩
    | save rules message a => exact nomatch h.saves

end Thread

/-! ## Edits -/

variable {file? : Option Location}

theorem Call.isSound_ofChecked {α : Type} {x : Checked α} {next : α → Call}
    (h : ∀ a, (next a).IsSound file?) : (ofChecked x next).IsSound file? := by
  cases x with
  | ok a => exact h a
  | error e => trivial

namespace Edit

theorem isSound_changeCall (id : String) (c : Change) : (changeCall id c).IsSound file? := by
  intro current
  dsimp only
  split
  · trivial
  · exact fun now => trivial

theorem isSound_updateCall (id : String) (fields : Fields) : (updateCall id fields).IsSound file? :=
  Call.isSound_ofChecked fun c => isSound_changeCall id c

/-- A rule that is changed is there. -/
theorem hasRule_of_updateCall {id : String} {fields : Fields} {s u : Session} {a : Answer}
    (h : s.run (updateCall id fields).perform = (.ok a, u)) : s.HasRule id := by
  rw [updateCall] at h
  cases hc : Change.read fields with
  | error e =>
    rw [hc] at h
    cases h
  | ok c =>
    have hrules := Session.Peeks.rules (s := s)
    rw [hc] at h
    rw [Call.ofChecked, changeCall, Call.perform, Session.run_bind] at h
    rw [Session.HasRule, Service.rule, Session.run_bind]
    generalize s.run Service.rules = r at h hrules ⊢
    cases hrules with
    | error e => cases h
    | ok current _ =>
      dsimp only at h ⊢
      cases hfound : Rule.withId? id current with
      | none =>
        rw [hfound] at h
        cases h
      | some r => exact ⟨r, rfl⟩

theorem isSound_toggleCall (id : String) (enabled : Value) : (toggleCall id enabled).IsSound file? := by
  rw [toggleCall]
  split
  · intro current
    dsimp only
    split
    · trivial
    · exact isSound_changeCall id _
  · exact ⟨fun s a u h => hasRule_of_updateCall h, isSound_updateCall id _⟩

/-- The call of an edit is sound. -/
theorem isSound_call (e : Edit) : e.call.IsSound e.operation.file? := by
  cases e with
  | create fields =>
    exact Call.isSound_ofChecked fun _ now id => Call.isSound_ofChecked fun draft current => trivial
  | update id fields => exact isSound_updateCall id fields
  | delete id =>
    intro current
    dsimp only
    split <;> trivial
  | toggle id enabled => exact isSound_toggleCall id enabled
  | load l replace =>
    refine ⟨rfl, fun incoming => ?_⟩
    split
    · trivial
    · exact fun current now => trivial

end Edit

/-- An edit with the time and the identifiers that it is given. -/
structure Editor where
  now : Timestamp
  ids : IdSource
  edit : Edit

namespace Editor

/-- An edit as a step of a session. -/
def step (e : Editor) : Session.Step := ⟨e.now, e.ids, e.edit.operation⟩

/-- An edit as a thread that is to begin. -/
def thread (e : Editor) : Thread := ⟨e.now, e.ids, .running e.edit.call false⟩

/-- An edit done as a step of a session gives the answer that its thread gives. -/
theorem step_of_gives {e : Editor} {s q : Session} {a : Answer} (h : e.thread.Gives s a q) :
    (s.step e.step).1.outcome = .ok a ∧ q.Matches (s.step e.step).2 := by
  obtain ⟨u, hrun, hu⟩ := h
  have hstep : (s.begin e.step).run e.step.operation.perform = (.ok a, u) := by
    have hperform : e.step.operation.perform = e.thread.task.finish := e.edit.perform_operation
    rw [hperform]
    exact hrun
  rw [Session.step, hstep]
  exact ⟨rfl, hu⟩

end Editor

end RuleLabels
