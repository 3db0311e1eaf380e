import Mathlib.Tactic.Common
import RuleLabels.Http
import RuleLabels.Proofs.Session.Failures

/-!
# What requests come to

A request that leads to an operation has another thread carry it out, and is answered whether that succeeds or
fails.  What the operation does to the store is what it does anywhere: it fails without a trace, it looks, or
it has the store take something once.

* `run_respond`: a response in terms of the route of its request;
* `run_answered_error`: a failure is answered too, and may be noted in the log;
* `answers_perform`: which operations write, and that what they answer is no refusal.
-/

namespace RuleLabels

namespace Session

variable {α β : Type} {may : Write → Prop} {s : Session}

theorem Does.mono {may' : Write → Prop} {r : Except Failure α × Session} (h : Does may s r)
    (hmay : ∀ x, may x → may' x) : Does may' s r := by
  cases h with
  | fails e h => exact .fails e h
  | looks a h => exact .looks a h
  | writes a hx hv hrun hw => exact .writes a (hmay _ hx) hv hrun hw

/-! ## Other threads -/

/-- A session as another thread sees it. -/
def elsewhere (s : Session) : Session := ⟨s.store.elsewhere, s.world⟩

/-- What another thread leaves of a session. -/
def back (s after : Session) : Session :=
  if s.store.isSeparate then { after with store := s.store } else after

theorem run_elsewhere (x : Service α) (s : Session) :
    s.run (Service.elsewhere x) = ((s.elsewhere.run x).1, s.back (s.elsewhere.run x).2) := rfl

/-- A thread that shares the store sees it as it is. -/
theorem elsewhere_of_shared (h : s.store.isSeparate = false) : s.elsewhere = s := by
  obtain ⟨store, world⟩ := s
  cases store with
  | database d =>
    obtain ⟨url, place, maxDepth⟩ := d
    cases place with
    | memory separate t =>
      cases h
      rfl
    | _ => rfl
  | _ => rfl

theorem back_of_shared (h : s.store.isSeparate = false) (after : Session) : s.back after = after := by
  rw [back, h]
  rfl

theorem store_back_of_separate (h : s.store.isSeparate = true) (after : Session) :
    (s.back after).store = s.store := by
  rw [back, h]
  rfl

/-- A thread that leaves its store as it was leaves the store of the session as it was. -/
theorem back_elsewhere (s : Session) (w : World) : s.back ⟨s.elsewhere.store, w⟩ = ⟨s.store, w⟩ := by
  cases h : s.store.isSeparate with
  | true =>
    rw [back, h]
    rfl
  | false => rw [back_of_shared h, elsewhere_of_shared h]

end Session

namespace Http

open Session

/-! ## Responses -/

variable {s : Session}

theorem run_respond {after : Session} {r : Request} {response : Response}
    (h : s.elsewhere.run (respondAt r r.route) = (.ok response, after)) :
    s.run (respond r) = (.ok (response.seenBy r.method), s.back after) := by
  have helsewhere : s.run (Service.elsewhere (respondAt r r.route)) = (.ok response, s.back after) := by
    rw [run_elsewhere, h]
  unfold respond
  exact run_bind_ok helsewhere

/-- A failure may be noted in the log. -/
theorem ends_note (f : Failure) : Ends (note f) := by
  unfold note
  split
  · exact .pure _
  · exact .pure _
  · split
    · exact .log _ _ _
    · exact .pure _

/-- An operation that fails is answered, and what it leaves is left. -/
theorem run_answered_error {x : Service Response} {f : Failure} {after : Session}
    (h : s.run x = (.error f, after)) : ∃ w, after.world.Alike w ∧
      s.run (answered x) = (.ok (ofFailure f), ⟨after.store, w⟩) := by
  obtain ⟨_, w, hnote, halike⟩ := ends_note f after
  refine ⟨w, halike, ?_⟩
  rw [answered, run_tryCatch, h]
  dsimp only
  rw [run_bind_ok hnote]
  rfl

theorem run_answered_ok {x : Service Response} {response : Response} {after : Session}
    (h : s.run x = (.ok response, after)) : s.run (answered x) = (.ok response, after) := by
  rw [answered, run_tryCatch, h]

/-! ## Operations -/

/-- The operations that change rules or records. -/
def Endpoint.writes : Endpoint → Bool
  | .createRule | .updateRule _ | .deleteRule _ | .toggleRule _ | .process => true
  | _ => false

/-- The fault in the body of a rule or of a switch. -/
def Endpoint.bodyError? (body : Option Value) : Endpoint → Option BodyError
  | .createRule | .updateRule _ =>
    match Http.readRule body with
    | .error e => some e
    | .ok _ => none
  | .toggleRule _ =>
    match Http.readSwitch body with
    | .error e => some e
    | .ok _ => none
  | _ => none

/-- An answer of an operation that succeeded: it is no refusal and has not moved, or it could not be sent. -/
def Response.IsAnswer (response : Response) : Prop :=
  response.status < 400 ∧ response.moved? = none ∨ response = .broken

theorem isAnswer_success {status : Nat} (h : status < 400) (fields : Fields) :
    (success status fields).IsAnswer := by
  rw [success]
  split
  · exact .inr rfl
  · split
    · exact .inl ⟨h, rfl⟩
    · exact .inl ⟨h, rfl⟩

variable {e : Endpoint} {t : Target} {body : Option Value}

/-- A body with a fault is refused before anything is done. -/
theorem perform_of_bodyError? {error : BodyError} (h : e.bodyError? body = some error) :
    perform e t body = pure (badBody error) := by
  cases e with
  | createRule | updateRule id =>
    cases hread : Http.readRule body with
    | ok fields =>
      rw [Endpoint.bodyError?, hread] at h
      cases h
    | error fault =>
      rw [Endpoint.bodyError?, hread] at h
      cases h
      rw [perform, withRuleFields, hread]
  | toggleRule id =>
    cases hread : readSwitch body with
    | ok enabled =>
      rw [Endpoint.bodyError?, hread] at h
      cases h
    | error fault =>
      rw [Endpoint.bodyError?, hread] at h
      cases h
      rw [perform, hread]
  | _ => cases h

/-- A body without a fault is handed on to the operation. -/
theorem exists_readRule_of_bodyError? (h : Endpoint.createRule.bodyError? body = none) :
    ∃ fields, readRule body = .ok fields := by
  rw [Endpoint.bodyError?] at h
  split at h
  · cases h
  · rename_i fields hfields
    exact ⟨fields, hfields⟩

/-- An outcome of an operation: it writes at most once, and only if the operation is one that writes, and it
is answered with success, or with what cannot be sent, unless it fails. -/
structure Answers (s : Session) (e : Endpoint) (r : Except Failure Response × Session) : Prop where
  does : Does (fun _ => e.writes = true) s r
  isAnswer : ∀ {response after}, r = (.ok response, after) → response.IsAnswer

theorem Answers.ofResponse {response : Response} (h : response.IsAnswer) :
    Answers s e (s.run (pure response)) := by
  refine ⟨.looks _ (.refl _), ?_⟩
  intro response' after hr
  cases hr
  exact h

/-- What is looked at before makes no difference. -/
theorem Answers.bind {α : Type} {x : Service α} {f : α → Service Response} {post : α → Prop}
    (hx : Peeks post s (s.run x)) (hf : ∀ a, Answers s e (s.run (f a))) :
    Answers s e (s.run (x >>= f)) := by
  refine ⟨.bind hx fun a _ => (hf a).does, ?_⟩
  intro response after hr
  rw [run_bind] at hr
  generalize s.run x = r at hx hr
  cases hx with
  | ok a _ => exact (hf a).isAnswer hr
  | error e => cases hr

/-- A service whose value is made into a response. -/
theorem Answers.map {α : Type} {x : Service α} {f : α → Response}
    (h : Does (fun _ => e.writes = true) s (s.run x)) (hf : ∀ a, (f a).IsAnswer) :
    Answers s e (s.run (x >>= fun a => pure (f a))) := by
  refine ⟨h.bind_ends fun a => .pure _, ?_⟩
  intro response after hr
  rw [run_bind] at hr
  generalize s.run x = r at hr
  obtain ⟨r, t⟩ := r
  cases r with
  | ok a =>
    cases hr
    exact hf a
  | error e => cases hr

/-- A service that keeps orderly rules orderly is one of an operation that writes. -/
theorem Answers.write {α : Type} {x : Service α} {f : α → Response} (fresh : Prop) (hwrites : e.writes = true)
    (h : KeepsOrder s fresh True (s.run x)) (hf : ∀ a, (f a).IsAnswer) :
    Answers s e (s.run (x >>= fun a => pure (f a))) :=
  .map (h.mono fun _ _ => hwrites) hf

/-- **What the operations of requests do.**  Each writes at most once, if it is one that writes, and gets an
answer, unless it fails. -/
theorem answers_perform (s : Session) (t : Target) (h : e.bodyError? body = none) :
    Answers s e (s.run (perform e t body)) := by
  cases e with
  | health =>
    have hstore : Peeks (fun _ => True) s (s.run Service.store) := .ok _ trivial
    exact .bind hstore fun store => .bind (.lift store.reads_info) fun info => .bind .now fun now =>
      .ofResponse (isAnswer_success (by decide) _)
  | listRules => exact .map (.of_peeks .rules) fun _ => isAnswer_success (by decide) _
  | createRule =>
    obtain ⟨fields, hfields⟩ := exists_readRule_of_bodyError? h
    rw [perform, withRuleFields, hfields]
    exact .write _ rfl (does_createRule s fields) fun _ => isAnswer_success (by decide) _
  | readRule id => exact .map (.of_peeks (peeks_rule id)) fun _ => isAnswer_success (by decide) _
  | updateRule id =>
    obtain ⟨fields, hfields⟩ := exists_readRule_of_bodyError? h
    rw [perform, withRuleFields, hfields]
    exact .write True rfl (does_updateRule s id fields) fun _ => isAnswer_success (by decide) _
  | deleteRule id => exact .write True rfl (does_deleteRule s id) fun _ => .inl ⟨by decide, rfl⟩
  | toggleRule id =>
    rw [Endpoint.bodyError?] at h
    split at h
    · cases h
    · rename_i enabled henabled
      rw [perform, henabled]
      exact .write True rfl (does_toggleRule s id enabled) fun _ => isAnswer_success (by decide) _
  | process => exact .write True rfl (does_process s _) fun _ => isAnswer_success (by decide) _
  | test => exact .map (does_dryRun s _) fun _ => isAnswer_success (by decide) _
  | statistics =>
    exact .bind (.ofChecked _) fun c => .map (does_statistics s c) fun _ => isAnswer_success (by decide) _
  | records => exact .map (.of_peeks .records) fun _ => isAnswer_success (by decide) _
  | document => exact .ofResponse (.inl ⟨by decide, rfl⟩)

end Http

end RuleLabels
