import Mathlib.Tactic.Common
import RuleLabels.Proofs.Action
import RuleLabels.Session

/-!
# Services in two sessions

Two sessions agree on a service if it gives one value in both, or fails in both for one reason.  Agreement
goes through sequences of services: what relates the sessions after the first service has to make them agree
on the second.
-/

namespace RuleLabels.Session

variable {α β : Type}

/-! ## Runs -/

/-- The second of two services runs in the session that the first leaves, if the first succeeds. -/
theorem run_bind (x : Service α) (f : α → Service β) (s : Session) :
    s.run (x >>= f) =
      match s.run x with
      | (.ok a, t) => t.run (f a)
      | (.error e, t) => (.error e, t) := by
  rw [run, run, ExceptT.run_bind]
  cases h : ExceptT.run x s with
  | mk r t =>
    simp only [bind, StateT.bind, h]
    cases r <;> rfl

theorem run_bind_ok {x : Service α} {f : α → Service β} {s t : Session} {a : α} (h : s.run x = (.ok a, t)) :
    s.run (x >>= f) = t.run (f a) := by
  rw [run_bind, h]

theorem run_bind_error {x : Service α} {f : α → Service β} {s t : Session} {e : Failure}
    (h : s.run x = (.error e, t)) : s.run (x >>= f) = (.error e, t) := by
  rw [run_bind, h]

/-- What is done about a failure begins in the session that the failed service leaves. -/
theorem run_tryCatch (x : Service α) (f : Failure → Service α) (s : Session) :
    s.run (tryCatch x f) =
      match s.run x with
      | (.ok a, t) => (.ok a, t)
      | (.error e, t) => t.run (f e) := by
  rw [run, run, ExceptT.run_tryCatch]
  cases h : ExceptT.run x s with
  | mk r t =>
    simp only [bind, StateT.bind, h]
    cases r <;> rfl

/-- An action leaves the store as it is. -/
theorem run_lift {x : Action α} {s : Session} {r : Except Failure α} {w : World}
    (h : ExceptT.run x s.world = (r, w)) : s.run (liftM x) = (r, ⟨s.store, w⟩) := by
  have hlift : s.run (liftM x) = ((ExceptT.run x s.world).1, ⟨s.store, (ExceptT.run x s.world).2⟩) := rfl
  rw [hlift, h]

/-- A function of the value of a service. -/
theorem run_map (f : α → β) (x : Service α) (s : Session) :
    s.run (f <$> x) = ((s.run x).1.map f, (s.run x).2) := by
  rw [map_eq_pure_bind, run_bind]
  cases s.run x with
  | mk r t => cases r <;> rfl

theorem run_store (s : Session) : s.run Service.store = (.ok s.store, s) := rfl

theorem run_rules (s : Session) : s.run Service.rules = s.run (liftM s.store.rules) := rfl

theorem run_records (s : Session) : s.run Service.records = s.run (liftM s.store.records) := rfl

/-- A store that gives another one takes its place; one that fails stays. -/
theorem run_setStore (x : Store → Action Store) (s : Session) :
    s.run (Service.store >>= fun store => liftM (x store) >>= Service.setStore) =
      match ExceptT.run (x s.store) s.world with
      | (.ok store, w) => (.ok (), ⟨store, w⟩)
      | (.error e, w) => (.error e, ⟨s.store, w⟩) := by
  rw [run_bind_ok (run_store s)]
  cases h : ExceptT.run (x s.store) s.world with
  | mk r w =>
    rw [run_bind, run_lift h]
    cases r <;> rfl

theorem run_saveRules {s : Session} {rules : List Rule} {store : Store} {world : World}
    (h : ExceptT.run (s.store.saveRules rules) s.world = (.ok store, world)) :
    s.run (Service.saveRules rules) = (.ok (), ⟨store, world⟩) := by
  have hrun := run_setStore (Store.saveRules rules) s
  rw [h] at hrun
  exact hrun

theorem run_append {s : Session} {r : Record} {store : Store} {world : World}
    (h : ExceptT.run (s.store.append r) s.world = (.ok store, world)) :
    s.run (Service.append r) = (.ok (), ⟨store, world⟩) := by
  have hrun := run_setStore (Store.append r) s
  rw [h] at hrun
  exact hrun

/-! ## Agreement -/

/-- Two outcomes agree: they are of one value, and `post` holds of it and of the sessions behind them; or
they are failures for one reason, and `fail` holds of the sessions behind them. -/
inductive Agree (fail : Session → Session → Prop) (post : α → Session → Session → Prop) :
    Except Failure α × Session → Except Failure α × Session → Prop
  | ok (a : α) (s t : Session) (h : post a s t) : Agree fail post (.ok a, s) (.ok a, t)
  | error (e : Failure) (s t : Session) (h : fail s t) : Agree fail post (.error e, s) (.error e, t)

namespace Agree

variable {fail : Session → Session → Prop} {post : α → Session → Session → Prop} {s t : Session}

theorem pure {a : α} (h : post a s t) :
    Agree fail post (s.run (Pure.pure a)) (t.run (Pure.pure a)) := .ok a s t h

theorem throw (e : Failure) (h : fail s t) :
    Agree fail post (s.run (MonadExcept.throw e)) (t.run (MonadExcept.throw e)) := .error e s t h

theorem mono {post' : α → Session → Session → Prop} {x y : Except Failure α × Session}
    (h : Agree fail post x y) (hpost : ∀ a s t, post a s t → post' a s t) : Agree fail post' x y := by
  cases h with
  | ok a s t h => exact .ok a s t (hpost a s t h)
  | error e s t h => exact .error e s t h

/-- Sessions that agree on a service, and on another one wherever the first leads, agree on both in a
row. -/
theorem bind {x : Service α} {f : α → Service β} {post' : β → Session → Session → Prop}
    (hx : Agree fail post (s.run x) (t.run x))
    (hf : ∀ a s' t', post a s' t' → Agree fail post' (s'.run (f a)) (t'.run (f a))) :
    Agree fail post' (s.run (x >>= f)) (t.run (x >>= f)) := by
  rw [run_bind, run_bind]
  generalize s.run x = r at hx ⊢
  generalize t.run x = r' at hx ⊢
  cases hx with
  | ok a s' t' h => exact hf a s' t' h
  | error e s' t' h => exact .error e s' t' h

theorem map {x : Service α} {f : α → β} {post' : β → Session → Session → Prop}
    (hx : Agree fail post (s.run x) (t.run x))
    (hf : ∀ a s' t', post a s' t' → post' (f a) s' t') :
    Agree fail post' (s.run (f <$> x)) (t.run (f <$> x)) := by
  rw [run_map, run_map]
  generalize s.run x = r at hx ⊢
  generalize t.run x = r' at hx ⊢
  cases hx with
  | ok a s' t' h => exact .ok (f a) s' t' (hf a s' t' h)
  | error e s' t' h => exact .error e s' t' h

/-- An action that gives one outcome in both surroundings, and leaves them as `v` and `w`. -/
theorem lift {x : Action α} {r : Except Failure α} {v w : World} (hs : ExceptT.run x s.world = (r, v))
    (ht : ExceptT.run x t.world = (r, w)) (herror : ∀ e, r = .error e → fail ⟨s.store, v⟩ ⟨t.store, w⟩) :
    Agree fail (fun a s' t' => r = .ok a ∧ s' = ⟨s.store, v⟩ ∧ t' = ⟨t.store, w⟩) (s.run (liftM x))
      (t.run (liftM x)) := by
  rw [run_lift hs, run_lift ht]
  cases r with
  | ok a => exact .ok a _ _ ⟨rfl, rfl, rfl⟩
  | error e => exact .error e _ _ (herror e rfl)

/-- The outcome of a check is the same everywhere. -/
theorem ofChecked (c : Checked α) (herror : fail s t) :
    Agree fail (fun a s' t' => c = .ok a ∧ s' = s ∧ t' = t) (s.run (liftM (Action.ofChecked c)))
      (t.run (liftM (Action.ofChecked c))) := by
  cases c with
  | ok a => exact .ok a s t ⟨rfl, rfl, rfl⟩
  | error e => exact .error (.ofInvalid e) s t herror

end Agree

end RuleLabels.Session
