import Mathlib.Tactic.Common
import RuleLabels.World

/-!
# Running actions

What an action gives in a world, step by step.  The lemmas turn the run of an action into the runs of its
parts, so that later proofs need not know of which layers an action consists.
-/

namespace RuleLabels.Action

variable {α β : Type}

/-- The second of two actions begins in the world that the first leaves, if the first succeeds. -/
theorem run_bind (x : Action α) (f : α → Action β) (w : World) :
    ExceptT.run (x >>= f) w =
      match ExceptT.run x w with
      | (.ok a, w') => ExceptT.run (f a) w'
      | (.error e, w') => (.error e, w') := by
  rw [ExceptT.run_bind]
  cases h : ExceptT.run x w with
  | mk r w' =>
    simp only [bind, StateT.bind, h]
    cases r with
    | ok a => rfl
    | error e => rfl

theorem run_bind_ok {x : Action α} {f : α → Action β} {w w' : World} {a : α}
    (h : ExceptT.run x w = (.ok a, w')) : ExceptT.run (x >>= f) w = ExceptT.run (f a) w' := by
  rw [run_bind, h]

theorem run_bind_error {x : Action α} {f : α → Action β} {w w' : World} {e : Failure}
    (h : ExceptT.run x w = (.error e, w')) : ExceptT.run (x >>= f) w = (.error e, w') := by
  rw [run_bind, h]

/-- Two actions in a row succeed if the first one does and then the second. -/
theorem run_bind_eq_ok {x : Action α} {f : α → Action β} {w w' : World} {b : β}
    (h : ExceptT.run (x >>= f) w = (.ok b, w')) :
    ∃ a v, ExceptT.run x w = (.ok a, v) ∧ ExceptT.run (f a) v = (.ok b, w') := by
  rw [run_bind] at h
  cases hx : ExceptT.run x w with
  | mk r v =>
    rw [hx] at h
    cases r with
    | ok a => exact ⟨a, v, rfl, h⟩
    | error e => cases h

/-- Two actions in a row fail if the first one does, or the second after it. -/
theorem run_bind_eq_error {x : Action α} {f : α → Action β} {w w' : World} {e : Failure}
    (h : ExceptT.run (x >>= f) w = (.error e, w')) :
    ExceptT.run x w = (.error e, w') ∨
      ∃ a v, ExceptT.run x w = (.ok a, v) ∧ ExceptT.run (f a) v = (.error e, w') := by
  rw [run_bind] at h
  cases hx : ExceptT.run x w with
  | mk r v =>
    rw [hx] at h
    cases r with
    | ok a => exact .inr ⟨a, v, rfl, h⟩
    | error e' =>
      cases h
      exact .inl rfl

/-- What is done about a failure begins in the world that the failed action leaves. -/
theorem run_tryCatch (x : Action α) (f : Failure → Action α) (w : World) :
    ExceptT.run (tryCatch x f) w =
      match ExceptT.run x w with
      | (.ok a, w') => (.ok a, w')
      | (.error e, w') => ExceptT.run (f e) w' := by
  rw [ExceptT.run_tryCatch]
  cases h : ExceptT.run x w with
  | mk r w' =>
    simp only [bind, StateT.bind, h]
    cases r with
    | ok a => rfl
    | error e => rfl

@[simp] theorem run_get (w : World) : ExceptT.run (get : Action World) w = (.ok w, w) := rfl

@[simp] theorem run_now (w : World) : ExceptT.run now w = (.ok w.now, w) := rfl

@[simp] theorem run_freshId (w : World) :
    ExceptT.run freshId w =
      (.ok w.ids.next, { w with ids := w.ids.rest }) := rfl

@[simp] theorem run_log (level : Level) (sender message : String) (w : World) :
    ExceptT.run (log level sender message) w =
      (.ok (), { w with log := w.log.send ⟨level, sender, message⟩ }) := rfl

theorem run_changeFiles_ok {f : Files → Except FileError Files} {w : World} {fs : Files}
    (h : f w.files = .ok fs) : ExceptT.run (changeFiles f) w = (.ok (), { w with files := fs }) := by
  rw [changeFiles, run_bind_ok (run_get w), h]
  rfl

theorem run_changeFiles_error {f : Files → Except FileError Files} {w : World} {e : FileError}
    (h : f w.files = .error e) : ExceptT.run (changeFiles f) w = (.error (.file e), w) := by
  rw [changeFiles, run_bind_ok (run_get w), h]
  rfl

theorem run_changeFiles_eq_ok {f : Files → Except FileError Files} {w w' : World}
    (h : ExceptT.run (changeFiles f) w = (.ok (), w')) :
    ∃ fs, f w.files = .ok fs ∧ w' = { w with files := fs } := by
  rw [changeFiles, run_bind_ok (run_get w)] at h
  cases hf : f w.files with
  | ok fs =>
    simp only [hf] at h
    cases h
    exact ⟨fs, rfl, rfl⟩
  | error e =>
    simp only [hf] at h
    exact nomatch h

theorem run_tryFiles_eq_ok {f : Files → Except (FileError × Files) Files} {w w' : World}
    (h : ExceptT.run (tryFiles f) w = (.ok (), w')) :
    ∃ fs, f w.files = .ok fs ∧ w' = { w with files := fs } := by
  rw [tryFiles, run_bind_ok (run_get w)] at h
  cases hf : f w.files with
  | ok fs =>
    simp only [hf] at h
    cases h
    exact ⟨fs, rfl, rfl⟩
  | error e =>
    simp only [hf] at h
    exact nomatch h

end RuleLabels.Action
