import Mathlib.Tactic.Common
import RuleLabels.Proofs.Action
import RuleLabels.Proofs.Files

/-!
# Reading actions

Two worlds are alike if they have one time, the same entries and the same removed files; their identifiers
and logs may differ, and the numbers that are left for new files.  An action that reads has one outcome in
worlds that are alike, and leaves the world as it is.
-/

namespace RuleLabels

/-! ## Files with the same entries -/

namespace Files

variable {fs fs' : Files}

theorem entryAt?_congr (h : fs'.entries = fs.entries) (key : FileKey) : fs'.entryAt? key = fs.entryAt? key := by
  rw [entryAt?, entryAt?, h]

theorem key_congr (h : fs'.entries = fs.entries) (l : Location) : fs'.key l = fs.key l := by
  rw [key, key]
  split
  · rfl
  · refine follow_congr (fun key => ?_) (fun key => ?_) _ _
    · rw [entryAt?_congr h]
    · rw [entryAt?_congr h]

theorem find_congr (h : fs'.entries = fs.entries) (l : Location) : fs'.find l = fs.find l := by
  simp only [find, key_congr h, entryAt?_congr h]

theorem content_congr (h : fs'.entries = fs.entries) (l : Location) : fs'.content l = fs.content l := by
  rw [content, content, find_congr h]

theorem names_congr (h : fs'.entries = fs.entries) (l : Location) : fs'.names l = fs.names l := by
  rw [names, names, find_congr h, key_congr h, h]

theorem numberAt?_congr (h : fs'.entries = fs.entries) (l : Location) : fs'.numberAt? l = fs.numberAt? l := by
  rw [numberAt?, numberAt?, find_congr h]

theorem contentOf?_congr (h : fs'.entries = fs.entries) (hr : fs'.removed = fs.removed) (number : Nat) :
    fs'.contentOf? number = fs.contentOf? number := by
  rw [contentOf?, contentOf?, h, hr]

end Files

/-! ## Worlds that are alike -/

/-- Two worlds with one time, the same entries and the same removed files. -/
structure World.Alike (w w' : World) : Prop where
  now : w'.now = w.now
  entries : w'.files.entries = w.files.entries
  removed : w'.files.removed = w.files.removed

namespace World.Alike

variable {w w' w'' : World}

theorem refl (w : World) : w.Alike w := ⟨rfl, rfl, rfl⟩

theorem trans (h : w.Alike w') (h' : w'.Alike w'') : w.Alike w'' :=
  ⟨h'.now.trans h.now, h'.entries.trans h.entries, h'.removed.trans h.removed⟩

/-- Identifiers may be taken. -/
theorem ids (w : World) (ids : IdSource) : w.Alike { w with ids } := ⟨rfl, rfl, rfl⟩

theorem log (w : World) (log : Log) : w.Alike { w with log } := ⟨rfl, rfl, rfl⟩

end World.Alike

/-! ## Reading -/

/-- An action leaves the world as it is, and has one outcome in worlds that are alike. -/
structure Action.Reads {α : Type} (x : Action α) : Prop where
  world : ∀ w, (ExceptT.run x w).2 = w
  outcome : ∀ {w w'}, w.Alike w' → (ExceptT.run x w').1 = (ExceptT.run x w).1

namespace Action.Reads

variable {α β : Type} {x : Action α} {f : α → Action β} {w w' : World}

theorem run (h : x.Reads) (w : World) : ExceptT.run x w = ((ExceptT.run x w).1, w) := by
  have := h.world w
  exact Prod.ext rfl this

/-- The world after reading is the world before. -/
theorem world_eq (h : x.Reads) {r : Except Failure α} (hr : ExceptT.run x w = (r, w')) : w = w' := by
  rw [← h.world w, hr]

theorem pure (a : α) : (Pure.pure a : Action α).Reads := ⟨fun _ => rfl, fun _ => rfl⟩

theorem throw (e : Failure) : (MonadExcept.throw e : Action α).Reads := ⟨fun _ => rfl, fun _ => rfl⟩

theorem now : Action.now.Reads := ⟨fun _ => rfl, fun h => congrArg Except.ok h.now⟩

theorem ofChecked (c : Checked α) : (Action.ofChecked c).Reads := by
  cases c with
  | ok a => exact pure a
  | error e => exact throw _

theorem bind (hx : x.Reads) (hf : ∀ a, (f a).Reads) : (x >>= f).Reads := by
  constructor
  · intro w
    rw [Action.run_bind, hx.run w]
    cases (ExceptT.run x w).1 with
    | ok a => exact (hf a).world w
    | error e => rfl
  · intro w w' h
    rw [Action.run_bind, Action.run_bind, hx.run w, hx.run w', hx.outcome h]
    cases (ExceptT.run x w).1 with
    | ok a => exact (hf a).outcome h
    | error e => rfl

/-- An action that begins with reading fails there, or goes on with what was read. -/
theorem run_bind_or (h : x.Reads) (f : α → Action β) (w : World) :
    (∃ e, ExceptT.run (x >>= f) w = (.error e, w)) ∨
      ∃ a, ExceptT.run x w = (.ok a, w) ∧ ExceptT.run (x >>= f) w = ExceptT.run (f a) w := by
  rw [Action.run_bind, h.run w]
  cases (ExceptT.run x w).1 with
  | ok a => exact .inr ⟨a, rfl, rfl⟩
  | error e => exact .inl ⟨e, rfl⟩

/-- An action that looks at the world, and sees the same in worlds that are alike. -/
theorem of_get {g : World → Action β} (hg : ∀ w, (g w).Reads) (hsame : ∀ {w w'}, w.Alike w' → g w' = g w) :
    (get >>= g : Action β).Reads := by
  constructor
  · intro w
    rw [Action.run_bind_ok (Action.run_get w)]
    exact (hg w).world w
  · intro w w' h
    rw [Action.run_bind_ok (Action.run_get w), Action.run_bind_ok (Action.run_get w'), hsame h]
    exact (hg w).outcome h

end Action.Reads

end RuleLabels
