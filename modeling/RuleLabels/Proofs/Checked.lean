import Mathlib.Tactic.Common
import RuleLabels.Fault

/-!
# Outcomes of checks

Checks that follow each other succeed if each of them does.  These lemmas take a reader of a document
apart at its steps, so that no proof has to unfold the sequence.  Two checks of documents that differ in
what does not matter go on together, step by step.
-/

namespace RuleLabels

/-! ## Sequences -/

theorem except_bind_eq_ok {ε α β : Type} {x : Except ε α} {f : α → Except ε β} {b : β} :
    x >>= f = .ok b ↔ ∃ a, x = .ok a ∧ f a = .ok b := by
  cases x with
  | error e =>
    constructor
    · intro h
      cases h
    · rintro ⟨_, h, _⟩
      cases h
  | ok a =>
    constructor
    · intro h
      exact ⟨a, rfl, h⟩
    · rintro ⟨_, h, hf⟩
      cases h
      exact hf

theorem except_map_eq_ok {ε α β : Type} {x : Except ε α} {f : α → β} {b : β} :
    x.map f = .ok b ↔ ∃ a, x = .ok a ∧ f a = b := by
  cases x with
  | error e =>
    constructor
    · intro h
      cases h
    · rintro ⟨_, h, _⟩
      cases h
  | ok a =>
    constructor
    · intro h
      cases h
      exact ⟨a, rfl, rfl⟩
    · rintro ⟨_, h, rfl⟩
      cases h
      rfl

theorem except_bind_eq_error {ε α β : Type} {x : Except ε α} {f : α → Except ε β} {e : ε} :
    x >>= f = .error e ↔ x = .error e ∨ ∃ a, x = .ok a ∧ f a = .error e := by
  cases x with
  | error e' =>
    show Except.error e' = Except.error e ↔ _
    simp
  | ok a =>
    show f a = .error e ↔ _
    simp

theorem except_map_eq_error {ε α β : Type} {x : Except ε α} {f : α → β} {e : ε} :
    x.map f = .error e ↔ x = .error e := by
  cases x with
  | error e' => simp [Except.map]
  | ok a => simp [Except.map]

theorem except_toOption_eq_some {ε α : Type} {x : Except ε α} {a : α} : x.toOption = some a ↔ x = .ok a := by
  cases x with
  | error e => simp [Except.toOption]
  | ok a' => simp [Except.toOption]

theorem except_isOk_eq_true {ε α : Type} {x : Except ε α} : x.isOk = true ↔ ∃ a, x = .ok a := by
  cases x with
  | error e => simp [Except.isOk, Except.toBool]
  | ok a => simp [Except.isOk, Except.toBool]

theorem refuse_eq_error {α : Type} {path : Path} {fault : Fault} {e : Invalid} :
    (refuse path fault : Checked α) = .error e ↔ e = ⟨path, fault⟩ := by
  rw [refuse, Except.error.injEq, eq_comm]

theorem refuse_ne_ok {α : Type} {path : Path} {fault : Fault} {a : α} :
    (refuse path fault : Checked α) ≠ .ok a := fun h => nomatch h

theorem refuseShown_ne_ok {α : Type} {path : Path} {fault : Value → Fault} {v : Value} {a : α} :
    (refuseShown path fault v : Checked α) ≠ .ok a := fun h => nomatch h

/-! ## Two checks -/

namespace Checked

/-- Two checks fail alike, or succeed with results that are related. -/
inductive Rel {α β : Type} (R : α → β → Prop) : Checked α → Checked β → Prop
  | ok {a : α} {b : β} : R a b → Rel R (.ok a) (.ok b)
  | error (e : Invalid) : Rel R (.error e) (.error e)

variable {α β γ δ : Type} {R : α → β → Prop} {S : γ → δ → Prop}

theorem Rel.refl {R : α → α → Prop} (h : ∀ a, R a a) (x : Checked α) : Rel R x x := by
  cases x with
  | error e => exact .error e
  | ok a => exact .ok (h a)

theorem Rel.bind {x : Checked α} {y : Checked β} {f : α → Checked γ} {g : β → Checked δ} (h : Rel R x y)
    (hfg : ∀ a b, R a b → Rel S (f a) (g b)) : Rel S (x >>= f) (y >>= g) := by
  cases h with
  | error e => exact .error e
  | ok hab => exact hfg _ _ hab

theorem Rel.imp {R' : α → β → Prop} {x : Checked α} {y : Checked β} (h : Rel R x y) (hR : ∀ a b, R a b → R' a b) :
    Rel R' x y := by
  cases h with
  | error e => exact .error e
  | ok hab => exact .ok (hR _ _ hab)

/-- Two runs go on from the same outcome. -/
theorem Rel.bind_same {x : Checked α} {f : α → Checked γ} {g : α → Checked δ} (hfg : ∀ a, Rel S (f a) (g a)) :
    Rel S (x >>= f) (x >>= g) :=
  (Rel.refl (R := Eq) (fun _ => rfl) x).bind fun a _ hab => hab ▸ hfg a

theorem Rel.map {x : Checked α} {y : Checked β} {f : α → γ} {g : β → δ} (h : Rel R x y)
    (hfg : ∀ a b, R a b → S (f a) (g b)) : Rel S (x.map f) (y.map g) := by
  cases h with
  | error e => exact .error e
  | ok hab => exact .ok (hfg _ _ hab)

end Checked

/-! ## Fields -/

namespace Fields

theorem present?_eq_some_iff {fields : Fields} {key : String} {v : Value} :
    fields.present? key = some v ↔ fields.get? key = some v ∧ v.isNull = false := by
  rw [present?, Option.filter_eq_some_iff]
  simp

/-- A field counts as absent where it is not there and where it is null. -/
theorem present?_eq_none_iff {fields : Fields} {key : String} :
    fields.present? key = none ↔ fields.get? key = none ∨ fields.get? key = some .null := by
  rw [present?]
  cases fields.get? key with
  | none => simp
  | some v => cases v <;> simp [Value.isNull, Option.filter]

theorem require_eq_ok_iff {fields : Fields} {key : String} {path : Path} {v : Value} :
    fields.require key path = .ok v ↔ fields.get? key = some v ∧ v.isNull = false := by
  rw [require, ← present?_eq_some_iff]
  cases fields.present? key with
  | none => simp [refuse]
  | some w => simp

theorem requireText_eq_ok_iff {fields : Fields} {key : String} {path : Path} {s : String} :
    fields.requireText key path = .ok s ↔
      fields.get? key = some (.text s) ∧ Text.allBlank s = false := by
  rw [requireText, except_bind_eq_ok]
  constructor
  · rintro ⟨v, hv, hs⟩
    rw [require_eq_ok_iff] at hv
    rw [Value.nonBlank.eq_def] at hs
    split at hs
    · rename_i s'
      split at hs
      · exact absurd hs refuse_ne_ok
      · rename_i hb
        cases hs
        exact ⟨hv.1, by simpa using hb⟩
    · exact absurd hs refuse_ne_ok
  · rintro ⟨hv, hs⟩
    exact ⟨.text s, require_eq_ok_iff.2 ⟨hv, rfl⟩, by simp [Value.nonBlank, hs]⟩

end Fields

end RuleLabels
