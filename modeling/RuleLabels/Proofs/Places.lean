import RuleLabels.Proofs.Checked

/-!
# Faults and their places

A reader is told where its value stands only to name the place of a fault.  So it may be told the place
later: a reader that starts anywhere finds what it finds from `Path.here`, at the places that the same steps
lead to.

* `Relocates` says this of a reader, with one rule for sequences;
* `PointsAt` says it of one check, which has a single place to point at, and `faultOf` is what the check
  finds there;
* `Fields.readRequired` is the check of a field that has to be there.
-/

namespace RuleLabels

/-! ## Paths -/

namespace Path

/-- The place that some steps lead to, the first one first. -/
def along (p : Path) (steps : List Step) : Path := { p with steps := steps.reverse ++ p.steps }

@[simp]
theorem along_nil (p : Path) : p.along [] = p := rfl

@[simp]
theorem along_field (p : Path) (name : String) (steps : List Step) :
    p.along (.field name :: steps) = (p.field name).along steps := by
  simp [along, field]

@[simp]
theorem along_index (p : Path) (i : Nat) (steps : List Step) :
    p.along (.index i :: steps) = (p.index i).along steps := by
  simp [along, index]

theorem append_along (p q : Path) (steps : List Step) :
    p.append (q.along steps) = (p.append q).along steps := by
  simp [append, along]

/-- The text of a place is that of the place before, and then that of the steps. -/
theorem text_along (p : Path) (steps : List Step) :
    (p.along steps).text = p.text ++ String.join (steps.map Step.text) := by
  simp [along, text, String.join_append, String.append_assoc]

end Path

/-! ## Readers -/

/-- A reader that is told where its value stands finds the same from there. -/
def Relocates {α : Type} (read : Path → Checked α) : Prop :=
  ∀ p q, read (p.append q) = (read q).mapError (·.within p)

theorem Relocates.eq_here {α : Type} {read : Path → Checked α} (h : Relocates read) (path : Path) :
    read path = (read .here).mapError (·.within path) := h path .here

theorem Relocates.ok {α : Type} (a : α) : Relocates fun _ => .ok a := fun _ _ => rfl

/-- What is read one after the other is found from anywhere if each part is. -/
theorem Relocates.bind {α β : Type} {read : Path → Checked α} {next : α → Path → Checked β}
    (h : Relocates read) (hnext : ∀ a, Relocates (next a)) :
    Relocates fun path => read path >>= fun a => next a path := by
  intro p q
  show read (p.append q) >>= _ = (read q >>= fun a => next a q).mapError _
  rw [h p q]
  cases read q with
  | error e => rfl
  | ok a => exact hnext a p q

theorem Relocates.map {α β : Type} {read : Path → Checked α} (f : α → β) (h : Relocates read) :
    Relocates fun path => (read path).map f := by
  intro p q
  show (read (p.append q)).map f = ((read q).map f).mapError _
  rw [h p q]
  cases read q with
  | error e => rfl
  | ok a => rfl

/-! ## Checks -/

/-- What a check finds wrong, wherever its value stands. -/
def faultOf {α : Type} (check : Path → Checked α) : Option Fault :=
  match check .here with
  | .ok _ => none
  | .error e => some e.fault

/-- A check finds fault with one place only, to which some steps lead. -/
def PointsAt {α : Type} (steps : List Step) (check : Path → Checked α) : Prop :=
  ∀ path, check path = (check .here).mapError fun e => ⟨path.along steps, e.fault⟩

namespace PointsAt

variable {α : Type} {steps : List Step} {check : Path → Checked α}

theorem relocates (h : PointsAt steps check) : Relocates check := by
  intro p q
  rw [h, h q]
  cases check .here with
  | error e => simp [Except.mapError, Invalid.within, Path.append_along]
  | ok a => rfl

theorem eq_refuse (h : PointsAt steps check) {fault : Fault} (hf : faultOf check = some fault)
    (path : Path) : check path = refuse (path.along steps) fault := by
  rw [h path]
  rw [faultOf] at hf
  cases hc : check .here with
  | error e =>
    rw [hc] at hf
    cases hf
    rfl
  | ok a =>
    rw [hc] at hf
    exact nomatch hf

theorem exists_ok (h : PointsAt steps check) (hf : faultOf check = none) :
    ∃ a, ∀ path, check path = .ok a := by
  rw [faultOf] at hf
  cases hc : check .here with
  | error e =>
    rw [hc] at hf
    exact nomatch hf
  | ok a =>
    refine ⟨a, fun path => ?_⟩
    rw [h path, hc]
    rfl

/-- A check of the value at hand is a check of a field where that value stands. -/
theorem field {check : Path → Checked α} (h : PointsAt [] check) (name : String) :
    PointsAt [.field name] fun path => check (path.field name) := by
  intro path
  show check (path.field name) = (check (Path.here.field name)).mapError _
  rw [h (path.field name), h (Path.here.field name)]
  cases check .here with
  | error e => rfl
  | ok a => rfl

end PointsAt

/-- A check of a text that has to hold more than blanks. -/
theorem Value.pointsAt_nonBlank (v : Value) : PointsAt [] v.nonBlank := by
  intro path
  rw [nonBlank.eq_def, nonBlank.eq_def]
  split
  · split
    · rfl
    · rfl
  · rfl

namespace Fields

theorem pointsAt_require (fields : Fields) (key : String) : PointsAt [.field key] (fields.require key) := by
  intro path
  rw [require, require]
  cases fields.present? key with
  | none => rfl
  | some v => rfl

/-- Reads a field that has to be there. -/
def readRequired {α : Type} (fields : Fields) (key : String) (read : Value → Path → Checked α)
    (path : Path) : Checked α := do
  read (← fields.require key path) (path.field key)

theorem pointsAt_readRequired {α : Type} (fields : Fields) (key : String)
    {read : Value → Path → Checked α} (h : ∀ v, PointsAt [] (read v)) :
    PointsAt [.field key] (fields.readRequired key read) := by
  intro path
  simp only [readRequired, require]
  cases fields.present? key with
  | none => rfl
  | some v => exact (h v).field key path

/-- What is read after a field that has to be there is read after both of its checks. -/
theorem require_bind {α β : Type} (fields : Fields) (key : String) (read : Value → Path → Checked α)
    (path : Path) (next : α → Checked β) :
    (fields.require key path >>= fun v => read v (path.field key) >>= next) =
      fields.readRequired key read path >>= next := by
  rw [readRequired, bind_assoc]

end Fields

end RuleLabels
