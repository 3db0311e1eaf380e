import RuleLabels.Proofs.Rule.Locating
import RuleLabels.Rule.File

/-!
# Lists of rules are read alike wherever they stand

A reader of rules is told where its value stands only to name the place of a fault.  So a list that an object
holds under `rules` is read as if it stood alone: the same rules are found, or the same fault at a place that the
same steps lead to.

* `Tree.relocates_readConditions`, `Rule.relocates_read` and `Rule.relocates_readItems`: the readers, from the
  smallest one on;
* `Rule.readAll_of_itemsOf?`: a document is read as the list in it, from where that stands.
-/

namespace RuleLabels

/-- A reader that is told where a field stands finds the same wherever the object stands. -/
theorem Relocates.field {α : Type} {read : Path → Checked α} (h : Relocates read) (name : String) :
    Relocates fun path => read (path.field name) := fun p q => h p (q.field name)

theorem Relocates.index {α : Type} {read : Path → Checked α} (h : Relocates read) (i : Nat) :
    Relocates fun path => read (path.index i) := fun p q => h p (q.index i)

/-- What is refused at a place is refused for the same fault where some steps lead to, at the place that the same
steps lead to from there. -/
theorem Relocates.eq_error_along {α : Type} {read : Path → Checked α} (h : Relocates read) {path : Path}
    {steps : List Step} {fault : Fault} (herror : read path = .error ⟨path.along steps, fault⟩)
    (before : List Step) : read (path.along before) = .error ⟨path.along (before ++ steps), fault⟩ := by
  rw [h.eq_here path] at herror
  rw [h.eq_here (path.along before)]
  cases hhere : read .here with
  | ok a =>
    rw [hhere] at herror
    cases herror
  | error e =>
    rw [hhere] at herror
    simp only [Except.mapError, Invalid.within, Except.error.injEq, Invalid.mk.injEq, Path.append, Path.along,
      Path.mk.injEq, true_and, List.append_cancel_right_eq] at herror
    obtain ⟨hsteps, rfl⟩ := herror
    simp [Except.mapError, Invalid.within, Path.append, Path.along, hsteps]

/-- What is read at one place is read at any other. -/
theorem Relocates.eq_ok_anywhere {α : Type} {read : Path → Checked α} (h : Relocates read) {path : Path} {a : α}
    (hok : read path = .ok a) (place : Path) : read place = .ok a := by
  rw [h.eq_here path] at hok
  rw [h.eq_here place]
  cases hhere : read .here with
  | error e =>
    rw [hhere] at hok
    cases hok
  | ok b =>
    rw [hhere] at hok
    exact hok

theorem relocates_refuse {α : Type} (fault : Fault) : Relocates fun path => (refuse path fault : Checked α) :=
  fun _ _ => rfl

theorem Value.relocates_fields (v : Value) : Relocates v.fields := by
  intro p q
  unfold fields
  split
  · rfl
  · rfl

theorem Tree.relocates_readConditions (v : Value) : Relocates (readConditions v) := by
  have hread : Relocates (read v) := by
    intro p q
    cases hq : read v q with
    | ok t =>
      rw [read_eq_ok_iff] at hq
      exact read_eq_ok_iff.2 hq
    | error e =>
      obtain ⟨steps, fault, hfault, rfl⟩ := read_eq_error_iff.1 hq
      refine read_eq_error_iff.2 ⟨steps, fault, hfault, ?_⟩
      rw [← Path.append_along]
      rfl
  exact hread.map rooted

namespace Rule

/-- A rule is read alike wherever it stands. -/
theorem relocates_read (now : Timestamp) (v : Value) : Relocates (read now v) := by
  unfold read
  apply v.relocates_fields.bind
  intro fields
  apply (fields.pointsAt_require "id").relocates.bind
  intro id
  apply (id.pointsAt_readId.field "id").relocates.bind
  intro id
  apply (fields.pointsAt_readRequired "name" Value.pointsAt_nonBlank).relocates.bind
  intro name
  apply (fields.pointsAt_readRequired "label" Value.pointsAt_nonBlank).relocates.bind
  intro label
  apply (fields.pointsAt_require "conditions").relocates.bind
  intro conditions
  apply ((Tree.relocates_readConditions conditions).field "conditions").bind
  intro conditions
  apply (((fields.get? "priority").getD (.int 1)).pointsAt_readPriority.field "priority").relocates.bind
  intro priority
  apply (((fields.get? "enabled").getD (.bool true)).pointsAt_readEnabled.field "enabled").relocates.bind
  intro enabled
  apply (fields.pointsAt_timestamp? ["createdAt", "created_at"]).relocates.bind
  intro created
  apply (fields.pointsAt_timestamp? ["updatedAt", "updated_at"]).relocates.bind
  intro updated
  exact .ok _

theorem relocates_readEach (now : Timestamp) (vs : List Value) (i : Nat) :
    Relocates fun path => readEach now path i vs := by
  induction vs generalizing i with
  | nil => exact .ok []
  | cons v rest ih =>
    have hstep : (fun path => readEach now path i (v :: rest)) = fun path =>
        read now v (path.index i) >>= fun r => (readEach now path (i + 1) rest).map (r :: ·) := by
      funext path
      rw [readEach]
      cases read now v (path.index i) with
      | error e => rfl
      | ok r => rfl
    rw [hstep]
    apply ((relocates_read now v).index i).bind
    intro r
    exact (ih (i + 1)).map (r :: ·)

theorem relocates_checkDistinct (rules : List Rule) (i : Nat) (seen : List String) :
    Relocates fun path => checkDistinct path i seen rules := by
  induction rules generalizing i seen with
  | nil => exact .ok ()
  | cons r rest ih =>
    unfold checkDistinct
    by_cases hseen : seen.contains r.id = true
    · simp only [if_pos hseen]
      exact ((relocates_refuse _).field "id").index i
    · simp only [if_neg hseen]
      exact ih (i + 1) (r.id :: seen)

theorem relocates_readItems (now : Timestamp) (items : List Value) :
    Relocates fun path => readItems now path items := by
  unfold readItems
  apply (relocates_readEach now items 0).bind
  intro rules
  apply (relocates_checkDistinct rules 0 []).bind
  intro u
  exact .ok rules

/-! ## Documents -/

/-- The steps from the root of a document of rules to the list in it. -/
def stepsToItems (v : Value) : List Step := if v.fields?.isSome then [.field "rules"] else []

/-- The steps to the list in a document lead there. -/
theorem exists_reach?_stepsToItems {v : Value} {items : List Value} (h : itemsOf? v = some items) :
    ∃ list, v.reach? (stepsToItems v) = some list ∧ list.items? = some items := by
  unfold itemsOf? at h
  unfold stepsToItems
  cases hf : v.fields? with
  | none =>
    simp only [hf] at h
    exact ⟨v, rfl, h⟩
  | some fields =>
    simp only [hf] at h
    obtain ⟨list, hlist, hitems⟩ := Option.bind_eq_some_iff.1 h
    exact ⟨list, Value.reach?_field hf hlist, hitems⟩

/-- A document is read as the list in it, from where that stands. -/
theorem readAll_of_itemsOf? {now : Timestamp} {v : Value} {items : List Value} {path : Path}
    (h : itemsOf? v = some items) :
    readAll now v path = readItems now (path.along (stepsToItems v)) items := by
  unfold itemsOf? at h
  unfold readAll stepsToItems
  cases hf : v.fields? with
  | none =>
    simp only [hf] at h
    simp only [Option.bind_none, h]
    rfl
  | some fields =>
    simp only [hf] at h
    obtain ⟨list, hlist, hitems⟩ := Option.bind_eq_some_iff.1 h
    simp only [Option.bind_some, hlist, hitems]
    rfl

end Rule

end RuleLabels
