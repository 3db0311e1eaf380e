import RuleLabels.Proofs.Tree.Faults
import RuleLabels.Rule

/-!
# The first fault of a rule

The fields of a rule are checked in a fixed order, with all of its conditions in the middle.

* `FirstFault` is the first fault of a rule in that order, with the steps to its place;
* `read_eq_error_iff_firstFault`: trees, conditions and rules are refused for their first fault, at the place
  that its steps lead to from wherever the document stands.
-/

namespace RuleLabels

/-! ## Checks of single fields -/

namespace Value

theorem pointsAt_readId (v : Value) : PointsAt [] v.readId := by
  intro path
  rw [readId.eq_def, readId.eq_def]
  split
  · rfl
  · split
    · rfl
    · split
      · rfl
      · split
        · rfl
        · rfl

theorem pointsAt_readPriority (v : Value) : PointsAt [] v.readPriority := by
  intro path
  rw [readPriority.eq_def, readPriority.eq_def]
  split
  · rfl
  · rfl
  · split
    · rfl
    · rfl
  · split
    · rfl
    · rfl
  · rfl

theorem pointsAt_readEnabled (v : Value) : PointsAt [] v.readEnabled := by
  intro path
  rw [readEnabled.eq_def, readEnabled.eq_def]
  split
  · rfl
  · rfl

theorem pointsAt_readTimestamp (v : Value) : PointsAt [] v.readTimestamp := by
  intro path
  rw [readTimestamp.eq_def, readTimestamp.eq_def]
  split
  · rfl
  · split
    · rfl
    · split
      · rfl
      · rfl
  · rfl

end Value

namespace Fields

/-- The first of some names whose field is there. -/
def firstName (fields : Fields) (names : List String) : String :=
  ((fields.firstPresent? names).map Prod.fst).getD ""

theorem pointsAt_timestamp? (fields : Fields) (names : List String) :
    PointsAt [.field (fields.firstName names)] (fields.timestamp? names) := by
  intro path
  rw [timestamp?, timestamp?, firstName]
  cases fields.firstPresent? names with
  | none => rfl
  | some found =>
    obtain ⟨name, v⟩ := found
    have hfield := v.pointsAt_readTimestamp.field name path
    simp only at hfield ⊢
    rw [hfield]
    cases v.readTimestamp (Path.here.field name) with
    | error e => rfl
    | ok t => rfl

end Fields

/-! ## Rules -/

namespace Rule

/-- The checks of a rule before its conditions, in order. -/
def checksBefore (fields : Fields) : List (String × Option Fault) :=
  [("id", faultOf (fields.readRequired "id" Value.readId)),
    ("name", faultOf (fields.readRequired "name" Value.nonBlank)),
    ("label", faultOf (fields.readRequired "label" Value.nonBlank)),
    ("conditions", faultOf (fields.require "conditions"))]

/-- The checks of a rule after its conditions, in order. -/
def checksAfter (fields : Fields) : List (String × Option Fault) :=
  [("priority", faultOf fun path =>
      ((fields.get? "priority").getD (.int 1)).readPriority (path.field "priority")),
    ("enabled", faultOf fun path =>
      ((fields.get? "enabled").getD (.bool true)).readEnabled (path.field "enabled")),
    (fields.firstName ["createdAt", "created_at"], faultOf (fields.timestamp? ["createdAt", "created_at"])),
    (fields.firstName ["updatedAt", "updated_at"], faultOf (fields.timestamp? ["updatedAt", "updated_at"]))]

/-- The first fault of a rule, and the steps to it. -/
inductive FirstFault (v : Value) : List Step → Fault → Prop where
  /-- A rule is an object. -/
  | notAnObject : v.fields? = none → FirstFault v [] (.notAnObject v.kind)
  /-- Its first fields pass their checks. -/
  | before {fields : Fields} {name : String} {fault : Fault} :
    v.fields? = some fields → Fields.firstFault? (checksBefore fields) = some (name, fault) →
      FirstFault v [.field name] fault
  /-- Then its conditions are in order. -/
  | conditions {fields : Fields} {w : Value} {steps : List Step} {fault : Fault} :
    v.fields? = some fields → Fields.firstFault? (checksBefore fields) = none →
      fields.present? "conditions" = some w → Tree.FirstFault w steps fault →
        FirstFault v (.field "conditions" :: steps) fault
  /-- Then its other fields pass their checks. -/
  | after {fields : Fields} {w : Value} {t : Tree} {name : String} {fault : Fault} :
    v.fields? = some fields → Fields.firstFault? (checksBefore fields) = none →
      fields.present? "conditions" = some w → Tree.Spells w t →
        Fields.firstFault? (checksAfter fields) = some (name, fault) → FirstFault v [.field name] fault

/-- The fields of a rule after its conditions are read in order. -/
theorem readAfter_eq_error_iff {fields : Fields} {path : Path} {e : Invalid} {α : Type}
    (rule : Int → Bool → Option Timestamp → Option Timestamp → α) :
    (do
      let priority ← ((fields.get? "priority").getD (.int 1)).readPriority (path.field "priority")
      let enabled ← ((fields.get? "enabled").getD (.bool true)).readEnabled (path.field "enabled")
      let created ← fields.timestamp? ["createdAt", "created_at"] path
      let updated ← fields.timestamp? ["updatedAt", "updated_at"] path
      return rule priority enabled created updated) = .error e ↔
      e.AtField path (Fields.firstFault? (checksAfter fields)) := by
  have hpriority := ((fields.get? "priority").getD (.int 1)).pointsAt_readPriority.field "priority"
  have henabled := ((fields.get? "enabled").getD (.bool true)).pointsAt_readEnabled.field "enabled"
  have hcreated := fields.pointsAt_timestamp? ["createdAt", "created_at"]
  have hupdated := fields.pointsAt_timestamp? ["updatedAt", "updated_at"]
  refine hpriority.bind_eq_error_iff fun _ _ => henabled.bind_eq_error_iff fun _ _ =>
    hcreated.bind_eq_error_iff fun _ _ => ?_
  rw [← hupdated.eq_error_iff, except_bind_eq_error]
  simp [pure, Except.pure]

/-- The fields of a rule are read in order, its conditions after the fields before them and before the
others. -/
theorem read_eq_error_iff_atField {now : Timestamp} {v : Value} {fields : Fields} {path : Path} {e : Invalid}
    (hf : v.fields? = some fields) :
    read now v path = .error e ↔
      e.AtField path (Fields.firstFault? (checksBefore fields)) ∨
        Fields.firstFault? (checksBefore fields) = none ∧ ∃ w, fields.present? "conditions" = some w ∧
          (Tree.readConditions w (path.field "conditions") = .error e ∨
            (∃ t, Tree.Spells w t) ∧ e.AtField path (Fields.firstFault? (checksAfter fields))) := by
  have hid := fields.pointsAt_readRequired "id" Value.pointsAt_readId
  have hname := fields.pointsAt_readRequired "name" Value.pointsAt_nonBlank
  have hlabel := fields.pointsAt_readRequired "label" Value.pointsAt_nonBlank
  have hconditions := fields.pointsAt_require "conditions"
  rw [read, Value.fields, hf]
  show (fields.require "id" path >>= fun w => w.readId (path.field "id") >>= _) = _ ↔ _
  rw [Fields.require_bind]
  refine hid.bind_eq_error_iff_or fun _ _ => hname.bind_eq_error_iff_or fun _ _ =>
    hlabel.bind_eq_error_iff_or fun _ _ => hconditions.bind_eq_error_iff_or fun w hw => ?_
  have hpresent : fields.present? "conditions" = some w :=
    Fields.present?_eq_some_iff.2 (Fields.require_eq_ok_iff.1 hw)
  have hspells : (∃ t, Tree.readConditions w (path.field "conditions") = .ok t) ↔ ∃ t, Tree.Spells w t := by
    simp only [Tree.readConditions, except_map_eq_ok, Tree.read_eq_ok_iff]
    constructor
    · rintro ⟨_, t, h, -⟩
      exact ⟨t, h⟩
    · rintro ⟨t, h⟩
      exact ⟨_, t, h, rfl⟩
  rw [except_bind_eq_error]
  constructor
  · rintro (h | ⟨t, ht, h⟩)
    · exact .inr ⟨rfl, w, hpresent, .inl h⟩
    · exact .inr ⟨rfl, w, hpresent, .inr ⟨hspells.1 ⟨t, ht⟩, (readAfter_eq_error_iff _).1 h⟩⟩
  · rintro (⟨_, _, h, -⟩ | ⟨-, w', hw', h⟩)
    · cases h
    · obtain rfl := Option.some.inj (hpresent.symm.trans hw')
      rcases h with h | ⟨hs, h⟩
      · exact .inl h
      · obtain ⟨t, ht⟩ := hspells.2 hs
        exact .inr ⟨t, ht, (readAfter_eq_error_iff _).2 h⟩

/-- A rule is refused for its first fault. -/
theorem read_eq_error_iff {now : Timestamp} {v : Value} {path : Path} {e : Invalid} :
    read now v path = .error e ↔
      ∃ steps fault, FirstFault v steps fault ∧ e = ⟨path.along steps, fault⟩ := by
  cases hf : v.fields? with
  | none =>
    have hread : read now v path = refuse path (.notAnObject v.kind) := by
      rw [read, Value.fields, hf]
      rfl
    rw [hread, refuse_eq_error]
    constructor
    · rintro rfl
      exact ⟨[], _, .notAnObject hf, rfl⟩
    · rintro ⟨steps, fault, h, rfl⟩
      cases h with
      | notAnObject => rfl
      | before hf' | conditions hf' | after hf' => exact nomatch hf.symm.trans hf'
  | some fields =>
    have hsame {fields' : Fields} (hf' : v.fields? = some fields') : fields' = fields :=
      Option.some.inj (hf'.symm.trans hf)
    rw [read_eq_error_iff_atField hf]
    constructor
    · rintro (⟨name, fault, hfound, rfl⟩ | ⟨hpass, w, hw, hrest⟩)
      · exact ⟨_, _, .before hf hfound, rfl⟩
      · rcases hrest with h | ⟨⟨t, ht⟩, name, fault, hfound, rfl⟩
        · obtain ⟨steps, fault, hw', rfl⟩ := Tree.readConditions_eq_error_iff.1 h
          exact ⟨_, _, .conditions hf hpass hw hw', by simp⟩
        · exact ⟨_, _, .after hf hpass hw ht hfound, rfl⟩
    · rintro ⟨steps, fault, h, rfl⟩
      cases h with
      | notAnObject hf' => exact nomatch hf.symm.trans hf'
      | before hf' hfound =>
        obtain rfl := hsame hf'
        exact .inl ⟨_, _, hfound, rfl⟩
      | conditions hf' hpass hw hw' =>
        obtain rfl := hsame hf'
        refine .inr ⟨hpass, _, hw, .inl (Tree.readConditions_eq_error_iff.2 ⟨_, _, hw', ?_⟩)⟩
        simp
      | after hf' hpass hw ht hfound =>
        obtain rfl := hsame hf'
        exact .inr ⟨hpass, _, hw, .inr ⟨⟨_, ht⟩, _, _, hfound, rfl⟩⟩

/-- **The first fault is the one reported.**  Trees, conditions and rules are read as the recursion reads
them that names every place from the root.  They are refused for their first fault in the order of the
document, at the place that its steps lead to from where the document stands; these go through the list that
every group around the fault uses, and the number of the member in it. -/
theorem read_eq_error_iff_firstFault :
    (∀ (v : Value) (path : Path), Tree.read v path = Tree.readDeep v path ∧
      ∀ e, Tree.read v path = .error e ↔
        ∃ steps fault, Tree.FirstFault v steps fault ∧ e = ⟨path.along steps, fault⟩) ∧
    (∀ (v : Value) (path : Path) (e : Invalid), Tree.readConditions v path = .error e ↔
      ∃ steps fault, Tree.FirstFault v steps fault ∧ e = ⟨path.along steps, fault⟩) ∧
    (∀ (now : Timestamp) (v : Value) (path : Path) (e : Invalid), read now v path = .error e ↔
      ∃ steps fault, FirstFault v steps fault ∧ e = ⟨path.along steps, fault⟩) ∧
    (∀ (v : Value) (steps : List Step) (fault : Fault), Tree.FirstFault v steps fault →
      ∃ (groups : List (String × Nat)) (own : Option String),
        (∀ g ∈ groups, g.1 = "conditions" ∨ g.1 = "children") ∧
          steps = (groups.flatMap fun g => [.field g.1, .index g.2]) ++ (own.map Step.field).toList) ∧
    ∀ (path : Path) (steps : List Step),
      (path.along steps).text = path.text ++ String.join (steps.map Step.text) :=
  ⟨fun v path => ⟨Tree.read_eq_readDeep v path, fun _ => Tree.read_eq_error_iff⟩,
    fun _ _ _ => Tree.readConditions_eq_error_iff, fun _ _ _ _ => read_eq_error_iff,
    fun _ _ _ => Tree.FirstFault.exists_steps, Path.text_along⟩

end Rule

end RuleLabels
