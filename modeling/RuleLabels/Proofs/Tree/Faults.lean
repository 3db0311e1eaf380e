import RuleLabels.Proofs.Tree.Spelling

/-!
# The first fault of a document

Which fault a rejected tree is refused for, and at which place, said without a reader.  Checks come in the
order of the document: a node's own ones first, and then those of its members from the left, each member with
all that it holds.

* `Fields.firstFault?` is the first of some checks that finds a fault;
* `OwnFault` is the first fault of a node itself, and `FirstFault` that of a document, with the steps to its
  place: the field and the number of a member for every group around it, and then a field of the node;
* `read_eq_error_iff`: what is read fails with the first fault, at the place that its steps lead to.
-/

namespace RuleLabels

/-! ## Checks in order -/

/-- The first of some checks of fields that finds a fault, and the fault. -/
def Fields.firstFault? (checks : List (String × Option Fault)) : Option (String × Fault) :=
  checks.findSome? fun c => c.2.map fun fault => (c.1, fault)

/-- A fault at a field. -/
def Invalid.AtField (path : Path) (e : Invalid) (found : Option (String × Fault)) : Prop :=
  ∃ name fault, found = some (name, fault) ∧ e = ⟨path.field name, fault⟩

/-- A check that comes first is the first that finds a fault, or leaves that to the others and to what comes
after them. -/
theorem PointsAt.bind_eq_error_iff_or {α β : Type} {name : String} {check : Path → Checked α}
    (h : PointsAt [.field name] check) {path : Path} {next : α → Checked β}
    {rest : List (String × Option Fault)} {e : Invalid} {later : Prop}
    (hnext : ∀ a, check path = .ok a → (next a = .error e ↔
      e.AtField path (Fields.firstFault? rest) ∨ Fields.firstFault? rest = none ∧ later)) :
    check path >>= next = .error e ↔
      e.AtField path (Fields.firstFault? ((name, faultOf check) :: rest)) ∨
        Fields.firstFault? ((name, faultOf check) :: rest) = none ∧ later := by
  cases hf : faultOf check with
  | some fault =>
    rw [h.eq_refuse hf path, except_bind_eq_error, refuse_eq_error]
    simp [Invalid.AtField, Fields.firstFault?, refuse_ne_ok]
  | none =>
    obtain ⟨a, ha⟩ := h.exists_ok hf
    rw [ha path]
    exact hnext a (ha path)

/-- A check that comes first is the first that finds a fault, or leaves that to the others. -/
theorem PointsAt.bind_eq_error_iff {α β : Type} {name : String} {check : Path → Checked α}
    (h : PointsAt [.field name] check) {path : Path} {next : α → Checked β}
    {rest : List (String × Option Fault)} {e : Invalid}
    (hnext : ∀ a, check path = .ok a → (next a = .error e ↔ e.AtField path (Fields.firstFault? rest))) :
    check path >>= next = .error e ↔
      e.AtField path (Fields.firstFault? ((name, faultOf check) :: rest)) := by
  have hor : check path >>= next = .error e ↔
      e.AtField path (Fields.firstFault? ((name, faultOf check) :: rest)) ∨
        Fields.firstFault? ((name, faultOf check) :: rest) = none ∧ False :=
    h.bind_eq_error_iff_or fun a ha => by rw [hnext a ha]; simp
  rw [hor]
  simp

/-- The last check is the first that finds a fault, or none does. -/
theorem PointsAt.eq_error_iff {α : Type} {name : String} {check : Path → Checked α}
    (h : PointsAt [.field name] check) {path : Path} {e : Invalid} :
    check path = .error e ↔ e.AtField path (Fields.firstFault? [(name, faultOf check)]) := by
  cases hf : faultOf check with
  | some fault =>
    rw [h.eq_refuse hf path, refuse_eq_error]
    simp [Invalid.AtField, Fields.firstFault?]
  | none =>
    obtain ⟨a, ha⟩ := h.exists_ok hf
    rw [ha path]
    simp [Invalid.AtField, Fields.firstFault?]

namespace Tree

/-! ## The checks of one node -/

/-- The fault of a rejected value, or that it cannot be shown. -/
def shownFault (fault : Value → Fault) (v : Value) : Fault := if v.hasText then fault v else .longInteger

/-- Reads the list of the members of a group. -/
def readList (v : Value) (path : Path) : Checked (List Value) :=
  match v.items? with
  | none => refuse path (.notAnArray v.kind)
  | some [] => refuse path .emptyGroup
  | some members => .ok members

/-- The checks of a condition, in order. -/
def conditionChecks (fields : Fields) : List (String × Option Fault) :=
  [("key", faultOf (fields.readRequired "key" Value.nonBlank)),
    ("operator", faultOf (fields.readRequired "operator" readComparison)),
    ("value", faultOf (fields.readRequired "value" readOperand))]

/-- The checks of a group itself, in order. -/
def groupChecks (fields : Fields) : List (String × Option Fault) :=
  [("operator", faultOf (fields.readRequired "operator" readJunction)),
    (childField fields, faultOf (fields.readRequired (childField fields) readList))]

/-- The first fault of a node itself, and the steps to it. -/
inductive OwnFault (v : Value) : List Step → Fault → Prop where
  /-- A node is an object. -/
  | notAnObject : v.fields? = none → OwnFault v [] (.notAnObject v.kind)
  /-- The type of a node is one of two. -/
  | unknownType {fields : Fields} {w : Value} :
    v.fields? = some fields → fields.present? "type" = some w → w ≠ .text "condition" → w ≠ .text "group" →
      OwnFault v [.field "type"] (shownFault .unknownNodeType w)
  /-- A node without a type has a field that tells it. -/
  | undecidedType {fields : Fields} :
    v.fields? = some fields → Untyped fields → fields.has "key" = false →
      fields.has "conditions" = false → fields.has "children" = false → OwnFault v [] .undecidedNodeType
  /-- A condition passes its checks. -/
  | condition {fields : Fields} {name : String} {fault : Fault} :
    v.fields? = some fields →
      (fields.get? "type" = some (.text "condition") ∨ Untyped fields ∧ fields.has "key" = true) →
      Fields.firstFault? (conditionChecks fields) = some (name, fault) → OwnFault v [.field name] fault
  /-- A group passes its checks. -/
  | group {fields : Fields} {name : String} {fault : Fault} :
    v.fields? = some fields →
      (fields.get? "type" = some (.text "group") ∨ Untyped fields ∧ fields.has "key" = false ∧
        (fields.has "conditions" = true ∨ fields.has "children" = true)) →
      Fields.firstFault? (groupChecks fields) = some (name, fault) → OwnFault v [.field name] fault

theorem pointsAt_readList (v : Value) : PointsAt [] (readList v) := by
  intro path
  rw [readList, readList]
  split
  · rfl
  · rfl
  · rfl

theorem readCondition_eq_error_iff {fields : Fields} {path : Path} {e : Invalid} :
    readCondition fields path = .error e ↔
      e.AtField path (Fields.firstFault? (conditionChecks fields)) := by
  have hkey := fields.pointsAt_readRequired "key" Value.pointsAt_nonBlank
  have hoperator := fields.pointsAt_readRequired "operator" pointsAt_readComparison
  have hvalue := fields.pointsAt_readRequired "value" pointsAt_readOperand
  rw [readCondition_eq]
  refine hkey.bind_eq_error_iff fun _ _ => hoperator.bind_eq_error_iff fun _ _ => ?_
  rw [← hvalue.eq_error_iff, except_bind_eq_error]
  simp

theorem openGroup_eq_error_iff {fields : Fields} {path : Path} {e : Invalid} :
    openGroup fields path = .error e ↔ e.AtField path (Fields.firstFault? (groupChecks fields)) := by
  have hoperator := fields.pointsAt_readRequired "operator" pointsAt_readJunction
  have hlist := fields.pointsAt_readRequired (childField fields) pointsAt_readList
  simp only [openGroup, ← bind_assoc]
  refine hoperator.bind_eq_error_iff fun operator _ => ?_
  rw [← hlist.eq_error_iff]
  split
  · rename_i hnone
    simp only [Fields.readRequired, Fields.require, hnone, except_bind_eq_error, refuse_eq_error]
    simp [refuse_ne_ok]
  · rename_i v hv
    simp only [Fields.readRequired, Fields.require, hv, except_bind_eq_error, readList]
    split
    · rename_i hitems
      simp [hitems, refuse_eq_error]
    · rename_i hitems
      simp [hitems, refuse_eq_error]
    · rename_i first rest hitems
      simp [hitems, pure, Except.pure]

theorem nodeType_eq_error_iff {fields : Fields} {path : Path} {e : Invalid} :
    nodeType fields path = .error e ↔
      (∃ w, fields.present? "type" = some w ∧ w ≠ .text "condition" ∧ w ≠ .text "group" ∧
        e = ⟨path.field "type", shownFault .unknownNodeType w⟩) ∨
      Untyped fields ∧ fields.has "key" = false ∧ fields.has "conditions" = false ∧
        fields.has "children" = false ∧ e = ⟨path, .undecidedNodeType⟩ := by
  rw [nodeType.eq_def, Untyped, ← Fields.present?_eq_none_iff]
  split
  · rename_i h
    simp [h]
  · rename_i h
    simp [h]
  · rename_i w hc hg h
    simp only [h, Option.some.injEq, reduceCtorEq, false_and, or_false, exists_eq_left']
    constructor
    · intro he
      cases he
      exact ⟨hc, hg, rfl⟩
    · rintro ⟨-, -, rfl⟩
      rfl
  · rename_i h
    simp only [h, reduceCtorEq, false_and, exists_false, false_or, true_and]
    cases fields.has "key" <;> cases fields.has "conditions" <;> cases fields.has "children" <;>
      simp [refuse, eq_comm]

/-- The opening of a node fails with the first fault of the node itself. -/
theorem openNode_eq_error_iff {v : Value} {path : Path} {e : Invalid} :
    openNode v path = .error e ↔ ∃ steps fault, OwnFault v steps fault ∧ e = ⟨path.along steps, fault⟩ := by
  rw [openNode]
  split
  · rename_i hf
    rw [refuse_eq_error]
    constructor
    · rintro rfl
      exact ⟨[], _, .notAnObject hf, rfl⟩
    · rintro ⟨steps, fault, h, rfl⟩
      cases h with
      | notAnObject => rfl
      | unknownType hf' | undecidedType hf' | condition hf' | group hf' => cases hf.symm.trans hf'
  · rename_i fields hf
    have hsame {fields' : Fields} (hf' : v.fields? = some fields') : fields' = fields :=
      Option.some.inj (hf'.symm.trans hf)
    constructor
    · intro h
      split at h
      · rename_i e' he'
        cases h
        rcases nodeType_eq_error_iff.1 he' with ⟨w, hw, hc, hg, rfl⟩ | ⟨hu, hk, hcs, hch, rfl⟩
        · exact ⟨_, _, .unknownType hf hw hc hg, rfl⟩
        · exact ⟨_, _, .undecidedType hf hu hk hcs hch, rfl⟩
      · rename_i ht
        obtain ⟨name, fault, hfound, rfl⟩ := readCondition_eq_error_iff.1 (except_map_eq_error.1 h)
        exact ⟨_, _, .condition hf (nodeType_eq_condition_iff.1 ht) hfound, rfl⟩
      · rename_i ht
        obtain ⟨name, fault, hfound, rfl⟩ := openGroup_eq_error_iff.1 (except_map_eq_error.1 h)
        exact ⟨_, _, .group hf (nodeType_eq_group_iff.1 ht) hfound, rfl⟩
    · rintro ⟨steps, fault, h, rfl⟩
      cases h with
      | notAnObject hf' => cases hf.symm.trans hf'
      | unknownType hf' hw hc hg =>
        obtain rfl := hsame hf'
        rw [nodeType_eq_error_iff.2 (.inl ⟨_, hw, hc, hg, rfl⟩)]
        rfl
      | undecidedType hf' hu hk hcs hch =>
        obtain rfl := hsame hf'
        rw [nodeType_eq_error_iff.2 (.inr ⟨hu, hk, hcs, hch, rfl⟩)]
        rfl
      | condition hf' hnamed hfound =>
        obtain rfl := hsame hf'
        rw [nodeType_eq_condition_iff.2 hnamed]
        exact except_map_eq_error.2 (readCondition_eq_error_iff.2 ⟨_, _, hfound, rfl⟩)
      | group hf' hnamed hfound =>
        obtain rfl := hsame hf'
        rw [nodeType_eq_group_iff.2 hnamed]
        exact except_map_eq_error.2 (openGroup_eq_error_iff.2 ⟨_, _, hfound, rfl⟩)

/-! ## The checks of a document -/

/-- The first fault of a document in its order, and the steps to it. -/
inductive FirstFault : Value → List Step → Fault → Prop where
  /-- A node comes before its members. -/
  | own {v : Value} {steps : List Step} {fault : Fault} : OwnFault v steps fault → FirstFault v steps fault
  /-- A member of a group comes after the members before it, all of which are in order.  The steps go through
  the field under which the group lists its members. -/
  | member {v m : Value} {fields : Fields} {operator : String} {before after : List Value} {ts : List Tree}
      {steps : List Step} {fault : Fault} :
    v.fields? = some fields → IsGroup fields operator (before ++ m :: after) → SpellsEach before ts →
      FirstFault m steps fault →
        FirstFault v (.field (childField fields) :: .index before.length :: steps) fault

/-- The members of an opened group stand under the field that the group uses. -/
theorem childField_of_openNode {v : Value} {path : Path} {fields : Fields} {g : Opened v.weight}
    (hf : v.fields? = some fields) (h : openNode v path = .ok (.group g)) :
    g.childField = childField fields := by
  rw [openNode] at h
  split at h
  · exact absurd h refuse_ne_ok
  · rename_i fields' hf'
    obtain rfl := Option.some.inj (hf.symm.trans hf')
    split at h
    · cases h
    · obtain ⟨_, -, he⟩ := except_map_eq_ok.1 h
      cases he
    · obtain ⟨g', hg, he⟩ := except_map_eq_ok.1 h
      cases he
      simp only [openGroup, except_bind_eq_ok] at hg
      obtain ⟨_, -, operator, -, hg⟩ := hg
      split at hg
      · exact absurd hg refuse_ne_ok
      · split at hg
        · exact absurd hg refuse_ne_ok
        · exact absurd hg refuse_ne_ok
        · cases hg
          rfl

/-- Reading members stops at the first that fails. -/
theorem SpellsEach.readMembers_append_error {before : List Value} {ts : List Tree}
    (hbefore : SpellsEach before ts) {m : Value} {after : List Value} {members : Path} {next : Nat}
    {e : Invalid} (hm : readDeep m (members.index (next + before.length)) = .error e) :
    readMembers (before ++ m :: after) members next = .error e := by
  induction before generalizing ts next with
  | nil =>
    rw [List.nil_append, readMembers]
    simp only [List.length_nil, Nat.add_zero] at hm
    rw [hm]
  | cons v before ih =>
    cases hbefore with
    | cons hv hrest =>
      have hplace : next + 1 + before.length = next + (v :: before).length := by
        rw [List.length_cons]
        omega
      rw [List.cons_append, readMembers, hv.readDeep_eq, ih hrest (by rwa [hplace])]

/-- The first fault of a document is the one that the recursion reports, at the place of its steps. -/
theorem FirstFault.readDeep_eq {v : Value} {steps : List Step} {fault : Fault}
    (h : FirstFault v steps fault) :
    ∀ path : Path, readDeep v path = .error ⟨path.along steps, fault⟩ := by
  induction h with
  | own h =>
    intro path
    rw [readDeep, openNode_eq_error_iff.2 ⟨_, _, h, rfl⟩]
  | member hf hg hbefore _ ih =>
    intro path
    obtain ⟨g, hopen, -, hchildren⟩ := (openNode_group_iff path).2 ⟨_, hf, hg⟩
    have hfield := childField_of_openNode hf hopen
    rw [readDeep, hopen]
    simp only [hchildren, hfield]
    rw [hbefore.readMembers_append_error (ih _)]
    simp

/-- What the recursion reports is the first fault of the document. -/
theorem firstFault_of_readDeep :
    (∀ v path e, readDeep v path = .error e →
      ∃ steps fault, FirstFault v steps fault ∧ e = ⟨path.along steps, fault⟩) ∧
    ∀ vs members next e, readMembers vs members next = .error e →
      ∃ before m after ts steps fault, vs = before ++ m :: after ∧ SpellsEach before ts ∧
        FirstFault m steps fault ∧
          e = ⟨(members.index (next + before.length)).along steps, fault⟩ := by
  apply readDeep.mutual_induct
    (fun v path => ∀ e, readDeep v path = .error e →
      ∃ steps fault, FirstFault v steps fault ∧ e = ⟨path.along steps, fault⟩)
    (fun vs members next => ∀ e, readMembers vs members next = .error e →
      ∃ before m after ts steps fault, vs = before ++ m :: after ∧ SpellsEach before ts ∧
        FirstFault m steps fault ∧
          e = ⟨(members.index (next + before.length)).along steps, fault⟩)
  case case1 =>
    intro v path e he e' h
    rw [readDeep, he] at h
    cases h
    obtain ⟨steps, fault, hown, rfl⟩ := openNode_eq_error_iff.1 he
    exact ⟨steps, fault, .own hown, rfl⟩
  case case2 =>
    intro v path c hc e h
    rw [readDeep, hc] at h
    cases h
  case case3 =>
    intro v path g hg e he ih e' h
    rw [readDeep, hg] at h
    simp only [he] at h
    cases h
    obtain ⟨before, m, after, ts, steps, fault, hvs, hbefore, hm, rfl⟩ := ih e he
    obtain ⟨fields, hf, hgroup⟩ := (openNode_group_iff path).1 ⟨g, hg, rfl, rfl⟩
    rw [hvs] at hgroup
    refine ⟨_, fault, .member hf hgroup hbefore hm, ?_⟩
    simp [childField_of_openNode hf hg]
  case case4 =>
    intro v path g hg ts hts _ e h
    rw [readDeep, hg] at h
    simp only [hts] at h
    cases h
  case case5 =>
    intro members next e h
    rw [readMembers] at h
    cases h
  case case6 =>
    intro members next v rest e he ih e' h
    rw [readMembers, he] at h
    cases h
    obtain ⟨steps, fault, hv, rfl⟩ := ih e he
    exact ⟨[], v, rest, [], steps, fault, rfl, .nil, hv, rfl⟩
  case case7 =>
    intro members next v rest t ht e he _ ih e' h
    rw [readMembers, ht] at h
    simp only [he] at h
    cases h
    obtain ⟨before, m, after, ts, steps, fault, rfl, hbefore, hm, rfl⟩ := ih e he
    have hplace : next + 1 + before.length = next + (v :: before).length := by
      rw [List.length_cons]
      omega
    refine ⟨v :: before, m, after, t :: ts, steps, fault, rfl, ?_, hm, by rw [hplace]⟩
    exact .cons (spells_of_readDeep.1 v _ t ht) hbefore
  case case8 =>
    intro members next v rest t ht ts hts _ _ e h
    rw [readMembers, ht] at h
    simp only [hts] at h
    cases h

/-- Reading fails with the first fault of the document, at the place that its steps lead to. -/
theorem read_eq_error_iff {v : Value} {path : Path} {e : Invalid} :
    read v path = .error e ↔ ∃ steps fault, FirstFault v steps fault ∧ e = ⟨path.along steps, fault⟩ := by
  rw [read_eq_readDeep]
  constructor
  · exact firstFault_of_readDeep.1 v path e
  · rintro ⟨steps, fault, h, rfl⟩
    exact h.readDeep_eq path

theorem readConditions_eq_error_iff {v : Value} {path : Path} {e : Invalid} :
    readConditions v path = .error e ↔
      ∃ steps fault, FirstFault v steps fault ∧ e = ⟨path.along steps, fault⟩ := by
  rw [readConditions, except_map_eq_error, read_eq_error_iff]

/-- The steps to a fault go through a numbered member of every group around it, and then to a field of the
node or to the node itself. -/
theorem FirstFault.exists_steps {v : Value} {steps : List Step} {fault : Fault}
    (h : FirstFault v steps fault) :
    ∃ (groups : List (String × Nat)) (own : Option String),
      (∀ g ∈ groups, g.1 = "conditions" ∨ g.1 = "children") ∧
        steps = (groups.flatMap fun g => [.field g.1, .index g.2]) ++ (own.map Step.field).toList := by
  induction h with
  | own h =>
    cases h with
    | notAnObject | undecidedType => exact ⟨[], none, nofun, rfl⟩
    | unknownType => exact ⟨[], some "type", nofun, rfl⟩
    | @condition _ name | @group _ name => exact ⟨[], some name, nofun, rfl⟩
  | @member _ _ fields _ before _ _ _ _ _ _ _ _ ih =>
    obtain ⟨groups, own, hgroups, rfl⟩ := ih
    refine ⟨(childField fields, before.length) :: groups, own, ?_, rfl⟩
    refine List.forall_mem_cons.2 ⟨?_, hgroups⟩
    rw [childField]
    split
    · exact .inl rfl
    · exact .inr rfl

end Tree

end RuleLabels
