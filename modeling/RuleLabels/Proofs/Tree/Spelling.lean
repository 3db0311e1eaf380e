import RuleLabels.Proofs.Checked
import RuleLabels.Proofs.Text.Junction
import RuleLabels.Proofs.Tree.Descent

/-!
# What spells a tree

The written forms of trees as a grammar, apart from any reader.  One tree has many forms: a node may leave
its type to be told from its fields, the members of a group stand under one of two names, its operator is
in any letter case, and the value of a condition may be any scalar with the right text.

* `IsCondition` and `IsGroup` say which fields a node of either type has, and `Spells` puts nodes together;
* `openNode_condition_iff` and `openNode_group_iff` tie them to the reading of one node;
* `read_eq_ok_iff_spells`: what is read is what is spelled, and only well-formed trees are.
-/

namespace RuleLabels.Tree

/-! ## The grammar -/

/-- The fields leave the type of the node open. -/
def Untyped (fields : Fields) : Prop :=
  fields.get? "type" = none ∨ fields.get? "type" = some .null

/-- A value that is neither null nor a collection, and whose text can be written. -/
structure IsScalar (v : Value) : Prop where
  notNull : v.isNull = false
  notArray : v.items? = none
  notObject : v.fields? = none
  hasText : v.hasText = true

/-- The fields of a node are those of a condition. -/
structure IsCondition (fields : Fields) (c : Condition) : Prop where
  named : fields.get? "type" = some (.text "condition") ∨ Untyped fields ∧ fields.has "key" = true
  key : fields.get? "key" = some (.text c.key)
  nonBlank : Text.allBlank c.key = false
  spelled : fields.get? "operator" = some (.text c.operator)
  known : c.operator ∈ Comparison.operators.map Prod.fst
  value : ∃ v, fields.get? "value" = some v ∧ IsScalar v ∧ c.value = .text v.rendered

/-- The fields of a node are those of a group with an operator and with members that are still to be
read. -/
structure IsGroup (fields : Fields) (operator : String) (members : List Value) : Prop where
  named : fields.get? "type" = some (.text "group") ∨
    Untyped fields ∧ fields.has "key" = false ∧
      (fields.has "conditions" = true ∨ fields.has "children" = true)
  spelled : ∃ word, fields.get? "operator" = some (.text word) ∧
    word.toList.map Char.toUpper = operator.toList
  known : operator ∈ Junction.operators.map Prod.fst
  listed : ∃ list, list.items? = some members ∧
    (fields.get? "conditions" = some list ∨
      fields.has "conditions" = false ∧ fields.get? "children" = some list)
  nonempty : members ≠ []

mutual

/-- A value is a written form of a tree. -/
inductive Spells : Value → Tree → Prop where
  /-- An object with the fields of a condition. -/
  | condition {v : Value} {fields : Fields} {c : Condition} :
    v.fields? = some fields → IsCondition fields c → Spells v (leaf c)
  /-- An object with the fields of a group, whose members are written forms of the children. -/
  | group {v : Value} {fields : Fields} {operator : String} {members : List Value} {ts : List Tree} :
    v.fields? = some fields → IsGroup fields operator members → SpellsEach members ts →
      Spells v (group operator ts)

/-- Values are written forms of trees, one by one and in order. -/
inductive SpellsEach : List Value → List Tree → Prop where
  | nil : SpellsEach [] []
  | cons {v : Value} {t : Tree} {vs : List Value} {ts : List Tree} :
    Spells v t → SpellsEach vs ts → SpellsEach (v :: vs) (t :: ts)

end

/-! ## Well-formed trees -/

mutual

/-- Every group joins at least one member by a known operator, and every condition compares a named field
with a text by a known operator. -/
def isWellFormed : Tree → Bool
  | leaf c =>
    !Text.allBlank c.key && (Comparison.operators.map Prod.fst).contains c.operator &&
      (match c.value with | .text _ => true | _ => false)
  | group operator children =>
    (Junction.operators.map Prod.fst).contains operator && !children.isEmpty && allWellFormed children

/-- All trees of a list are well-formed. -/
def allWellFormed : List Tree → Bool
  | [] => true
  | t :: rest => t.isWellFormed && allWellFormed rest

end

mutual

theorem Spells.isWellFormed : ∀ {v : Value} {t : Tree}, Spells v t → t.isWellFormed = true
  | _, _, @Spells.condition _ _ c _ hc => by
    obtain ⟨x, -, -, hx⟩ := hc.value
    simp only [Tree.isWellFormed, hc.nonBlank, hx, List.contains_iff_mem.2 hc.known, Bool.not_false,
      Bool.and_true]
  | _, _, @Spells.group _ _ _ _ ts _ hg hts => by
    have hne : ts ≠ [] := by
      rintro rfl
      cases hts
      exact hg.nonempty rfl
    simp only [Tree.isWellFormed, List.contains_iff_mem.2 hg.known, hts.allWellFormed, Bool.and_true,
      Bool.true_and, Bool.not_eq_true', List.isEmpty_eq_false_iff]
    exact hne

theorem SpellsEach.allWellFormed : ∀ {vs : List Value} {ts : List Tree}, SpellsEach vs ts →
    allWellFormed ts = true
  | _, _, .nil => rfl
  | _, _, .cons h hs => by rw [Tree.allWellFormed, h.isWellFormed, hs.allWellFormed]; rfl

end

/-! ## Reading one node -/

theorem nodeType_eq_condition_iff {fields : Fields} {path : Path} :
    nodeType fields path = .ok .condition ↔
      fields.get? "type" = some (.text "condition") ∨ Untyped fields ∧ fields.has "key" = true := by
  rw [nodeType.eq_def]
  split
  · rename_i h
    rw [Fields.present?_eq_some_iff] at h
    simp [h.1]
  · rename_i h
    rw [Fields.present?_eq_some_iff] at h
    simp [h.1, Untyped]
  · rename_i v hc hg h
    rw [Fields.present?_eq_some_iff] at h
    refine ⟨fun he => absurd he refuseShown_ne_ok, ?_⟩
    rintro (he | ⟨he | he, -⟩)
    · exact absurd (Option.some.inj (h.1.symm.trans he)) hc
    · exact absurd (h.1.symm.trans he) (by simp)
    · cases Option.some.inj (h.1.symm.trans he)
      exact absurd h.2 (by decide)
  · rename_i h
    rw [Fields.present?_eq_none_iff] at h
    have hne : fields.get? "type" ≠ some (.text "condition") := by
      intro he
      rw [he] at h
      simp at h
    by_cases hk : fields.has "key" = true
    · simp [hk, Untyped, h]
    · rw [if_neg hk]
      split
      · simp [hne, hk]
      · simp [hne, hk, refuse]

theorem nodeType_eq_group_iff {fields : Fields} {path : Path} :
    nodeType fields path = .ok .group ↔
      fields.get? "type" = some (.text "group") ∨
        Untyped fields ∧ fields.has "key" = false ∧
          (fields.has "conditions" = true ∨ fields.has "children" = true) := by
  rw [nodeType.eq_def]
  split
  · rename_i h
    rw [Fields.present?_eq_some_iff] at h
    simp [h.1, Untyped]
  · rename_i h
    rw [Fields.present?_eq_some_iff] at h
    simp [h.1]
  · rename_i v hc hg h
    rw [Fields.present?_eq_some_iff] at h
    refine ⟨fun he => absurd he refuseShown_ne_ok, ?_⟩
    rintro (he | ⟨he | he, -⟩)
    · exact absurd (Option.some.inj (h.1.symm.trans he)) hg
    · exact absurd (h.1.symm.trans he) (by simp)
    · cases Option.some.inj (h.1.symm.trans he)
      exact absurd h.2 (by decide)
  · rename_i h
    rw [Fields.present?_eq_none_iff] at h
    have hne : fields.get? "type" ≠ some (.text "group") := by
      intro he
      rw [he] at h
      simp at h
    by_cases hk : fields.has "key" = true
    · simp [hk, hne]
    · rw [if_neg hk]
      split
      · rename_i hlist
        simpa [hne, hk, Untyped, h] using hlist
      · rename_i hlist
        refine ⟨fun he => absurd he refuse_ne_ok, ?_⟩
        rintro (he | ⟨-, -, he⟩)
        · exact absurd he hne
        · exact absurd (by simpa using he) hlist

theorem readComparison_eq_ok_iff {v : Value} {path : Path} {operator : String} :
    readComparison v path = .ok operator ↔
      v = .text operator ∧ operator ∈ Comparison.operators.map Prod.fst := by
  rw [readComparison.eq_def]
  split
  · rename_i s
    have hknown : (Comparison.ofOperator? s).isSome = true ↔ s ∈ Comparison.operators.map Prod.fst := by
      rw [Comparison.ofOperator?, List.lookup_isSome_iff]
      simp
    split
    · rename_i hs
      constructor
      · intro h
        cases h
        exact ⟨rfl, hknown.1 hs⟩
      · rintro ⟨h, -⟩
        cases h
        rfl
    · rename_i hs
      refine ⟨fun h => absurd h refuse_ne_ok, ?_⟩
      rintro ⟨h, hmem⟩
      cases h
      exact absurd (hknown.2 hmem) hs
  · rename_i hv
    exact ⟨fun h => absurd h refuseShown_ne_ok, fun h => absurd h.1 (hv _)⟩

theorem readOperand_eq_ok_iff {v w : Value} {path : Path} :
    readOperand v path = .ok w ↔
      v.items? = none ∧ v.fields? = none ∧ v.hasText = true ∧ w = .text v.rendered := by
  rw [readOperand]
  cases v.items? <;> cases v.fields? <;> cases v.hasText <;> simp [refuse, eq_comm]

theorem readCondition_eq_ok_iff {fields : Fields} {path : Path} {c : Condition} :
    readCondition fields path = .ok c ↔
      (fields.get? "key" = some (.text c.key) ∧ Text.allBlank c.key = false) ∧
      (fields.get? "operator" = some (.text c.operator) ∧
        c.operator ∈ Comparison.operators.map Prod.fst) ∧
      ∃ v, fields.get? "value" = some v ∧ IsScalar v ∧ c.value = .text v.rendered := by
  simp only [readCondition, except_bind_eq_ok, Fields.requireText_eq_ok_iff,
    Fields.require_eq_ok_iff, readComparison_eq_ok_iff, readOperand_eq_ok_iff]
  constructor
  · rintro ⟨key, hkey, _, ⟨ho, -⟩, operator, ⟨rfl, hknown⟩, v, ⟨hv, hn⟩, w, ⟨hi, hf, ht, rfl⟩, hc⟩
    cases hc
    exact ⟨hkey, ⟨ho, hknown⟩, v, hv, ⟨hn, hi, hf, ht⟩, rfl⟩
  · rintro ⟨hkey, ⟨ho, hknown⟩, v, hv, hs, hc⟩
    exact ⟨_, hkey, _, ⟨ho, rfl⟩, _, ⟨rfl, hknown⟩, v, ⟨hv, hs.notNull⟩, _,
      ⟨hs.notArray, hs.notObject, hs.hasText, hc⟩, rfl⟩

theorem readJunction_eq_ok_iff {v : Value} {path : Path} {operator : String} :
    readJunction v path = .ok operator ↔
      operator ∈ Junction.operators.map Prod.fst ∧
        ∃ word, v = .text word ∧ word.toList.map Char.toUpper = operator.toList := by
  rw [readJunction.eq_def]
  split
  · rename_i s
    constructor
    · intro h
      split at h
      · rename_i hs
        cases h
        obtain ⟨hmem, hword⟩ := Text.ofOperator?_upper_isSome_iff.1 ⟨rfl, hs⟩
        exact ⟨hmem, s, rfl, hword⟩
      · exact absurd h refuse_ne_ok
    · rintro ⟨hmem, word, hword, hupper⟩
      cases hword
      obtain ⟨hup, hs⟩ := Text.ofOperator?_upper_isSome_iff.2 ⟨hmem, hupper⟩
      rw [hup, if_pos hs]
  · rename_i hv
    refine ⟨fun h => absurd h refuseShown_ne_ok, ?_⟩
    rintro ⟨-, word, hword, -⟩
    exact absurd hword (hv word)

/-- The members of a group stand under the first of its two names that is there. -/
theorem get?_childField_iff {fields : Fields} {list : Value} :
    fields.get? (childField fields) = some list ↔
      fields.get? "conditions" = some list ∨
        fields.has "conditions" = false ∧ fields.get? "children" = some list := by
  rw [childField]
  cases h : fields.get? "conditions" with
  | none => simp [Fields.has, h]
  | some v => simp [Fields.has, h]

theorem openGroup_eq_ok_iff {fields : Fields} (path : Path) {operator : String} {members : List Value} :
    (∃ g, openGroup fields path = .ok g ∧ g.operator = operator ∧ g.children = members) ↔
      (∃ word, fields.get? "operator" = some (.text word) ∧
        word.toList.map Char.toUpper = operator.toList) ∧
      operator ∈ Junction.operators.map Prod.fst ∧
      (∃ list, list.items? = some members ∧ fields.get? (childField fields) = some list) ∧
      members ≠ [] := by
  simp only [openGroup, except_bind_eq_ok, Fields.require_eq_ok_iff, readJunction_eq_ok_iff]
  constructor
  · rintro ⟨g, ⟨_, ⟨ho, -⟩, operator', ⟨hknown, word, rfl, hword⟩, hg⟩, rfl, rfl⟩
    split at hg
    · exact absurd hg refuse_ne_ok
    · rename_i list hlist
      rw [Fields.present?_eq_some_iff] at hlist
      split at hg
      · exact absurd hg refuse_ne_ok
      · exact absurd hg refuse_ne_ok
      · rename_i first rest hitems
        cases hg
        exact ⟨⟨word, ho, hword⟩, hknown, ⟨list, hitems, hlist.1⟩, List.cons_ne_nil _ _⟩
  · rintro ⟨⟨word, ho, hword⟩, hknown, ⟨list, hitems, hlist⟩, hne⟩
    obtain ⟨first, rest, rfl⟩ := List.exists_cons_of_ne_nil hne
    have hnull : list.isNull = false := by
      cases list <;> first | rfl | exact absurd hitems (by simp [Value.items?])
    have hpresent := Fields.present?_eq_some_iff.2 ⟨hlist, hnull⟩
    refine ⟨⟨operator, childField fields, first :: rest, ?_⟩,
      ⟨_, ⟨ho, rfl⟩, operator, ⟨hknown, word, rfl, hword⟩, ?_⟩, rfl, rfl⟩
    · have := Value.weight_le_of_lookup (Fields.lookup_of_present? hpresent)
      have := Value.weights_of_items? hitems
      omega
    · split
      · rename_i hn
        exact absurd (hpresent.symm.trans hn) (by simp)
      · rename_i list' hl
        cases Option.some.inj (hpresent.symm.trans hl)
        split
        · rename_i hn
          exact absurd (hitems.symm.trans hn) (by simp)
        · rename_i hn
          exact absurd (hitems.symm.trans hn) (by simp)
        · rename_i first' rest' hi
          cases Option.some.inj (hitems.symm.trans hi)
          rfl

/-- A node is a condition just where its fields are those of the condition. -/
theorem openNode_condition_iff {v : Value} {path : Path} {c : Condition} :
    openNode v path = .ok (.condition c) ↔ ∃ fields, v.fields? = some fields ∧ IsCondition fields c := by
  constructor
  · intro h
    rw [openNode] at h
    split at h
    · exact absurd h refuse_ne_ok
    · rename_i fields hf
      split at h
      · cases h
      · rename_i hnode
        obtain ⟨c', hc, he⟩ := except_map_eq_ok.1 h
        cases he
        obtain ⟨⟨hk, hb⟩, ⟨ho, hknown⟩, hv⟩ := readCondition_eq_ok_iff.1 hc
        exact ⟨fields, hf, nodeType_eq_condition_iff.1 hnode, hk, hb, ho, hknown, hv⟩
      · obtain ⟨_, -, he⟩ := except_map_eq_ok.1 h
        cases he
  · rintro ⟨fields, hf, hc⟩
    rw [openNode]
    split
    · rename_i hn
      exact absurd (hf.symm.trans hn) (by simp)
    · rename_i fields' hf'
      cases Option.some.inj (hf.symm.trans hf')
      rw [nodeType_eq_condition_iff.2 hc.named]
      refine except_map_eq_ok.2 ⟨c, readCondition_eq_ok_iff.2 ?_, rfl⟩
      exact ⟨⟨hc.key, hc.nonBlank⟩, ⟨hc.spelled, hc.known⟩, hc.value⟩

/-- A node is a group just where its fields are those of the group. -/
theorem openNode_group_iff {v : Value} (path : Path) {operator : String} {members : List Value} :
    (∃ g, openNode v path = .ok (.group g) ∧ g.operator = operator ∧ g.children = members) ↔
      ∃ fields, v.fields? = some fields ∧ IsGroup fields operator members := by
  constructor
  · rintro ⟨g, h, ho, hm⟩
    rw [openNode] at h
    split at h
    · exact absurd h refuse_ne_ok
    · rename_i fields hf
      split at h
      · cases h
      · obtain ⟨_, -, he⟩ := except_map_eq_ok.1 h
        cases he
      · rename_i hnode
        obtain ⟨g', hg, he⟩ := except_map_eq_ok.1 h
        cases he
        obtain ⟨hs, hk, ⟨list, hi, hl⟩, hne⟩ := (openGroup_eq_ok_iff path).1 ⟨g', hg, ho, hm⟩
        exact ⟨fields, hf, nodeType_eq_group_iff.1 hnode, hs, hk,
          ⟨list, hi, get?_childField_iff.1 hl⟩, hne⟩
  · rintro ⟨fields, hf, hg⟩
    obtain ⟨list, hi, hl⟩ := hg.listed
    obtain ⟨g, hopen, ho, hm⟩ := (openGroup_eq_ok_iff path).2
      ⟨hg.spelled, hg.known, ⟨list, hi, get?_childField_iff.2 hl⟩, hg.nonempty⟩
    rw [openNode]
    split
    · rename_i hn
      exact absurd (hf.symm.trans hn) (by simp)
    · rename_i fields' hf'
      cases Option.some.inj (hf.symm.trans hf')
      rw [nodeType_eq_group_iff.2 hg.named]
      exact ⟨_, except_map_eq_ok.2 ⟨g, hopen, rfl⟩, ho, hm⟩

/-! ## Reading a tree -/

/-- What is read is spelled. -/
theorem spells_of_readDeep :
    (∀ v path t, readDeep v path = .ok t → Spells v t) ∧
      ∀ vs members next ts, readMembers vs members next = .ok ts → SpellsEach vs ts := by
  apply readDeep.mutual_induct
    (fun v path => ∀ t, readDeep v path = .ok t → Spells v t)
    (fun vs members next => ∀ ts, readMembers vs members next = .ok ts → SpellsEach vs ts)
  case case1 =>
    intro v path e he t h
    rw [readDeep, he] at h
    cases h
  case case2 =>
    intro v path c hc t h
    rw [readDeep, hc] at h
    cases h
    obtain ⟨fields, hf, hcond⟩ := openNode_condition_iff.1 hc
    exact .condition hf hcond
  case case3 =>
    intro v path g hg e he _ t h
    rw [readDeep, hg] at h
    simp only [he] at h
    cases h
  case case4 =>
    intro v path g hg ts hts ih t h
    rw [readDeep, hg] at h
    simp only [hts] at h
    cases h
    obtain ⟨fields, hf, hgroup⟩ := (openNode_group_iff path).1 ⟨g, hg, rfl, rfl⟩
    exact .group hf hgroup (ih ts hts)
  case case5 =>
    intro members next ts h
    rw [readMembers] at h
    cases h
    exact .nil
  case case6 =>
    intro members next v rest e he _ ts h
    rw [readMembers, he] at h
    cases h
  case case7 =>
    intro members next v rest t ht e he _ _ ts h
    rw [readMembers, ht] at h
    simp only [he] at h
    cases h
  case case8 =>
    intro members next v rest t ht ts hts ih ihs all h
    rw [readMembers, ht] at h
    simp only [hts] at h
    cases h
    exact .cons (ih t ht) (ihs ts hts)

mutual

/-- What is spelled is read, wherever it stands. -/
theorem Spells.readDeep_eq : ∀ {v : Value} {t : Tree}, Spells v t → ∀ path, readDeep v path = .ok t
  | v, _, .condition hf hc, path => by
    rw [readDeep, openNode_condition_iff.2 ⟨_, hf, hc⟩]
  | v, _, .group hf hg hts, path => by
    obtain ⟨g, hopen, rfl, rfl⟩ := (openNode_group_iff path).2 ⟨_, hf, hg⟩
    rw [readDeep, hopen]
    simp only [hts.readMembers_eq]

theorem SpellsEach.readMembers_eq : ∀ {vs : List Value} {ts : List Tree}, SpellsEach vs ts →
    ∀ members next, readMembers vs members next = .ok ts
  | _, _, .nil, _, _ => by rw [readMembers]
  | _, _, .cons h hs, members, next => by
    rw [readMembers, h.readDeep_eq]
    simp only [hs.readMembers_eq]

end

theorem read_eq_ok_iff {v : Value} {path : Path} {t : Tree} : read v path = .ok t ↔ Spells v t := by
  rw [read_eq_readDeep]
  exact ⟨spells_of_readDeep.1 v path t, fun h => h.readDeep_eq path⟩

/-- The trees read from a value are those that it spells.  So all spellings of a tree are read alike, and
only well-formed trees are read. -/
theorem read_eq_ok_iff_spells (v : Value) (path : Path) :
    (∀ t, read v path = .ok t ↔ Spells v t) ∧
      (∀ t w place, Spells v t → Spells w t → read v path = .ok t ∧ read w place = .ok t) ∧
      ∀ t, read v path = .ok t → t.isWellFormed = true := by
  refine ⟨fun _ => read_eq_ok_iff, ?_, ?_⟩
  · intro t w place hv hw
    exact ⟨read_eq_ok_iff.2 hv, read_eq_ok_iff.2 hw⟩
  · intro t h
    exact (read_eq_ok_iff.1 h).isWellFormed

/-- Two spellings of one tree.  The second leaves out the types, has the members under the other name, and
writes the operator in small letters and the number as a number. -/
theorem read_eq_ok_two_spellings :
    read (.object [("type", .text "group"), ("operator", .text "OR"), ("conditions", .array
      [.object [("type", .text "condition"), ("key", .text "age"), ("operator", .text ">="),
        ("value", .text "18")]])]) .document = .ok (group "OR" [leaf ⟨"age", ">=", .text "18"⟩]) ∧
    read (.object [("type", .null), ("children", .array [.object [("value", .int 18),
      ("operator", .text ">="), ("key", .text "age")]]), ("operator", .text "or")]) .document =
        .ok (group "OR" [leaf ⟨"age", ">=", .text "18"⟩]) := by
  refine (read_eq_ok_iff_spells _ .document).2.1 _ _ .document ?_ ?_
  · refine .group rfl ⟨.inl rfl, ⟨"OR", rfl, by decide⟩, by decide, ⟨_, rfl, .inl rfl⟩, by simp⟩ ?_
    refine .cons (.condition rfl ⟨.inl rfl, rfl, by decide, rfl, by decide, ?_⟩) .nil
    exact ⟨_, rfl, ⟨rfl, rfl, rfl, rfl⟩, rfl⟩
  · refine .group rfl ⟨.inr ⟨.inr rfl, rfl, .inr rfl⟩, ⟨"or", rfl, by decide⟩, by decide,
      ⟨_, rfl, .inr ⟨rfl, rfl⟩⟩, by simp⟩ ?_
    refine .cons (.condition rfl ⟨.inr ⟨.inl rfl, rfl⟩, rfl, by decide, rfl, by decide, ?_⟩) .nil
    exact ⟨_, rfl, ⟨rfl, rfl, rfl, by decide +kernel⟩, rfl⟩

end RuleLabels.Tree
