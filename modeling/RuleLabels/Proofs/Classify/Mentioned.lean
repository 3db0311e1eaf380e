import Mathlib.Data.List.Perm.Basic
import Mathlib.Tactic.Common
import RuleLabels.Proofs.Classify
import RuleLabels.Proofs.Fields

/-!
# What classification looks at

A payload is looked at only through the fields that conditions of enabled rules mention.  So two payloads
that agree on these fields have the same labels or fail alike, whatever else they hold.

* `Tree.run_eq_run` runs the evaluation of two payloads side by side: while the answers to the conditions in
  the open groups agree, the two stacks stay the same;
* `labels_eq_of_agreesOn` carries this through the choice and the order of rules;
* `labels_mentioned` has the conclusion.
-/

namespace RuleLabels

/-! ## Payloads that agree -/

/-- Each of some fields has the same value in both payloads, or is in neither. -/
def Fields.AgreesOn (keys : List String) (p q : Fields) : Prop := ∀ key ∈ keys, p.get? key = q.get? key

namespace Fields

theorem AgreesOn.mono {keys more : List String} {p q : Fields} (h : AgreesOn more p q) (hsub : keys ⊆ more) :
    AgreesOn keys p q :=
  fun key hkey => h key (hsub hkey)

/-- A field is found among those that are kept. -/
theorem get?_filter (keep : String → Bool) {name : String} (h : keep name = true) (p : Fields) :
    Fields.get? (p.filter fun f => keep f.1) name = p.get? name := by
  induction p with
  | nil => rfl
  | cons f rest ih =>
    rw [List.filter_cons]
    by_cases hf : keep f.1 = true
    · rw [if_pos hf, get?_cons, get?_cons, ih]
    · have hne : ¬ name = f.1 := fun hname => hf (hname ▸ h)
      rw [if_neg hf, get?_cons, if_neg hne, ih]

/-- The order of fields with different names does not matter. -/
theorem get?_perm {p q : Fields} (h : p.Perm q) (hnames : (p.map Prod.fst).Nodup) (name : String) :
    p.get? name = q.get? name := by
  induction h with
  | nil => rfl
  | cons f _ ih =>
    rw [List.map_cons, List.nodup_cons] at hnames
    rw [get?_cons, get?_cons, ih hnames.2]
  | swap f g rest =>
    rw [List.map_cons, List.map_cons, List.nodup_cons, List.mem_cons, not_or] at hnames
    simp only [get?_cons]
    by_cases hf : name = f.1
    · have hg : ¬ name = g.1 := fun hg => hnames.1.1 (hg.symm.trans hf)
      rw [if_neg hg, if_pos hf, if_pos hf]
    · rw [if_neg hf, if_neg hf]
  | trans hpq _ ih ih' =>
    rw [ih hnames, ih' ((hpq.map Prod.fst).nodup_iff.1 hnames)]

end Fields

/-! ## Evaluation -/

/-- A condition looks at its own field only. -/
theorem Condition.holds_eq {levels : Nat} {c : Condition} {p q : Fields} (h : p.get? c.key = q.get? c.key) :
    c.holds levels p = c.holds levels q := by
  rw [holds, holds, h]

namespace Tree

mutual

/-- The conditions in a tree. -/
def conditions : Tree → List Condition
  | leaf c => [c]
  | group _ children => conditionsIn children

/-- The conditions in some trees. -/
def conditionsIn : List Tree → List Condition
  | [] => []
  | t :: rest => t.conditions ++ conditionsIn rest

end

/-- The fields that a tree mentions. -/
def keys (t : Tree) : List String := t.conditions.map (·.key)

variable {ε : Type} {ask ask' : Condition → Except ε Bool}

/-- The conditions that are still open on a stack. -/
def openConditions (stack : List Frame) : List Condition := stack.flatMap fun f => conditionsIn f.pending

theorem openConditions_cons (f : Frame) (below : List Frame) :
    openConditions (f :: below) = conditionsIn f.pending ++ openConditions below := List.flatMap_cons

theorem openConditions_leaf (operator : String) (c : Condition) (rest : List Tree) (below : List Frame) :
    openConditions (⟨operator, leaf c :: rest⟩ :: below) = c :: openConditions (⟨operator, rest⟩ :: below) := by
  simp only [openConditions_cons, conditionsIn, conditions, List.cons_append, List.nil_append]

/-- To open a group does not change what is open. -/
theorem openConditions_group (operator inner : String) (children rest : List Tree) (below : List Frame) :
    openConditions (⟨operator, group inner children :: rest⟩ :: below) =
      openConditions (⟨inner, children⟩ :: ⟨operator, rest⟩ :: below) := by
  simp only [openConditions_cons, conditionsIn, conditions, List.append_assoc]

/-- Two runs go the same way while the open conditions have the same answers. -/
theorem run_eq_run {stack : List Frame} {last : Option Bool}
    (h : ∀ c ∈ openConditions stack, ask c = ask' c) : run ask stack last = run ask' stack last := by
  fun_induction run ask stack last with
  | case1 last => rw [run]
  | case2 operator pending below last hj ih =>
    rw [openConditions_cons, List.forall_mem_append] at h
    rw [ih h.2]
    conv_rhs => rw [run]
    simp only [hj]
  | case3 operator pending below last j hj hl ih =>
    rw [openConditions_cons, List.forall_mem_append] at h
    rw [ih h.2]
    conv_rhs => rw [run]
    simp only [hj, if_pos hl]
  | case4 operator below last j hj hl ih =>
    rw [openConditions_cons, List.forall_mem_append] at h
    rw [ih h.2]
    conv_rhs => rw [run]
    simp only [hj, if_neg hl]
  | case5 operator below last j hj hl c rest e he =>
    rw [openConditions_leaf, List.forall_mem_cons, he] at h
    conv_rhs => rw [run]
    simp only [hj, if_neg hl, ← h.1]
  | case6 operator below last j hj hl c rest b hb ih =>
    rw [openConditions_leaf, List.forall_mem_cons, hb] at h
    rw [ih h.2]
    conv_rhs => rw [run]
    simp only [hj, if_neg hl, ← h.1]
  | case7 operator below last j hj hl inner children rest ih =>
    rw [openConditions_group] at h
    rw [ih h]
    conv_rhs => rw [run]
    simp only [hj, if_neg hl]

/-- A tree has one outcome where its conditions have the same answers. -/
theorem evaluateBy_eq_evaluateBy {t : Tree} (h : ∀ c ∈ t.conditions, ask c = ask' c) :
    evaluateBy ask t = evaluateBy ask' t := by
  cases t with
  | leaf c => exact h c List.mem_cons_self
  | group operator children =>
    refine run_eq_run fun c hc => h c ?_
    rwa [openConditions_cons, openConditions, List.flatMap_nil, List.append_nil] at hc

/-- A tree looks at the fields that it mentions. -/
theorem evaluate_eq_of_agreesOn {levels : Nat} {t : Tree} {p q : Fields} (h : Fields.AgreesOn t.keys p q) :
    t.evaluate levels p = t.evaluate levels q :=
  evaluateBy_eq_evaluateBy fun _ hc => Condition.holds_eq (h _ (List.mem_map_of_mem hc))

end Tree

/-! ## Rules -/

namespace Rule

/-- The fields that conditions of enabled rules mention. -/
def mentioned (rules : List Rule) : List String := (rules.filter (·.enabled)).flatMap (·.conditions.keys)

variable {levels : Nat}

theorem holds_eq_of_agreesOn {r : Rule} {p q : Fields} (h : Fields.AgreesOn r.conditions.keys p q) :
    r.holds levels p = r.holds levels q := by
  rw [holds, holds]
  cases hr : r.conditions with
  | leaf c => rfl
  | group operator children =>
    rw [hr] at h
    simp only [Tree.evaluate_eq_of_agreesOn h]

/-- The same rules of a list hold, or its first fault is the same. -/
theorem holding_eq_of_agreesOn {p q : Fields} :
    ∀ {rules : List Rule}, (∀ r ∈ rules, Fields.AgreesOn r.conditions.keys p q) →
      holding levels p rules = holding levels q rules
  | [], _ => rfl
  | r :: rest, h => by
    rw [List.forall_mem_cons] at h
    rw [holding, holding, holds_eq_of_agreesOn h.1, holding_eq_of_agreesOn h.2]

theorem matching_eq_of_agreesOn {rules : List Rule} {p q : Fields}
    (h : Fields.AgreesOn (mentioned rules) p q) : matching levels p rules = matching levels q rules := by
  refine holding_eq_of_agreesOn fun r hr => h.mono fun key hkey => ?_
  obtain ⟨hmem, he⟩ := enabled_of_mem_ordered hr
  exact List.mem_flatMap.2 ⟨r, List.mem_filter.2 ⟨hmem, he⟩, hkey⟩

/-- Payloads that agree on what enabled rules mention have the same labels or the same fault. -/
theorem labels_eq_of_agreesOn {rules : List Rule} {p q : Fields}
    (h : Fields.AgreesOn (mentioned rules) p q) : labels levels p rules = labels levels q rules := by
  rw [labels, labels, matching_eq_of_agreesOn h]

/-- Rules that are not enabled have no influence. -/
theorem matching_eq_of_enabled {rules others : List Rule}
    (h : others.filter (·.enabled) = rules.filter (·.enabled)) (p : Fields) :
    matching levels p others = matching levels p rules := by
  rw [matching, matching, ordered, ordered, h]

/-- **Only the fields that enabled rules mention count.**  Two payloads that agree on them get the same rules
and the same labels, or the same fault, from all lists with the same enabled rules.  So a payload may lose
every other field, and its fields may stand in any order. -/
theorem labels_mentioned (levels : Nat) (rules : List Rule) :
    (∀ (others : List Rule) (p q : Fields),
      others.filter (·.enabled) = rules.filter (·.enabled) → Fields.AgreesOn (mentioned rules) p q →
        matching levels q others = matching levels p rules ∧ labels levels q others = labels levels p rules) ∧
    (∀ p : Fields, labels levels (p.filter fun f => f.1 ∈ mentioned rules) rules = labels levels p rules) ∧
    ∀ p q : Fields, (p.map Prod.fst).Nodup → p.Perm q → labels levels q rules = labels levels p rules := by
  refine ⟨fun others p q henabled h => ?_, fun p => ?_, fun p q hnames hperm => ?_⟩
  · have hmatching : matching levels q others = matching levels p rules := by
      rw [matching_eq_of_enabled henabled, matching_eq_of_agreesOn h]
    exact ⟨hmatching, by rw [labels, labels, hmatching]⟩
  · exact labels_eq_of_agreesOn fun key hkey =>
      Fields.get?_filter (· ∈ mentioned rules) (decide_eq_true hkey) p
  · exact (labels_eq_of_agreesOn fun key _ => Fields.get?_perm hperm hnames key).symm

/-- The default rules and another one that is not enabled, for a payload of which they mention two fields. -/
theorem labels_mentioned_defaults :
    let payload : Fields := [("CompanyName", .text "Google"), ("Price", .text "2")]
    let levels := Value.stackLevels
    let wider : Fields := [("Weight", .int 3), ("Price", .text "2"), ("CompanyName", .text "Google")]
    let idle : Rule := { (default : Rule) with conditions := .leaf ⟨"Weight", ">", .text "2"⟩, enabled := false }
    Fields.AgreesOn (mentioned (defaults .epoch)) payload wider ∧
      labels levels wider (idle :: defaults .epoch) = labels levels payload (defaults .epoch) ∧
      labels levels payload.reverse (defaults .epoch) = labels levels payload (defaults .epoch) := by
  intro payload levels wider idle
  have hagrees : Fields.AgreesOn (mentioned (defaults .epoch)) payload wider := by
    have hkeys : mentioned (defaults .epoch) =
        ["CompanyName", "CompanyName", "Price", "Price", "MOQ", "Price"] := rfl
    rw [hkeys]
    simp [Fields.AgreesOn, Fields.get?, payload, wider, List.lookup_cons]
  obtain ⟨same, -, reordered⟩ := labels_mentioned levels (defaults .epoch)
  exact ⟨hagrees, (same (idle :: defaults .epoch) payload wider rfl hagrees).2,
    reordered payload payload.reverse (by decide) (List.reverse_perm payload).symm⟩

end Rule

end RuleLabels
