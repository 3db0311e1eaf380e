import Mathlib.Tactic.Common
import RuleLabels.Classify
import RuleLabels.Proofs.Checked
import RuleLabels.Store.Defaults

/-!
# The labels of a payload, as a stable selection

`Rule.labels` drops what is disabled, sorts, and only then asks the conditions.  Two facts make the order of
these steps immaterial:

* a list that falls in priority is determined by its parts of one priority (`eq_of_ofPriority_eq`), and
  sorting keeps these parts (`ofPriority_mergeSort`);
* the rules that hold are picked from a list without moving any of them (`holding_eq_ok_filter`).

Rules that do not apply leave no trace, and an order in which the enabled rules of one priority stand as
before is as good as another.
-/

namespace RuleLabels.Rule

variable {levels : Nat} {payload : Fields} {rules others : List Rule}

/-! ## Lists that fall in priority -/

/-- The rules of one priority, in their order. -/
def ofPriority (p : Int) (rules : List Rule) : List Rule := rules.filter (·.priority = p)

/-- No rule has a higher priority than one before it. -/
def Falls (rules : List Rule) : Prop := rules.Pairwise fun r s => s.priority ≤ r.priority

theorem mem_ofPriority {p : Int} {r : Rule} : r ∈ ofPriority p rules ↔ r ∈ rules ∧ r.priority = p := by
  simp [ofPriority]

theorem ofPriority_cons (p : Int) (r : Rule) (rest : List Rule) :
    ofPriority p (r :: rest) = if r.priority = p then r :: ofPriority p rest else ofPriority p rest := by
  simp [ofPriority, List.filter_cons]

theorem ofPriority_filter (p : Int) (q : Rule → Bool) (rules : List Rule) :
    ofPriority p (rules.filter q) = (ofPriority p rules).filter q := by
  simp [ofPriority, List.filter_filter, Bool.and_comm]

theorem falls_ofPriority (p : Int) (rules : List Rule) : Falls (ofPriority p rules) := by
  refine List.pairwise_of_forall_mem_list fun r hr s hs => ?_
  have hr := (mem_ofPriority.1 hr).2
  have hs := (mem_ofPriority.1 hs).2
  omega

theorem Falls.head_le {r s : Rule} {rest : List Rule} (h : Falls (r :: rest)) (hs : s ∈ r :: rest) :
    s.priority ≤ r.priority := by
  rcases List.mem_cons.1 hs with rfl | hs
  · exact Int.le_refl _
  · exact (List.pairwise_cons.1 h).1 s hs

/-- A falling list is determined by its parts of one priority. -/
theorem eq_of_ofPriority_eq (h : Falls rules) (h' : Falls others)
    (same : ∀ p, ofPriority p rules = ofPriority p others) : rules = others := by
  have hmem : ∀ r : Rule, r ∈ rules ↔ r ∈ others := fun r => by
    simpa [mem_ofPriority] using Iff.of_eq (congrArg (r ∈ ·) (same r.priority))
  induction rules generalizing others with
  | nil => exact (List.eq_nil_iff_forall_not_mem.2 fun r hr => by simpa using (hmem r).2 hr).symm
  | cons r rest ih =>
    cases others with
    | nil => exact absurd ((hmem r).1 List.mem_cons_self) List.not_mem_nil
    | cons s rest' =>
      -- each head has the highest priority there is, so both lead the part of that priority
      have heq : s.priority = r.priority :=
        Int.le_antisymm (h.head_le ((hmem s).2 List.mem_cons_self))
          (h'.head_le ((hmem r).1 List.mem_cons_self))
      have hhead := same r.priority
      rw [ofPriority_cons, ofPriority_cons, if_pos rfl, if_pos heq, List.cons.injEq] at hhead
      obtain ⟨rfl, -⟩ := hhead
      have htail : ∀ p, ofPriority p rest = ofPriority p rest' := fun p => by
        have := same p
        rw [ofPriority_cons, ofPriority_cons] at this
        split at this
        · exact (List.cons.inj this).2
        · exact this
      have hmem' : ∀ t : Rule, t ∈ rest ↔ t ∈ rest' := fun t => by
        simpa [mem_ofPriority] using Iff.of_eq (congrArg (t ∈ ·) (htail t.priority))
      rw [ih (List.pairwise_cons.1 h).2 (List.pairwise_cons.1 h').2 htail hmem']

/-! ## Sorting -/

theorem precedes_trans (r s t : Rule) (h : decide (s.priority ≤ r.priority) = true)
    (h' : decide (t.priority ≤ s.priority) = true) : decide (t.priority ≤ r.priority) = true := by
  simp only [decide_eq_true_eq] at h h' ⊢
  omega

theorem precedes_total (r s : Rule) :
    (decide (s.priority ≤ r.priority) || decide (r.priority ≤ s.priority)) = true := by
  simp only [Bool.or_eq_true, decide_eq_true_eq]
  omega

/-- Sorting keeps the rules of one priority in their order: they are a part of the result, since they had
no need to be sorted, and it has no more of that priority. -/
theorem ofPriority_mergeSort (p : Int) (rules : List Rule) :
    ofPriority p (rules.mergeSort fun r s => s.priority ≤ r.priority) = ofPriority p rules := by
  have hsub : (ofPriority p rules).Sublist (rules.mergeSort fun r s => s.priority ≤ r.priority) :=
    List.sublist_mergeSort precedes_trans precedes_total ((falls_ofPriority p rules).imp (by simp))
      List.filter_sublist
  have hpart : (ofPriority p rules).Sublist
      (ofPriority p (rules.mergeSort fun r s => s.priority ≤ r.priority)) := by
    have := hsub.filter (·.priority = p)
    simpa only [ofPriority, List.filter_filter, Bool.and_self] using this
  refine (hpart.eq_of_length ?_).symm
  exact ((List.mergeSort_perm rules _).filter _).length_eq.symm

theorem falls_ordered (rules : List Rule) : Falls (ordered rules) :=
  (List.pairwise_mergeSort precedes_trans precedes_total _).imp (by simp)

theorem ofPriority_ordered (p : Int) (rules : List Rule) :
    ofPriority p (ordered rules) = ofPriority p (rules.filter (·.enabled)) :=
  ofPriority_mergeSort p _

/-- The order of rules is that of the enabled rules of each priority. -/
theorem ordered_eq_ordered
    (same : ∀ p, ofPriority p (rules.filter (·.enabled)) = ofPriority p (others.filter (·.enabled))) :
    ordered rules = ordered others :=
  eq_of_ofPriority_eq (falls_ordered rules) (falls_ordered others) fun p => by
    rw [ofPriority_ordered, ofPriority_ordered, same p]

/-! ## Asking the conditions -/

/-- Whether a rule applies is told, and it does not. -/
def passesOver (levels : Nat) (payload : Fields) (r : Rule) : Bool := r.applies levels payload = .ok false

theorem applies_of_enabled {r : Rule} (h : r.enabled = true) : r.applies levels payload = r.holds levels payload := by
  rw [applies, if_pos h]

theorem enabled_of_mem_ordered {r : Rule} (h : r ∈ ordered rules) : r ∈ rules ∧ r.enabled = true := by
  rw [ordered, List.mem_mergeSort] at h
  exact List.mem_filter.1 h

/-- Where every answer is given, those that hold are picked without moving any. -/
theorem holding_eq_ok_filter :
    ∀ {rules : List Rule}, (∀ r ∈ rules, r.enabled = true ∧ ∃ b, r.applies levels payload = .ok b) →
      holding levels payload rules = .ok (rules.filter (·.applies levels payload = .ok true))
  | [], _ => rfl
  | r :: rest, h => by
    obtain ⟨⟨hr, b, hb⟩, hrest⟩ := List.forall_mem_cons.1 h
    rw [holding, ← applies_of_enabled hr, hb, holding_eq_ok_filter hrest]
    cases b <;> simp [Except.map, hb]

/-- Enabled rules that do not apply need not be asked. -/
theorem holding_filter :
    ∀ {rules : List Rule}, (∀ r ∈ rules, r.enabled = true) →
      holding levels payload (rules.filter (!·.passesOver levels payload)) = holding levels payload rules
  | [], _ => rfl
  | r :: rest, h => by
    obtain ⟨hr, hrest⟩ := List.forall_mem_cons.1 h
    by_cases hp : r.passesOver levels payload = true
    · have hb : r.holds levels payload = .ok false := by
        rw [← applies_of_enabled hr]
        exact of_decide_eq_true hp
      rw [List.filter_cons_of_neg (by simp [hp]), holding_filter hrest, holding, hb]
      cases holding levels payload rest <;> rfl
    · rw [List.filter_cons_of_pos (by simp [hp]), holding, holding, holding_filter hrest]

/-- The order of what is not passed over is that of the whole list. -/
theorem ordered_filter (rules : List Rule) :
    (ordered rules).filter (!·.passesOver levels payload) =
      ordered (rules.filter (!·.passesOver levels payload)) := by
  refine eq_of_ofPriority_eq ((falls_ordered rules).filter _) (falls_ordered _) fun p => ?_
  rw [ofPriority_filter, ofPriority_ordered, ofPriority_ordered, ← ofPriority_filter,
    List.filter_filter, List.filter_filter]
  simp only [Bool.and_comm]

/-! ## The labels -/

/-- Rules that do not apply leave no trace. -/
theorem labels_filter (levels : Nat) (payload : Fields) (rules : List Rule) :
    labels levels payload (rules.filter (!·.passesOver levels payload)) = labels levels payload rules := by
  rw [labels, labels, matching, matching, ← ordered_filter,
    holding_filter fun r hr => (enabled_of_mem_ordered hr).2]

/-- The rules that apply are found if every enabled rule can be asked. -/
theorem matching_eq_ok (h : ∀ r ∈ rules, ∃ b, r.applies levels payload = .ok b) :
    matching levels payload rules = .ok ((ordered rules).filter (·.applies levels payload = .ok true)) :=
  holding_eq_ok_filter fun r hr =>
    let ⟨hmem, he⟩ := enabled_of_mem_ordered hr
    ⟨he, h r hmem⟩

/-- What is picked from the order are the rules of the list that apply, each as often as it is there. -/
theorem filter_ordered_perm (levels : Nat) (payload : Fields) (rules : List Rule) :
    ((ordered rules).filter (·.applies levels payload = .ok true)).Perm
      (rules.filter (·.applies levels payload = .ok true)) := by
  refine ((List.mergeSort_perm _ _).filter _).trans (List.Perm.of_eq ?_)
  rw [List.filter_filter]
  refine List.filter_congr fun r _ => ?_
  cases he : r.enabled <;> simp [applies, he]

theorem ofPriority_filter_ordered (levels : Nat) (payload : Fields) (rules : List Rule) (p : Int) :
    ofPriority p ((ordered rules).filter (·.applies levels payload = .ok true)) =
      ofPriority p (rules.filter (·.applies levels payload = .ok true)) := by
  rw [ofPriority_filter, ofPriority_ordered, ← ofPriority_filter, List.filter_filter]
  congr 1
  refine List.filter_congr fun r _ => ?_
  cases he : r.enabled <;> simp [applies, he]

/-- **Classification is a stable selection.**  If no enabled rule fails on the payload, its labels are those
of exactly the rules that apply, each once, those of higher priority first and those of one priority in
their given order.  And for all rules, the labels are the same if rules that do not apply are put in or taken
out anywhere, and if the enabled rules of each priority stand in the same order. -/
theorem labels_stable (levels : Nat) (payload : Fields) (rules : List Rule) :
    ((∀ r ∈ rules, r.enabled = true → ∃ b, r.applies levels payload = .ok b) →
      ∃ held : List Rule, labels levels payload rules = .ok (held.map (·.label)) ∧
        held.Perm (rules.filter (·.applies levels payload = .ok true)) ∧ Falls held ∧
        ∀ p, ofPriority p held = ofPriority p (rules.filter (·.applies levels payload = .ok true))) ∧
    (∀ others : List Rule,
      others.filter (!·.passesOver levels payload) = rules.filter (!·.passesOver levels payload) →
        labels levels payload others = labels levels payload rules) ∧
    ∀ others : List Rule,
      (∀ p, ofPriority p (others.filter (·.enabled)) = ofPriority p (rules.filter (·.enabled))) →
        labels levels payload others = labels levels payload rules := by
  refine ⟨fun h => ?selected, fun others same => ?unmatched, fun others same => ?reordered⟩
  case selected =>
    have hall : ∀ r ∈ rules, ∃ b, r.applies levels payload = .ok b := fun r hr => by
      cases he : r.enabled with
      | true => exact h r hr he
      | false => exact ⟨false, by simp [applies, he]⟩
    refine ⟨_, ?_, filter_ordered_perm levels payload rules, (falls_ordered rules).filter _,
      ofPriority_filter_ordered levels payload rules⟩
    rw [labels, matching_eq_ok hall]
    rfl
  case unmatched => rw [← labels_filter, same, labels_filter]
  case reordered => rw [labels, labels, matching, matching, ordered_eq_ordered same]

/-- The default rules for a payload to which two of them apply.  The third may be left out, and since no two
have one priority they may stand in any order. -/
theorem labels_stable_defaults :
    let payload : Fields := [("CompanyName", .text "Google"), ("Price", .text "2")]
    let levels := Value.stackLevels
    (∀ r ∈ defaults .epoch, r.enabled = true → ∃ b, r.applies levels payload = .ok b) ∧
      (∃ held : List Rule, labels levels payload (defaults .epoch) = .ok (held.map (·.label)) ∧
        held.Perm ((defaults .epoch).filter (·.applies levels payload = .ok true)) ∧ Falls held ∧
        ∀ p, ofPriority p held =
          ofPriority p ((defaults .epoch).filter (·.applies levels payload = .ok true))) ∧
      labels levels payload ((defaults .epoch).take 2) = labels levels payload (defaults .epoch) ∧
      labels levels payload (defaults .epoch).reverse = labels levels payload (defaults .epoch) := by
  intro payload levels
  have hrule : ∀ r ∈ defaults .epoch, r.enabled = true → ∃ b, r.applies levels payload = .ok b := by
    simp only [defaults, List.forall_mem_cons, List.not_mem_nil, false_implies, implies_true, and_true]
    exact ⟨fun _ => ⟨true, by decide +kernel⟩, fun _ => ⟨true, by decide +kernel⟩,
      fun _ => ⟨false, by decide +kernel⟩⟩
  obtain ⟨selected, unmatched, reordered⟩ := labels_stable levels payload (defaults .epoch)
  refine ⟨hrule, selected hrule, unmatched _ ?_, reordered _ fun p => ?_⟩
  · have h1 : ∀ r ∈ (defaults .epoch).take 2, (!r.passesOver levels payload) = true := by decide +kernel
    have h2 : ∀ r ∈ (defaults .epoch).drop 2, ¬(!r.passesOver levels payload) = true := by decide +kernel
    rw [← List.take_append_drop 2 (defaults .epoch), List.filter_append, List.filter_eq_nil_iff.2 h2,
      List.append_nil, List.take_append_drop]
  · by_cases h : p = 1 ∨ p = 2 ∨ p = 3
    · rcases h with rfl | rfl | rfl <;> rfl
    · have : p ≠ 1 ∧ p ≠ 2 ∧ p ≠ 3 := by omega
      simp [ofPriority, defaults, this.1.symm, this.2.1.symm, this.2.2.symm]

end RuleLabels.Rule
