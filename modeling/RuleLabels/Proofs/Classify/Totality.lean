import RuleLabels.Proofs.Classify
import RuleLabels.Proofs.Condition.Nesting
import RuleLabels.Proofs.Fields
import RuleLabels.Proofs.Number.Range
import RuleLabels.Proofs.Rule.Edit
import RuleLabels.Proofs.Tree.Evaluation

/-!
# Where classification fails

A comparison fails on three kinds of payload: by order, where the field is an integer beyond the range of
floating-point numbers, and in any way that needs its text, where an integer in it has too many digits for
one or its arrays are nested beyond what the stack holds.  The value that a rule compares with is a text, so
it is never the cause.

* `Condition.Fails` says this of one condition, and `holds_eq_error_iff` that it says all;
* `labels_eq_error_iff_fails` follows the fault through trees and rules: the labels of a payload have one
  just where the first rule that is asked such a condition does, and payloads within range have labels;
* `labels_fail_beyond_range` shows that the first kind and the last are met by small rules and payloads.  The
  same number as a text is read as infinity.
-/

namespace RuleLabels

/-! ## Values -/

/-- A comparison by the order of numbers. -/
def Comparison.IsOrder (c : Comparison) : Prop := c ≠ .equal ∧ c ≠ .notEqual

namespace Value

/-- The value is an integer that is rounded to infinity. -/
def IsBeyondRange (v : Value) : Prop := ∃ i, v = .int i ∧ Binary64.intBound ≤ i.natAbs

variable {levels : Nat} {v : Value} {fault : ComparisonFault}

/-- A value has no number to be told where it is an integer beyond range, or where it would have to be told
from a text that it does not have. -/
theorem number?_eq_error_iff :
    v.number? levels = .error fault ↔
      fault = .tooLarge ∧ v.IsBeyondRange ∨
        v.renderingFault? levels = some fault ∧ ∀ i, v ≠ .int i := by
  rw [number?.eq_def]
  split
  · rename_i i
    have hno : ¬ ∀ j, Value.int i ≠ .int j := fun h => h i rfl
    have hbeyond : (Value.int i).IsBeyondRange ↔ Binary64.ofInt? i = none := by
      rw [Binary64.ofInt?_eq_none_iff]
      constructor
      · rintro ⟨j, hj, hle⟩
        cases hj
        exact hle
      · intro hle
        exact ⟨i, rfl, hle⟩
    rw [hbeyond]
    split
    · rename_i x hx
      refine ⟨fun h => (nomatch h), ?_⟩
      rintro (⟨-, h⟩ | ⟨-, h⟩)
      · exact nomatch hx.symm.trans h
      · exact absurd h hno
    · rename_i hx
      constructor
      · intro h
        cases h
        exact .inl ⟨rfl, hx⟩
      · rintro (⟨rfl, -⟩ | ⟨-, h⟩)
        · rfl
        · exact absurd h hno
  · simp [IsBeyondRange, renderingFault?]
  · simp [IsBeyondRange, renderingFault?]
  · rename_i hint _ _
    have hbeyond : ¬ v.IsBeyondRange := fun ⟨i, hi, _⟩ => hint i hi
    have hne : ∀ i, v ≠ .int i := hint
    rw [except_map_eq_error, render_eq_error_iff]
    simp only [hbeyond, and_false, false_or]
    exact ⟨fun h => ⟨h, hne⟩, And.left⟩

/-- A text is compared without a fault. -/
theorem number?_text (levels : Nat) (s : String) : (Value.text s).number? levels = .ok (leadingNumber? s) := rfl

/-- Whether a value agrees with a text is not told where the value has no text. -/
theorem sameText_eq_error_iff {s : String} :
    v.sameText levels (.text s) = .error fault ↔ v.renderingFault? levels = some fault := by
  rw [sameText, render_text, ← render_eq_error_iff]
  cases v.render levels with
  | error f => simp [bind, Except.bind]
  | ok t => simp [bind, Except.bind, pure, Except.pure]

/-- The order of two numbers is told unless the first cannot be. -/
theorem inOrder_eq_error_iff {c : Comparison} {s : String} :
    v.inOrder levels c (.text s) = .error fault ↔ v.number? levels = .error fault := by
  rw [inOrder, number?_text]
  cases hv : v.number? levels with
  | error f => simp [bind, Except.bind]
  | ok x =>
    cases x with
    | none => simp [bind, Except.bind, pure, Except.pure]
    | some x => cases leadingNumber? s <;> simp [bind, Except.bind, pure, Except.pure]

end Value

/-! ## Conditions -/

/-- A condition meets a value in a payload that it cannot compare, where `levels` calls fit inside the one
that renders the value. -/
inductive Condition.Fails (levels : Nat) (payload : Fields) (c : Condition) : Value.ComparisonFault → Prop where
  /-- It asks for an order, and the value is an integer beyond range. -/
  | beyondRange {v : Value} {comparison : Comparison} :
    payload.get? c.key = some v → Comparison.ofOperator? c.operator = some comparison →
      comparison.IsOrder → v.IsBeyondRange → c.Fails levels payload .tooLarge
  /-- It needs the text of the value, which has none. -/
  | withoutText {v : Value} {comparison : Comparison} {fault : Value.ComparisonFault} :
    payload.get? c.key = some v → Comparison.ofOperator? c.operator = some comparison →
      v.renderingFault? levels = some fault → (comparison.IsOrder → ∀ i, v ≠ .int i) → c.Fails levels payload fault

namespace Condition

variable {levels : Nat} {payload : Fields} {c : Condition} {fault : Value.ComparisonFault}

theorem compares_eq_error_iff {v : Value} {s : String} {comparison : Comparison} :
    v.compares levels comparison (.text s) = .error fault ↔
      fault = .tooLarge ∧ comparison.IsOrder ∧ v.IsBeyondRange ∨
        v.renderingFault? levels = some fault ∧ (comparison.IsOrder → ∀ i, v ≠ .int i) := by
  cases comparison with
  | equal => simp [Value.compares, Value.sameText_eq_error_iff, Comparison.IsOrder]
  | notEqual =>
    simp [Value.compares, except_map_eq_error, Value.sameText_eq_error_iff, Comparison.IsOrder]
  | less | greater | atMost | atLeast =>
    simp [Value.compares, Value.inOrder_eq_error_iff, Value.number?_eq_error_iff, Comparison.IsOrder]

/-- A condition with a text to compare with has the faults that its definition of failure lists. -/
theorem holds_eq_error_iff (htext : ∃ s, c.value = .text s) :
    c.holds levels payload = .error fault ↔ c.Fails levels payload fault := by
  obtain ⟨s, hs⟩ := htext
  rw [holds, hs]
  constructor
  · intro h
    split at h
    · exact nomatch h
    · rename_i v hv
      split at h
      · exact nomatch h
      · rename_i comparison hc
        rcases compares_eq_error_iff.1 h with ⟨rfl, horder, hbeyond⟩ | ⟨hr, hne⟩
        · exact .beyondRange hv hc horder hbeyond
        · exact .withoutText hv hc hr hne
  · rintro (⟨hv, hc, horder, hbeyond⟩ | ⟨hv, hc, hr, hne⟩)
    · rw [hv, hc]
      exact compares_eq_error_iff.2 (.inl ⟨rfl, horder, hbeyond⟩)
    · rw [hv, hc]
      exact compares_eq_error_iff.2 (.inr ⟨hr, hne⟩)

/-- A comparison by order of what has no number is false. -/
theorem holds_eq_false {v : Value} {comparison : Comparison} {x y : Option Binary64}
    (hv : payload.get? c.key = some v) (hc : Comparison.ofOperator? c.operator = some comparison)
    (horder : comparison.IsOrder) (hx : v.number? levels = .ok x)
    (hy : c.value.number? levels = .ok y) (hnone : x = none ∨ y = none) : c.holds levels payload = .ok false := by
  have hin : v.inOrder levels comparison c.value = .ok false := by
    rw [Value.inOrder, hx, hy]
    rcases hnone with rfl | rfl
    · rfl
    · cases x <;> rfl
  rw [holds, hv, hc]
  show v.compares levels comparison c.value = .ok false
  cases comparison with
  | equal => exact absurd rfl horder.1
  | notEqual => exact absurd rfl horder.2
  | less | greater | atMost | atLeast => exact hin

end Condition

/-! ## Trees -/

namespace Tree

variable {ε : Type} {ask : Condition → Except ε Bool}

mutual

/-- The conditions of a well-formed tree compare with texts. -/
theorem Reaches.exists_text :
    ∀ {t : Tree} {c : Condition}, Reaches ask t c → t.isWellFormed = true → ∃ s, c.value = .text s
  | _, _, .leaf c, h => by
    rw [isWellFormed, Bool.and_eq_true] at h
    obtain ⟨-, h⟩ := h
    split at h
    · rename_i s hs
      exact ⟨s, hs⟩
    · exact nomatch h
  | _, _, .group _ hc, h => by
    rw [isWellFormed, Bool.and_eq_true] at h
    exact hc.exists_text h.2

theorem ReachesIn.exists_text :
    ∀ {j : Junction} {ts : List Tree} {c : Condition}, ReachesIn ask j ts c →
      allWellFormed ts = true → ∃ s, c.value = .text s
  | _, _, _, .head hc, h => by
    rw [allWellFormed, Bool.and_eq_true] at h
    exact hc.exists_text h.1
  | _, _, _, .tail _ _ hc, h => by
    rw [allWellFormed, Bool.and_eq_true] at h
    exact hc.exists_text h.2

end

end Tree

/-! ## Rules -/

/-- What a payload holds is within range: its integers have a floating-point number, and those in arrays
have a text, and no array is nested beyond a bound. -/
def Fields.IsInRange (levels : Nat) (payload : Fields) : Prop :=
  ∀ key v, payload.get? key = some v → v.isShort = true ∧ v.depth ≤ levels ∧ ¬ v.IsBeyondRange

namespace Rule

variable {levels : Nat} {payload : Fields} {rules : List Rule}

/-- A rule is asked a condition that cannot compare what it meets. -/
def Fails (levels : Nat) (payload : Fields) (r : Rule) (fault : EvaluationFault) : Prop :=
  ∃ c f, Tree.Reaches (·.holds levels payload) r.conditions c ∧ c.Fails levels payload f ∧ fault = .ofComparison f

/-- A valid rule has the fault of a condition that it is asked. -/
theorem holds_eq_error_iff {r : Rule} (h : r.IsValid) {fault : EvaluationFault} :
    r.holds levels payload = .error fault ↔ r.Fails levels payload fault := by
  have hholds : r.holds levels payload = (r.conditions.holds levels payload).mapError .ofComparison := by
    rw [holds]
    cases hc : r.conditions with
    | leaf c =>
      have hgroup := h.isGroup
      rw [hc] at hgroup
      exact nomatch hgroup
    | group operator children =>
      simp only [Tree.evaluate, Tree.evaluateBy_eq_holdsBy]
      rfl
  have hfault : (∃ f, r.conditions.holds levels payload = .error f ∧ fault = .ofComparison f) ↔
      r.Fails levels payload fault := by
    constructor
    · rintro ⟨f, hf, rfl⟩
      obtain ⟨c, hreach, hc⟩ := Tree.holdsBy_eq_error_iff.1 hf
      exact ⟨c, f, hreach, (Condition.holds_eq_error_iff (hreach.exists_text h.wellFormed)).1 hc, rfl⟩
    · rintro ⟨c, f, hreach, hc, rfl⟩
      refine ⟨f, Tree.holdsBy_eq_error_iff.2 ⟨c, hreach, ?_⟩, rfl⟩
      exact (Condition.holds_eq_error_iff (hreach.exists_text h.wellFormed)).2 hc
  rw [hholds, ← hfault]
  cases r.conditions.holds levels payload with
  | error f => simp [Except.mapError, eq_comm]
  | ok b => simp [Except.mapError]

/-- Asking rules one after the other ends at the first that fails. -/
theorem holding_eq_error_iff {fault : EvaluationFault} :
    holding levels payload rules = .error fault ↔
      ∃ before r after, rules = before ++ r :: after ∧
        (∀ s ∈ before, ∃ b, s.holds levels payload = .ok b) ∧ r.holds levels payload = .error fault := by
  induction rules with
  | nil => simp [holding]
  | cons r rest ih =>
    rw [holding]
    cases hr : r.holds levels payload with
    | error e =>
      show Except.error e = Except.error fault ↔ _
      constructor
      · intro h
        cases h
        exact ⟨[], r, rest, rfl, by simp, hr⟩
      · rintro ⟨before, r', after, heq, hbefore, hr'⟩
        cases before with
        | nil =>
          obtain ⟨rfl, -⟩ := List.cons.inj heq
          cases hr.symm.trans hr'
          rfl
        | cons s before =>
          obtain ⟨rfl, -⟩ := List.cons.inj heq
          obtain ⟨b, hb⟩ := hbefore r List.mem_cons_self
          cases hr.symm.trans hb
    | ok b =>
      refine except_map_eq_error.trans (ih.trans ?_)
      constructor
      · rintro ⟨before, r', after, rfl, hbefore, hr'⟩
        exact ⟨r :: before, r', after, rfl, List.forall_mem_cons.2 ⟨⟨b, hr⟩, hbefore⟩, hr'⟩
      · rintro ⟨before, r', after, heq, hbefore, hr'⟩
        cases before with
        | nil =>
          obtain ⟨rfl, -⟩ := List.cons.inj heq
          cases hr.symm.trans hr'
        | cons s before =>
          obtain ⟨-, rfl⟩ := List.cons.inj heq
          exact ⟨before, r', after, rfl, (List.forall_mem_cons.1 hbefore).2, hr'⟩

/-- **Where classification fails.**  The rules of a document fail on a payload just where the first of them,
in the order of their labels, that is asked a comparison it cannot make does, and with the fault of that
comparison.  They label every payload within range, whatever number of calls the stack holds.  And an order of what has
no number does not hold. -/
theorem labels_eq_error_iff_fails {now : Timestamp} {v : Value} {path : Path}
    (h : readAll now v path = .ok rules) (levels : Nat) (payload : Fields) :
    (∀ fault, labels levels payload rules = .error fault ↔
      ∃ before r after, ordered rules = before ++ r :: after ∧
        (∀ s ∈ before, ∀ f, ¬ s.Fails levels payload f) ∧ r.Fails levels payload fault) ∧
    (payload.IsInRange levels → ∃ names, labels levels payload rules = .ok names) ∧
    ∀ (c : Condition) (w : Value) (comparison : Comparison) (x y : Option Binary64),
      payload.get? c.key = some w → Comparison.ofOperator? c.operator = some comparison →
        comparison.IsOrder → w.number? levels = .ok x → c.value.number? levels = .ok y → x = none ∨ y = none →
          c.holds levels payload = .ok false := by
  have hvalid : ∀ r ∈ ordered rules, r.IsValid := fun r hr =>
    (areOrderly_of_readAll h).valid r (enabled_of_mem_ordered hr).1
  have hlabels (fault) : labels levels payload rules = .error fault ↔
      holding levels payload (ordered rules) = .error fault := by
    rw [labels, matching, except_map_eq_error]
  have hfails (fault) : labels levels payload rules = .error fault ↔
      ∃ before r after, ordered rules = before ++ r :: after ∧
        (∀ s ∈ before, ∀ f, ¬ s.Fails levels payload f) ∧ r.Fails levels payload fault := by
    rw [hlabels, holding_eq_error_iff]
    constructor
    · rintro ⟨before, r, after, heq, hbefore, hr⟩
      refine ⟨before, r, after, heq, ?_, (holds_eq_error_iff (hvalid r (by simp [heq]))).1 hr⟩
      intro s hs f hf
      obtain ⟨b, hb⟩ := hbefore s hs
      cases hb.symm.trans ((holds_eq_error_iff (hvalid s (by simp [heq, hs]))).2 hf)
    · rintro ⟨before, r, after, heq, hbefore, hr⟩
      refine ⟨before, r, after, heq, ?_, (holds_eq_error_iff (hvalid r (by simp [heq]))).2 hr⟩
      intro s hs
      cases hb : s.holds levels payload with
      | ok b => exact ⟨b, rfl⟩
      | error f =>
        exact absurd ((holds_eq_error_iff (hvalid s (by simp [heq, hs]))).1 hb) (hbefore s hs f)
  refine ⟨hfails, fun hrange => ?_, fun c w comparison x y => Condition.holds_eq_false⟩
  cases hl : labels levels payload rules with
  | ok names => exact ⟨names, rfl⟩
  | error fault =>
    obtain ⟨_, r, _, _, _, c, f, _, hc, _⟩ := (hfails fault).1 hl
    cases hc with
    | beyondRange hv _ _ hbeyond => exact absurd hbeyond (hrange _ _ hv).2.2
    | withoutText hv _ hr _ =>
      obtain ⟨hshort, hdepth, -⟩ := hrange _ _ hv
      rw [Value.renderingFault?_eq_none_iff.2 ⟨hshort, hdepth⟩] at hr
      cases hr

/-- A rule for small numbers. -/
def small : Rule :=
  ⟨"1", "Small numbers", "small", .group "AND" [.leaf ⟨"n", "<", .text "5"⟩], 1, true, .epoch, .epoch⟩

/-- The written form of the rule for small numbers is a document of rules. -/
theorem readAll_small : readAll .epoch (.array [small.toValue]) .document = .ok [small] := by
  have hvalid : small.IsValid := ⟨by decide, by decide, by decide, by decide +kernel, rfl⟩
  have hread : readEach .epoch .document 0 ([small].map toValue) = .ok [small] :=
    readEach_map_toValue (fun r hr => by rwa [List.mem_singleton.1 hr]) .epoch .document 0
  simp only [readAll, Value.fields?, Option.bind_none, Value.items?, except_bind_eq_ok]
  exact ⟨_, hread, (), rfl, rfl⟩

/-- The rule for small numbers fails on an integer beyond range and on arrays nested beyond the stack, and labels
payloads whose field is no number, infinite, or another number. -/
theorem labels_eq_error_iff_fails_small :
    let levels := Value.stackLevels
    readAll .epoch (.array [small.toValue]) .document = .ok [small] ∧
      labels levels [("n", .int (10 ^ 400))] [small] = .error .numberTooLarge ∧
      labels levels [("n", .nested 400)] [small] = .error .nestedTooDeeply ∧
      ∀ v ∈ [Value.float .nan, .float (.infinite true), .array [.int 7, .null], .int (-10 ^ 300), Value.nested 300],
        ∃ names, labels levels [("n", v)] [small] = .ok names := by
  intro levels
  have hordered : ordered [small] = [] ++ small :: [] := by simp [ordered, small]
  have hreach (payload : Fields) :
      Tree.Reaches (·.holds levels payload) small.conditions ⟨"n", "<", .text "5"⟩ := .group rfl (.head (.leaf _))
  refine ⟨readAll_small, ?_, ?_, ?_⟩
  · refine ((labels_eq_error_iff_fails readAll_small levels _).1 _).2 ⟨[], small, [], hordered, ?_, ?_⟩
    · exact List.forall_mem_nil _
    · exact ⟨_, .tooLarge, hreach _, .beyondRange rfl rfl ⟨by decide, by decide⟩ ⟨_, rfl, by decide +kernel⟩, rfl⟩
  · refine ((labels_eq_error_iff_fails readAll_small levels _).1 _).2 ⟨[], small, [], hordered, ?_, ?_⟩
    · exact List.forall_mem_nil _
    · exact ⟨_, .tooDeep, hreach _, .withoutText rfl rfl (Value.renderingFault?_nested (by decide)) (by rintro - _ ⟨⟩), rfl⟩
  · intro v hv
    refine (labels_eq_error_iff_fails readAll_small levels _).2.1 fun key w hw => ?_
    obtain rfl : v = w := by
      rw [Fields.get?_single] at hw
      split at hw
      · exact Option.some.inj hw
      · cases hw
    simp only [List.mem_cons, List.not_mem_nil, or_false] at hv
    rcases hv with rfl | rfl | rfl | rfl | rfl
    all_goals
      refine ⟨by decide +kernel, by decide +kernel, ?_⟩
      rintro ⟨_, h, hle⟩
      cases h
    exact absurd hle (by decide +kernel)

/-- Classification is not total: an accepted rule fails on a payload with one integer, and on one with arrays
inside each other.  The same number as a text is read as infinity, which is not small. -/
theorem labels_fail_beyond_range :
    let levels := Value.stackLevels
    readAll .epoch (.array [small.toValue]) .document = .ok [small] ∧
      labels levels [("n", .int (10 ^ 400))] [small] = .error .numberTooLarge ∧
      labels levels [("n", .nested 400)] [small] = .error .nestedTooDeeply ∧
      labels levels [("n", .text "1e400")] [small] = .ok [] :=
  ⟨readAll_small, by decide +kernel, by decide +kernel, by decide +kernel⟩

end Rule

end RuleLabels
