import RuleLabels.Proofs.Condition.Leading
import RuleLabels.Proofs.Json.Values
import RuleLabels.Proofs.Number.Printing
import RuleLabels.Proofs.Tree.Spelling

/-!
# Values and their texts

Conditions compare values by their texts and by their numbers.  A value and its text have the same text, and they
have the same number: an integer is read back from its digits and rounded in the same way, a float is read back from
the shortest text of it, and what is no number has its number from its text.  The zeros differ in their sign, which
no comparison sees.

* `leadingNumber?_toString`, `leadingNumber?_renderedFloat`: the numbers of the texts of numbers;
* `sameNumbers_rendered`: a value and its text have the same number;
* `compares_rendered_left`, `compares_rendered_right`: so either may stand on either side of a comparison;
* `holds_rendered`: it is the same to a condition whether a payload holds a value or its text, and so for the value
  that the condition itself compares with;
* `holds_rendered_nested`: arrays that are nested too deeply have no text to the condition, though the items are easily
  joined.
-/

namespace RuleLabels

open NumberLiteral Text

namespace Binary64

/-! ## Integers -/

theorem nearest_of_ofInt? {i : Int} {x : Binary64} (h : ofInt? i = some x) :
    nearest (decide (i < 0)) i.natAbs 1 = x := by
  rw [ofInt?] at h
  split at h
  · cases h
  · exact Option.some.inj h

/-- An integer with a number of units for its size and a sign. -/
theorem of_mul_two_pow {negative : Bool} {n k : Nat} {i : Int}
    (h : i * 2 ^ k = if negative then -(n : Int) else n) :
    i.natAbs * 2 ^ k = n ∧ (n ≠ 0 → decide (i < 0) = negative) := by
  have hpow : (0 : Int) < 2 ^ k := by positivity
  constructor
  · have habs := congrArg Int.natAbs h
    rw [Int.natAbs_mul, Int.natAbs_pow, apply_ite Int.natAbs, Int.natAbs_neg, ite_self] at habs
    exact habs
  · intro hn
    cases negative with
    | false =>
      have hpos : 0 < i * 2 ^ k := by
        rw [h, if_neg Bool.false_ne_true]
        omega
      exact decide_eq_false (not_lt.2 ((mul_pos_iff_of_pos_right hpow).1 hpos).le)
    | true =>
      have hneg : i * 2 ^ k < 0 := by
        rw [h, if_pos rfl]
        omega
      exact decide_eq_true (neg_of_mul_neg_left hneg hpow.le)

/-- The size of a number in units of a place before its last digit. -/
theorem scaled_of_units {m n k : Nat} {e : Int} (he : 0 ≤ e + k) (h : n * 2 ^ k = m * 2 ^ (e + k).toNat) :
    scaled m e = n := by
  have hunits : scaled m e * 2 ^ k = n * 2 ^ k := by
    have hcast : (n * 2 ^ k : ℚ) = m * 2 ^ (e + k).toNat := by exact_mod_cast h
    rw [hcast, scaled, mul_assoc, ← zpow_natCast, ← zpow_natCast, ← zpow_add₀ (by norm_num),
      Int.toNat_of_nonneg he]
  exact mul_right_cancel₀ (by positivity) hunits

/-- An integer that has a size and a sign, in units. -/
theorem of_units {negative : Bool} {m k : Nat} {e i u : Int} (he : 0 ≤ e + k) (hmul : i * 2 ^ k = u)
    (hunits : u = if negative then -((m * 2 ^ (e + k).toNat : Nat) : Int) else (m * 2 ^ (e + k).toNat : Nat)) :
    scaled m e = i.natAbs ∧ (m ≠ 0 → decide (i < 0) = negative) := by
  obtain ⟨hsize, hsign⟩ := of_mul_two_pow (hmul.trans hunits)
  refine ⟨scaled_of_units he hsize, fun hm => hsign ?_⟩
  positivity

/-- An integer that a number is has its size, and its sign unless it is zero. -/
theorem of_toInt? {negative : Bool} {m : Nat} {e : Int} {fits : Fits m e} {i : Int}
    (h : (finite negative m e fits).toInt? = some i) :
    scaled m e = i.natAbs ∧ (m ≠ 0 → decide (i < 0) = negative) := by
  have hleast := fits.2.1
  obtain ⟨u, hu⟩ : ∃ u : Int, (finite negative m e fits).units? = some u := ⟨_, rfl⟩
  rw [toInt?, hu] at h
  dsimp only at h
  split at h
  · rename_i hmod
    have hmul : i * 2 ^ 1074 = u := by
      rw [← Option.some.inj h]
      exact Int.ediv_mul_cancel_of_emod_eq_zero hmod
    refine of_units (k := 1074) (by omega) hmul ?_
    rw [units?, Option.some.injEq] at hu
    rw [← hu]
    push_cast
    rfl
  · cases h

/-- The number nearest to an integer that a number is, is this number unless it is a zero. -/
theorem nearest_of_toInt? {negative : Bool} {m : Nat} {e : Int} {fits : Fits m e} {i : Int}
    (h : (finite negative m e fits).toInt? = some i) :
    nearest (decide (i < 0)) i.natAbs 1 = if m = 0 then zero false else finite negative m e fits := by
  obtain ⟨hsize, hsign⟩ := of_toInt? h
  by_cases hm : m = 0
  · have hi : i = 0 := by
      rw [hm, scaled, Nat.cast_zero, zero_mul] at hsize
      exact Int.natAbs_eq_zero.1 (Nat.cast_eq_zero.1 hsize.symm)
    rw [if_pos hm, hi]
    rfl
  · have hnearest := isNearest_nearest negative i.natAbs Nat.one_pos
    rw [Nat.cast_one, div_one, ← hsize] at hnearest
    rw [if_neg hm, hsign hm]
    exact hnearest.unique (isNearest_finite negative fits)

/-- A finite number without a significand is a zero. -/
theorem finite_eq_zero {negative : Bool} {e : Int} (fits : Fits 0 e) : finite negative 0 e fits = zero negative := by
  have he : e = -1074 := fits.2.2.2.resolve_left (by decide)
  subst he
  rfl

theorem units?_zero (negative : Bool) : (zero negative).units? = some 0 := by
  simp [zero, units?]

theorem toInt?_zero (negative : Bool) : (zero negative).toInt? = some 0 := by
  rw [toInt?, units?_zero]
  dsimp only
  rw [Int.zero_emod, if_pos rfl, Int.zero_ediv]

/-! ## Zeros -/

/-- Two numbers are the same, except that either zero may stand for the other. -/
def SameNumber (x y : Binary64) : Prop := x = y ∨ ∃ a b, x = zero a ∧ y = zero b

theorem compare?_zero_finite (a : Bool) {negative : Bool} {m : Nat} {e : Int} (fits : Fits m e) :
    compare? (zero a) (finite negative m e fits) =
        some (compare 0 ((finite negative m e fits).units?.getD 0)) ∧
      compare? (finite negative m e fits) (zero a) =
        some (compare ((finite negative m e fits).units?.getD 0) 0) := by
  obtain ⟨u, hu⟩ : ∃ u, u = (finite negative m e fits).units?.getD 0 := ⟨_, rfl⟩
  rw [← hu]
  constructor
  · show some (compare ((zero a).units?.getD 0) ((finite negative m e fits).units?.getD 0)) = _
    rw [units?_zero, ← hu]
    rfl
  · show some (compare ((finite negative m e fits).units?.getD 0) ((zero a).units?.getD 0)) = _
    rw [units?_zero, ← hu]
    rfl

/-- The zeros compare alike. -/
theorem SameNumber.compare? {x y : Binary64} (h : x.SameNumber y) (z : Binary64) :
    Binary64.compare? x z = Binary64.compare? y z ∧ Binary64.compare? z x = Binary64.compare? z y := by
  rcases h with rfl | ⟨a, b, rfl, rfl⟩
  · exact ⟨rfl, rfl⟩
  · cases z with
    | nan => exact ⟨rfl, rfl⟩
    | infinite negative => exact ⟨rfl, rfl⟩
    | finite negative m e fits =>
      rw [(compare?_zero_finite a fits).1, (compare?_zero_finite a fits).2]
      exact ⟨(compare?_zero_finite b fits).1.symm, (compare?_zero_finite b fits).2.symm⟩

end Binary64

namespace Value

/-! ## Texts of numbers -/

/-- The text of an integer is a literal of its digits. -/
theorem spells_toString (i : Int) :
    Spells (.decimal (decide (i < 0)) (digitValues (Nat.toDigits 10 i.natAbs)) [] 0) (toString i).toList := by
  have hall : AllDigits (Nat.toDigits 10 i.natAbs) := fun c hc =>
    Nat.isDigit_of_mem_toDigits (by decide) (by decide) hc
  have hmantissa := SpellsMantissa.whole hall Nat.toDigits_ne_nil
  have hspells : ∀ {negative : Bool} {g : List Char}, SpellsSign negative g →
      Spells (.decimal negative (digitValues (Nat.toDigits 10 i.natAbs)) [] 0) (g ++ Nat.toDigits 10 i.natAbs) := by
    intro negative g hg
    have h := Spells.decimal hg hmantissa .absent
    rwa [List.append_nil] at h
  rw [Json.toList_toString]
  by_cases hi : i < 0
  · rw [if_pos hi, decide_eq_true hi]
    exact hspells .minus
  · rw [if_neg hi, decide_eq_false hi]
    exact hspells .absent

/-- The text of an integer is read as the number nearest to it. -/
theorem leadingNumber?_toString (i : Int) :
    leadingNumber? (toString i) = some (.nearest (decide (i < 0)) i.natAbs 1) := by
  have hvalue : size (digitValues (Nat.toDigits 10 i.natAbs)) [] 0 = i.natAbs / (1 : Nat) := by
    have hdigits : ofDigits 10 (digitValues (Nat.toDigits 10 i.natAbs)) = i.natAbs := ofDigits_toDigits _
    rw [size, hdigits]
    simp [ofDigits]
  rw [leadingNumber?_of_spells (spells_toString i), Option.some.injEq, eq_comm, ← readsAs_iff, ReadsAs, hvalue]
  exact Binary64.isNearest_nearest _ _ Nat.one_pos

/-- The text of a floating-point number is read as this number, but for the sign of a zero. -/
theorem leadingNumber?_renderedFloat (x : Binary64) :
    x = .nan ∧ leadingNumber? (renderedFloat x) = none ∨
      x ≠ .nan ∧ ∃ y, leadingNumber? (renderedFloat x) = some y ∧ x.SameNumber y := by
  cases x with
  | nan => exact .inl ⟨rfl, by decide⟩
  | infinite negative =>
    right
    cases negative with
    | false => exact ⟨nofun, .infinite false, by decide, .inl rfl⟩
    | true => exact ⟨nofun, .infinite true, by decide, .inl rfl⟩
  | finite negative m e fits =>
    refine .inr ⟨nofun, ?_⟩
    rw [renderedFloat.eq_def]
    dsimp only
    cases hint : (Binary64.finite negative m e fits).toInt? with
    | some i =>
      refine ⟨_, leadingNumber?_toString i, ?_⟩
      rw [Binary64.nearest_of_toInt? hint]
      by_cases hm : m = 0
      · subst hm
        rw [if_pos rfl, Binary64.finite_eq_zero fits]
        exact .inr ⟨negative, false, rfl, rfl⟩
      · rw [if_neg hm]
        exact .inl rfl
    | none =>
      have hm : m ≠ 0 := by
        rintro rfl
        rw [Binary64.finite_eq_zero fits, Binary64.toInt?_zero] at hint
        exact nomatch hint
      obtain ⟨l, hl, hread⟩ := Binary64.text_spelled negative fits hm
      exact ⟨_, leadingNumber?_of_spells hl, .inl hread.symm⟩

/-! ## Comparisons -/

/-- Two values have numbers that are the same, or both have none. -/
def SameNumbers (levels : Nat) (v w : Value) : Prop :=
  ∃ x y, v.number? levels = .ok x ∧ w.number? levels = .ok y ∧ Option.Rel Binary64.SameNumber x y

theorem sameNumbers_int (levels : Nat) {i : Int} {x : Binary64} (hi : Binary64.ofInt? i = some x) :
    SameNumbers levels (.int i) (.text (Value.int i).rendered) := by
  have hnumber : (Value.int i).number? levels = .ok (some x) := by
    rw [number?, hi]
  have htext := number?_text levels (Value.int i).rendered
  rw [rendered, leadingNumber?_toString, Binary64.nearest_of_ofInt? hi] at htext
  exact ⟨_, _, hnumber, htext, .some (.inl rfl)⟩

theorem sameNumbers_float (levels : Nat) (x : Binary64) :
    SameNumbers levels (.float x) (.text (Value.float x).rendered) := by
  have htext := number?_text levels (Value.float x).rendered
  rw [rendered] at htext
  rcases leadingNumber?_renderedFloat x with ⟨rfl, hnone⟩ | ⟨hnan, y, hy, hsame⟩
  · rw [hnone] at htext
    exact ⟨none, none, rfl, htext, .none⟩
  · have hnumber : (Value.float x).number? levels = .ok (some x) := by
      rw [number?]
      exact hnan
    rw [hy] at htext
    exact ⟨_, _, hnumber, htext, .some hsame⟩

/-- A value has the number of its text. -/
theorem sameNumbers_rendered {levels : Nat} {v : Value} {s : String} (hr : v.render levels = .ok s)
    (hrange : ¬ v.IsBeyondRange) : SameNumbers levels v (.text s) := by
  have htext := number?_text levels s
  obtain ⟨-, hs⟩ := render_eq_ok_iff.1 hr
  have hnumber := number?.eq_def levels v
  split at hnumber
  · rename_i i
    cases hi : Binary64.ofInt? i with
    | none => exact absurd ⟨i, rfl, Binary64.ofInt?_eq_none_iff.1 hi⟩ hrange
    | some x =>
      rw [hs]
      exact sameNumbers_int levels hi
  · rw [hs]
    exact sameNumbers_float levels _
  · rw [hs]
    exact sameNumbers_float levels _
  · -- what is no number is read from its text
    rw [hr] at hnumber
    refine ⟨_, _, hnumber, htext, ?_⟩
    cases leadingNumber? s with
    | none => exact .none
    | some x => exact .some (.inl rfl)

section

variable {levels : Nat} {v v' : Value} (h : SameNumbers levels v v')
include h

theorem SameNumbers.inOrder_left (c : Comparison) (w : Value) : v.inOrder levels c w = v'.inOrder levels c w := by
  obtain ⟨x, y, hx, hy, hsame⟩ := h
  rw [inOrder, inOrder, hx, hy]
  cases hsame with
  | none => rfl
  | some hsame =>
    cases w.number? levels with
    | error fault => rfl
    | ok z =>
      cases z with
      | none => rfl
      | some z =>
        rename_i x y
        show Except.ok (((x.compare? z).map c.admits).getD false) = .ok (((y.compare? z).map c.admits).getD false)
        rw [(hsame.compare? z).1]

theorem SameNumbers.inOrder_right (c : Comparison) (w : Value) : w.inOrder levels c v = w.inOrder levels c v' := by
  obtain ⟨x, y, hx, hy, hsame⟩ := h
  rw [inOrder, inOrder, hx, hy]
  cases w.number? levels with
  | error fault => rfl
  | ok z =>
    cases hsame with
    | none => rfl
    | some hsame =>
      cases z with
      | none => rfl
      | some z =>
        rename_i x y
        show Except.ok (((z.compare? x).map c.admits).getD false) = .ok (((z.compare? y).map c.admits).getD false)
        rw [(hsame.compare? z).2]

end

section

variable {levels : Nat} {v : Value} {s : String} (hr : v.render levels = .ok s) (hrange : ¬ v.IsBeyondRange)
include hr hrange

/-- Comparing a value is comparing its text. -/
theorem compares_rendered_left (c : Comparison) (w : Value) :
    v.compares levels c w = (Value.text s).compares levels c w := by
  have htext : v.sameText levels w = (Value.text s).sameText levels w := by
    rw [sameText, sameText, hr, render_text]
  have horder := (sameNumbers_rendered hr hrange).inOrder_left c w
  cases c with
  | equal => exact htext
  | notEqual => exact congrArg (Except.map (!·)) htext
  | less | greater | atMost | atLeast => exact horder

/-- Comparing with a value is comparing with its text. -/
theorem compares_rendered_right (c : Comparison) (w : Value) :
    w.compares levels c v = w.compares levels c (Value.text s) := by
  have htext : w.sameText levels v = w.sameText levels (Value.text s) := by
    rw [sameText, sameText, hr, render_text]
  have horder := (sameNumbers_rendered hr hrange).inOrder_right c w
  cases c with
  | equal => exact htext
  | notEqual => exact congrArg (Except.map (!·)) htext
  | less | greater | atMost | atLeast => exact horder

end

end Value

namespace Condition

/-- A condition on the only field of a payload. -/
theorem holds_single {levels : Nat} {key : String} {c : Condition} (v : Value) :
    c.holds levels [(key, v)] =
      if c.key = key then
        match Comparison.ofOperator? c.operator with
        | none => .ok false
        | some comparison => v.compares levels comparison c.value
      else .ok false := by
  by_cases hkey : c.key = key
  · cases hoperator : Comparison.ofOperator? c.operator with
    | none => simp only [holds, Fields.get?_single, hoperator, if_pos hkey]
    | some comparison => simp only [holds, Fields.get?_single, hoperator, if_pos hkey]
  · simp only [holds, Fields.get?_single, if_neg hkey]

section

variable {levels : Nat} {v : Value} {s : String} (hr : v.render levels = .ok s) (hrange : ¬ v.IsBeyondRange)
include hr hrange

theorem holds_single_rendered (key : String) (c : Condition) :
    c.holds levels [(key, v)] = c.holds levels [(key, .text s)] := by
  rw [holds_single, holds_single]
  by_cases hkey : c.key = key
  · rw [if_pos hkey, if_pos hkey]
    cases Comparison.ofOperator? c.operator with
    | none => rfl
    | some comparison => exact Value.compares_rendered_left hr hrange comparison c.value
  · rw [if_neg hkey, if_neg hkey]

/-- A condition with a text to compare with does not fail on a value that can be compared. -/
theorem holds_single_eq_ok (key : String) {c : Condition} (htext : ∃ s, c.value = .text s) :
    ∃ b, c.holds levels [(key, v)] = .ok b := by
  have hget : ∀ w, Fields.get? [(key, v)] c.key = some w → w = v := by
    intro w hw
    rw [Fields.get?_single] at hw
    split at hw
    · exact (Option.some.inj hw).symm
    · cases hw
  cases hholds : c.holds levels [(key, v)] with
  | ok b => exact ⟨b, rfl⟩
  | error fault =>
    cases (holds_eq_error_iff htext).1 hholds with
    | beyondRange hw _ _ hbeyond => exact absurd (hget _ hw ▸ hbeyond) hrange
    | withoutText hw _ hno _ =>
      rw [hget _ hw, (Value.render_eq_ok_iff.1 hr).1] at hno
      cases hno

omit hr hrange in
/-- A condition with a text to compare with fails on a value that is nested beyond the stack. -/
theorem holds_single_eq_tooDeep (hshort : v.isShort = true) (hdepth : levels < v.depth) {key : String}
    {c : Condition} (hkey : c.key = key) (hoperator : (Comparison.ofOperator? c.operator).isSome)
    (htext : ∃ t, c.value = .text t) : c.holds levels [(key, v)] = .error .tooDeep := by
  obtain ⟨comparison, hc⟩ := Option.isSome_iff_exists.1 hoperator
  have hget : Fields.get? [(key, v)] c.key = some v := by rw [Fields.get?_single, if_pos hkey]
  have hfault := (Value.renderingFault?_eq_some_iff_of_isShort hshort).2 ⟨rfl, hdepth⟩
  refine (holds_eq_error_iff htext).2 (.withoutText hget hc hfault ?_)
  rintro - i rfl
  exact absurd hdepth (Nat.not_lt_zero _)

/-- A condition that is read has the meaning that it has with the value it was given. -/
theorem holds_of_readCondition {fields : Fields} {path : Path} {c : Condition}
    (hread : Tree.readCondition fields path = .ok c) (hv : fields.get? "value" = some v) (payload : Fields) :
    c.holds levels payload = { c with value := v }.holds levels payload := by
  obtain ⟨-, -, w, hw, -, hvalue⟩ := Tree.readCondition_eq_ok_iff.1 hread
  obtain rfl : w = v := Option.some.inj (hw.symm.trans hv)
  rw [holds, holds, hvalue, ← (Value.render_eq_ok_iff.1 hr).2]
  cases payload.get? c.key with
  | none => rfl
  | some actual =>
    cases Comparison.ofOperator? c.operator with
    | none => rfl
    | some comparison => exact (Value.compares_rendered_right hr hrange comparison actual).symm

end

/-- **Values and their texts.**  A payload with one field satisfies a condition with a text to compare with whether
it holds a value or the text of the value, unless the value is an integer beyond the range of floating-point numbers
or has no text.  A field of a payload that was read from a text has one while its arrays are not nested beyond the
calls that the stack holds, and every comparison with a text fails on it where they are.  The value that a condition
is given is stored as its text, which does not change on which payloads the condition holds or fails. -/
theorem holds_rendered (levels : Nat) :
    (∀ v s key (c : Condition), v.render levels = .ok s → ¬ v.IsBeyondRange → (∃ t, c.value = .text t) →
      ∃ b, c.holds levels [(key, v)] = .ok b ∧ c.holds levels [(key, .text s)] = .ok b) ∧
    (∀ s fields key v, Json.read s = .ok (.object fields) → Fields.get? fields key = some v →
      (v.depth ≤ levels → v.render levels = .ok v.rendered) ∧
        (levels < v.depth → ∀ c : Condition, c.key = key → (Comparison.ofOperator? c.operator).isSome →
          (∃ t, c.value = .text t) → c.holds levels [(key, v)] = .error .tooDeep)) ∧
    ∀ fields path c w s, Tree.readCondition fields path = .ok c → Fields.get? fields "value" = some w →
      w.render levels = .ok s → ¬ w.IsBeyondRange →
        ∀ payload, c.holds levels payload = { c with value := w }.holds levels payload := by
  refine ⟨fun v s key c hr hrange htext => ?_, fun s fields key v hread hv => ?_,
    fun fields path c w s hread hw hr hrange => ?_⟩
  · obtain ⟨b, hb⟩ := holds_single_eq_ok hr hrange key htext
    exact ⟨b, hb, (holds_single_rendered hr hrange key c).symm.trans hb⟩
  · have hshort := ((Json.isSpelled_of_read hread).of_get? hv).isShort
    refine ⟨fun hdepth => ?_, fun hdepth => ?_⟩
    · exact Value.render_eq_ok_iff.2 ⟨Value.renderingFault?_eq_none_iff.2 ⟨hshort, hdepth⟩, rfl⟩
    · exact fun c => holds_single_eq_tooDeep hshort hdepth
  · exact holds_of_readCondition hr hrange hread hw

/-- A third of a payload and a half that a condition is given, and their texts. -/
theorem holds_rendered_third :
    let levels := Value.stackLevels
    (Value.float (.nearest false 1 3)).render levels = .ok "0.3333333333333333" ∧
      (∃ b, (⟨"n", "<", .text "0.5"⟩ : Condition).holds levels [("n", .float (.nearest false 1 3))] = .ok b ∧
        (⟨"n", "<", .text "0.5"⟩ : Condition).holds levels [("n", .text "0.3333333333333333")] = .ok b) ∧
      (∃ fields v, Json.read "\x7b\"n\": [1, null]\x7d" = .ok (.object fields) ∧
        Fields.get? fields "n" = some v ∧ v.depth ≤ levels ∧ v.render levels = .ok v.rendered) ∧
      ∀ payload, (⟨"n", "<", .text "0.5"⟩ : Condition).holds levels payload =
        (⟨"n", "<", .float (.nearest false 1 2)⟩ : Condition).holds levels payload := by
  intro levels
  have hthird : (Value.float (.nearest false 1 3)).render levels = .ok "0.3333333333333333" := by decide +kernel
  have hhalf : (Value.float (.nearest false 1 2)).render levels = .ok "0.5" := by decide +kernel
  have hrange : ∀ x, ¬ (Value.float x).IsBeyondRange := by
    rintro x ⟨_, h, _⟩
    cases h
  have hread : (Json.read "\x7b\"n\": [1, null]\x7d").toOption.any fun v =>
      (v.fields?.bind fun fields => Fields.get? fields "n").any (·.depth ≤ levels) := by decide +kernel
  have hcondition : Tree.readCondition [("key", .text "n"), ("operator", .text "<"),
      ("value", .float (.nearest false 1 2))] .document = .ok ⟨"n", "<", .text "0.5"⟩ := by
    have hrendered := (Value.render_eq_ok_iff.1 hhalf).2
    rw [Tree.readCondition_eq_ok_iff]
    exact ⟨⟨rfl, by decide⟩, ⟨rfl, by decide⟩, _, rfl, ⟨rfl, rfl, rfl, rfl⟩, by rw [← hrendered]⟩
  refine ⟨hthird, ?_, ?_, ?_⟩
  · exact (holds_rendered levels).1 _ _ "n" ⟨"n", "<", .text "0.5"⟩ hthird (hrange _) ⟨_, rfl⟩
  · obtain ⟨d, hd, hfield⟩ := (Option.any_eq_true _ _).1 hread
    rw [except_toOption_eq_some] at hd
    cases Json.isSpelled_of_read hd with
    | object _ =>
      obtain ⟨v, hv, hdepth⟩ := (Option.any_eq_true _ _).1 hfield
      have hdepth := of_decide_eq_true hdepth
      exact ⟨_, v, hd, hv, hdepth, ((holds_rendered levels).2.1 _ _ "n" v hd hv).1 hdepth⟩
    | _ => exact absurd hfield Bool.false_ne_true
  · exact (holds_rendered levels).2.2 _ _ _ _ _ hcondition rfl hhalf (hrange _)

/-- An empty array inside four hundred others has an empty text, but a condition fails on it instead of comparing
this text. -/
theorem holds_rendered_nested :
    let levels := Value.stackLevels
    (Value.nested 400).rendered = "" ∧
      (⟨"n", "=", .text "x"⟩ : Condition).holds levels [("n", .nested 400)] = .error .tooDeep ∧
      (⟨"n", "=", .text "x"⟩ : Condition).holds levels [("n", .text "")] = .ok false :=
  ⟨by decide +kernel, by decide +kernel, by decide +kernel⟩

end Condition

end RuleLabels
