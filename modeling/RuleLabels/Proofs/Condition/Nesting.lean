import Mathlib.Order.MinMax
import Mathlib.Tactic.Common
import RuleLabels.Value.Rendered

/-!
# Which values have a text

A value has a text just where the integers in it are short enough and its arrays are not nested too deeply.
The two are said apart from the search for the first fault, and `renderingFault?` is tied to them:

* `isShort` and `depth` say how long the integers of a value are, and how many calls its text takes inside each
  other;
* `renderingFault?_cases`: a fault is that of a long integer or that of arrays nested beyond the bound;
* `renderingFault?_eq_none_iff`: there is none for short values within the bound;
* `renderingFault?_eq_some_iff_of_isShort`: for short values, the bound alone decides.
-/

namespace RuleLabels.Value

/-! ## Length and depth -/

mutual

/-- No integer that the text of a value shows has too many digits. -/
def isShort : Value → Bool
  | int i => i.natAbs < digitBound
  | array items => itemsAreShort items
  | tuple items => itemsAreShort items
  | set items => itemsHaveText items
  | looped _ v => isShort v
  | _ => true

/-- No integer that the texts of the items of an array show has too many digits. -/
def itemsAreShort : List Value → Bool
  | [] => true
  | v :: rest => isShort v && itemsAreShort rest

end

mutual

/-- The most arrays in a value around an item that is not null. -/
def depth : Value → Nat
  | array items => itemsDepth items
  | tuple items => itemsDepth items
  | looped _ v => depth v
  | _ => 0

/-- The most arrays around an item that is not null, in an array with some items. -/
def itemsDepth : List Value → Nat
  | [] => 0
  | v :: rest => max (if v.isNull then 0 else depth v + 1) (itemsDepth rest)

end

variable {levels : Nat} {v : Value} {fault : ComparisonFault}

/-! ## Items -/

theorem eq_null_of_isNull (h : v.isNull = true) : v = null := by
  cases v with
  | null => rfl
  | _ => exact nomatch h

theorem itemRenderingFault?_null (levels : Nat) (rest : List Value) :
    itemRenderingFault? levels (null :: rest) = itemRenderingFault? levels rest := by
  rw [itemRenderingFault?]

theorem itemRenderingFault?_zero (h : v.isNull = false) (rest : List Value) :
    itemRenderingFault? 0 (v :: rest) = some .tooDeep := by
  rw [itemRenderingFault?]
  rintro rfl
  cases h

theorem itemRenderingFault?_succ (levels : Nat) (h : v.isNull = false) (rest : List Value) :
    itemRenderingFault? (levels + 1) (v :: rest) =
      (v.renderingFault? levels).or (itemRenderingFault? (levels + 1) rest) := by
  rw [itemRenderingFault?]
  · cases v.renderingFault? levels <;> rfl
  · rintro rfl
    cases h

/-! ## Faults -/

mutual

/-- A value without a text shows an integer that is too long, or is nested beyond the bound. -/
theorem renderingFault?_cases : ∀ {levels : Nat} {v : Value} {fault : ComparisonFault},
    v.renderingFault? levels = some fault →
      fault = .tooLong ∧ v.isShort = false ∨ fault = .tooDeep ∧ levels < v.depth
  | levels, v, fault, h => by
    rw [renderingFault?.eq_def] at h
    split at h
    · split at h
      · cases h
      · rename_i hi
        cases h
        exact .inl ⟨rfl, decide_eq_false hi⟩
    · exact itemRenderingFault?_cases h
    · exact itemRenderingFault?_cases h
    · split at h
      · cases h
      · rename_i hi
        cases h
        exact .inl ⟨rfl, Bool.eq_false_iff.2 hi⟩
    · rename_i v
      exact renderingFault?_cases (v := v) h
    · cases h

theorem itemRenderingFault?_cases : ∀ {levels : Nat} {items : List Value} {fault : ComparisonFault},
    itemRenderingFault? levels items = some fault →
      fault = .tooLong ∧ itemsAreShort items = false ∨ fault = .tooDeep ∧ levels < itemsDepth items
  | levels, [], fault, h => by
    rw [itemRenderingFault?] at h
    cases h
  | levels, v :: rest, fault, h => by
    rw [itemsAreShort, itemsDepth, Bool.and_eq_false_iff, lt_max_iff]
    have hrest : itemRenderingFault? levels rest = some fault →
        fault = .tooLong ∧ (v.isShort = false ∨ itemsAreShort rest = false) ∨
          fault = .tooDeep ∧ (levels < (if v.isNull then 0 else v.depth + 1) ∨ levels < itemsDepth rest) :=
      fun h => (itemRenderingFault?_cases h).imp (And.imp_right .inr) (And.imp_right .inr)
    cases hv : v.isNull with
    | true =>
      rw [eq_null_of_isNull hv, itemRenderingFault?_null] at h
      simpa only [hv] using hrest h
    | false =>
      rw [if_neg Bool.false_ne_true]
      cases levels with
      | zero =>
        rw [itemRenderingFault?_zero hv] at h
        cases h
        exact .inr ⟨rfl, .inl (Nat.succ_pos _)⟩
      | succ levels =>
        rw [itemRenderingFault?_succ levels hv, Option.or_eq_some_iff] at h
        rcases h with h | ⟨-, h⟩
        · exact (renderingFault?_cases h).imp (And.imp_right .inl) (And.imp_right fun hlt => .inl (by omega))
        · simpa only [hv, if_neg Bool.false_ne_true] using hrest h

end

mutual

/-- A value with a text is short, and nested within the bound. -/
theorem within_of_renderingFault?_eq_none : ∀ {levels : Nat} {v : Value},
    v.renderingFault? levels = none → v.isShort = true ∧ v.depth ≤ levels
  | levels, .null, _ | levels, .bool _, _ | levels, .float _, _ | levels, .text _, _ | levels, .object _, _
  | levels, .moment _, _ | levels, .date _, _ | levels, .bytes _, _ | levels, .mapping _, _ =>
    ⟨rfl, Nat.zero_le _⟩
  | levels, .int i, h => by
    rw [renderingFault?] at h
    split at h
    · rename_i hi
      exact ⟨decide_eq_true hi, Nat.zero_le _⟩
    · cases h
  | levels, .array items, h => itemsWithin_of_itemRenderingFault?_eq_none h
  | levels, .tuple items, h => itemsWithin_of_itemRenderingFault?_eq_none h
  | levels, .set items, h => by
    rw [renderingFault?] at h
    split at h
    · rename_i hi
      exact ⟨hi, Nat.zero_le _⟩
    · cases h
  | levels, .looped _ v, h => within_of_renderingFault?_eq_none (v := v) h

theorem itemsWithin_of_itemRenderingFault?_eq_none : ∀ {levels : Nat} {items : List Value},
    itemRenderingFault? levels items = none → itemsAreShort items = true ∧ itemsDepth items ≤ levels
  | levels, [], _ => ⟨rfl, Nat.zero_le _⟩
  | levels, v :: rest, h => by
    rw [itemsAreShort, itemsDepth, Bool.and_eq_true, max_le_iff]
    cases hv : v.isNull with
    | true =>
      rw [eq_null_of_isNull hv, itemRenderingFault?_null] at h
      obtain ⟨hshort, hdepth⟩ := itemsWithin_of_itemRenderingFault?_eq_none h
      rw [eq_null_of_isNull hv]
      exact ⟨⟨rfl, hshort⟩, Nat.zero_le _, hdepth⟩
    | false =>
      cases levels with
      | zero =>
        rw [itemRenderingFault?_zero hv] at h
        cases h
      | succ levels =>
        rw [itemRenderingFault?_succ levels hv, Option.or_eq_none_iff] at h
        obtain ⟨hvshort, hvdepth⟩ := within_of_renderingFault?_eq_none h.1
        obtain ⟨hshort, hdepth⟩ := itemsWithin_of_itemRenderingFault?_eq_none h.2
        rw [if_neg Bool.false_ne_true]
        exact ⟨⟨hvshort, hshort⟩, by omega, hdepth⟩

end

/-- A value has a text just where it is short and nested within the bound. -/
theorem renderingFault?_eq_none_iff :
    v.renderingFault? levels = none ↔ v.isShort = true ∧ v.depth ≤ levels := by
  refine ⟨within_of_renderingFault?_eq_none, fun ⟨hshort, hdepth⟩ => ?_⟩
  cases h : v.renderingFault? levels with
  | none => rfl
  | some fault =>
    rcases renderingFault?_cases h with ⟨-, hlong⟩ | ⟨-, hdeep⟩
    · exact absurd (hshort.symm.trans hlong) (by decide)
    · exact absurd hdepth (Nat.not_le.2 hdeep)

/-- For short values, the bound alone decides whether they have a text. -/
theorem renderingFault?_eq_some_iff_of_isShort (h : v.isShort = true) :
    v.renderingFault? levels = some fault ↔ fault = .tooDeep ∧ levels < v.depth := by
  constructor
  · intro hfault
    rcases renderingFault?_cases hfault with ⟨-, hlong⟩ | hdeep
    · exact absurd (h.symm.trans hlong) (by decide)
    · exact hdeep
  · rintro ⟨rfl, hdeep⟩
    cases hfault : v.renderingFault? levels with
    | none => exact absurd (renderingFault?_eq_none_iff.1 hfault).2 (Nat.not_le.2 hdeep)
    | some fault =>
      rcases renderingFault?_cases hfault with ⟨-, hlong⟩ | ⟨rfl, -⟩
      · exact absurd (h.symm.trans hlong) (by decide)
      · rfl

/-! ## Arrays inside each other -/

/-- An empty array inside a number of others. -/
def nested : Nat → Value
  | 0 => array []
  | n + 1 => array [nested n]

theorem isNull_nested (n : Nat) : (nested n).isNull = false := by
  cases n with
  | zero => rfl
  | succ n => rfl

theorem isShort_nested (n : Nat) : (nested n).isShort = true := by
  induction n with
  | zero => rfl
  | succ n ih => rw [nested, isShort, itemsAreShort, ih, itemsAreShort, Bool.and_self]

theorem depth_nested (n : Nat) : (nested n).depth = n := by
  induction n with
  | zero => rfl
  | succ n ih =>
    rw [nested, depth, itemsDepth, itemsDepth, isNull_nested, ih]
    rfl

/-- No bound admits all arrays. -/
theorem renderingFault?_nested {n : Nat} (h : levels < n) : (nested n).renderingFault? levels = some .tooDeep := by
  rw [renderingFault?_eq_some_iff_of_isShort (isShort_nested n), depth_nested]
  exact ⟨rfl, h⟩

/-! ## Rendering -/

theorem render_eq_ok_iff {s : String} :
    v.render levels = .ok s ↔ v.renderingFault? levels = none ∧ s = v.rendered := by
  rw [render]
  cases v.renderingFault? levels with
  | none => simp [eq_comm]
  | some fault => simp

theorem render_eq_error_iff : v.render levels = .error fault ↔ v.renderingFault? levels = some fault := by
  rw [render]
  cases v.renderingFault? levels with
  | none => simp
  | some fault => simp

theorem render_text (levels : Nat) (s : String) : (text s).render levels = .ok s := rfl

end RuleLabels.Value
