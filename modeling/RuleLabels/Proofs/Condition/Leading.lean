import Mathlib.Tactic.FieldSimp
import RuleLabels.Proofs.Classify.Totality
import RuleLabels.Proofs.Number.Literal
import RuleLabels.Proofs.Number.Nearest

/-!
# Numbers at the front of texts

The number of a text is that of the longest decimal literal at its front, blanks before it aside.  Which literal
that is comes from the grammar, and which number from the value that its digits spell, so that nothing is said in
terms of the reader.

* `ReadsAs`: the number of a literal, an infinity or what its value is rounded to;
* `number?_text_longest`: the number of a text.
-/

namespace RuleLabels

open Text

namespace NumberLiteral

/-- The value that digits before and behind a point and an exponent spell. -/
def size (whole fraction : List Nat) (e : Int) : ℚ :=
  (ofDigits 10 whole + ofDigits 10 fraction / 10 ^ fraction.length) * 10 ^ e

/-- The number that a literal is read as: an infinity, or the one that its value is rounded to. -/
def ReadsAs : NumberLiteral → Binary64 → Prop
  | .infinity negative, x => x = .infinite negative
  | .decimal negative whole fraction e, x => Binary64.IsNearest negative (size whole fraction e) x

/-! ## Values -/

/-- The decimal number that a literal is read as has the value of the literal. -/
theorem value_ofDigits (whole fraction : List Nat) (e : Int) :
    (Decimal.ofDigits whole fraction e).value = size whole fraction e := by
  have hpow : (10 : ℚ) ^ fraction.length ≠ 0 := by positivity
  rw [Decimal.value, Decimal.ofDigits, size, ofDigits_append, zpow_sub₀ (by norm_num), zpow_natCast]
  push_cast
  field_simp

theorem readsAs_toBinary64 (l : NumberLiteral) : l.ReadsAs l.toBinary64 := by
  cases l with
  | infinity negative => rfl
  | decimal negative whole fraction e =>
    rw [ReadsAs, ← value_ofDigits]
    exact Decimal.isNearest_toBinary64 negative _

theorem readsAs_iff {l : NumberLiteral} {x : Binary64} : l.ReadsAs x ↔ x = l.toBinary64 := by
  constructor
  · intro h
    cases l with
    | infinity negative => exact h
    | decimal negative whole fraction e =>
      exact Binary64.IsNearest.unique h (readsAs_toBinary64 (.decimal negative whole fraction e))
  · rintro rfl
    exact l.readsAs_toBinary64

/-- No literal begins with a blank. -/
theorem Spells.trimLeft {l : NumberLiteral} {p : List Char} (h : Spells l p) : Text.trimLeft p = p := by
  have hsigned : ∀ {negative : Bool} {g : List Char} {c : Char} {rest : List Char}, SpellsSign negative g →
      isBlank c = false → Text.trimLeft (g ++ c :: rest) = g ++ c :: rest := by
    intro negative g c rest hg hc
    cases hg with
    | absent => rw [List.nil_append, Text.trimLeft, List.dropWhile_cons_of_neg (Bool.eq_false_iff.1 hc)]
    | plus => rfl
    | minus => rfl
  cases h with
  | infinity hg => exact hsigned hg rfl
  | decimal hg hm _ =>
    obtain ⟨c, rest, rfl, hc⟩ := hm.isNumeric
    refine hsigned hg ?_
    rcases hc with hc | rfl
    · exact isBlank_of_isDigit hc
    · rfl

end NumberLiteral

namespace Value

open NumberLiteral

/-! ## Numbers of texts -/

theorem leadingNumber?_of_longest {s : String} {p : List Char} {l : NumberLiteral}
    (h : Longest (trimLeft s.toList) p l) : leadingNumber? s = some l.toBinary64 := by
  obtain ⟨rest, hrest⟩ := h.isPrefix
  rw [leadingNumber?, atFront?_eq_some_iff.2 ⟨p, hrest.symm, h⟩]
  rfl

/-- A text that is a literal has the number of this literal. -/
theorem leadingNumber?_of_spells {s : String} {l : NumberLiteral} (h : Spells l s.toList) :
    leadingNumber? s = some l.toBinary64 := by
  rw [leadingNumber?, h.trimLeft, h.atFront?]
  rfl

theorem leadingNumber?_eq_some_iff {s : String} {x : Binary64} :
    leadingNumber? s = some x ↔ ∃ p l, Longest (trimLeft s.toList) p l ∧ l.ReadsAs x := by
  constructor
  · intro h
    obtain ⟨⟨l, rest⟩, hread, rfl⟩ := Option.map_eq_some_iff.1 h
    obtain ⟨p, -, hp⟩ := atFront?_eq_some_iff.1 hread
    exact ⟨p, l, hp, l.readsAs_toBinary64⟩
  · rintro ⟨p, l, hp, hx⟩
    rw [leadingNumber?_of_longest hp, readsAs_iff.1 hx]

theorem leadingNumber?_eq_none_iff {s : String} :
    leadingNumber? s = none ↔ ∀ p l, p ≠ [] → p <+: trimLeft s.toList → ¬ Spells l p := by
  rw [leadingNumber?, Option.map_eq_none_iff, atFront?_eq_none_iff]
  exact ⟨fun h p l _ hprefix => h p l hprefix, fun h p l hprefix hp => h p l hp.ne_nil hprefix hp⟩

/-- A text has the number that the longest literal at its front has alone. -/
theorem leadingNumber?_eq_of_longest {s : String} {p : List Char} {l : NumberLiteral}
    (h : Longest (trimLeft s.toList) p l) : leadingNumber? s = leadingNumber? (String.ofList p) := by
  have hspells : Spells l (String.ofList p).toList := by
    rw [String.toList_ofList]
    exact h.spells
  rw [leadingNumber?_of_longest h, leadingNumber?_of_spells hspells]

/-- **Numbers at the front of texts.**  A text always has a number or none.  It has a number just where a decimal
literal stands at its front, behind blanks: the one that the longest such literal spells.  What follows this literal
does not matter, and neither an exponent that is not complete nor a second point belongs to it. -/
theorem number?_text_longest (levels : Nat) (s : String) :
    (∀ fault, (text s).number? levels ≠ .error fault) ∧
    (∀ x, (text s).number? levels = .ok (some x) ↔ ∃ p l, Longest (trimLeft s.toList) p l ∧ l.ReadsAs x) ∧
    ((text s).number? levels = .ok none ↔ ∀ p l, p ≠ [] → p <+: trimLeft s.toList → ¬ Spells l p) ∧
    (∀ p l, Longest (trimLeft s.toList) p l → (text s).number? levels = (text (.ofList p)).number? levels) ∧
    ∀ negative w f g m c tail, SpellsSign negative g → SpellsMantissa w f m →
      trimLeft s.toList = g ++ (m ++ c :: tail) →
        (c = 'e' ∨ c = 'E') ∧ (∀ e x, x ≠ [] → x <+: c :: tail → ¬ SpellsExponent e x) ∨
          c = '.' ∧ '.' ∈ m → (text s).number? levels = (text (.ofList (g ++ m))).number? levels := by
  simp only [number?_text]
  refine ⟨nofun, fun x => ?_, ?_, fun p l hp => ?_, fun negative w f g m c tail hg hm hs hout => ?_⟩
  · rw [Except.ok.injEq]
    exact leadingNumber?_eq_some_iff
  · rw [Except.ok.injEq]
    exact leadingNumber?_eq_none_iff
  · rw [leadingNumber?_eq_of_longest hp]
  · have hlongest : Longest (trimLeft s.toList) (g ++ m) (.decimal negative w f 0) := by
      rw [hs]
      rcases hout with ⟨hc, hincomplete⟩ | ⟨rfl, hpoint⟩
      · exact longest_of_incomplete hg hm hc hincomplete
      · exact longest_of_second_point hg hm hpoint tail
    rw [leadingNumber?_eq_of_longest hlongest]

/-- A number with a unit is read, and what only begins like an exponent or a second fraction is not. -/
theorem number?_text_longest_units :
    let levels := Value.stackLevels
    (∃ x, Binary64.ofInt? (-25) = some x ∧ (text " -2.5e1kg").number? levels = .ok (some x)) ∧
      (text "1e+kg").number? levels = (text "1").number? levels ∧
      (text "1.5.2").number? levels = (text "1.5").number? levels ∧
      (text "e5").number? levels = .ok none := by
  intro levels
  refine ⟨?_, ?_, ?_, ?_⟩
  · have hlongest : Longest ("-2.5e1".toList ++ "kg".toList) "-2.5e1".toList (.decimal true [2] [5] 1) :=
      longest_of_atFront? (by decide)
    exact ⟨(NumberLiteral.decimal true [2] [5] 1).toBinary64, by decide +kernel,
      ((number?_text_longest levels " -2.5e1kg").2.1 _).2 ⟨_, _, hlongest, readsAs_toBinary64 _⟩⟩
  · have hone : SpellsMantissa (digitValues ['1']) [] ['1'] := .whole (by simp [AllDigits, isAsciiDigit]) (by simp)
    have hincomplete : exponent "e+kg".toList = (0, "e+kg".toList) := by decide
    exact (number?_text_longest levels "1e+kg").2.2.2.2 false _ _ [] _ 'e' _ .absent hone rfl
      (.inl ⟨.inl rfl, exponent_eq_self_iff.1 hincomplete⟩)
  · have hhalf : SpellsMantissa (digitValues ['1']) (digitValues ['5']) "1.5".toList :=
      .point (by simp [AllDigits, isAsciiDigit]) (by simp) (by simp [AllDigits, isAsciiDigit])
    exact (number?_text_longest levels "1.5.2").2.2.2.2 false _ _ [] _ '.' ['2'] .absent hhalf rfl
      (.inr ⟨rfl, by decide⟩)
  · have hnone : atFront? "e5".toList = none := by decide
    exact (number?_text_longest levels "e5").2.2.1.2 fun p l _ hprefix => atFront?_eq_none_iff.1 hnone p l hprefix

end Value

end RuleLabels
