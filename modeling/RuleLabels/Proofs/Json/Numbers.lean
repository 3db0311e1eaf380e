import Mathlib.Data.List.Basic
import Mathlib.Tactic.Common
import RuleLabels.Json.Read
import RuleLabels.Proofs.Number.Literal
import RuleLabels.Proofs.Text.Digits
import RuleLabels.Value.Shown

/-!
# Spelled numbers

White space is passed over up to the next token.  The text of an integer is read as this integer where
something stands behind it that ends a value.
-/

namespace RuleLabels.Json

open Text

/-! ## White space -/

/-- Nothing but white space. -/
def AllSpace (s : List Char) : Prop := ∀ c ∈ s, isSpace c = true

theorem skip_of_not_isSpace {c : Char} (hc : isSpace c = false) (position : Nat) (rest : List Char) :
    skip position (c :: rest) = ⟨position, c :: rest⟩ := by
  rw [skip, hc]
  rfl

/-- White space is passed over up to what is none. -/
theorem skip_append {b : List Char} (hb : AllSpace b) {c : Char} (hc : isSpace c = false) (position : Nat)
    (rest : List Char) : skip position (b ++ c :: rest) = ⟨position + b.length, c :: rest⟩ := by
  induction b generalizing position with
  | nil => exact skip_of_not_isSpace hc position rest
  | cons d b ih =>
    obtain ⟨hd, hb⟩ := List.forall_mem_cons.1 hb
    rw [List.cons_append, skip, if_pos hd, ih hb, List.length_cons, Nat.add_assoc, Nat.add_comm 1]

theorem skip_end {b : List Char} (hb : AllSpace b) (position : Nat) :
    (skip position b).rest = [] := by
  induction b generalizing position with
  | nil => rfl
  | cons d b ih =>
    obtain ⟨hd, hb⟩ := List.forall_mem_cons.1 hb
    rw [skip, if_pos hd, ih hb]

/-- Nothing or a character that ends a value: white space, a comma or the end of a collection. -/
def EndsValue (s : List Char) : Prop :=
  ∀ c rest, s = c :: rest → isSpace c = true ∨ c = ',' ∨ c = ']' ∨ c = '\x7d'

theorem EndsValue.of_allSpace {b s : List Char} (hb : AllSpace b) (hs : EndsValue s) : EndsValue (b ++ s) := by
  cases b with
  | nil => exact hs
  | cons c b =>
    intro c' rest h
    cases h
    exact .inl (hb c List.mem_cons_self)

theorem EndsValue.cons {c : Char} (hc : c = ',' ∨ c = ']' ∨ c = '\x7d') (rest : List Char) :
    EndsValue (c :: rest) := by
  intro c' rest' h
  cases h
  exact .inr hc
/-! ## Integers -/

/-- The digits of a number begin with a zero for the number zero alone. -/
theorem toDigits_cons {n : Nat} (hn : n ≠ 0) :
    ∃ c rest, Nat.toDigits 10 n = c :: rest ∧ c.isDigit = true ∧ c ≠ '0' := by
  induction n using Nat.strongRecOn with
  | ind n ih =>
    rw [Nat.toDigits_eq_if (by decide)]
    split
    · rename_i hlt
      refine ⟨n.digitChar, [], rfl, ?_⟩
      have hall : ∀ n < 10, n ≠ 0 → n.digitChar.isDigit = true ∧ n.digitChar ≠ '0' := by decide
      exact hall n hlt hn
    · rename_i hge
      obtain ⟨c, rest, hdigits, hc⟩ := ih (n / 10) (by omega) (by omega)
      exact ⟨c, rest ++ [(n % 10).digitChar], by rw [hdigits]; rfl, hc⟩

/-- The digits of a number are read as a whole number. -/
theorem wholeDigits?_toDigits (n : Nat) {rest : List Char}
    (hrest : ∀ c tail, rest = c :: tail → c.isDigit = false) :
    wholeDigits? (Nat.toDigits 10 n ++ rest) =
      some ((Nat.toDigits 10 n).map fun c => c.toNat - 0x30, rest) := by
  by_cases hn : n = 0
  · subst hn
    rfl
  · obtain ⟨c, tail, hdigits, hc, hzero⟩ := toDigits_cons hn
    have hall : NumberLiteral.AllDigits (Nat.toDigits 10 n) := fun _ h =>
      Nat.isDigit_of_mem_toDigits (by decide) (by decide) h
    have hread := NumberLiteral.digits_append hall rest
    rw [NumberLiteral.digits_of_not_isAsciiDigit hrest, List.append_nil] at hread
    rw [hdigits, List.cons_append] at hread ⊢
    rw [wholeDigits?.eq_def]
    split
    · rename_i hcons
      exact absurd (List.cons.inj hcons).1 hzero
    · rw [hread]
      rfl

/-- The digits of an integer are few enough. -/
theorem length_toDigits_le {n : Nat} (h : n < Value.digitBound) :
    (Nat.toDigits 10 n).length ≤ maxIntegerDigits := by
  unfold Value.digitBound at h
  exact (Nat.length_toDigits_le_iff (by decide) (Nat.zero_lt_of_ne_zero (by decide +kernel))).2 h

/-- What ends a value ends a number. -/
theorem EndsValue.not_number {rest : List Char} (h : EndsValue rest) :
    (∀ c tail, rest = c :: tail → c.isDigit = false) ∧ fraction? rest = none ∧
      NumberLiteral.exponent? rest = none := by
  cases rest with
  | nil => exact ⟨fun _ _ h => (nomatch h), rfl, rfl⟩
  | cons c tail =>
    have hc := h c tail rfl
    rw [isSpace, Bool.or_eq_true, Bool.or_eq_true, Bool.or_eq_true, decide_eq_true_eq, decide_eq_true_eq,
      decide_eq_true_eq, decide_eq_true_eq] at hc
    refine ⟨fun c' tail' hcons => ?_, ?_, ?_⟩
    · cases hcons
      rcases hc with (((rfl | rfl) | rfl) | rfl) | rfl | rfl | rfl <;> rfl
    · rcases hc with (((rfl | rfl) | rfl) | rfl) | rfl | rfl | rfl <;> rfl
    · rcases hc with (((rfl | rfl) | rfl) | rfl) | rfl | rfl | rfl <;> rfl

/-- The text of an integer is its digits, behind a sign if it is negative. -/
theorem toList_toString (i : Int) :
    (toString i).toList = (if i < 0 then ['-'] else []) ++ Nat.toDigits 10 i.natAbs := by
  cases i with
  | ofNat n =>
    have hsign : ¬ Int.ofNat n < 0 := by simp
    rw [if_neg hsign]
    exact String.toList_ofList
  | negSucc n =>
    rw [if_pos (Int.negSucc_lt_zero n)]
    exact String.toList_append.trans (congrArg _ String.toList_ofList)

/-- The digits of a number are one digit or more. -/
theorem toDigits_eq_cons (n : Nat) : ∃ c rest, Nat.toDigits 10 n = c :: rest ∧ c.isDigit = true := by
  by_cases hn : n = 0
  · exact ⟨'0', [], by rw [hn]; rfl, rfl⟩
  · obtain ⟨c, rest, h, hc, -⟩ := toDigits_cons hn
    exact ⟨c, rest, h, hc⟩

/-- The text of an integer begins with a sign or with a digit. -/
theorem toList_toString_eq_cons (i : Int) :
    ∃ c rest, (toString i).toList = c :: rest ∧ (c = '-' ∨ c.isDigit = true) := by
  obtain ⟨c, rest, hcons, hc⟩ := toDigits_eq_cons i.natAbs
  rw [toList_toString, hcons]
  by_cases hi : i < 0
  · rw [if_pos hi]
    exact ⟨'-', _, rfl, .inl rfl⟩
  · rw [if_neg hi]
    exact ⟨c, rest, rfl, .inr hc⟩

/-- The numeral that an integer is written as. -/
def integerNumeral (i : Int) : Numeral :=
  ⟨decide (i < 0), (Nat.toDigits 10 i.natAbs).map fun c => c.toNat - 0x30, none, none⟩

theorem numeral?_toString (i : Int) {rest : List Char} (hrest : EndsValue rest) :
    numeral? ((toString i).toList ++ rest) =
      some (integerNumeral i, (toString i).toList.length, rest) := by
  obtain ⟨hdigit, hfraction, hexponent⟩ := hrest.not_number
  have hwhole := wholeDigits?_toDigits i.natAbs hdigit
  rw [toList_toString, integerNumeral]
  by_cases hi : i < 0
  · rw [if_pos hi, decide_eq_true hi, List.append_assoc, List.singleton_append, numeral?]
    simp only [hwhole, hfraction, hexponent, Option.bind_eq_bind, Option.bind_some, Option.pure_def,
      List.length_append, List.length_map, Bool.toNat_true, List.length_singleton]
  · obtain ⟨c, tail, hcons, hc⟩ := toDigits_eq_cons i.natAbs
    have hsign : c ≠ '-' := by
      rintro rfl
      cases hc
    rw [if_neg hi, decide_eq_false hi, List.nil_append]
    rw [hcons, List.cons_append] at hwhole ⊢
    rw [numeral?.eq_def]
    split
    rename_i hbody
    split at hbody
    · rename_i hminus
      exact absurd (List.cons.inj hminus).1 hsign
    · cases hbody
      simp only [hwhole, hfraction, hexponent, Option.bind_eq_bind, Option.bind_some, Option.pure_def,
        List.length_map, Bool.toNat_false, Nat.zero_add]

theorem integerNumeral_value {i : Int} (h : i.natAbs < Value.digitBound) :
    (integerNumeral i).value = .ok (.int i) := by
  have hlength := Nat.not_lt.2 (length_toDigits_le h)
  rw [integerNumeral, Numeral.value]
  simp only [List.length_map, if_neg hlength, ofDigits_toDigits, decide_eq_true_eq]
  congr 2
  split <;> omega

/-! ## Words and numbers -/

/-- No word begins with a digit or with the sign of a number. -/
theorem begins_of_mem_words {w : List Char × Value} (hw : w ∈ words) :
    ∃ c d rest, w.1 = c :: d :: rest ∧ c.isDigit = false ∧ (c = '-' → d.isDigit = false) := by
  revert w
  simp only [words, List.forall_mem_cons, List.not_mem_nil, false_imp_iff, forall_const, and_true]
  exact ⟨⟨_, _, _, rfl, rfl, nofun⟩, ⟨_, _, _, rfl, rfl, nofun⟩, ⟨_, _, _, rfl, rfl, nofun⟩,
    ⟨_, _, _, rfl, rfl, nofun⟩, ⟨_, _, _, rfl, rfl, nofun⟩, ⟨_, _, _, rfl, rfl, fun _ => rfl⟩⟩

theorem word?_toString (i : Int) (rest : List Char) : word? ((toString i).toList ++ rest) = none := by
  obtain ⟨c, tail, hcons, hc⟩ := toDigits_eq_cons i.natAbs
  rw [word?, List.find?_eq_none.2, Option.map_none]
  intro w hw hprefix
  obtain ⟨d, e, after, hword, hd, he⟩ := begins_of_mem_words hw
  rw [hword, List.isPrefixOf_iff_prefix, toList_toString, hcons] at hprefix
  obtain ⟨behind, heq⟩ := hprefix
  by_cases hi : i < 0
  · rw [if_pos hi] at heq
    obtain ⟨hsign, heq⟩ := List.cons.inj heq
    obtain ⟨rfl, -⟩ := List.cons.inj heq
    exact Bool.noConfusion ((he hsign).symm.trans hc)
  · rw [if_neg hi] at heq
    obtain ⟨rfl, -⟩ := List.cons.inj heq
    exact Bool.noConfusion (hd.symm.trans hc)

theorem scalar_toString {i : Int} (h : i.natAbs < Value.digitBound) (position : Nat) {rest : List Char}
    (hrest : EndsValue rest) :
    scalar ⟨position, (toString i).toList ++ rest⟩ =
      .ok (.int i, ⟨position + (toString i).toList.length, rest⟩) := by
  rw [scalar]
  simp only [word?_toString, numeral?_toString i hrest, integerNumeral_value h]
  rfl

end RuleLabels.Json
