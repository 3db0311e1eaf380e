import Mathlib.Tactic.FieldSimp
import RuleLabels.Number.Shortest
import RuleLabels.Proofs.Number.Literal
import RuleLabels.Proofs.Number.Nearest
import RuleLabels.Proofs.Text.Digits

/-!
# Printed numbers are read back

The decimal number that a floating-point number is printed as is one that is rounded to it: either it was found by
reading it back, or it has the exact value.  Its digits are laid out in one of four ways, and each of them is a
literal of the same value.

* `toBinary64_shortestDecimal`: the decimal number is read back;
* `layout_spelled`: the layout of digits is a literal of their value;
* `text_spelled`: the text of a finite number is a literal that is read as this number.
-/

namespace RuleLabels.Binary64

open NumberLiteral Text

/-! ## The decimal number -/

theorem value_exactDecimal (m : Nat) (e : Int) : (exactDecimal m e).value = scaled m e := by
  rw [exactDecimal, scaled]
  by_cases he : 0 ≤ e
  · obtain ⟨n, rfl⟩ := Int.eq_ofNat_of_zero_le he
    rw [if_pos he, Decimal.value, Int.toNat_natCast, zpow_natCast]
    push_cast
    ring
  · obtain ⟨n, rfl⟩ : ∃ n : Nat, e = -n := ⟨(-e).toNat, by omega⟩
    have hten : (10 : ℚ) ^ n = 2 ^ n * 5 ^ n := by
      rw [← mul_pow]
      norm_num
    rw [if_neg he, Decimal.value, neg_neg, Int.toNat_natCast, zpow_neg, zpow_neg, zpow_natCast, zpow_natCast,
      hten]
    push_cast
    field_simp

/-- What the search finds is read back. -/
theorem toBinary64_of_searchGrids {x : Binary64} {num den tries : Nat} {k : Int} {d : Decimal}
    (h : searchGrids x num den tries k = some d) : d.toBinary64 x.isNegative = x := by
  induction tries generalizing k with
  | zero => exact nomatch h
  | succ tries ih =>
    rw [searchGrids] at h
    dsimp only at h
    split at h
    · rename_i hnear
      cases h
      exact hnear
    · split at h
      · rename_i hfar
        cases h
        exact hfar
      · exact ih h

section

variable (negative : Bool) {m : Nat} {e : Int} (fits : Fits m e)

theorem toBinary64_shortestDecimal (hm : m ≠ 0) :
    (shortestDecimal (.finite negative m e fits) m e).toBinary64 negative = .finite negative m e fits := by
  rw [shortestDecimal, if_neg hm]
  dsimp only
  cases hsearch : searchGrids (.finite negative m e fits) (magnitude m e).1 (magnitude m e).2 17
      (leadingPower (magnitude m e).1 (magnitude m e).2) with
  | some d => exact toBinary64_of_searchGrids hsearch
  | none =>
    have hread := Decimal.isNearest_toBinary64 negative (exactDecimal m e)
    rw [value_exactDecimal] at hread
    exact hread.unique (isNearest_finite negative fits)

theorem coefficient_shortestDecimal (hm : m ≠ 0) :
    (shortestDecimal (.finite negative m e fits) m e).coefficient ≠ 0 := by
  intro hzero
  have hread := toBinary64_shortestDecimal negative fits hm
  rw [Decimal.toBinary64, if_pos hzero, zero] at hread
  cases hread
  exact hm rfl

end

/-! ## Digits -/

theorem digitValues_append (ds es : List Char) : digitValues (ds ++ es) = digitValues ds ++ digitValues es :=
  List.map_append

theorem length_digitValues (ds : List Char) : (digitValues ds).length = ds.length := List.length_map _

theorem AllDigits.append {ds es : List Char} (hds : AllDigits ds) (hes : AllDigits es) : AllDigits (ds ++ es) := by
  intro c hc
  rcases List.mem_append.1 hc with h | h
  · exact hds c h
  · exact hes c h

theorem allDigits_zeros (n : Nat) : AllDigits (List.replicate n '0') := by
  intro c hc
  rw [List.eq_of_mem_replicate hc]
  rfl

/-- Zeros in front of digits do not count. -/
theorem ofDigits_zeros_append (n : Nat) (ds : List Char) :
    ofDigits 10 (digitValues (List.replicate n '0' ++ ds)) = ofDigits 10 (digitValues ds) := by
  have hzeros : ofDigits 10 (digitValues (List.replicate n '0')) = 0 := ofDigits_zeros n
  rw [digitValues_append, ofDigits_append, hzeros, Nat.zero_mul, Nat.zero_add]

/-- What is kept of digits, with the zeros that are dropped. -/
theorem dropTrailingZeros_append (ds : List Char) :
    (dropTrailingZeros ds).1 ++ List.replicate (dropTrailingZeros ds).2 '0' = ds := by
  obtain ⟨zeros, hzeros⟩ : ∃ zeros, zeros = ds.reverse.takeWhile (· = '0') := ⟨_, rfl⟩
  obtain ⟨kept, hkept⟩ : ∃ kept, kept = (ds.reverse.dropWhile (· = '0')).reverse := ⟨_, rfl⟩
  have hall : zeros = List.replicate zeros.length '0' := by
    refine List.eq_replicate_of_mem fun c hc => ?_
    rw [hzeros] at hc
    have hzero := List.mem_takeWhile_imp hc
    exact of_decide_eq_true hzero
  have hsplit : kept ++ List.replicate zeros.length '0' = ds := by
    have hreverse : zeros ++ kept.reverse = ds.reverse := by
      rw [hzeros, hkept, List.reverse_reverse, List.takeWhile_append_dropWhile]
    rw [hall] at hreverse
    have := congrArg List.reverse hreverse
    rwa [List.reverse_append, List.reverse_reverse, List.reverse_reverse, List.reverse_replicate] at this
  have hlength : ds.length - kept.length = zeros.length := by
    rw [← hsplit, List.length_append, List.length_replicate, Nat.add_sub_cancel_left]
  rw [dropTrailingZeros, ← hkept, hlength]
  exact hsplit

/-! ## Layouts -/

/-- A text consists of digits with or without an exponent, and of this value. -/
def SpellsValue (q : ℚ) (s : List Char) : Prop :=
  ∃ w f e m x, SpellsMantissa w f m ∧ SpellsExponent e x ∧ s = m ++ x ∧ (Decimal.ofDigits w f e).value = q

/-- The value of digits that end at a place. -/
def digitsAt (ds : List Char) (place : Int) : ℚ := ofDigits 10 (digitValues ds) * 10 ^ place

theorem value_digits (w f : List Char) (e : Int) :
    (Decimal.ofDigits (digitValues w) (digitValues f) e).value = digitsAt (w ++ f) (e - f.length) := by
  rw [Decimal.ofDigits, Decimal.value, digitsAt, ← digitValues_append, length_digitValues]

theorem digitsAt_zeros (ds : List Char) (n : Nat) (place : Int) :
    digitsAt (ds ++ List.replicate n '0') place = digitsAt ds (place + n) := by
  have hzeros : ofDigits 10 (digitValues (ds ++ List.replicate n '0')) = ofDigits 10 (digitValues ds) * 10 ^ n :=
    ofDigits_append_zeros ds n
  rw [digitsAt, digitsAt, hzeros, zpow_add₀ (by norm_num), zpow_natCast]
  push_cast
  ring

theorem digitsAt_zeros_append (n : Nat) (ds : List Char) (place : Int) :
    digitsAt (List.replicate n '0' ++ ds) place = digitsAt ds place := by
  rw [digitsAt, digitsAt, ofDigits_zeros_append]

/-- The exponent of a number is spelled with a sign. -/
theorem spellsExponent_padded (point : Int) :
    SpellsExponent point ('e' :: (if point < 0 then '-' else '+') :: padded 10 2 point.natAbs) := by
  have hall : AllDigits (padded 10 2 point.natAbs) := fun c hc => isDigit_of_mem_padded hc
  have hne : padded 10 2 point.natAbs ≠ [] := by
    rw [padded]
    exact List.append_ne_nil_of_right_ne_nil _ Nat.toDigits_ne_nil
  have hvalue : ofDigits 10 (digitValues (padded 10 2 point.natAbs)) = point.natAbs := ofDigits_padded 2 _
  by_cases hpoint : point < 0
  · have h := SpellsExponent.digits (.inl rfl) .minus hall hne
    rw [signed, if_pos rfl, hvalue] at h
    rw [if_pos hpoint]
    have hneg : -(point.natAbs : Int) = point := by omega
    rwa [hneg] at h
  · have h := SpellsExponent.digits (.inl rfl) .plus hall hne
    rw [signed, if_neg Bool.false_ne_true, hvalue] at h
    rw [if_neg hpoint]
    have hpos : (point.natAbs : Int) = point := by omega
    rwa [hpos] at h

/-- Digits around a point and an exponent. -/
theorem spellsValue_point {w f x : List Char} {e : Int} (hw : AllDigits w) (hne : w ≠ []) (hf : AllDigits f)
    (hx : SpellsExponent e x) : SpellsValue (digitsAt (w ++ f) (e - f.length)) (w ++ '.' :: f ++ x) :=
  ⟨_, _, _, _, _, .point hw hne hf, hx, rfl, value_digits w f e⟩

/-- Digits around a point alone. -/
theorem spellsValue_fixed {w f : List Char} (hw : AllDigits w) (hne : w ≠ []) (hf : AllDigits f) :
    SpellsValue (digitsAt (w ++ f) (-f.length)) (w ++ '.' :: f) := by
  have h := spellsValue_point hw hne hf .absent
  rwa [List.append_nil, zero_sub] at h

/-- One digit with an exponent. -/
theorem spellsValue_single {d : Char} {x : List Char} {e : Int} (hd : AllDigits [d]) (hx : SpellsExponent e x) :
    SpellsValue (digitsAt [d] e) ([d] ++ x) := by
  refine ⟨_, _, _, _, _, .whole hd (List.cons_ne_nil _ _), hx, rfl, ?_⟩
  have hvalue := value_digits [d] [] e
  rwa [List.append_nil, List.length_nil, Nat.cast_zero, sub_zero] at hvalue

section

variable {ds : List Char} (hds : AllDigits ds) (hne : ds ≠ [])
include hds

/-- A small number has zeros behind the point. -/
theorem spellsValue_small (zeros : Nat) :
    SpellsValue (digitsAt ds (-(zeros + ds.length))) ('0' :: '.' :: List.replicate zeros '0' ++ ds) := by
  have h := spellsValue_fixed (allDigits_zeros 1) (List.cons_ne_nil _ _) (AllDigits.append (allDigits_zeros zeros) hds)
  rw [← List.append_assoc, List.replicate_append_replicate, digitsAt_zeros_append, List.length_append,
    List.length_replicate, Nat.cast_add] at h
  exact h

include hne

/-- A number without a fraction has a zero behind the point. -/
theorem spellsValue_whole (zeros : Nat) :
    SpellsValue (digitsAt ds zeros) (ds ++ List.replicate zeros '0' ++ ['.', '0']) := by
  have h := spellsValue_fixed (AllDigits.append hds (allDigits_zeros zeros)) (List.append_ne_nil_of_left_ne_nil hne _)
    (allDigits_zeros 1)
  have hplace : (-(1 : Nat) + (zeros + 1 : Nat) : Int) = zeros := by omega
  rw [List.append_assoc, List.replicate_append_replicate, digitsAt_zeros, List.length_replicate, hplace] at h
  exact h

/-- A number with a fraction has the point among its digits. -/
theorem spellsValue_split {n : Nat} (hn : 0 < n) (hlt : n < ds.length) :
    SpellsValue (digitsAt ds (n - ds.length)) (ds.take n ++ '.' :: ds.drop n) := by
  have hfirst : AllDigits (ds.take n) := fun c hc => hds c (List.mem_of_mem_take hc)
  have hlast : AllDigits (ds.drop n) := fun c hc => hds c (List.mem_of_mem_drop hc)
  have hsome : ds.take n ≠ [] := by
    rw [ne_eq, List.take_eq_nil_iff]
    exact not_or.2 ⟨hn.ne', hne⟩
  have h := spellsValue_fixed hfirst hsome hlast
  have hplace : (-(ds.length - n : Nat) : Int) = n - ds.length := by omega
  rwa [List.take_append_drop, List.length_drop, hplace] at h

/-- A number with an exponent has one digit before the point. -/
theorem spellsValue_scientific {point : Int} (hpoint : 16 ≤ point ∨ point < -4) :
    SpellsValue (digitsAt ds (point + 1 - ds.length)) (layout ds point) := by
  have hx := spellsExponent_padded point
  obtain ⟨d, rest, rfl⟩ := List.exists_cons_of_ne_nil hne
  have hd : AllDigits [d] := fun c hc => hds c (by rw [List.mem_singleton.1 hc]; exact List.mem_cons_self)
  rw [layout.eq_def, if_pos hpoint]
  cases rest with
  | nil =>
    have hplace : point + 1 - ([d].length : Int) = point := add_sub_cancel_right point 1
    rw [hplace]
    exact spellsValue_single hd hx
  | cons d' rest =>
    have h := spellsValue_point hd (List.cons_ne_nil _ _) (fun c hc => hds c (List.mem_cons_of_mem d hc)) hx
    have hplace : point + 1 - ((d :: d' :: rest).length : Int) = point - (d' :: rest).length := by
      rw [List.length_cons (a := d)]
      omega
    rw [hplace]
    exact h

/-- The layout of digits is a literal of their value. -/
theorem layout_spelled (point : Int) :
    SpellsValue (digitsAt ds (point + 1 - ds.length)) (layout ds point) := by
  by_cases hscientific : 16 ≤ point ∨ point < -4
  · exact spellsValue_scientific hds hne hscientific
  · rw [layout.eq_def, if_neg hscientific]
    by_cases hsmall : point < 0
    · have hplace : point + 1 - ds.length = -((point.natAbs - 1 : Nat) + ds.length) := by omega
      rw [if_pos hsmall, hplace]
      exact spellsValue_small hds _
    · rw [if_neg hsmall]
      dsimp only
      by_cases hwhole : ds.length ≤ point.toNat + 1
      · have hplace : point + 1 - ds.length = (point.toNat + 1 - ds.length : Nat) := by omega
        rw [if_pos hwhole, hplace]
        exact spellsValue_whole hds hne _
      · have hplace : point + 1 - ds.length = (point.toNat + 1 : Nat) - ds.length := by omega
        rw [if_neg hwhole, hplace]
        exact spellsValue_split hds hne (Nat.succ_pos _) (Nat.lt_of_not_le hwhole)

end

/-! ## Texts -/

/-- The text of a decimal number other than zero is a literal of its value. -/
theorem decimalText_spelled {d : Decimal} (hd : d.coefficient ≠ 0) : SpellsValue d.value (decimalText d) := by
  obtain ⟨ds, hds⟩ : ∃ ds, ds = (dropTrailingZeros (decimalDigits d.coefficient)).1 := ⟨_, rfl⟩
  obtain ⟨zeros, hzeros⟩ : ∃ zeros, zeros = (dropTrailingZeros (decimalDigits d.coefficient)).2 := ⟨_, rfl⟩
  have hsplit : ds ++ List.replicate zeros '0' = Nat.toDigits 10 d.coefficient := by
    rw [hds, hzeros]
    exact dropTrailingZeros_append _
  have hall : AllDigits ds := fun c hc =>
    Nat.isDigit_of_mem_toDigits (by decide) (by decide) (hsplit ▸ List.mem_append_left _ hc)
  have hcoefficient : ofDigits 10 (digitValues ds) * 10 ^ zeros = d.coefficient := by
    refine (ofDigits_append_zeros ds zeros).symm.trans ?_
    rw [hsplit]
    exact ofDigits_toDigits d.coefficient
  have hne : ds ≠ [] := by
    rintro rfl
    exact hd (hcoefficient.symm.trans (Nat.zero_mul _))
  have hvalue : digitsAt ds (d.exponent + zeros + ds.length - 1 + 1 - ds.length) = d.value := by
    have hplace : d.exponent + zeros + ds.length - 1 + 1 - ds.length = d.exponent + zeros := by omega
    rw [hplace, digitsAt, Decimal.value, ← hcoefficient, zpow_add₀ (by norm_num), zpow_natCast]
    push_cast
    ring
  have hlayout := layout_spelled hall hne (d.exponent + zeros + ds.length - 1)
  rw [hvalue, hds, hzeros] at hlayout
  exact hlayout

/-- The text of a finite number other than zero is a literal that is read as this number. -/
theorem text_spelled (negative : Bool) {m : Nat} {e : Int} (fits : Fits m e) (hm : m ≠ 0) :
    ∃ l, Spells l (text (.finite negative m e fits)).toList ∧ l.toBinary64 = .finite negative m e fits := by
  have hread := toBinary64_shortestDecimal negative fits hm
  obtain ⟨w, f, x, mantissa, exponent, hw, hx, htext, hvalue⟩ :=
    decimalText_spelled (coefficient_shortestDecimal negative fits hm)
  have hl : (NumberLiteral.decimal negative w f x).toBinary64 = .finite negative m e fits :=
    (Decimal.toBinary64_congr hvalue negative).trans hread
  refine ⟨.decimal negative w f x, ?_, hl⟩
  rw [text, String.toList_ofList, if_neg hm, htext]
  cases negative with
  | false => exact .decimal .absent hw hx
  | true => exact .decimal .minus hw hx

end RuleLabels.Binary64
