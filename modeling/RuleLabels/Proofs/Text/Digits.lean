import Mathlib.Data.List.Basic
import Mathlib.Data.List.Induction
import Mathlib.Tactic.Common
import RuleLabels.Text.Blank
import RuleLabels.Text.Digit
import RuleLabels.Text.Utf8

/-!
# Written numbers

A number that is filled up with zeros has the wanted width, consists of digits, and is the number that its
digits spell.  No digit is a blank.  A text of ASCII characters has one byte for each of them.
-/

namespace RuleLabels.Text

/-! ## Digits -/

theorem isDigit_of_mem_padded {width n : Nat} {c : Char} (h : c ∈ padded 10 width n) :
    c.isDigit = true := by
  rw [padded, List.mem_append] at h
  rcases h with h | h
  · rw [List.eq_of_mem_replicate h]
    decide
  · exact Nat.isDigit_of_mem_toDigits (by decide) (by decide) h

theorem toNat_of_isDigit {c : Char} (h : c.isDigit = true) : 0x30 ≤ c.toNat ∧ c.toNat ≤ 0x39 := by
  rw [Char.isDigit, Bool.and_eq_true, decide_eq_true_eq, decide_eq_true_eq] at h
  exact ⟨h.1, h.2⟩

theorem isBlank_of_isDigit {c : Char} (h : c.isDigit = true) : isBlank c = false := by
  obtain ⟨hlow, hhigh⟩ := toNat_of_isDigit h
  rw [Bool.eq_false_iff]
  intro hb
  obtain ⟨r, hr, hin⟩ := List.any_eq_true.1 hb
  have hapart : ∀ r ∈ blankRanges, r.2 < 0x30 ∨ 0x39 < r.1 := by
    simp only [blankRanges, List.forall_mem_cons]
    simp
  have := hapart r hr
  rw [Bool.and_eq_true, decide_eq_true_eq, decide_eq_true_eq] at hin
  omega

theorem length_padded {width n : Nat} (hw : 0 < width) (h : n < 10 ^ width) :
    (padded 10 width n).length = width := by
  have := (Nat.length_toDigits_le_iff (by decide) hw).2 h
  rw [padded, List.length_append, List.length_replicate]
  omega

/-- The digits of a number spell it, however many zeros stand before them. -/
theorem ofDigits_padded (width n : Nat) :
    ofDigits 10 ((padded 10 width n).map fun c => c.toNat - 0x30) = n := by
  have hfold : ∀ (cs : List Char) (m : Nat),
      (cs.map fun c => c.toNat - 0x30).foldl (fun n d => n * 10 + d) m = Nat.ofDigitChars 10 cs m := by
    intro cs m
    rw [List.foldl_map, Nat.ofDigitChars_eq_foldl]
    simp only [Nat.mul_comm]
    rfl
  rw [ofDigits, hfold, padded, Nat.ofDigitChars_append, Nat.ofDigitChars_replicate_zero, Nat.mul_zero,
    Nat.ofDigitChars_ten_toDigits]

theorem ofDigits_toDigits (n : Nat) :
    ofDigits 10 ((Nat.toDigits 10 n).map fun c => c.toNat - 0x30) = n := by
  have h := ofDigits_padded 0 n
  rwa [padded, Nat.zero_sub, List.replicate_zero, List.nil_append] at h

/-- Digits in two parts spell the number of the first part, moved by the length of the second, and that of the
second. -/
theorem ofDigits_append (base : Nat) (ds es : List Nat) :
    ofDigits base (ds ++ es) = ofDigits base ds * base ^ es.length + ofDigits base es := by
  induction es using List.reverseRecOn with
  | nil =>
    rw [List.append_nil, List.length_nil, Nat.pow_zero, Nat.mul_one]
    rfl
  | append_singleton es d ih =>
    have hlast : ∀ fs : List Nat, ofDigits base (fs ++ [d]) = ofDigits base fs * base + d := fun fs => by
      rw [ofDigits, List.foldl_append]
      rfl
    rw [← List.append_assoc, hlast, hlast, ih, List.length_append, List.length_singleton, Nat.pow_succ,
      Nat.add_mul, Nat.mul_assoc, Nat.add_assoc]

theorem ofDigits_zeros (zeros : Nat) :
    ofDigits 10 ((List.replicate zeros '0').map fun c => c.toNat - 0x30) = 0 := by
  induction zeros with
  | zero => rfl
  | succ zeros ih =>
    rw [List.replicate_succ', List.map_append, ofDigits_append, ih]
    rfl

/-- Digits in front of zeros spell a multiple of a power of ten. -/
theorem ofDigits_append_zeros (ds : List Char) (zeros : Nat) :
    ofDigits 10 ((ds ++ List.replicate zeros '0').map fun c => c.toNat - 0x30) =
      ofDigits 10 (ds.map fun c => c.toNat - 0x30) * 10 ^ zeros := by
  rw [List.map_append, ofDigits_append, ofDigits_zeros, List.length_map, List.length_replicate, Nat.add_zero]

/-! ## Bytes -/

theorem utf8EncodeChar_of_ascii {c : Char} (h : c.toNat < 0x80) :
    String.utf8EncodeChar c = [c.toNat.toUInt8] := by
  have hle : c.val.toNat ≤ 0x7F := Nat.le_of_lt_succ h
  rw [String.utf8EncodeChar, if_pos hle]
  rfl

theorem utf8Bytes_of_ascii {cs : List Char} (h : ∀ c ∈ cs, c.toNat < 0x80) :
    utf8Bytes (.ofList cs) = cs.map fun c => c.toNat.toUInt8 := by
  rw [utf8Bytes, String.toUTF8_eq_toByteArray, String.toByteArray_ofList, List.utf8Encode,
    List.flatMap_congr fun c hc => utf8EncodeChar_of_ascii (h c hc),
    List.toList_data_toByteArray, List.map_eq_flatMap]

end RuleLabels.Text
