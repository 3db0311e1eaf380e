import Mathlib.Data.List.Basic
import Mathlib.Tactic.Common
import RuleLabels.Text.Blank
import RuleLabels.Text.Half

/-!
# Joining halves

A text in which the halves of characters are joined is blank just where the text is: neither a half nor a
character of two halves is a blank.
-/

namespace RuleLabels.Text

/-- Blanks have small code points. -/
theorem not_isBlank_of_lt {c : Char} (h : 0x3000 < c.toNat) : isBlank c = false := by
  simp only [isBlank, inRanges, blankRanges, List.any_cons, List.any_nil, Bool.or_false, Bool.or_eq_false_iff,
    Bool.and_eq_false_iff, decide_eq_false_iff_not]
  omega

theorem not_isBlank_of_halfCode? {c : Char} {n : Nat} (h : halfCode? c = some n) : isBlank c = false := by
  refine not_isBlank_of_lt ?_
  rw [halfCode?, firstHalf] at h
  split at h
  · rename_i hrange
    rw [Bool.and_eq_true, decide_eq_true_eq, decide_eq_true_eq] at hrange
    omega
  · cases h

theorem toNat_ofNat {n : Nat} (h : n.isValidChar) : (Char.ofNat n).toNat = n := by
  have hn : Char.ofNat n = Char.ofNatAux n h := dif_pos h
  rw [hn]
  exact UInt32.toNat_ofNatLT

/-- Two halves make a character beyond the first plane. -/
theorem toNat_joined {m n : Nat} (hm : isHighHalf m = true) (hn : isLowHalf n = true) :
    (joined m n).toNat = 0x10000 + (m - 0xD800) * 0x400 + (n - 0xDC00) := by
  rw [isHighHalf, Bool.and_eq_true, decide_eq_true_eq, decide_eq_true_eq] at hm
  rw [isLowHalf, Bool.and_eq_true, decide_eq_true_eq, decide_eq_true_eq] at hn
  refine toNat_ofNat ?_
  rw [Nat.isValidChar]
  omega

theorem not_isBlank_joined {m n : Nat} (hm : isHighHalf m = true) (hn : isLowHalf n = true) :
    isBlank (joined m n) = false := by
  refine not_isBlank_of_lt ?_
  rw [toNat_joined hm hn]
  omega

theorem all_isBlank_joinHalves (s : List Char) : (joinHalves s).all isBlank = s.all isBlank := by
  fun_induction joinHalves s with
  | case1 c d rest n m hd hc hmn ih =>
    rw [Bool.and_eq_true] at hmn
    rw [List.all_cons, List.all_cons, not_isBlank_joined hmn.1 hmn.2, not_isBlank_of_halfCode? hc,
      Bool.false_and, Bool.false_and]
  | case2 c d rest n m hd hc hmn ih => rw [List.all_cons, List.all_cons, ih]
  | case3 c d rest hcd ih => rw [List.all_cons, List.all_cons, ih]
  | case4 s hs => rfl

/-- Joining halves makes no text blank, and none that is. -/
theorem allBlank_joinedHalves (s : String) : allBlank (joinedHalves s) = allBlank s := by
  rw [joinedHalves]
  split
  · rw [allBlank, allBlank, String.toList_ofList, all_isBlank_joinHalves]
  · rfl

end RuleLabels.Text
