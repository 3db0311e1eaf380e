import Mathlib.Algebra.Order.Field.Basic
import Mathlib.Data.Rat.Cast.Order
import Mathlib.Tactic.Common
import Mathlib.Tactic.Linarith
import Mathlib.Tactic.LinearCombination
import Mathlib.Tactic.Ring
import RuleLabels.Number.Decimal

/-!
# Numbers as rational numbers

Decimal and binary numbers stand for rational numbers.  A quotient of natural numbers is rounded to the nearest
integer, a half to the even one; both floating-point numbers and percentages are worked out in this way, after
the dividend or the divisor is multiplied with a power.

* `Decimal.value` and `Binary64.scaled`: the rational numbers;
* `divNearest_near`: a rounded quotient is at most a half away;
* `divNearest_even`: one that is just a half away is even;
* `divNearest_nearest`: so no other integer is nearer, and at a tie the rounded quotient is even.
-/

namespace RuleLabels

/-- The number that a decimal number stands for. -/
def Decimal.value (d : Decimal) : ℚ := d.coefficient * 10 ^ d.exponent

namespace Binary64

/-- The number that a significand and an exponent stand for. -/
def scaled (mantissa : Nat) (exponent : Int) : ℚ := mantissa * 2 ^ exponent

/-! ## Rounded quotients -/

/-- A quotient and what it is rounded to are at most a half apart. -/
theorem divNearest_near (num : Nat) {den : Nat} (hden : 0 < den) :
    2 * num ≤ 2 * (divNearest num den * den) + den ∧ 2 * (divNearest num den * den) ≤ 2 * num + den := by
  have hnum : num / den * den + num % den = num := by
    rw [Nat.mul_comm]
    exact Nat.div_add_mod num den
  have hmod : num % den < den := Nat.mod_lt num hden
  have hsucc : (num / den + 1) * den = num / den * den + den := Nat.succ_mul _ _
  simp only [divNearest]
  by_cases hlow : 2 * (num % den) < den
  · rw [if_pos hlow]
    omega
  · by_cases hhigh : den < 2 * (num % den)
    · rw [if_neg hlow, if_pos hhigh, hsucc]
      omega
    · -- at a half either neighbour will do
      rw [if_neg hlow, if_neg hhigh]
      split
      · omega
      · rw [hsucc]
        omega

theorem divNearest_one (num : Nat) : divNearest num 1 = num := by
  have h := divNearest_near num Nat.one_pos
  omega

/-- A quotient does not change when both of its parts are multiplied. -/
theorem divNearest_mul (num den : Nat) {m : Nat} (hm : 0 < m) :
    divNearest (num * m) (den * m) = divNearest num den := by
  have hless : ∀ a b : Nat, 2 * (a * m) < b * m ↔ 2 * a < b := by
    intro a b
    rw [← Nat.mul_assoc]
    exact Nat.mul_lt_mul_right hm
  have hmore : ∀ a b : Nat, b * m < 2 * (a * m) ↔ b < 2 * a := by
    intro a b
    rw [← Nat.mul_assoc]
    exact Nat.mul_lt_mul_right hm
  simp only [divNearest, Nat.mul_mod_mul_right, Nat.mul_div_mul_right _ _ hm, hless, hmore]

/-- A quotient that is not larger than an integer is not rounded beyond it. -/
theorem divNearest_le {num den bound : Nat} (hden : 0 < den) (h : num ≤ bound * den) :
    divNearest num den ≤ bound := by
  by_contra hlt
  have hstep : (bound + 1) * den ≤ divNearest num den * den := Nat.mul_le_mul_right den (by omega)
  rw [Nat.succ_mul] at hstep
  have hnear := (divNearest_near num hden).2
  omega

/-- A quotient is rounded to the even one of two integers that are a half away. -/
theorem divNearest_even {num den : Nat} (hden : 0 < den)
    (h : 2 * num = 2 * (divNearest num den * den) + den ∨
      2 * (divNearest num den * den) = 2 * num + den) : divNearest num den % 2 = 0 := by
  have hnum : num / den * den + num % den = num := by
    rw [Nat.mul_comm]
    exact Nat.div_add_mod num den
  have hsucc : (num / den + 1) * den = num / den * den + den := Nat.succ_mul _ _
  simp only [divNearest] at h ⊢
  by_cases hlow : 2 * (num % den) < den
  · rw [if_pos hlow] at h
    omega
  · by_cases hhigh : den < 2 * (num % den)
    · rw [if_neg hlow, if_pos hhigh, hsucc] at h
      have hmod : num % den < den := Nat.mod_lt num hden
      omega
    · rw [if_neg hlow, if_neg hhigh]
      split
      · assumption
      · omega

/-! ## As rational numbers -/

theorem abs_sub_divNearest_le (num : Nat) {den : Nat} (hden : 0 < den) :
    |(num / den : ℚ) - divNearest num den| ≤ 1 / 2 := by
  have hpos : (0 : ℚ) < den := by exact_mod_cast hden
  obtain ⟨hlow, hhigh⟩ := divNearest_near num hden
  have hlow : (2 * num : ℚ) ≤ 2 * (divNearest num den * den) + den := by exact_mod_cast hlow
  have hhigh : (2 * (divNearest num den * den) : ℚ) ≤ 2 * num + den := by exact_mod_cast hhigh
  have hnum : (num / den : ℚ) * den = num := div_mul_cancel₀ _ hpos.ne'
  rw [abs_le]
  constructor
  · refine le_of_mul_le_mul_right ?_ hpos
    linarith
  · refine le_of_mul_le_mul_right ?_ hpos
    linarith

/-- No integer is nearer to a quotient than what it is rounded to, and another one is as near only if that is
even. -/
theorem divNearest_nearest (num : Nat) {den : Nat} (hden : 0 < den) {j : ℤ} (hj : j ≠ divNearest num den) :
    |(num / den : ℚ) - divNearest num den| ≤ |(num / den : ℚ) - j| ∧
      (|(num / den : ℚ) - divNearest num den| = |(num / den : ℚ) - j| → divNearest num den % 2 = 0) := by
  have hnear := abs_sub_divNearest_le num hden
  have hstep : (1 : ℚ) ≤ |(divNearest num den : ℚ) - j| := by
    have hone : 1 ≤ |(divNearest num den : ℤ) - j| := Int.one_le_abs (sub_ne_zero.2 hj.symm)
    exact_mod_cast hone
  have htriangle := abs_sub_le (divNearest num den : ℚ) (num / den) j
  rw [abs_sub_comm (divNearest num den : ℚ) (num / den)] at htriangle
  refine ⟨by linarith, fun htie => divNearest_even hden ?_⟩
  -- both are a half away
  have hhalf : |(num / den : ℚ) - divNearest num den| = 1 / 2 := by linarith
  have hpos : (0 : ℚ) < den := by exact_mod_cast hden
  have hnum : (num / den : ℚ) * den = num := div_mul_cancel₀ _ hpos.ne'
  rcases (abs_eq (by norm_num)).1 hhalf with h | h
  · left
    have hcast : (2 * num : ℚ) = 2 * (divNearest num den * den) + den := by
      rw [← hnum]
      linear_combination (2 * den) * h
    exact_mod_cast hcast
  · right
    have hcast : (2 * (divNearest num den * den) : ℚ) = 2 * num + den := by
      rw [← hnum]
      linear_combination (-2 * den) * h
    exact_mod_cast hcast

end Binary64

end RuleLabels
