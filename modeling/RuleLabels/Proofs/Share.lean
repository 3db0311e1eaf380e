import Mathlib.Algebra.Order.Field.Power
import Mathlib.Data.Rat.Floor
import Mathlib.Tactic.Common
import Mathlib.Tactic.FieldSimp
import Mathlib.Tactic.Linarith
import Mathlib.Tactic.Positivity
import Mathlib.Tactic.Ring
import RuleLabels.Proofs.Number.Rational
import RuleLabels.Statistics

/-!
# The rounding of shares

A percentage is rounded twice: the quotient to 28 significant digits with a half going to the even digit, and
that to hundredths with a half going up.  The first step must not carry a quotient over a half of a hundredth.
Where the total has at most 24 digits it leaves at least 26 of them behind the point.  A quotient that is no
half then stays on its side, because its distance from a half is at least one part of the total.  Where the
total is larger, the error of each step is still small beside the quotient.

* `Decimal.place_le`: where the last digit of a quotient stands at most;
* `div_eq_of_near`: rounding a rounded quotient as the quotient itself;
* `share_eq_halfUp`: the percentage that one number is of another one;
* `Decimal.abs_sub_quotient_le`: the error of rounding to significant digits;
* `shareHundredths_self`: the percentage of all of a total, which may have any number of digits.
-/

namespace RuleLabels

/-! ## Rounding to significant digits -/

namespace Decimal

open Binary64 (divNearest divNearest_near divNearest_one divNearest_mul divNearest_le
  abs_sub_divNearest_le)

/-- A quotient in units of a power of ten. -/
def roundedAt (num den : Nat) (k : Int) : Nat :=
  if 0 ≤ k then divNearest num (den * 10 ^ k.toNat) else divNearest (num * 10 ^ (-k).toNat) den

/-- Where the last digit of a quotient is expected, from the numbers of digits. -/
def estimate (num den : Nat) : Int := (digitCount num : Int) - digitCount den - precision

/-- A place from which a quotient has few enough digits. -/
def fitsAt (num den : Nat) (k : Int) : Bool := roundedAt num den k ≤ 10 ^ precision

/-- Where the last digit of a quotient stands: the first of two places from which it has few enough digits. -/
def place (num den : Nat) : Int :=
  if fitsAt num den (estimate num den) then estimate num den else estimate num den + 1

theorem quotient_eq {num : Nat} (hnum : num ≠ 0) (den : Nat) (exponent : Int) :
    quotient num den exponent = ⟨roundedAt num den (place num den), exponent + place num den⟩ :=
  if_neg hnum

theorem le_place (num den : Nat) : estimate num den ≤ place num den := by
  rw [place]
  split
  · omega
  · omega

theorem place_le_succ (num den : Nat) : place num den ≤ estimate num den + 1 := by
  rw [place]
  split
  · omega
  · omega

/-- A number has at most as many digits as the power of ten that it is below. -/
theorem digitCount_le_iff {n k : Nat} (hk : 0 < k) : digitCount n ≤ k ↔ n < 10 ^ k :=
  Nat.length_toDigits_le_iff (by decide) hk

theorem digitCount_pos (n : Nat) : 0 < digitCount n := Nat.length_toDigits_pos

theorem lt_pow_digitCount (n : Nat) : n < 10 ^ digitCount n :=
  (digitCount_le_iff (digitCount_pos n)).1 (Nat.le_refl _)

theorem pow_le_of_digitCount {n : Nat} (hn : n ≠ 0) : 10 ^ (digitCount n - 1) ≤ n := by
  rcases Nat.eq_zero_or_pos (digitCount n - 1) with h | h
  · rw [h]
    omega
  · by_contra hlt
    have hle := (digitCount_le_iff h).2 (Nat.lt_of_not_le hlt)
    omega

/-- Powers of ten that a quotient is multiplied with before it is rounded only move its last place. -/
theorem roundedAt_mul_pow (num den : Nat) {a b : Nat} {k : Int} (h : (a : Int) - k = b) :
    roundedAt (num * 10 ^ a) den k = divNearest (num * 10 ^ b) den := by
  rw [roundedAt]
  by_cases hk : 0 ≤ k
  · have ha : a = b + k.toNat := by omega
    rw [if_pos hk, ha, pow_add, ← Nat.mul_assoc, divNearest_mul _ _ (Nat.pow_pos (by decide))]
  · have hb : b = a + (-k).toNat := by omega
    rw [if_neg hk, hb, pow_add, Nat.mul_assoc]

/-- A quotient of at most `10 ^ n` has few enough digits when its last one stands 28 places below. -/
theorem fitsAt_of_le {num den n : Nat} {k : Int} (hden : 0 < den) (h : num ≤ 10 ^ n * den)
    (hk : (n : Int) - 28 ≤ k) : fitsAt num den k := by
  have hten : ∀ m : Nat, 0 < 10 ^ m := fun m => Nat.pow_pos (by decide)
  rw [fitsAt, decide_eq_true_eq, roundedAt, precision]
  by_cases hsign : 0 ≤ k
  · have hpow : 10 ^ n ≤ 10 ^ (28 + k.toNat) := Nat.pow_le_pow_right (by decide) (by omega)
    rw [if_pos hsign]
    refine divNearest_le (Nat.mul_pos hden (hten _)) ?_
    calc num ≤ 10 ^ n * den := h
      _ ≤ 10 ^ (28 + k.toNat) * den := Nat.mul_le_mul_right _ hpow
      _ = 10 ^ 28 * (den * 10 ^ k.toNat) := by rw [pow_add]; ring
  · have hpow : 10 ^ (n + (-k).toNat) ≤ 10 ^ 28 := Nat.pow_le_pow_right (by decide) (by omega)
    rw [if_neg hsign]
    refine divNearest_le hden ?_
    calc num * 10 ^ (-k).toNat ≤ 10 ^ n * den * 10 ^ (-k).toNat := Nat.mul_le_mul_right _ h
      _ = 10 ^ (n + (-k).toNat) * den := by rw [pow_add]; ring
      _ ≤ 10 ^ 28 * den := Nat.mul_le_mul_right _ hpow

/-- The first digit of a quotient of at most `10 ^ n` is not expected beyond the place of `10 ^ n`. -/
theorem estimate_le {num den n : Nat} (h : num ≤ 10 ^ n * den) : estimate num den ≤ (n : Int) - 28 := by
  have hlt : num < 10 ^ (n + digitCount den) :=
    calc num ≤ 10 ^ n * den := h
      _ < 10 ^ n * 10 ^ digitCount den :=
        Nat.mul_lt_mul_of_pos_left (lt_pow_digitCount den) (Nat.pow_pos (by decide))
      _ = 10 ^ (n + digitCount den) := (pow_add _ _ _).symm
  have hpos := digitCount_pos den
  have hdigits := (digitCount_le_iff (by omega)).2 hlt
  rw [estimate, precision]
  omega

/-- The last digit of a quotient of at most `10 ^ n` stands at least 28 places below. -/
theorem place_le {num den n : Nat} (hden : 0 < den) (h : num ≤ 10 ^ n * den) :
    place num den ≤ (n : Int) - 28 := by
  have hestimate := estimate_le h
  rw [place]
  split
  · exact hestimate
  · rename_i hlarge
    by_contra hlt
    exact hlarge (fitsAt_of_le hden h (by omega))

/-- A quotient of at most `10 ^ n` is rounded at a place at least 28 below that, whichever power of ten its
dividend is multiplied with. -/
theorem quotient_mul_pow {num den n a : Nat} (hnum : num ≠ 0) (hden : 0 < den) (h : num ≤ 10 ^ n * den)
    (hn : n ≤ 28) :
    ∃ b : Nat, 28 ≤ b + n ∧ (b : Int) = a - place (num * 10 ^ a) den ∧
      quotient (num * 10 ^ a) den (-a) = ⟨divNearest (num * 10 ^ b) den, -b⟩ := by
  have hpos : num * 10 ^ a ≠ 0 := Nat.mul_ne_zero hnum (Nat.pow_pos (by decide)).ne'
  have hbound : num * 10 ^ a ≤ 10 ^ (n + a) * den := by
    rw [pow_add, Nat.mul_right_comm]
    exact Nat.mul_le_mul_right _ h
  have hplace := place_le hden hbound
  obtain ⟨b, hb⟩ : ∃ b : Nat, (b : Int) = a - place (num * 10 ^ a) den :=
    ⟨(a - place (num * 10 ^ a) den).toNat, Int.toNat_of_nonneg (by omega)⟩
  refine ⟨b, by omega, hb, ?_⟩
  rw [quotient_eq hpos, roundedAt_mul_pow _ _ hb.symm]
  congr 1
  omega

/-- A number of at most 28 digits is its own quotient by one. -/
theorem quotient_one {num : Nat} (hnum : num ≠ 0) (h : num ≤ 10 ^ 28) :
    ∃ a : Nat, a ≤ 28 ∧ quotient num 1 0 = ⟨num * 10 ^ a, -a⟩ := by
  obtain ⟨a, -, hplace, hquotient⟩ :=
    quotient_mul_pow (n := 28) (a := 0) hnum Nat.one_pos (by omega) (Nat.le_refl 28)
  rw [Nat.pow_zero, Nat.mul_one] at hplace hquotient
  have hestimate : -28 ≤ estimate num 1 := by
    have hone : digitCount 1 = 1 := by decide
    have hpos := digitCount_pos num
    rw [estimate, precision, hone]
    omega
  have hle := le_place num 1
  refine ⟨a, by omega, ?_⟩
  rw [divNearest_one] at hquotient
  exact hquotient

/-- A number with at least two digits behind the point in hundredths. -/
theorem hundredths_eq (coefficient b : Nat) :
    hundredths ⟨coefficient, -(b + 3 : Nat)⟩ =
      (2 * coefficient + 2 * (5 * 10 ^ b)) / (2 * (2 * (5 * 10 ^ b))) := by
  have hden : 10 ^ (b + 1) = 2 * (5 * 10 ^ b) := by
    rw [Nat.pow_succ]
    omega
  have hnegative : ¬ (0 : Int) ≤ -(b + 3 : Nat) + 2 := by omega
  have hdigits : (-(-(b + 3 : Nat) + 2) : Int).toNat = b + 1 := by omega
  simp only [hundredths, if_neg hnegative, hdigits, hden]

/-! ## The error of rounding to significant digits -/

/-- A quotient in units of a power of ten is at most half a unit away. -/
theorem abs_sub_roundedAt_le (num : Nat) {den : Nat} (hden : 0 < den) (k : Int) :
    |(num / den : ℚ) - roundedAt num den k * 10 ^ k| ≤ 10 ^ k / 2 := by
  have hpos : (0 : ℚ) < 10 ^ k := by positivity
  have hden' : (den : ℚ) ≠ 0 := by exact_mod_cast hden.ne'
  have hunits : |(num / den : ℚ) / 10 ^ k - roundedAt num den k| ≤ 1 / 2 := by
    rw [roundedAt]
    by_cases hk : 0 ≤ k
    · obtain ⟨n, rfl⟩ := Int.eq_ofNat_of_zero_le hk
      have hquotient : (num / den : ℚ) / 10 ^ (n : Int) = num / (den * 10 ^ n : Nat) := by
        push_cast
        rw [zpow_natCast, div_div]
      rw [if_pos hk, hquotient]
      exact abs_sub_divNearest_le num (Nat.mul_pos hden (Nat.pow_pos (by decide)))
    · obtain ⟨n, rfl⟩ : ∃ n : Nat, k = -n := ⟨(-k).toNat, by omega⟩
      have hquotient : (num / den : ℚ) / 10 ^ (-n : Int) = (num * 10 ^ n : Nat) / den := by
        push_cast
        rw [zpow_neg, zpow_natCast, div_inv_eq_mul, div_mul_eq_mul_div]
      rw [if_neg hk, hquotient, neg_neg, Int.toNat_natCast]
      exact abs_sub_divNearest_le _ hden
  calc |(num / den : ℚ) - roundedAt num den k * 10 ^ k|
      = |(num / den : ℚ) / 10 ^ k - roundedAt num den k| * 10 ^ k := by
        rw [← abs_of_pos hpos, ← abs_mul, abs_of_pos hpos, sub_mul, div_mul_cancel₀ _ hpos.ne']
    _ ≤ 1 / 2 * 10 ^ k := mul_le_mul_of_nonneg_right hunits hpos.le
    _ = 10 ^ k / 2 := by ring

/-- The last digit of a quotient stands at least 26 places behind its first one. -/
theorem pow_place_le {num den : Nat} (hnum : num ≠ 0) (hden : 0 < den) :
    (10 : ℚ) ^ place num den ≤ num / den / 10 ^ 26 := by
  have hpos : (0 : ℚ) < den := by exact_mod_cast hden
  have hlow : (10 : ℚ) ^ (digitCount num - 1) ≤ num := by exact_mod_cast pow_le_of_digitCount hnum
  have hhigh : (den : ℚ) ≤ 10 ^ digitCount den := by exact_mod_cast (lt_pow_digitCount den).le
  have hplace : place num den ≤ (digitCount num - 1 : Nat) - digitCount den - 26 := by
    have hsucc := place_le_succ num den
    have hcount := digitCount_pos num
    rw [estimate, precision] at hsucc
    omega
  rw [le_div_iff₀ (by norm_num), le_div_iff₀ hpos]
  calc (10 : ℚ) ^ place num den * 10 ^ 26 * den
      ≤ 10 ^ (((digitCount num - 1 : Nat) : Int) - digitCount den - 26) * 10 ^ 26 * 10 ^ digitCount den := by
        gcongr
        norm_num
    _ = 10 ^ (digitCount num - 1) := by
        rw [← zpow_natCast, ← zpow_natCast, ← zpow_natCast, ← zpow_add₀ (by norm_num),
          ← zpow_add₀ (by norm_num)]
        congr 1
        push_cast
        ring
    _ ≤ num := hlow

/-- A quotient of positive numbers is rounded with a small relative error. -/
theorem abs_sub_quotient_le {num den : Nat} (hnum : num ≠ 0) (hden : 0 < den) (exponent : Int) :
    |(num / den : ℚ) * 10 ^ exponent - (quotient num den exponent).value| ≤
      num / den * 10 ^ exponent / 10 ^ 26 := by
  have hpos : (0 : ℚ) < 10 ^ exponent := by positivity
  have hunit := abs_sub_roundedAt_le num hden (place num den)
  have hplace := pow_place_le hnum hden
  rw [quotient_eq hnum, value, add_comm exponent, zpow_add₀ (by norm_num), ← mul_assoc, ← sub_mul, abs_mul,
    abs_of_pos hpos]
  have hhalf : (10 : ℚ) ^ place num den / 2 ≤ 10 ^ place num den := half_le_self (by positivity)
  calc |(num / den : ℚ) - roundedAt num den (place num den) * 10 ^ place num den| * 10 ^ exponent
      ≤ (num / den / 10 ^ 26) * 10 ^ exponent :=
        mul_le_mul_of_nonneg_right (hunit.trans (hhalf.trans hplace)) hpos.le
    _ = num / den * 10 ^ exponent / 10 ^ 26 := by ring

/-- Hundredths are rounded to the nearest integer, a half going up. -/
theorem hundredths_eq_floor (d : Decimal) : (d.hundredths : Int) = ⌊100 * d.value + 1 / 2⌋ := by
  obtain ⟨c, exponent⟩ := d
  have hshift : 100 * (c * (10 : ℚ) ^ exponent) = c * 10 ^ (exponent + 2) := by
    rw [zpow_add₀ (by norm_num)]
    norm_num
    ring
  simp only [hundredths, value]
  rw [hshift]
  by_cases hk : 0 ≤ exponent + 2
  · obtain ⟨n, hn⟩ := Int.eq_ofNat_of_zero_le hk
    rw [if_pos hk, hn, Int.toNat_natCast]
    symm
    rw [Int.floor_eq_iff]
    push_cast
    rw [zpow_natCast]
    constructor
    · linarith
    · linarith
  · obtain ⟨n, hn⟩ : ∃ n : Nat, exponent + 2 = -n := ⟨(-(exponent + 2)).toNat, by omega⟩
    have hpow : (0 : ℚ) < 10 ^ n := by positivity
    rw [if_neg hk, hn, neg_neg, Int.toNat_natCast]
    have hvalue : (c * 10 ^ (-n : Int) + 1 / 2 : ℚ) = ((2 * c + 10 ^ n : Nat) : ℚ) / (2 * 10 ^ n : Nat) := by
      push_cast
      rw [zpow_neg, zpow_natCast]
      field_simp
    rw [hvalue, Rat.floor_natCast_div_natCast]
    exact Int.natCast_div _ _

/-- What is near to a hundred is a hundred to two decimal places. -/
theorem hundredths_of_near {d : Decimal} (h : |100 - d.value| ≤ 1 / 1000) : d.hundredths = 10000 := by
  obtain ⟨hlow, hhigh⟩ := abs_le.1 h
  have hfloor : ⌊100 * d.value + 1 / 2⌋ = 10000 := by
    rw [Int.floor_eq_iff]
    push_cast
    constructor
    · linarith
    · linarith
  have hcast := hundredths_eq_floor d
  omega

end Decimal

/-! ## Rounding twice -/

/-- What is at most a half away from a quotient in finer units is rounded to the same integer as the quotient,
a half going up.  The finer unit has to be smaller than one part of the divisor, and a half a multiple of it. -/
theorem div_eq_of_near {x t unit r : Nat} (ht : 0 < t) (hunit : t < 2 * unit)
    (hlow : 2 * (x * (2 * unit)) ≤ 2 * (r * t) + t) (hhigh : 2 * (r * t) ≤ 2 * (x * (2 * unit)) + t) :
    (2 * r + 2 * unit) / (2 * (2 * unit)) = (2 * x + t) / (2 * t) := by
  obtain ⟨m, hm⟩ : ∃ m, m = (2 * x + t) / (2 * t) := ⟨_, rfl⟩
  have hfloor : 2 * (m * t) ≤ 2 * x + t := by
    have h := Nat.div_mul_le_self (2 * x + t) (2 * t)
    rw [← hm] at h
    linarith
  have hceil : 2 * x + 1 ≤ 2 * (m * t) + t := by
    have h := Nat.lt_mul_div_succ (2 * x + t) (show 0 < 2 * t by omega)
    rw [← hm] at h
    linarith
  rw [← hm]
  refine Nat.div_eq_of_lt_le ?_ ?_
  · -- a multiple of the finer unit that is less than a half below another one is not below it
    have hlt : 2 * (m * unit) * t < (r + unit + 1) * t := by
      have h := Nat.mul_le_mul_right (2 * unit) hfloor
      linarith
    have hint : 2 * (m * unit) < r + unit + 1 := Nat.lt_of_mul_lt_mul_right hlt
    linarith
  · have hlt : r * t < (2 * (m * unit) + unit) * t := by
      have h := Nat.mul_le_mul_right (2 * unit) hceil
      linarith
    have hint : r < 2 * (m * unit) + unit := Nat.lt_of_mul_lt_mul_right hlt
    linarith

/-! ## Shares -/

/-- The hundredths of a percentage are those of the quotient itself, a half going up. -/
theorem shareHundredths_eq {count total : Nat} (hle : count ≤ total) (hpos : 0 < total)
    (hlt : total < 10 ^ 24) : shareHundredths count total = (20000 * count + total) / (2 * total) := by
  by_cases hcount : count = 0
  · have hzero : total / (2 * total) = 0 := Nat.div_eq_of_lt (by omega)
    simp [shareHundredths, Decimal.quotient, Decimal.hundredths, hcount, hzero]
  · have hnum : count * 100 ≠ 0 := Nat.mul_ne_zero hcount (by decide)
    obtain ⟨a, ha, hscaled⟩ := Decimal.quotient_one hnum (by omega)
    obtain ⟨b, hb, -, hratio⟩ := Decimal.quotient_mul_pow (n := 2) (a := a) hnum hpos (by omega)
      (by decide)
    obtain ⟨d, rfl⟩ : ∃ d, b = d + 23 + 3 := ⟨b - 26, by omega⟩
    have hunit : total < 2 * (5 * 10 ^ (d + 23)) := by
      have hpow : 10 ^ 23 ≤ 10 ^ (d + 23) := Nat.pow_le_pow_right (by decide) (by omega)
      omega
    have hdividend : count * 100 * 10 ^ (d + 23 + 3) = 10000 * count * (2 * (5 * 10 ^ (d + 23))) := by
      rw [pow_add 10 (d + 23)]
      ring
    rw [hdividend] at hratio
    obtain ⟨hlow, hhigh⟩ := Binary64.divNearest_near (10000 * count * (2 * (5 * 10 ^ (d + 23)))) hpos
    have hround := div_eq_of_near hpos hunit hlow hhigh
    simp only [shareHundredths, hscaled, hratio, Decimal.hundredths_eq]
    rw [hround, ← Nat.mul_assoc]

/-- All of a total is a hundred per cent of it, however large it is. -/
theorem shareHundredths_self {total : Nat} (hpos : 0 < total) : shareHundredths total total = 10000 := by
  have htotal : (0 : ℚ) < total := by exact_mod_cast hpos
  have hscaled := @Decimal.abs_sub_quotient_le (total * 100) 1 (by omega) Nat.one_pos 0
  obtain ⟨s, hs⟩ : ∃ s, s = Decimal.quotient (total * 100) 1 0 := ⟨_, rfl⟩
  rw [← hs, Nat.cast_one, div_one, zpow_zero, mul_one] at hscaled
  push_cast at hscaled
  obtain ⟨hlow, hhigh⟩ := abs_le.1 hscaled
  have hvalue : 0 < s.value := by linarith
  have hcoefficient : s.coefficient ≠ 0 := by
    intro h
    rw [Decimal.value, h, Nat.cast_zero, zero_mul] at hvalue
    exact lt_irrefl _ hvalue
  have hratio := Decimal.abs_sub_quotient_le hcoefficient hpos s.exponent
  have hdivided : (s.coefficient / total : ℚ) * 10 ^ s.exponent = s.value / total := by
    rw [Decimal.value, div_mul_eq_mul_div]
  rw [hdivided] at hratio
  have hquotient : |100 - s.value / total| ≤ 100 / 10 ^ 26 := by
    rw [abs_le]
    constructor
    · rw [le_sub_comm, div_le_iff₀ htotal]
      linarith
    · rw [sub_le_comm, le_div_iff₀ htotal]
      linarith
  show (Decimal.quotient (Decimal.quotient (total * 100) 1 0).coefficient total
    (Decimal.quotient (total * 100) 1 0).exponent).hundredths = 10000
  rw [← hs]
  refine Decimal.hundredths_of_near ?_
  obtain ⟨h₁, h₂⟩ := abs_le.1 hquotient
  obtain ⟨h₃, h₄⟩ := abs_le.1 hratio
  rw [abs_le]
  constructor
  · linarith
  · linarith

/-- **Percentages are rounded as if in one step.**  The percentage of a count of a total below `10 ^ 24` is a
hundred times their quotient to two decimal places, a half going up.  So there always is one, it is not
larger than a hundred, and it does not become larger as the count becomes smaller. -/
theorem share_eq_halfUp {count total : Int} (hcount : 0 ≤ count) (hle : count ≤ total) (hpos : 0 < total)
    (hlt : total < 10 ^ 24) :
    let hundredths := shareHundredths count.natAbs total.toNat
    (hundredths : Int) = (20000 * count + total) / (2 * total) ∧ hundredths ≤ 10000 ∧
      share count total = .ok ((Decimal.mk hundredths (-2)).toBinary64 false) ∧
      percentage count.toNat total.toNat = (Decimal.mk hundredths (-2)).toBinary64 false ∧
      ∀ fewer : Int, 0 ≤ fewer → fewer ≤ count → shareHundredths fewer.natAbs total.toNat ≤ hundredths := by
  intro hundredths
  obtain ⟨c, rfl⟩ := Int.eq_ofNat_of_zero_le hcount
  obtain ⟨t, rfl⟩ := Int.eq_ofNat_of_zero_le hpos.le
  have heq : ∀ n ≤ c, shareHundredths n t = (20000 * n + t) / (2 * t) := fun n hn =>
    shareHundredths_eq (by omega) (by omega) (by omega)
  have hvalue : hundredths = (20000 * c + t) / (2 * t) := heq c (Nat.le_refl c)
  have hbound : hundredths ≤ 10000 := by
    rw [hvalue]
    refine Nat.le_of_lt_succ ((Nat.div_lt_iff_lt_mul (by omega)).2 ?_)
    omega
  refine ⟨?_, hbound, ?_, ?_, ?_⟩
  · rw [hvalue]
    rfl
  · have hfits : ¬ 10 ^ Decimal.precision ≤ hundredths := by
      rw [Decimal.precision]
      omega
    have hsign : decide ((c : Int) < 0) = false := decide_eq_false (by omega)
    rw [share, if_neg (by omega), hsign]
    exact if_neg hfits
  · rw [percentage, if_neg (by omega)]
    rfl
  · intro fewer hfewer hless
    obtain ⟨n, rfl⟩ := Int.eq_ofNat_of_zero_le hfewer
    have hn : n ≤ c := by omega
    show shareHundredths n t ≤ hundredths
    rw [heq n hn, hvalue]
    exact Nat.div_le_div_right (by omega)

/-- The largest total for which a quotient can come as close to half a hundredth without reaching it. -/
theorem share_eq_halfUp_below_half :
    let total : Int := 999999999999999999980001
    let count : Int := 49999999999999999999
    (0 ≤ count ∧ count ≤ total ∧ 0 < total ∧ total < 10 ^ 24) ∧ 20000 * count + 1 = total ∧
      shareHundredths count.natAbs total.toNat = 0 ∧ share count total = .ok (.zero false) := by
  intro total count
  obtain ⟨hvalue, -, hshare, -, -⟩ :=
    share_eq_halfUp (show 0 ≤ count by decide) (show count ≤ total by decide) (show 0 < total by decide)
      (by decide)
  have hzero : shareHundredths count.natAbs total.toNat = 0 := by
    refine Int.natCast_eq_zero.1 (hvalue.trans ?_)
    decide
  rw [hzero] at hshare
  exact ⟨⟨by decide, by decide, by decide, by decide⟩, by decide, hzero, hshare⟩

end RuleLabels
