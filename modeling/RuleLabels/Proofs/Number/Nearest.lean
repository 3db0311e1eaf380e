import Mathlib.Algebra.Order.Field.Power
import Mathlib.Tactic.Common
import Mathlib.Tactic.Linarith
import Mathlib.Tactic.NormNum
import Mathlib.Tactic.Positivity
import Mathlib.Tactic.Ring
import RuleLabels.Proofs.Number.Range
import RuleLabels.Proofs.Number.Rational

/-!
# Rounding to the nearest number

The number nearest to a quotient is found at the place of its last digit, where the numbers of the format are the
multiples of a power of two.  Finer numbers are too small to be nearer, so it is enough to round to an integer there.
What a quantity is rounded to depends on the quantity alone, and not on how it is written as a quotient.

* `IsNearest`: what a quantity with a sign is rounded to, and `IsNearest.unique` that it is one number;
* `isPlace_lastPlace`: the place of the last digit of a quotient;
* `isNearest_nearest`: the number that is found for a quotient is the one that this is rounded to;
* `isNearest_finite`, `isNearest_zero`: the numbers of the format are rounded to themselves, and what is very small
  to zero.
-/

namespace RuleLabels.Binary64

/-- What a quantity with a sign is rounded to: infinity from the bound on, and else a number that no other one is
nearer to; at a tie its significand is even. -/
def IsNearest (negative : Bool) (q : ℚ) : Binary64 → Prop
  | .nan => False
  | .infinite n => n = negative ∧ (intBound : ℚ) ≤ q
  | .finite n m e _ => n = negative ∧ q < intBound ∧ ∀ m' e', Fits m' e' →
      |q - scaled m e| ≤ |q - scaled m' e'| ∧
        (|q - scaled m e| = |q - scaled m' e'| → scaled m' e' = scaled m e ∨ m % 2 = 0)

/-! ## The numbers of the format -/

section

variable {m m' : Nat} {e e' : Int}

theorem two_zpow_le {a b : Int} (h : a ≤ b) : (2 : ℚ) ^ a ≤ 2 ^ b := zpow_le_zpow_right₀ (by norm_num) h

theorem scaled_lt (h : Fits m e) : scaled m e < 2 ^ (e + 53) := by
  have hm : (m : ℚ) < 2 ^ 53 := by exact_mod_cast h.1
  rw [scaled, zpow_add₀ (by norm_num), mul_comm]
  exact mul_lt_mul_of_pos_left hm (by positivity)

/-- A number at a place other than the last of all has its first digit there. -/
theorem pow_le_scaled (h : Fits m e) : e = -1074 ∨ 2 ^ (e + 52) ≤ scaled m e := by
  rcases h.2.2.2 with hm | he
  · right
    have hm : (2 : ℚ) ^ 52 ≤ m := by exact_mod_cast hm
    rw [scaled, zpow_add₀ (by norm_num), mul_comm]
    exact mul_le_mul_of_nonneg_right hm (by positivity)
  · exact .inl he

/-- A number at a higher place is a multiple of the power of two at a lower one. -/
theorem scaled_eq_mul (m : Nat) (h : e ≤ e') : scaled m e' = (m * 2 ^ (e' - e).toNat : Nat) * 2 ^ e := by
  have hsum : e' = ((e' - e).toNat : Int) + e := by omega
  rw [scaled]
  nth_rewrite 1 [hsum]
  rw [zpow_add₀ (by norm_num), zpow_natCast]
  push_cast
  ring

/-- Numbers at a higher place are larger. -/
theorem scaled_lt_scaled (h : Fits m e) (h' : Fits m' e') (hlt : e < e') : scaled m e < scaled m' e' := by
  have hlow := h.2.1
  have hfirst := (pow_le_scaled h').resolve_left (by omega)
  exact (scaled_lt h).trans_le ((two_zpow_le (by omega)).trans hfirst)

/-- Each number has its significand and its exponent in one way. -/
theorem eq_of_scaled_eq (h : Fits m e) (h' : Fits m' e') (heq : scaled m e = scaled m' e') :
    m = m' ∧ e = e' := by
  have he : e = e' := by
    rcases lt_trichotomy e e' with hlt | rfl | hlt
    · exact absurd heq (scaled_lt_scaled h h' hlt).ne
    · rfl
    · exact absurd heq (scaled_lt_scaled h' h hlt).ne'
  subst he
  refine ⟨?_, rfl⟩
  have hcast : (m : ℚ) = m' := mul_right_cancel₀ (by positivity) heq
  exact_mod_cast hcast

end

/-! ## The place of the last digit -/

/-- The place of the last digit that a quantity keeps: 52 places behind its first one, unless it is so small that
the format ends before. -/
structure IsPlace (q : ℚ) (e : Int) : Prop where
  least : -1074 ≤ e
  lt : q < 2 ^ (e + 53)
  le : e = -1074 ∨ 2 ^ (e + 52) ≤ q

/-- The sides of a comparison with a power of two, as a quotient. -/
theorem scaledPair_quotient (num : Nat) {den : Nat} (hden : 0 < den) (e : Int) :
    0 < (scaledPair num den e).2 ∧
      ((scaledPair num den e).1 / (scaledPair num den e).2 : ℚ) = num / den / 2 ^ e := by
  rw [scaledPair]
  by_cases he : 0 ≤ e
  · obtain ⟨n, rfl⟩ := Int.eq_ofNat_of_zero_le he
    rw [if_pos he, Int.toNat_natCast]
    refine ⟨Nat.mul_pos hden (Nat.two_pow_pos n), ?_⟩
    push_cast
    rw [zpow_natCast, div_div]
  · obtain ⟨n, rfl⟩ : ∃ n : Nat, e = -n := ⟨(-e).toNat, by omega⟩
    rw [if_neg he, neg_neg, Int.toNat_natCast]
    refine ⟨hden, ?_⟩
    push_cast
    rw [zpow_neg, zpow_natCast, div_inv_eq_mul, div_mul_eq_mul_div]

/-- The numbers of binary digits tell the first place of a quotient up to one. -/
theorem two_zpow_log2_lt {num den : Nat} (hnum : num ≠ 0) (hden : 0 < den) :
    (2 : ℚ) ^ ((num.log2 : Int) - den.log2 - 1) ≤ num / den ∧
      (num / den : ℚ) < 2 ^ ((num.log2 : Int) - den.log2 + 1) := by
  have hpos : (0 : ℚ) < den := by exact_mod_cast hden
  have hnumLow : (2 : ℚ) ^ num.log2 ≤ num := by exact_mod_cast Nat.log2_self_le hnum
  have hnumHigh : (num : ℚ) < 2 ^ (num.log2 + 1) := by exact_mod_cast Nat.lt_log2_self (n := num)
  have hdenLow : (2 : ℚ) ^ den.log2 ≤ den := by exact_mod_cast Nat.log2_self_le hden.ne'
  have hdenHigh : (den : ℚ) < 2 ^ (den.log2 + 1) := by exact_mod_cast Nat.lt_log2_self (n := den)
  constructor
  · rw [le_div_iff₀ hpos]
    calc (2 : ℚ) ^ ((num.log2 : Int) - den.log2 - 1) * den
        ≤ 2 ^ ((num.log2 : Int) - den.log2 - 1) * 2 ^ (den.log2 + 1) :=
          mul_le_mul_of_nonneg_left hdenHigh.le (by positivity)
      _ = 2 ^ num.log2 := by
          rw [← zpow_natCast, ← zpow_natCast, ← zpow_add₀ (by norm_num)]
          congr 1
          push_cast
          ring
      _ ≤ num := hnumLow
  · rw [div_lt_iff₀ hpos]
    calc (num : ℚ) < 2 ^ (num.log2 + 1) := hnumHigh
      _ = 2 ^ ((num.log2 : Int) - den.log2 + 1) * 2 ^ den.log2 := by
          rw [← zpow_natCast, ← zpow_natCast, ← zpow_add₀ (by norm_num)]
          congr 1
          push_cast
          ring
      _ ≤ 2 ^ ((num.log2 : Int) - den.log2 + 1) * den :=
          mul_le_mul_of_nonneg_left hdenLow (by positivity)

theorem isPlace_lastPlace {num den : Nat} (hnum : num ≠ 0) (hden : 0 < den) :
    IsPlace (num / den) (lastPlace num den) := by
  obtain ⟨hlow, hhigh⟩ := two_zpow_log2_lt hnum hden
  obtain ⟨e, he⟩ : ∃ e : Int, e = (num.log2 : Int) - den.log2 := ⟨_, rfl⟩
  obtain ⟨hpos, hquotient⟩ := scaledPair_quotient num hden e
  have hcompare : (scaledPair num den e).2 ≤ (scaledPair num den e).1 ↔ (2 : ℚ) ^ e ≤ num / den := by
    have hcast : (0 : ℚ) < (scaledPair num den e).2 := by exact_mod_cast hpos
    have hpow : (0 : ℚ) < 2 ^ e := by positivity
    rw [← one_le_div hpow, ← hquotient, one_le_div hcast]
    exact Nat.cast_le.symm
  rw [← he] at hlow hhigh
  -- the first place is the one that is expected, or the one behind it
  obtain ⟨p, hp, hfirst, hnext⟩ : ∃ p : Int,
      p = (if (scaledPair num den e).2 ≤ (scaledPair num den e).1 then e else e - 1) ∧
        (2 : ℚ) ^ p ≤ num / den ∧ (num / den : ℚ) < 2 ^ (p + 1) := by
    by_cases hle : (scaledPair num den e).2 ≤ (scaledPair num den e).1
    · exact ⟨e, by rw [if_pos hle], hcompare.1 hle, hhigh⟩
    · refine ⟨e - 1, by rw [if_neg hle], hlow, ?_⟩
      rw [sub_add_cancel]
      exact not_le.1 fun h => hle (hcompare.2 h)
  have hplace : lastPlace num den = max (-1074) (p - 52) := by
    rw [hp, he]
    rfl
  rw [hplace]
  rcases le_or_gt (-1074) (p - 52) with hle | hgt
  · rw [max_eq_right hle]
    refine ⟨hle, ?_, .inr ?_⟩
    · rwa [show p - 52 + 53 = p + 1 by ring]
    · rwa [sub_add_cancel]
  · rw [max_eq_left hgt.le]
    exact ⟨le_refl _, hnext.trans_le (two_zpow_le (by omega)), .inl rfl⟩

/-! ## Rounding at the last place -/

/-- A number with a finer last place than a quantity has is below the first digit of the quantity. -/
theorem scaled_lt_of_finer {q : ℚ} {place : Int} (hplace : IsPlace q place) {m : Nat} {e : Int} (fits : Fits m e)
    (h : e < place) : scaled m e < 2 ^ 52 * 2 ^ place ∧ 2 ^ 52 * 2 ^ place ≤ q := by
  have hleast := fits.2.1
  have hdigit : (2 : ℚ) ^ 52 * 2 ^ place = 2 ^ (place + 52) := by
    rw [← zpow_natCast, ← zpow_add₀ (by norm_num), add_comm]
    rfl
  rw [hdigit]
  exact ⟨(scaled_lt fits).trans_le (two_zpow_le (by omega)), hplace.le.resolve_left (by omega)⟩

/-- The numbers from the place of the last digit on are its multiples, and those before are too small: it is enough
to be nearest among the multiples. -/
theorem isNearest_of_isPlace {negative : Bool} {q : ℚ} {place : Int} (hplace : IsPlace q place)
    (hq : q < intBound) {k m : Nat} {e : Int} (fits : Fits m e) (hvalue : scaled m e = k * 2 ^ place)
    (heven : k % 2 = 0 → m % 2 = 0)
    (hnear : ∀ j : ℤ, j ≠ k → |q / 2 ^ place - k| ≤ |q / 2 ^ place - j| ∧
      (|q / 2 ^ place - k| = |q / 2 ^ place - j| → k % 2 = 0)) :
    IsNearest negative q (.finite negative m e fits) := by
  have hpow : (0 : ℚ) < 2 ^ place := by positivity
  have hunits : ∀ x : ℚ, |q - x * 2 ^ place| = |q / 2 ^ place - x| * 2 ^ place := by
    intro x
    rw [← abs_of_pos hpow, ← abs_mul, abs_of_pos hpow, sub_mul, div_mul_cancel₀ _ hpow.ne']
  refine ⟨rfl, hq, fun m' e' hfits => ?_⟩
  rw [hvalue]
  rcases le_or_gt place e' with hle | hgt
  · -- a multiple
    rw [scaled_eq_mul m' hle]
    obtain ⟨j, hj⟩ : ∃ j : Nat, j = m' * 2 ^ (e' - place).toNat := ⟨_, rfl⟩
    rw [← hj]
    by_cases hjk : j = k
    · rw [hjk]
      exact ⟨le_refl _, fun _ => .inl rfl⟩
    · obtain ⟨hless, htie⟩ := hnear j (by exact_mod_cast hjk)
      rw [Int.cast_natCast] at hless htie
      rw [hunits, hunits]
      exact ⟨mul_le_mul_of_nonneg_right hless hpow.le,
        fun h => .inr (heven (htie (mul_right_cancel₀ hpow.ne' h)))⟩
  · -- a finer number is below the first digit of the quantity, which is a multiple
    obtain ⟨hsmall, hbelow⟩ := scaled_lt_of_finer hplace hfits hgt
    have hmultiple : |q - k * 2 ^ place| ≤ |q - 2 ^ 52 * 2 ^ place| := by
      by_cases hk : k = 2 ^ 52
      · rw [hk]
        push_cast
        exact le_refl _
      · have hne : (2 ^ 52 : ℤ) ≠ k := by exact_mod_cast Ne.symm hk
        have hless := (hnear (2 ^ 52) hne).1
        rw [hunits, hunits]
        push_cast at hless
        exact mul_le_mul_of_nonneg_right hless hpow.le
    have hstrict : |q - k * 2 ^ place| < |q - scaled m' e'| := by
      refine hmultiple.trans_lt ?_
      rw [abs_of_nonneg (by linarith), abs_of_nonneg (by linarith)]
      linarith
    exact ⟨hstrict.le, fun h => absurd h hstrict.ne⟩

theorem intBound_eq : (intBound : ℚ) = (2 ^ 53 - 1 / 2) * 2 ^ (971 : ℤ) := by
  have hcast : ∀ n : Nat, intBound * 2 = (2 ^ 54 - 1) * 2 ^ n →
      (intBound : ℚ) = (2 ^ 53 - 1 / 2) * 2 ^ (n : ℤ) := by
    intro n h
    have h : ((intBound * 2 : Nat) : ℚ) = ((2 ^ 54 - 1) * 2 ^ n : Nat) := congrArg _ h
    push_cast at h
    rw [zpow_natCast]
    linarith
  exact hcast 971 (by decide +kernel)

theorem zpow_lt_intBound {e : Int} (h : e ≤ 1023) : (2 : ℚ) ^ e < intBound := by
  have hpow : (0 : ℚ) < 2 ^ (971 : ℤ) := by positivity
  have hsplit : (2 : ℚ) ^ (1023 : ℤ) = 2 ^ 52 * 2 ^ (971 : ℤ) := by
    rw [← zpow_natCast, ← zpow_add₀ (by norm_num)]
    rfl
  refine (two_zpow_le h).trans_lt ?_
  rw [hsplit, intBound_eq]
  exact mul_lt_mul_of_pos_right (by norm_num) hpow

theorem intBound_le_zpow {e : Int} (h : 1024 ≤ e) : (intBound : ℚ) ≤ 2 ^ e := by
  have hpow : (0 : ℚ) < 2 ^ (971 : ℤ) := by positivity
  have hsplit : (2 : ℚ) ^ (1024 : ℤ) = 2 ^ 53 * 2 ^ (971 : ℤ) := by
    rw [← zpow_natCast, ← zpow_add₀ (by norm_num)]
    rfl
  refine le_trans ?_ (two_zpow_le h)
  rw [hsplit, intBound_eq]
  exact mul_le_mul_of_nonneg_right (by norm_num) hpow.le

theorem ofParts_of_fits {negative : Bool} {m : Nat} {e : Int} (fits : Fits m e) :
    ofParts negative m e = .finite negative m e fits := dif_pos fits

theorem ofParts_of_lt {negative : Bool} {m : Nat} {e : Int} (h : 971 < e) :
    ofParts negative m e = .infinite negative := dif_neg fun fits => absurd fits.2.2.1 (by omega)

section

variable {negative : Bool} {q : ℚ} {place : Int} {k : Nat}

/-- A quantity that is rounded up to the next power of two has its first digit one place higher. -/
theorem isNearest_carried (hplace : IsPlace q place) (hk : k = 2 ^ 53)
    (hnear : ∀ j : ℤ, j ≠ k → |q / 2 ^ place - k| ≤ |q / 2 ^ place - j| ∧
      (|q / 2 ^ place - k| = |q / 2 ^ place - j| → k % 2 = 0))
    (hhalf : |q / 2 ^ place - k| ≤ 1 / 2) :
    IsNearest negative q (ofParts negative (2 ^ 52) (place + 1)) := by
  have hpow : (0 : ℚ) < 2 ^ place := by positivity
  have hleast := hplace.least
  rcases le_or_gt place 970 with hle | hgt
  · have fits : Fits (2 ^ 52) (place + 1) := by
      refine ⟨by decide, by omega, by omega, .inl (Nat.le_refl _)⟩
    have hq : q < intBound := hplace.lt.trans (zpow_lt_intBound (by omega))
    have hvalue : scaled (2 ^ 52) (place + 1) = k * 2 ^ place := by
      rw [scaled, zpow_add₀ (by norm_num), hk]
      push_cast
      ring
    rw [ofParts_of_fits fits]
    exact isNearest_of_isPlace hplace hq fits hvalue (fun _ => by decide) hnear
  · have hlow : 2 ^ 53 - 1 / 2 ≤ q / 2 ^ place := by
      have h := (abs_le.1 hhalf).1
      rw [hk] at h
      push_cast at h
      linarith
    rw [ofParts_of_lt (by omega)]
    refine ⟨rfl, ?_⟩
    calc (intBound : ℚ) = (2 ^ 53 - 1 / 2) * 2 ^ (971 : ℤ) := intBound_eq
      _ ≤ (2 ^ 53 - 1 / 2) * 2 ^ place :=
        mul_le_mul_of_nonneg_left (two_zpow_le (by omega)) (by norm_num)
      _ ≤ q / 2 ^ place * 2 ^ place := mul_le_mul_of_nonneg_right hlow hpow.le
      _ = q := div_mul_cancel₀ _ hpow.ne'

/-- A quantity that is rounded to an odd significand below a power of two is less than a half before that. -/
theorem lt_intBound_of_near (hle : place ≤ 971) (hk : k < 2 ^ 53)
    (hnear : ∀ j : ℤ, j ≠ k → |q / 2 ^ place - k| ≤ |q / 2 ^ place - j| ∧
      (|q / 2 ^ place - k| = |q / 2 ^ place - j| → k % 2 = 0))
    (hhalf : |q / 2 ^ place - k| ≤ 1 / 2) : q < intBound := by
  have hpow : (0 : ℚ) < 2 ^ place := by positivity
  have hhigh := (abs_le.1 hhalf).2
  have hcast : (k : ℚ) ≤ 2 ^ 53 - 1 := by
    have hsucc : ((k + 1 : Nat) : ℚ) ≤ (2 ^ 53 : Nat) := by exact_mod_cast hk
    push_cast at hsucc
    linarith
  have hstrict : q / 2 ^ place < 2 ^ 53 - 1 / 2 := by
    refine lt_of_le_of_ne (by linarith) fun heq => ?_
    -- the largest significand is odd, so it loses a tie
    have hlargest : (k : ℚ) = 2 ^ 53 - 1 := by linarith
    have hodd : k = 2 ^ 53 - 1 := by
      have hnat : ((k + 1 : Nat) : ℚ) = (2 ^ 53 : Nat) := by
        push_cast
        linarith
      have := Nat.cast_injective hnat
      omega
    have hne : (2 ^ 53 : ℤ) ≠ k := by omega
    have heven := (hnear (2 ^ 53) hne).2 (by
      push_cast
      rw [heq, hlargest]
      norm_num)
    omega
  calc q = q / 2 ^ place * 2 ^ place := (div_mul_cancel₀ _ hpow.ne').symm
    _ < (2 ^ 53 - 1 / 2) * 2 ^ place := mul_lt_mul_of_pos_right hstrict hpow
    _ ≤ (2 ^ 53 - 1 / 2) * 2 ^ (971 : ℤ) :=
      mul_le_mul_of_nonneg_left (two_zpow_le hle) (by norm_num)
    _ = intBound := intBound_eq.symm

/-- A quantity that keeps its first place has the significand that it is rounded to. -/
theorem isNearest_kept (hplace : IsPlace q place) (hk : k < 2 ^ 53)
    (hnear : ∀ j : ℤ, j ≠ k → |q / 2 ^ place - k| ≤ |q / 2 ^ place - j| ∧
      (|q / 2 ^ place - k| = |q / 2 ^ place - j| → k % 2 = 0))
    (hhalf : |q / 2 ^ place - k| ≤ 1 / 2) : IsNearest negative q (ofParts negative k place) := by
  have hpow : (0 : ℚ) < 2 ^ place := by positivity
  rcases le_or_gt place 971 with hle | hgt
  · have hfirst : 2 ^ 52 ≤ k ∨ place = -1074 := by
      rcases hplace.le with hlast | hfirst
      · exact .inr hlast
      · left
        have hunits : (2 : ℚ) ^ 52 ≤ q / 2 ^ place := by
          rw [le_div_iff₀ hpow, ← zpow_natCast, ← zpow_add₀ (by norm_num), add_comm]
          exact hfirst
        have hlow := (abs_le.1 hhalf).2
        have hcast : ((2 ^ 52 : Nat) : ℚ) < (k + 1 : Nat) := by
          push_cast
          linarith
        have := Nat.cast_lt.1 hcast
        omega
    have fits : Fits k place := ⟨hk, hplace.least, hle, hfirst⟩
    rw [ofParts_of_fits fits]
    exact isNearest_of_isPlace hplace (lt_intBound_of_near hle hk hnear hhalf) fits rfl id hnear
  · rw [ofParts_of_lt hgt]
    exact ⟨rfl, (intBound_le_zpow (by omega)).trans (hplace.le.resolve_left (by omega))⟩

end

theorem isNearest_zero_zero (negative : Bool) : IsNearest negative 0 (zero negative) := by
  have hbound : (0 : ℚ) < intBound := (zpow_pos (by norm_num) 0).trans (zpow_lt_intBound (by decide))
  have hzero : scaled 0 (-1074) = 0 := by rw [scaled, Nat.cast_zero, zero_mul]
  refine ⟨rfl, hbound, fun m' e' _ => ?_⟩
  rw [hzero, sub_zero, abs_zero]
  exact ⟨abs_nonneg _, fun _ => .inr rfl⟩

/-- The number that is found for a quotient is the one that it is rounded to. -/
theorem isNearest_nearest (negative : Bool) (num : Nat) {den : Nat} (hden : 0 < den) :
    IsNearest negative (num / den) (nearest negative num den) := by
  by_cases hnum : num = 0
  · rw [nearest, if_pos hnum, hnum, Nat.cast_zero, zero_div]
    exact isNearest_zero_zero negative
  · have hplace := isPlace_lastPlace hnum hden
    obtain ⟨place, hlast⟩ : ∃ place, place = lastPlace num den := ⟨_, rfl⟩
    rw [← hlast] at hplace
    obtain ⟨hpos, hquotient⟩ := scaledPair_quotient num hden place
    obtain ⟨k, hk⟩ : ∃ k, k = divNearest (scaledPair num den place).1 (scaledPair num den place).2 :=
      ⟨_, rfl⟩
    have hhalf := abs_sub_divNearest_le (scaledPair num den place).1 hpos
    have hnear := fun j => divNearest_nearest (scaledPair num den place).1 hpos (j := j)
    rw [hquotient, ← hk] at hhalf
    rw [hquotient, ← hk] at hnear
    have hnearest : nearest negative num den =
        if k = 2 ^ 53 then ofParts negative (2 ^ 52) (place + 1) else ofParts negative k place := by
      rw [nearest, if_neg hnum, hk, hlast]
    have hle : k ≤ 2 ^ 53 := by
      have hunits : (num / den : ℚ) / 2 ^ place < 2 ^ 53 := by
        rw [div_lt_iff₀ (by positivity), ← zpow_natCast, ← zpow_add₀ (by norm_num), add_comm]
        exact hplace.lt
      have hlow := (abs_le.1 hhalf).1
      have hcast : (k : ℚ) < (2 ^ 53 + 1 : Nat) := by
        push_cast
        linarith
      have := Nat.cast_lt.1 hcast
      omega
    rw [hnearest]
    split
    · rename_i hcarried
      exact isNearest_carried hplace hcarried hnear hhalf
    · exact isNearest_kept hplace (by omega) hnear hhalf

/-! ## What is rounded to a number -/

/-- A number of the format is rounded to itself. -/
theorem isNearest_finite (negative : Bool) {m : Nat} {e : Int} (fits : Fits m e) :
    IsNearest negative (scaled m e) (.finite negative m e fits) := by
  refine ⟨rfl, ?_, fun m' e' _ => ?_⟩
  · have hm : (m : ℚ) ≤ 2 ^ 53 - 1 := by
      have hsucc : ((m + 1 : Nat) : ℚ) ≤ (2 ^ 53 : Nat) := by exact_mod_cast fits.1
      push_cast at hsucc
      linarith
    calc scaled m e ≤ (2 ^ 53 - 1) * 2 ^ e := mul_le_mul_of_nonneg_right hm (by positivity)
      _ ≤ (2 ^ 53 - 1) * 2 ^ (971 : ℤ) := mul_le_mul_of_nonneg_left (two_zpow_le fits.2.2.1) (by norm_num)
      _ < (2 ^ 53 - 1 / 2) * 2 ^ (971 : ℤ) := mul_lt_mul_of_pos_right (by norm_num) (by positivity)
      _ = intBound := intBound_eq.symm
  · rw [sub_self, abs_zero]
    refine ⟨abs_nonneg _, fun h => .inl ?_⟩
    exact (sub_eq_zero.1 (abs_eq_zero.1 h.symm)).symm

/-- What is at most half of the smallest positive number is rounded to zero. -/
theorem isNearest_zero (negative : Bool) {q : ℚ} (hnonneg : 0 ≤ q) (hle : q ≤ 2 ^ (-1075 : ℤ)) :
    IsNearest negative q (zero negative) := by
  have hzero : scaled 0 (-1074) = 0 := by rw [scaled, Nat.cast_zero, zero_mul]
  refine ⟨rfl, hle.trans_lt (zpow_lt_intBound (by decide)), fun m' e' hfits => ?_⟩
  rw [hzero, sub_zero, abs_of_nonneg hnonneg]
  refine ⟨?_, fun _ => .inr rfl⟩
  by_cases hm : m' = 0
  · rw [hm, scaled, Nat.cast_zero, zero_mul, sub_zero]
    exact le_abs_self q
  · have hone : (1 : ℚ) ≤ m' := by exact_mod_cast Nat.one_le_iff_ne_zero.2 hm
    have hsmallest : 2 * (2 : ℚ) ^ (-1075 : ℤ) ≤ scaled m' e' := by
      calc 2 * (2 : ℚ) ^ (-1075 : ℤ) = 2 ^ (-1074 : ℤ) := by
            rw [← zpow_one_add₀ (by norm_num)]
            rfl
        _ ≤ 2 ^ e' := two_zpow_le hfits.2.1
        _ ≤ m' * 2 ^ e' := le_mul_of_one_le_left (by positivity) hone
    rw [abs_sub_comm]
    exact le_trans (by linarith) (le_abs_self _)

/-- Between two numbers with even significands lies another one. -/
theorem exists_between {m m' : Nat} {e e' : Int} (h : Fits m e) (h' : Fits m' e')
    (hlt : scaled m e < scaled m' e') (heven : m % 2 = 0) (heven' : m' % 2 = 0) :
    ∃ n, Fits n e ∧ scaled m e < scaled n e ∧ scaled n e < scaled m' e' := by
  have hpow : (0 : ℚ) < 2 ^ e := by positivity
  have hle : e ≤ e' := by
    by_contra hgt
    exact absurd hlt (scaled_lt_scaled h' h (by omega)).not_gt
  obtain ⟨hm, hlow, hhigh, hfirst⟩ := h
  have hmultiple := scaled_eq_mul m' hle
  obtain ⟨j, hj⟩ : ∃ j, j = m' * 2 ^ (e' - e).toNat := ⟨_, rfl⟩
  rw [← hj] at hmultiple
  have hmj : m < j := by
    rw [hmultiple, scaled] at hlt
    exact_mod_cast lt_of_mul_lt_mul_right hlt hpow.le
  have heven : j % 2 = 0 := by
    rw [hj, Nat.mul_mod, heven', Nat.zero_mul, Nat.zero_mod]
  refine ⟨m + 1, ⟨by omega, hlow, hhigh, hfirst.imp_left (by omega)⟩, ?_, ?_⟩
  · exact mul_lt_mul_of_pos_right (by exact_mod_cast Nat.lt_succ_self m) hpow
  · rw [hmultiple, scaled]
    exact mul_lt_mul_of_pos_right (by exact_mod_cast (by omega : m + 1 < j)) hpow

/-- What lies between two numbers that are equally far away is nearer. -/
theorem abs_sub_lt_of_between {q a b c : ℚ} (hab : a < b) (hbc : b < c) (htie : |q - a| = |q - c|) :
    |q - b| < |q - a| := by
  rcases abs_eq_abs.1 htie with h | h
  · exact absurd (sub_right_injective h) (hab.trans hbc).ne
  · have ha : 0 < q - a := by linarith
    rw [abs_of_pos ha, abs_lt]
    constructor
    · linarith
    · linarith

/-- A quantity is rounded to one number. -/
theorem IsNearest.unique {negative : Bool} {q : ℚ} {x y : Binary64} (hx : IsNearest negative q x)
    (hy : IsNearest negative q y) : x = y := by
  cases x with
  | nan => exact hx.elim
  | infinite n =>
    obtain ⟨rfl, hle⟩ := hx
    cases y with
    | nan => exact hy.elim
    | infinite n' => rw [hy.1]
    | finite n' m' e' fits' => exact absurd hy.2.1 hle.not_gt
  | finite n m e fits =>
    obtain ⟨rfl, hlt, hx⟩ := hx
    cases y with
    | nan => exact hy.elim
    | infinite n' => exact absurd hlt hy.2.not_gt
    | finite n' m' e' fits' =>
      obtain ⟨rfl, -, hy⟩ := hy
      have htie : |q - scaled m e| = |q - scaled m' e'| := le_antisymm (hx m' e' fits').1 (hy m e fits).1
      by_cases hsame : scaled m e = scaled m' e'
      · obtain ⟨rfl, rfl⟩ := eq_of_scaled_eq fits fits' hsame
        rfl
      · have heven := ((hx m' e' fits').2 htie).resolve_left (Ne.symm hsame)
        have heven' := ((hy m e fits).2 htie.symm).resolve_left hsame
        rcases lt_or_gt_of_ne hsame with hless | hmore
        · obtain ⟨k, hfits, hlow, hhigh⟩ := exists_between fits fits' hless heven heven'
          exact absurd (hx k e hfits).1 (abs_sub_lt_of_between hlow hhigh htie).not_ge
        · obtain ⟨k, hfits, hlow, hhigh⟩ := exists_between fits' fits hmore heven' heven
          exact absurd (hy k e' hfits).1 (abs_sub_lt_of_between hlow hhigh htie.symm).not_ge

end RuleLabels.Binary64

namespace RuleLabels.Decimal

open Binary64

/-! ## Decimal numbers -/

theorem value_zero {d : Decimal} (h : d.coefficient = 0) : d.value = 0 := by
  rw [value, h, Nat.cast_zero, zero_mul]

theorem value_nonneg (d : Decimal) : 0 ≤ d.value := by
  rw [value]
  positivity

/-- A decimal number with a large exponent is beyond the bound. -/
theorem intBound_le_value {d : Decimal} (hcoefficient : d.coefficient ≠ 0) (h : 400 < d.exponent) :
    (intBound : ℚ) ≤ d.value := by
  have hone : (1 : ℚ) ≤ d.coefficient := by exact_mod_cast Nat.one_le_iff_ne_zero.2 hcoefficient
  calc (intBound : ℚ) ≤ 2 ^ (1203 : ℤ) := intBound_le_zpow (by decide)
    _ = (2 ^ (3 : ℤ)) ^ (401 : ℤ) := by
      rw [← zpow_mul]
      rfl
    _ ≤ 10 ^ (401 : ℤ) := zpow_le_zpow_left₀ (by decide) (by norm_num) (by norm_num)
    _ ≤ 10 ^ d.exponent := zpow_le_zpow_right₀ (by norm_num) (by omega)
    _ ≤ d.value := le_mul_of_one_le_left (by positivity) hone

/-- A decimal number with an exponent that outweighs its coefficient is very small. -/
theorem value_le_of_lt {d : Decimal} (h : d.exponent + d.coefficient.log2 < -400) :
    d.value ≤ 2 ^ (-1075 : ℤ) := by
  have hcoefficient : (d.coefficient : ℚ) ≤ 2 * 10 ^ d.coefficient.log2 := by
    have hlog : (d.coefficient : ℚ) ≤ 2 ^ (d.coefficient.log2 + 1) := by
      exact_mod_cast (Nat.lt_log2_self (n := d.coefficient)).le
    rw [pow_succ'] at hlog
    exact hlog.trans (mul_le_mul_of_nonneg_left (pow_le_pow_left₀ (by norm_num) (by norm_num) _) (by norm_num))
  calc d.value ≤ 2 * 10 ^ d.coefficient.log2 * 10 ^ d.exponent :=
        mul_le_mul_of_nonneg_right hcoefficient (by positivity)
    _ = 2 * 10 ^ (d.exponent + d.coefficient.log2) := by
      rw [mul_assoc, ← zpow_natCast, ← zpow_add₀ (by norm_num), add_comm]
    _ ≤ 2 * 10 ^ (-401 : ℤ) :=
      mul_le_mul_of_nonneg_left (zpow_le_zpow_right₀ (by norm_num) (by omega)) (by norm_num)
    _ ≤ 2 * (2 ^ (3 : ℤ)) ^ (-401 : ℤ) := by
      have hpow : ((2 : ℚ) ^ (3 : ℤ)) ^ (401 : ℤ) ≤ 10 ^ (401 : ℤ) :=
        zpow_le_zpow_left₀ (by decide) (by norm_num) (by norm_num)
      rw [zpow_neg, zpow_neg]
      exact mul_le_mul_of_nonneg_left (inv_anti₀ (by positivity) hpow) (by norm_num)
    _ = 2 ^ (-1202 : ℤ) := by
      rw [← zpow_mul, ← zpow_one_add₀ (by norm_num)]
      rfl
    _ ≤ 2 ^ (-1075 : ℤ) := two_zpow_le (by decide)

/-- A decimal number is read as the number that it is rounded to. -/
theorem isNearest_toBinary64 (negative : Bool) (d : Decimal) :
    IsNearest negative d.value (d.toBinary64 negative) := by
  rw [toBinary64]
  by_cases hzero : d.coefficient = 0
  · rw [if_pos hzero, value_zero hzero]
    exact isNearest_zero_zero negative
  · rw [if_neg hzero]
    by_cases hlarge : 400 < d.exponent
    · rw [if_pos hlarge]
      exact ⟨rfl, intBound_le_value hzero hlarge⟩
    · rw [if_neg hlarge]
      by_cases hsmall : d.exponent + d.coefficient.log2 < -400
      · rw [if_pos hsmall]
        exact isNearest_zero negative d.value_nonneg (value_le_of_lt hsmall)
      · rw [if_neg hsmall]
        by_cases hsign : 0 ≤ d.exponent
        · have hvalue : d.value = (d.coefficient * 10 ^ d.exponent.toNat : Nat) / (1 : Nat) := by
            rw [value, Nat.cast_one, div_one]
            nth_rewrite 1 [← Int.toNat_of_nonneg hsign]
            push_cast
            rw [zpow_natCast]
          rw [if_pos hsign, hvalue]
          exact isNearest_nearest negative _ Nat.one_pos
        · have hvalue : d.value = d.coefficient / (10 ^ (-d.exponent).toNat : Nat) := by
            have hexponent : d.exponent = -((-d.exponent).toNat : Int) := by omega
            rw [value]
            nth_rewrite 1 [hexponent]
            push_cast
            rw [zpow_neg, zpow_natCast, div_eq_mul_inv]
          rw [if_neg hsign, hvalue]
          exact isNearest_nearest negative _ (Nat.pow_pos (by decide))

/-- Decimal numbers of one value are read alike. -/
theorem toBinary64_congr {d d' : Decimal} (h : d.value = d'.value) (negative : Bool) :
    d.toBinary64 negative = d'.toBinary64 negative := by
  have hd := isNearest_toBinary64 negative d
  rw [h] at hd
  exact hd.unique (isNearest_toBinary64 negative d')

end RuleLabels.Decimal
