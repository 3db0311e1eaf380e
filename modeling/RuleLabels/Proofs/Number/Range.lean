import Mathlib.Tactic.Common
import RuleLabels.Number.Binary64

/-!
# The range of floating-point numbers

An integer has a nearest floating-point number unless that number is infinite, and the integers without one
are those from `intBound` on: halfway between the largest number of the format and the power of two above it,
where the tie goes up because the largest number has an odd significand.

* `divNearest_eq_succ_iff` says when a quotient below an odd number and one is rounded up to it;
* `lastPlace_one` and `mantissa_bounds` give the parts of the number nearest to an integer;
* `ofInt?_eq_none_iff` concludes.
-/

namespace RuleLabels.Binary64

/-- The smallest number that is rounded to infinity. -/
def intBound : Nat := 2 ^ 1024 - 2 ^ 970

/-! ## Rounding a quotient -/

/-- A quotient is rounded to its integral part or to the number after it. -/
theorem divNearest_eq_or (num den : Nat) :
    divNearest num den = num / den ∨ divNearest num den = num / den + 1 := by
  simp only [divNearest]
  split
  · exact .inl rfl
  · split
    · exact .inr rfl
    · split
      · exact .inl rfl
      · exact .inr rfl

/-- A quotient with an odd integral part is rounded up from the half on. -/
theorem divNearest_of_odd {num den : Nat} (hodd : num / den % 2 = 1) :
    divNearest num den = if 2 * (num % den) < den then num / den else num / den + 1 := by
  simp only [divNearest]
  split
  · rfl
  · split
    · rfl
    · rw [if_neg (by omega)]

/-- What is below an odd number and one is rounded up to it from the half before it on. -/
theorem divNearest_eq_succ_iff {num den b : Nat} (hden : 0 < den) (hodd : b % 2 = 1)
    (hlt : num < den * (b + 1)) :
    divNearest num den = b + 1 ↔ den * (2 * b + 1) ≤ 2 * num := by
  have hnum : den * (num / den) + num % den = num := Nat.div_add_mod num den
  have hmod : num % den < den := Nat.mod_lt num hden
  have hb : num / den < b + 1 := (Nat.div_lt_iff_lt_mul hden).2 (by rwa [Nat.mul_comm])
  have hexpand : den * (2 * b + 1) = 2 * (den * b) + den := by
    rw [Nat.mul_add, Nat.mul_one, Nat.mul_left_comm]
  rw [hexpand]
  by_cases hq : num / den = b
  · rw [hq] at hnum
    rw [divNearest_of_odd (by rw [hq]; exact hodd), hq]
    split
    · omega
    · omega
  · -- the integral part is smaller, and so is what it is rounded to
    have hle : den * (num / den + 1) ≤ den * b := Nat.mul_le_mul_left den (by omega)
    rw [Nat.mul_add, Nat.mul_one] at hle
    have hne : divNearest num den ≠ b + 1 := by
      rcases divNearest_eq_or num den with h | h
      · omega
      · omega
    constructor
    · intro h
      exact absurd h hne
    · intro h
      omega

/-! ## The parts of the nearest number -/

/-- The last place of an integer is 52 places behind its first digit. -/
theorem lastPlace_one {n : Nat} (hn : n ≠ 0) : lastPlace n 1 = (n.log2 : Int) - 52 := by
  have hle : 2 ^ n.log2 ≤ n := Nat.log2_self_le hn
  have hlog : Nat.log2 1 = 0 := by decide
  have hpair : scaledPair n 1 ((n.log2 : Int) - (0 : Nat)) = (n, 2 ^ n.log2) := by
    rw [scaledPair, if_pos (by omega)]
    simp
  simp only [lastPlace, hlog, hpair, if_pos hle]
  omega

/-- A number with parts that are too large is infinite, and no other is. -/
theorem ofParts_eq_infinite_iff {negative : Bool} {mantissa : Nat} {exponent : Int}
    (h53 : mantissa < 2 ^ 53) (h52 : 2 ^ 52 ≤ mantissa) (hexp : -1074 ≤ exponent) :
    (∃ b, ofParts negative mantissa exponent = .infinite b) ↔ 971 < exponent := by
  rw [ofParts]
  split
  · rename_i hfits
    have := hfits.2.2.1
    constructor
    · rintro ⟨_, h⟩
      exact nomatch h
    · intro h
      omega
  · rename_i hfits
    refine ⟨fun _ => ?_, fun _ => ⟨_, rfl⟩⟩
    by_contra hle
    exact hfits ⟨h53, hexp, by omega, .inl h52⟩

/-- An integer with its first digit at place `k` beyond the 52nd: its significand before the last rounding
step has 53 digits, and is the power of two above them only if it was rounded up to it. -/
theorem nearest_of_log2 {negative : Bool} {n k : Nat} (hn : n ≠ 0) (hk : n.log2 = k + 52) :
    (∃ b, nearest negative n 1 = .infinite b) ↔
      971 < k ∨ k = 971 ∧ divNearest n (2 ^ k) = 2 ^ 53 := by
  have hlow : 2 ^ 52 * 2 ^ k ≤ n := by
    rw [← Nat.pow_add, Nat.add_comm, ← hk]
    exact Nat.log2_self_le hn
  have hhigh : n < 2 ^ k * 2 ^ 53 := by
    rw [← Nat.pow_add, show k + 53 = n.log2 + 1 by omega]
    exact Nat.lt_log2_self
  have hplace : lastPlace n 1 = (k : Int) := by
    rw [lastPlace_one hn, hk]
    omega
  have hpos : 0 < 2 ^ k := Nat.two_pow_pos k
  have hq52 : 2 ^ 52 ≤ n / 2 ^ k := (Nat.le_div_iff_mul_le hpos).2 hlow
  have hq53 : n / 2 ^ k < 2 ^ 53 := (Nat.div_lt_iff_lt_mul hpos).2 (by rwa [Nat.mul_comm])
  simp only [nearest, if_neg hn, hplace, scaledPair, Int.natCast_nonneg, if_true, Nat.one_mul,
    Int.toNat_natCast]
  split
  · rename_i hm
    rw [ofParts_eq_infinite_iff (by decide) (by decide) (by omega)]
    omega
  · rename_i hm
    rw [ofParts_eq_infinite_iff ?_ ?_ (by omega)]
    · omega
    · rcases divNearest_eq_or n (2 ^ k) with h | h
      · omega
      · omega
    · rcases divNearest_eq_or n (2 ^ k) with h | h
      · omega
      · omega

/-- An integer of at most 52 binary digits is a number of the format. -/
theorem nearest_of_lt {negative : Bool} {n : Nat} (hn : n ≠ 0) (hlt : n.log2 < 52) (b : Bool) :
    nearest negative n 1 ≠ .infinite b := by
  obtain ⟨k, hk⟩ : ∃ k, n.log2 + k = 52 := ⟨52 - n.log2, by omega⟩
  have hplace : lastPlace n 1 = -(k : Int) := by
    rw [lastPlace_one hn]
    omega
  have hkpos : ¬ (0 : Int) ≤ -(k : Int) := by omega
  have hlow : 2 ^ 52 ≤ n * 2 ^ k := by
    rw [← hk, Nat.pow_add]
    exact Nat.mul_le_mul_right _ (Nat.log2_self_le hn)
  have hhigh : n * 2 ^ k < 2 ^ 53 := by
    rw [show (53 : Nat) = n.log2 + 1 + k by omega, Nat.pow_add]
    exact Nat.mul_lt_mul_of_pos_right Nat.lt_log2_self (Nat.two_pow_pos k)
  have hone : divNearest (n * 2 ^ k) 1 = n * 2 ^ k := by
    simp [divNearest, Nat.mod_one]
  simp only [nearest, if_neg hn, hplace, scaledPair, if_neg hkpos, Int.neg_neg, Int.toNat_natCast, hone]
  rw [if_neg (by omega)]
  intro h
  have := (ofParts_eq_infinite_iff hhigh hlow (by omega)).1 ⟨b, h⟩
  omega

/-! ## Integers -/

/-- The integers without a nearest floating-point number are those from the bound on. -/
theorem ofInt?_eq_none_iff {i : Int} : ofInt? i = none ↔ intBound ≤ i.natAbs := by
  have hinfinite : ofInt? i = none ↔ ∃ b, nearest (i < 0) i.natAbs 1 = .infinite b := by
    rw [ofInt?]
    split
    · rename_i b h
      exact ⟨fun _ => ⟨b, h⟩, fun _ => rfl⟩
    · rename_i h
      exact ⟨fun he => (nomatch he), fun ⟨b, he⟩ => absurd he (h b)⟩
  rw [hinfinite]
  generalize i.natAbs = n
  have hbelow : n.log2 < 1023 → n ≠ 0 → n < intBound := fun hlog hn => by
    have hlt : n < 2 ^ 1023 := (Nat.log2_lt (k := 1023) hn).1 hlog
    have hle : 2 ^ 1023 ≤ intBound := by decide +kernel
    exact Nat.lt_of_lt_of_le hlt hle
  by_cases hn : n = 0
  · subst hn
    have hzero : nearest (i < 0) 0 1 = zero (i < 0) := if_pos rfl
    rw [hzero]
    refine ⟨fun ⟨_, h⟩ => (nomatch h), fun h => ?_⟩
    exact absurd h (by decide +kernel)
  by_cases hlog : n.log2 < 52
  · have hlt := hbelow (by omega) hn
    refine ⟨fun ⟨b, h⟩ => absurd h (nearest_of_lt hn hlog b), fun h => ?_⟩
    exact absurd h (Nat.not_le.2 hlt)
  obtain ⟨k, hk⟩ : ∃ k, n.log2 = k + 52 := ⟨n.log2 - 52, by omega⟩
  rw [nearest_of_log2 hn hk]
  rcases Nat.lt_trichotomy k 971 with h | rfl | h
  · have hlt := hbelow (by omega) hn
    refine ⟨fun he => by omega, fun he => ?_⟩
    exact absurd he (Nat.not_le.2 hlt)
  · -- the last place is that of the largest number, so the rounding decides
    obtain ⟨den, hden⟩ : ∃ den, den = 2 ^ 971 := ⟨_, rfl⟩
    have hpos : 0 < den := hden ▸ Nat.two_pow_pos 971
    have hlt : n < den * (2 ^ 53 - 1 + 1) := by
      have hlt : n < 2 ^ 1024 := (Nat.log2_lt (k := 1024) hn).1 (by omega)
      have hsplit : 2 ^ 1024 = den * (2 ^ 53 - 1 + 1) := by rw [hden]; decide +kernel
      rwa [hsplit] at hlt
    have hround := divNearest_eq_succ_iff hpos (by decide) hlt
    have hhalf : den * (2 * (2 ^ 53 - 1) + 1) = 2 * intBound := by rw [hden]; decide +kernel
    have htop : 2 ^ 53 - 1 + 1 = 2 ^ 53 := rfl
    rw [hhalf, htop] at hround
    rw [← hden]
    constructor
    · rintro (h | ⟨-, h⟩)
      · omega
      · have := hround.1 h
        omega
    · intro h
      exact .inr ⟨rfl, hround.2 (by omega)⟩
  · have hle : 2 ^ 1024 ≤ n := (Nat.le_log2 (k := 1024) hn).1 (by omega)
    have hbound : intBound ≤ 2 ^ 1024 := by decide +kernel
    exact ⟨fun _ => Nat.le_trans hbound hle, fun _ => .inl h⟩

end RuleLabels.Binary64
