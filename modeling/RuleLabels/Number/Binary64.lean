import RuleLabels.Number.Power

/-!
# Binary floating-point numbers

The numbers of the 64-bit binary format, as exact values: a sign, a significand below `2 ^ 53` and a
power of two. Every quotient of natural numbers has one nearest number, where a tie goes to the even
significand and a result beyond the largest number is infinite. Order and integrality are decided on
the exact values, so no rounding hides in them.
-/

namespace RuleLabels

/-- A significand and an exponent in the one form that each number of the format has. -/
def Binary64.Fits (mantissa : Nat) (exponent : Int) : Prop :=
  mantissa < 2 ^ 53 ∧ -1074 ≤ exponent ∧ exponent ≤ 971 ∧ (2 ^ 52 ≤ mantissa ∨ exponent = -1074)

instance (mantissa : Nat) (exponent : Int) : Decidable (Binary64.Fits mantissa exponent) := by
  unfold Binary64.Fits; infer_instance

/-- A number of the 64-bit binary format; a finite one is `± mantissa · 2 ^ exponent`. -/
inductive Binary64 where
  | nan
  | infinite (negative : Bool)
  | finite (negative : Bool) (mantissa : Nat) (exponent : Int)
      (fits : Binary64.Fits mantissa exponent)
  deriving DecidableEq

namespace Binary64

/-! ## Rounding -/

/-- The zero of a sign. -/
def zero (negative : Bool) : Binary64 :=
  .finite negative 0 (-1074) (by refine ⟨?_, ?_, ?_, Or.inr rfl⟩ <;> decide)

instance : Inhabited Binary64 := ⟨zero false⟩

/-- The number with the given parts, infinite where the exponent is too large for the format. -/
def ofParts (negative : Bool) (mantissa : Nat) (exponent : Int) : Binary64 :=
  if fits : Fits mantissa exponent then .finite negative mantissa exponent fits
  else .infinite negative

/-- A quotient rounded to the nearest integer, a half to the even one. -/
def divNearest (num den : Nat) : Nat :=
  let q := num / den
  let r := num % den
  if 2 * r < den then q else if den < 2 * r then q + 1 else if q % 2 = 0 then q else q + 1

/-- The two sides of the comparison between `num` and `den · 2 ^ e`, both as natural numbers. -/
def scaledPair (num den : Nat) (e : Int) : Nat × Nat :=
  if 0 ≤ e then (num, den * 2 ^ e.toNat) else (num * 2 ^ (-e).toNat, den)

/-- The power of two that is the unit in the last place of `num / den`. -/
def lastPlace (num den : Nat) : Int :=
  let e : Int := (num.log2 : Int) - den.log2
  let (n, d) := scaledPair num den e
  max (-1074) ((if d ≤ n then e else e - 1) - 52)

/-- The number nearest to `num / den`, a tie going to the even significand. -/
def nearest (negative : Bool) (num den : Nat) : Binary64 :=
  if num = 0 then zero negative
  else
    let e := lastPlace num den
    let (n, d) := scaledPair num den e
    let m := divNearest n d
    if m = 2 ^ 53 then ofParts negative (2 ^ 52) (e + 1) else ofParts negative m e

/-- The number nearest to an integer, unless that is infinite. -/
def ofInt? (i : Int) : Option Binary64 :=
  match nearest (i < 0) i.natAbs 1 with
  | .infinite _ => none
  | x => some x

/-! ## Exact values -/

/-- A finite number in units of `2 ^ -1074`, the smallest positive number. -/
def units? : Binary64 → Option Int
  | .finite negative m e _ =>
    let n : Int := m * 2 ^ (e + 1074).toNat
    some (if negative then -n else n)
  | _ => none

/-- The integer that a number is, if it is one. -/
def toInt? (x : Binary64) : Option Int :=
  match x.units? with
  | some n => if n % 2 ^ 1074 = 0 then some (n / 2 ^ 1074) else none
  | none => none

/-- The sign bit; that of the undefined value is taken as clear. -/
def isNegative : Binary64 → Bool
  | .nan => false
  | .infinite negative => negative
  | .finite negative _ _ _ => negative

/-! ## Order -/

/-- The order of numbers by value; nothing compares with the undefined value, and the zeros are equal. -/
def compare? : Binary64 → Binary64 → Option Ordering
  | .nan, _ => none
  | _, .nan => none
  | .infinite a, .infinite b => some (compare b.toNat a.toNat)
  | .infinite a, .finite .. => some (if a then .lt else .gt)
  | .finite .., .infinite b => some (if b then .gt else .lt)
  | x@(.finite ..), y@(.finite ..) => some (compare (x.units?.getD 0) (y.units?.getD 0))

/-! ## Arithmetic -/

/-- The number nearest to `n · 2 ^ -1074 / d`; a zero takes the given sign. -/
def ofUnits (zeroNegative : Bool) (n : Int) (d : Nat) : Binary64 :=
  if n = 0 then zero zeroNegative else nearest (n < 0) n.natAbs (2 ^ 1074 * d)

/-- The sum, rounded to nearest. -/
def add (x y : Binary64) : Binary64 :=
  match x, y with
  | .nan, _ => .nan
  | _, .nan => .nan
  | .infinite a, .infinite b => if a = b then .infinite a else .nan
  | .infinite a, _ => .infinite a
  | _, .infinite b => .infinite b
  | x, y => ofUnits (x.isNegative && y.isNegative) (x.units?.getD 0 + y.units?.getD 0) 1

/-- The product, rounded to nearest. -/
def mul (x y : Binary64) : Binary64 :=
  let negative := x.isNegative != y.isNegative
  match x, y with
  | .nan, _ => .nan
  | _, .nan => .nan
  | .infinite _, y => if y.units? = some 0 then .nan else .infinite negative
  | x, .infinite _ => if x.units? = some 0 then .nan else .infinite negative
  | x, y => ofUnits negative (x.units?.getD 0 * y.units?.getD 0) (2 ^ 1074)

end Binary64

end RuleLabels
