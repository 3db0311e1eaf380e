import RuleLabels.Number.Decimal

/-!
# Shortest decimal text

A floating-point number is printed with the fewest digits that read back as the same number, and of
these with the digits nearest to it. Numbers of ordinary size are printed positionally, others with an
exponent.
-/

namespace RuleLabels.Binary64

/-! ## Digits -/

/-- The value of a finite number as a quotient of natural numbers, without the sign. -/
def magnitude (mantissa : Nat) (exponent : Int) : Nat × Nat :=
  if 0 ≤ exponent then (mantissa * 2 ^ exponent.toNat, 1) else (mantissa, 2 ^ (-exponent).toNat)

/-- The sides of the comparison between `num / den` and `10 ^ p`, both as natural numbers. -/
def tenthsPair (num den : Nat) (p : Int) : Nat × Nat :=
  if 0 ≤ p then (num, den * 10 ^ p.toNat) else (num * 10 ^ (-p).toNat, den)

/-- The power of ten of the first digit of a positive quotient: the largest `p` with
`10 ^ p ≤ num / den`, looked for around the estimate that the power of two gives. -/
def leadingPower (num den : Nat) : Int :=
  let estimate := Int.fdiv (((num.log2 : Int) - den.log2) * 30103) 100000
  let fits (p : Int) : Bool := let (n, d) := tenthsPair num den p; d ≤ n
  if fits (estimate + 1) then estimate + 1
  else if fits estimate then estimate
  else if fits (estimate - 1) then estimate - 1
  else estimate - 2

/-- The decimal numbers with the last digit at `10 ^ k` next to `num / den`, the nearer first; a tie
puts the even one first. -/
def gridNeighbours (num den : Nat) (k : Int) : Decimal × Decimal :=
  let (n, d) := tenthsPair num den k
  let q := n / d
  let r := n % d
  if 2 * r < d ∨ (2 * r = d ∧ q % 2 = 0) then (⟨q, k⟩, ⟨q + 1, k⟩) else (⟨q + 1, k⟩, ⟨q, k⟩)

/-- The first decimal number with a last digit at `10 ^ k`, `10 ^ (k - 1)`, … that reads back as `x`. -/
def searchGrids (x : Binary64) (num den : Nat) : Nat → Int → Option Decimal
  | 0, _ => none
  | tries + 1, k =>
    let (near, far) := gridNeighbours num den k
    if near.toBinary64 x.isNegative = x then some near
    else if far.toBinary64 x.isNegative = x then some far
    else searchGrids x num den tries (k - 1)

/-- The exact decimal value of `mantissa · 2 ^ exponent`. -/
def exactDecimal (mantissa : Nat) (exponent : Int) : Decimal :=
  if 0 ≤ exponent then ⟨mantissa * 2 ^ exponent.toNat, 0⟩
  else ⟨mantissa * 5 ^ (-exponent).toNat, exponent⟩

/-- The decimal number with the fewest digits that reads back as the finite number `x` with the given
parts. Seventeen digits always suffice. -/
def shortestDecimal (x : Binary64) (mantissa : Nat) (exponent : Int) : Decimal :=
  if mantissa = 0 then ⟨0, 0⟩
  else
    let (num, den) := magnitude mantissa exponent
    (searchGrids x num den 17 (leadingPower num den)).getD (exactDecimal mantissa exponent)

/-! ## Text -/

/-- Digits without the zeros at the end, and the count of those zeros. -/
def dropTrailingZeros (ds : List Char) : List Char × Nat :=
  let kept := (ds.reverse.dropWhile (· = '0')).reverse
  (kept, ds.length - kept.length)

/-- The text of digits `ds` whose first has the weight `10 ^ point`. -/
def layout (ds : List Char) (point : Int) : List Char :=
  if 16 ≤ point ∨ point < -4 then
    let head := match ds with
      | [] => []
      | [d] => [d]
      | d :: rest => d :: '.' :: rest
    head ++ 'e' :: (if point < 0 then '-' else '+') :: Text.padded 10 2 point.natAbs
  else if point < 0 then
    '0' :: '.' :: List.replicate (point.natAbs - 1) '0' ++ ds
  else
    let n := point.toNat + 1
    if ds.length ≤ n then ds ++ List.replicate (n - ds.length) '0' ++ ['.', '0']
    else ds.take n ++ '.' :: ds.drop n

/-- The text of a decimal number that is not zero. -/
def decimalText (d : Decimal) : List Char :=
  let all := Text.decimalDigits d.coefficient
  let (ds, zeros) := dropTrailingZeros all
  layout ds (d.exponent + zeros + ds.length - 1)

/-- The shortest text that reads back as the number. -/
def text : Binary64 → String
  | .nan => "nan"
  | .infinite negative => if negative then "-inf" else "inf"
  | x@(.finite negative m e _) =>
    let body := if m = 0 then ['0', '.', '0'] else decimalText (shortestDecimal x m e)
    String.ofList (if negative then '-' :: body else body)

end RuleLabels.Binary64
