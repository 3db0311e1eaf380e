import RuleLabels.Number.Binary64
import RuleLabels.Text.Digit

/-!
# Decimal numbers

A decimal number is a coefficient times a power of ten, and has one nearest floating-point number. The
module also holds the decimal literals that stand at the front of a text.
-/

namespace RuleLabels

/-- The number `coefficient · 10 ^ exponent`. -/
structure Decimal where
  coefficient : Nat
  exponent : Int
  deriving DecidableEq

namespace Decimal

/-- The floating-point number nearest to a decimal number. An exponent beyond 400 makes any number
infinite, and one that outweighs the length of the coefficient by 400 makes it zero, so that no power
of ten has to be larger than the answer needs. -/
def toBinary64 (negative : Bool) (d : Decimal) : Binary64 :=
  if d.coefficient = 0 then .zero negative
  else if 400 < d.exponent then .infinite negative
  else if d.exponent + d.coefficient.log2 < -400 then .zero negative
  else if 0 ≤ d.exponent then .nearest negative (d.coefficient * 10 ^ d.exponent.toNat) 1
  else .nearest negative d.coefficient (10 ^ (-d.exponent).toNat)

/-- The decimal number with the given digits before and behind the point, times a power of ten. -/
def ofDigits (whole fraction : List Nat) (exponent : Int) : Decimal where
  coefficient := Text.ofDigits 10 (whole ++ fraction)
  exponent := exponent - fraction.length

end Decimal

/-! ## Literals at the front of a text -/

/-- A number as it is written: a sign, and either infinity or digits. -/
inductive NumberLiteral where
  | infinity (negative : Bool)
  | decimal (negative : Bool) (whole fraction : List Nat) (exponent : Int)
  deriving DecidableEq

/-- The floating-point number nearest to a literal. -/
def NumberLiteral.toBinary64 : NumberLiteral → Binary64
  | .infinity negative => .infinite negative
  | .decimal negative whole fraction exponent =>
    (Decimal.ofDigits whole fraction exponent).toBinary64 negative

namespace NumberLiteral

/-- The digits at the front of a text, and the rest. -/
def digits (s : List Char) : List Nat × List Char :=
  ((s.takeWhile Text.isAsciiDigit).map fun c => c.toNat - '0'.toNat, s.dropWhile Text.isAsciiDigit)

/-- The sign at the front of a text, and the rest. -/
def sign : List Char → Bool × List Char
  | '-' :: s => (true, s)
  | '+' :: s => (false, s)
  | s => (false, s)

/-- The complete exponent at the front of a text: its value, its number of characters, and the rest. -/
def exponent? (s : List Char) : Option (Int × Nat × List Char) :=
  match s with
  | c :: rest =>
    if c = 'e' ∨ c = 'E' then
      let (negative, body) := sign rest
      let signLength := if rest.head? = some '-' ∨ rest.head? = some '+' then 1 else 0
      match digits body with
      | ([], _) => none
      | (ds, rest) =>
        let n : Int := Text.ofDigits 10 ds
        some (if negative then -n else n, 1 + signLength + ds.length, rest)
    else none
  | [] => none

/-- The exponent at the front of a text, and the rest; a text without a complete one has none. -/
def exponent (s : List Char) : Int × List Char :=
  match exponent? s with
  | some (e, _, rest) => (e, rest)
  | none => (0, s)

/-- The digits before and behind the point at the front of a text, and the rest. There is at least one
digit on either side. -/
def mantissa? (s : List Char) : Option (List Nat × List Nat × List Char) :=
  match digits s with
  | ([], '.' :: rest) =>
    match digits rest with
    | ([], _) => none
    | (fraction, rest) => some ([], fraction, rest)
  | ([], _) => none
  | (whole, '.' :: rest) =>
    let (fraction, rest) := digits rest
    some (whole, fraction, rest)
  | (whole, rest) => some (whole, [], rest)

/-- The longest literal at the front of a text, and the rest. -/
def atFront? (s : List Char) : Option (NumberLiteral × List Char) :=
  let (negative, body) := sign s
  match body with
  | 'I' :: 'n' :: 'f' :: 'i' :: 'n' :: 'i' :: 't' :: 'y' :: rest => some (.infinity negative, rest)
  | _ =>
    match mantissa? body with
    | none => none
    | some (whole, fraction, rest) =>
      let (e, rest) := exponent rest
      some (.decimal negative whole fraction e, rest)

end NumberLiteral

end RuleLabels
