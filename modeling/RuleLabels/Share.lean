import RuleLabels.Number.Decimal

/-!
# Shares

The percentage that a count is of a total, to two decimal places with a half going up. It is worked out
in decimal numbers of 28 significant digits.
-/

namespace RuleLabels

namespace Decimal

/-- The most significant digits of a decimal result. -/
def precision : Nat := 28

/-- The number of decimal digits of a number. -/
def digitCount (n : Nat) : Nat := (Text.decimalDigits n).length

/-- The quotient of two numbers times a power of ten, to `precision` significant digits and a half going
to the even digit. The numbers of digits tell its first place up to one. -/
def quotient (num den : Nat) (exponent : Int) : Decimal :=
  if num = 0 then ⟨0, exponent⟩
  else
    let last := (digitCount num : Int) - digitCount den - precision
    let rounded (k : Int) : Nat :=
      if 0 ≤ k then Binary64.divNearest num (den * 10 ^ k.toNat)
      else Binary64.divNearest (num * 10 ^ (-k).toNat) den
    let fits (k : Int) : Bool := rounded k ≤ 10 ^ precision
    let k := if fits last then last else last + 1
    ⟨rounded k, exponent + k⟩

/-- A decimal number in hundredths, a half going up. -/
def hundredths (d : Decimal) : Nat :=
  let k := d.exponent + 2
  if 0 ≤ k then d.coefficient * 10 ^ k.toNat
  else
    let den := 10 ^ (-k).toNat
    (2 * d.coefficient + den) / (2 * den)

end Decimal

/-- A percentage with more than `Decimal.precision` digits. -/
inductive ShareFault where
  | tooLarge
  deriving DecidableEq

/-- The percentage that `count` is of `total`, in hundredths and without the sign. -/
def shareHundredths (count total : Nat) : Nat :=
  let scaled := Decimal.quotient (count * 100) 1 0
  let ratio := Decimal.quotient scaled.coefficient total scaled.exponent
  ratio.hundredths

/-- The percentage that a count is of a total, and zero of no total. -/
def share (count total : Int) : Except ShareFault Binary64 :=
  if total ≤ 0 then .ok (.zero false)
  else
    let n := shareHundredths count.natAbs total.toNat
    if 10 ^ Decimal.precision ≤ n then .error .tooLarge
    else .ok ((Decimal.mk n (-2)).toBinary64 (count < 0))

end RuleLabels
