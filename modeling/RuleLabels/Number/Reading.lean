import RuleLabels.Number.Decimal
import RuleLabels.Text.Blank
import RuleLabels.Text.Digit
import RuleLabels.Text.Quoted

/-!
# Reading numbers

Whole texts as numbers: blanks around them are ignored, single underscores may stand between digits,
and the digits may be those of any script.
-/

namespace RuleLabels

/-- Why a text is no integer. -/
inductive IntegerFault where
  | notANumber
  | tooLong (digits : Nat)
  deriving DecidableEq

/-- The wording for a text that is no integer to a base; of a long one the beginning is shown. -/
def IntegerFault.text (base : Nat) (s : String) : IntegerFault → String
  | notANumber =>
    let shown := String.ofList ((Text.quoted s).toList.take 200)
    s!"invalid literal for int() with base {base}: {shown}"
  | tooLong digits => Text.tooManyDigitsText digits

/-- The digits of a number written with single underscores between them. -/
def separatedDigits? (digit? : Char → Option Nat) : List Char → Option (List Nat)
  | [] => none
  | [c] => (digit? c).map ([·])
  | c :: '_' :: rest => do return (← digit? c) :: (← separatedDigits? digit? rest)
  | c :: rest => do return (← digit? c) :: (← separatedDigits? digit? rest)

/-- The digits at the front of a text, with underscores among them, that decide whether an integer has
too many of them: the first that is neither ends them. -/
def digitRun (digit? : Char → Option Nat) (s : List Char) : List Char :=
  s.takeWhile fun c => (digit? c).isSome || c = '_'

/-- A text of an integer with too many digits: whatever follows them is not looked at, but underscores
have to be single and between them. -/
def tooLong? (s : List Char) : Option Nat :=
  (separatedDigits? Text.digitValue? (digitRun Text.digitValue? s)).bind fun ds =>
    if Text.maxIntegerDigits < ds.length then some ds.length else none

/-- A decimal integer with an optional sign. -/
def readInteger (s : String) : Except IntegerFault Int :=
  let (negative, body) := NumberLiteral.sign (Text.trimNumber s)
  match tooLong? body with
  | some digits => .error (.tooLong digits)
  | none =>
    match separatedDigits? Text.digitValue? body with
    | none => .error .notANumber
    | some ds =>
      let n : Int := Text.ofDigits 10 ds
      .ok (if negative then -n else n)

/-- The value of a digit to a base up to sixteen. -/
def baseDigit? (base : Nat) (c : Char) : Option Nat :=
  ((Text.digitValue? c).or (Text.hexDigit? c)).filter (· < base)

/-- The letters that may stand behind a zero for a base. -/
def baseLetters : List (Nat × List Char) := [(2, ['b', 'B']), (8, ['o', 'O']), (16, ['x', 'X'])]

/-- The digits of a text without the zero and the letter that may stand for the base. -/
def withoutBase (base : Nat) (s : List Char) : List Char :=
  match s with
  | '0' :: c :: rest =>
    if ((baseLetters.lookup base).getD []).contains c then
      match rest with
      | '_' :: rest => rest
      | rest => rest
    else s
  | s => s

/-- An integer to a base, with an optional sign. -/
def readIntegerInBase? (base : Nat) (s : String) : Option Int :=
  let (negative, body) := NumberLiteral.sign (Text.trimNumber s)
  (separatedDigits? (baseDigit? base) (withoutBase base body)).map fun ds =>
    let n : Int := Text.ofDigits base ds
    if negative then -n else n

/-! ## Floating-point numbers -/

/-- A text without its underscores, if each stands between two digits. -/
def dropUnderscores? (afterDigit : Bool) : List Char → Option (List Char)
  | [] => some []
  | '_' :: rest =>
    match rest with
    | c :: _ => if afterDigit && Text.isAsciiDigit c then dropUnderscores? false rest else none
    | [] => none
  | c :: rest => (dropUnderscores? (Text.isAsciiDigit c) rest).map (c :: ·)

/-- The digits of every script as the digits `0` to `9`. -/
def plainDigit (c : Char) : Char :=
  match Text.digitValue? c with
  | some d => Char.ofNat ('0'.toNat + d)
  | none => c

/-- The words for the numbers without digits. -/
def numberWord? (negative : Bool) (word : String) : Option Binary64 :=
  if word = "inf" ∨ word = "infinity" then some (.infinite negative)
  else if word = "nan" then some .nan
  else none

/-- A floating-point number: a decimal literal, or one of the words for infinity and the undefined
value in any letter case. -/
def readFloat? (s : String) : Option Binary64 := do
  let chars ← dropUnderscores? false ((Text.trimNumber s).map plainDigit)
  let (negative, body) := NumberLiteral.sign chars
  match numberWord? negative (String.ofList (body.map Char.toLower)) with
  | some x => some x
  | none =>
    let (whole, fraction, rest) ← NumberLiteral.mantissa? body
    let (e, rest) := NumberLiteral.exponent rest
    if rest.isEmpty then some ((NumberLiteral.decimal negative whole fraction e).toBinary64) else none

end RuleLabels
