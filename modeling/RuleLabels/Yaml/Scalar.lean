import RuleLabels.Number.Reading
import RuleLabels.Text.Base64
import RuleLabels.Text.Case
import RuleLabels.Text.Cut
import RuleLabels.Text.Half
import RuleLabels.Value
import RuleLabels.Yaml.Error

/-!
# Scalars of YAML

What a plain scalar means by its form: nothing, a switch, an integer, a float, a date or a moment, and
otherwise a text; and the values of the scalars of these kinds and of bytes. One end of a line behind a form
does not change it.
-/

namespace RuleLabels.Yaml

/-- The kinds of scalars, with the marks that merge mappings and name their main values. -/
inductive ScalarKind where
  | null
  | bool
  | int
  | float
  | binary
  | timestamp
  | text
  | merge
  | main
  deriving DecidableEq

/-! ## Forms -/

namespace Form

/-- A digit or an underscore. -/
def isSpacedDigit (c : Char) : Bool := Text.isAsciiDigit c || c = '_'

/-- A text without its sign. -/
def unsigned (s : List Char) : List Char :=
  match s with
  | '+' :: rest => rest
  | '-' :: rest => rest
  | s => s

/-- The switches by their words. -/
def switches : List (String × Bool) := [("yes", true), ("no", false), ("true", true), ("false", false),
  ("on", true), ("off", false)]

/-- A word in lower case, in upper case, or with a capital. -/
def spelledAs (word s : List Char) : Bool :=
  s = word || s = word.map Char.toUpper ||
    s = (match word with | [] => [] | c :: rest => c.toUpper :: rest)

/-- A word that means a switch. -/
def isBool (s : List Char) : Bool := switches.any fun (word, _) => spelledAs word.toList s

/-- Nothing, a tilde or the word for null. -/
def isNull (s : List Char) : Bool := s = [] || s = ['~'] || spelledAs "null".toList s

/-- A number below sixty of one or two digits. -/
def isSixtieth (s : List Char) : Bool :=
  match s with
  | [a] => Text.isAsciiDigit a
  | [a, b] => '0' ≤ a && a ≤ '5' && Text.isAsciiDigit b
  | _ => false

/-- Digits and underscores behind a digit from a range. -/
def isSpacedNumber (first : Char → Bool) (s : List Char) : Bool :=
  match s with
  | [] => false
  | c :: rest => first c && rest.all isSpacedDigit

/-- A digit other than zero. -/
def isNonZeroDigit (c : Char) : Bool := '1' ≤ c && c ≤ '9'

/-- A number to base sixty without a fraction. -/
def isSexagesimal (first : Char → Bool) (s : List Char) : Bool :=
  match Text.splitAt ':' s with
  | whole :: part :: parts => isSpacedNumber first whole && (part :: parts).all isSixtieth
  | _ => false

/-- An integer to base two, eight, ten, sixteen or sixty. -/
def isInt (s : List Char) : Bool :=
  let s := unsigned s
  match s with
  | '0' :: 'b' :: ds => !ds.isEmpty && ds.all fun c => c = '0' || c = '1' || c = '_'
  | '0' :: 'x' :: ds => !ds.isEmpty && ds.all fun c => (Text.hexDigit? c).isSome || c = '_'
  | '0' :: ds => ds.all fun c => ('0' ≤ c && c ≤ '7') || c = '_'
  | s => isSpacedNumber isNonZeroDigit s || isSexagesimal isNonZeroDigit s

/-- An exponent with a sign, or none. -/
def isExponent (s : List Char) : Bool :=
  match s with
  | [] => true
  | e :: sign :: d :: ds =>
    (e = 'e' || e = 'E') && (sign = '+' || sign = '-') && (d :: ds).all Text.isAsciiDigit
  | _ => false

/-- A float: digits with a point, infinite, undefined, or to base sixty. -/
def isFloat (s : List Char) : Bool :=
  let body := unsigned s
  let whole := body.takeWhile isSpacedDigit
  let rest := body.dropWhile isSpacedDigit
  let pointed := isSpacedNumber Text.isAsciiDigit whole &&
    (match rest with
      | '.' :: fraction => isExponent (fraction.dropWhile isSpacedDigit)
      | _ => false)
  let bare := match s with
    | '.' :: d :: fraction => Text.isAsciiDigit d && isExponent (fraction.dropWhile isSpacedDigit)
    | _ => false
  let sixty := match Text.cutAtLast? '.' body with
    | some (whole, fraction) => isSexagesimal Text.isAsciiDigit whole && fraction.all isSpacedDigit
    | none => false
  let infinite := match body with
    | '.' :: word => spelledAs "inf".toList word
    | _ => false
  let undefined := s = ".nan".toList || s = ".NaN".toList || s = ".NAN".toList
  pointed || bare || sixty || infinite || undefined

/-- Exactly `n` digits at the front, and the rest. -/
def exactDigits? (n : Nat) (s : List Char) : Option (Nat × List Char) :=
  let ds := s.take n
  if ds.length = n ∧ ds.all Text.isAsciiDigit then
    some (Text.ofDigits 10 (ds.map fun c => c.toNat - '0'.toNat), s.drop n)
  else none

/-- One or two digits at the front, and the rest. -/
def shortDigits? (s : List Char) : Option (Nat × List Char) := (exactDigits? 2 s).or (exactDigits? 1 s)

/-- A character at the front, and the rest. -/
def after? (c : Char) (s : List Char) : Option (List Char) :=
  match s with
  | d :: rest => if c = d then some rest else none
  | [] => none

/-- The fields of a moment as they are written: the time if there is one, and with it the fraction and
the distance from universal time in minutes. -/
structure Stamp where
  year : Nat
  month : Nat
  day : Nat
  time : Option (Nat × Nat × Nat × List Char × Option Int)

/-- A distance from universal time at the end of a text; blanks may stand before it. -/
def stampOffset? (s : List Char) : Option (Option Int) :=
  match s.dropWhile fun c => c = ' ' || c = '\t' with
  | [] => if s.isEmpty then some none else none
  | ['Z'] => some (some 0)
  | sign :: rest =>
    if sign = '+' || sign = '-' then do
      let (hours, rest) ← shortDigits? rest
      let minutes ← match rest with
        | [] => some 0
        | rest => do
          let (minutes, rest) ← exactDigits? 2 (← after? ':' rest)
          if rest.isEmpty then some minutes else none
      let n : Int := (hours * 60 + minutes : Nat)
      return some (if sign = '-' then -n else n)
    else none

/-- A time at the end of a text, behind the letter or the blanks that part it from the date. -/
def stampTime? (s : List Char) : Option (Nat × Nat × Nat × List Char × Option Int) := do
  let rest ← match s with
    | 'T' :: rest => some rest
    | 't' :: rest => some rest
    | c :: rest => if c = ' ' || c = '\t' then some (rest.dropWhile fun c => c = ' ' || c = '\t') else none
    | [] => none
  let (hour, rest) ← shortDigits? rest
  let (minute, rest) ← exactDigits? 2 (← after? ':' rest)
  let (second, rest) ← exactDigits? 2 (← after? ':' rest)
  let (fraction, rest) := match rest with
    | '.' :: rest => (rest.takeWhile Text.isAsciiDigit, rest.dropWhile Text.isAsciiDigit)
    | rest => ([], rest)
  return (hour, minute, second, fraction, ← stampOffset? rest)

/-- The date or moment that a text has the form of. -/
def stamp? (s : List Char) : Option Stamp := do
  let (year, rest) ← exactDigits? 4 s
  let (month, rest) ← shortDigits? (← after? '-' rest)
  let (day, rest) ← shortDigits? (← after? '-' rest)
  match rest with
  | [] => return ⟨year, month, day, none⟩
  | rest => return ⟨year, month, day, some (← stampTime? rest)⟩

/-- A date with all its digits, or a moment. -/
def isTimestamp (s : List Char) : Bool :=
  match stamp? s with
  | some stamp => stamp.time.isSome || s.length = 10
  | none => false

end Form

/-- A text without one end of a line behind it, unless it is nothing else. -/
def Form.bare (s : List Char) : List Char :=
  if s.getLast? = some '\n' ∧ s ≠ ['\n'] then s.dropLast else s

/-- The kind of a plain scalar. -/
def ScalarKind.ofPlain (s : List Char) : ScalarKind :=
  let s := Form.bare s
  if Form.isBool s then bool
  else if Form.isFloat s then float
  else if Form.isInt s then int
  else if s = ['<', '<'] then merge
  else if Form.isNull s then null
  else if Form.isTimestamp s then timestamp
  else if s = ['='] then main
  else text

/-! ## Values -/

/-- The switch that a word means. -/
def boolValue (s : List Char) : Except Error Value :=
  let word := Text.lower (String.ofList s)
  match Form.switches.lookup word with
  | some b => .ok (.bool b)
  | none => .error (.misfit (.notASwitch word))

/-- The digits of a number to base ten. -/
def decimalValue (s : List Char) : Except Error Int :=
  match readInteger (String.ofList s) with
  | .ok n => .ok n
  | .error (.tooLong digits) => .error (.scalar (.integerTooLong digits))
  | .error .notANumber => .error (.scalar (.notAnInteger 10 (String.ofList s)))

/-- The digits of a number to another base. -/
def baseValue (base : Nat) (s : List Char) : Except Error Int :=
  match readIntegerInBase? base (String.ofList s) with
  | some n => .ok n
  | none => .error (.scalar (.notAnInteger base (String.ofList s)))

/-- The parts of a number to base sixty. -/
def sexagesimalValue (parts : List (List Char)) : Except Error Int := do
  let mut n : Int := 0
  for part in parts do
    n := n * 60 + (← decimalValue part)
  return n

/-- The integer that a text spells. -/
def intValue (s : List Char) : Except Error Value := do
  let s := s.filter (· ≠ '_')
  let body := Form.unsigned s
  let n ← match body with
    | [] => .error (.misfit .noDigits)
    | ['0'] => pure 0
    | '0' :: 'b' :: ds => baseValue 2 ds
    | '0' :: 'x' :: ds => baseValue 16 ds
    | '0' :: ds => baseValue 8 ('0' :: ds)
    | body => if body.contains ':' then sexagesimalValue (Text.splitAt ':' body) else decimalValue body
  return .int (if s.head? = some '-' then -n else n)

/-- A part of a float to base sixty. -/
def floatPart (s : List Char) : Except Error Binary64 :=
  match readFloat? (String.ofList s) with
  | some x => .ok x
  | none => .error (.scalar (.notAFloat (String.ofList s)))

/-- The sum of parts, the last one first, each with sixty times the weight of the one before. -/
def weightedSum (parts : List Binary64) : Except Error Binary64 := do
  let mut sum : Binary64 := .zero false
  let mut weight : Int := 1
  for part in parts do
    match Binary64.ofInt? weight with
    | none => .error (.misfit .numberTooLarge)
    | some w => sum := sum.add (part.mul w)
    weight := weight * 60
  return sum

/-- The float that a text spells. -/
def floatValue (s : List Char) : Except Error Value := do
  let s := (Text.lower (String.ofList (s.filter (· ≠ '_')))).toList
  if s.isEmpty then .error (.misfit .noDigits)
  let body := Form.unsigned s
  let x ←
    if body = ".inf".toList then pure (Binary64.infinite false)
    else if body = ".nan".toList then pure .nan
    else if body.contains ':' then do weightedSum (← (Text.splitAt ':' body).mapM floatPart).reverse
    else floatPart body
  let minusOne := Binary64.nearest true 1 1
  return .float (if s.head? = some '-' then x.mul minusOne else x)

/-- The date with the given fields, or the first fault in them. -/
def dateOf (year month day : Nat) : Except Error Date :=
  match Date.of? year month day with
  | some d => .ok d
  | none =>
    if year = 0 then .error (.scalar (.year year))
    else if month = 0 ∨ 12 < month then .error (.scalar .month)
    else .error (.scalar .day)

/-- The time of day with the given fields, or the first fault in them. -/
def timeOf (hour minute second microsecond : Nat) : Except Error TimeOfDay :=
  match TimeOfDay.of? hour minute second microsecond with
  | some t => .ok t
  | none =>
    if 23 < hour then .error (.scalar .hour)
    else if 59 < minute then .error (.scalar .minute)
    else .error (.scalar .second)

/-- The number of microseconds in a fraction of a second, of which six digits count. -/
def fractionValue (s : List Char) : Nat :=
  let ds := (s.take 6).map fun c => c.toNat - '0'.toNat
  Text.ofDigits 10 ds * 10 ^ (6 - ds.length)

/-- The date or moment that a text spells. -/
def timestampValue (s : List Char) : Except Error Value :=
  match Form.stamp? (Form.bare s) with
  | none => .error (.misfit .notAMoment)
  | some stamp =>
    match stamp.time with
    | none => (dateOf stamp.year stamp.month stamp.day).map .date
    | some (hour, minute, second, fraction, distance) => do
      let offset ← match distance with
        | none => pure none
        | some minutes =>
          match Offset.of? (minutes * 60000000) with
          | some o => pure (some o)
          | none => .error (.scalar (.offset (minutes * 60000000)))
      let date ← dateOf stamp.year stamp.month stamp.day
      let time ← timeOf hour minute second (fractionValue fraction)
      return .moment ⟨date, time, offset⟩

/-- The bytes that a text spells with six bits to a character. -/
def binaryValue (s : List Char) : Except Error Value :=
  if s.all fun c => c.toNat < 0x80 then
    match Text.decodeBase64? s with
    | some b => .ok (.bytes b)
    | none => .error .malformed
  else .error .malformed

/-- The value of a scalar of a kind. A mark of a mapping has none of its own. -/
def ScalarKind.value (kind : ScalarKind) (s : List Char) : Except Error Value :=
  match kind with
  | null => .ok .null
  | bool => boolValue s
  | int => intValue s
  | float => floatValue s
  | binary => binaryValue s
  | timestamp => timestampValue s
  | text => .ok (.text (String.ofList s))
  | merge => .error .malformed
  | main => .error .malformed

end RuleLabels.Yaml
