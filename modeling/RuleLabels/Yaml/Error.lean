import RuleLabels.Number.Reading
import RuleLabels.Value.Shown

/-!
# Faults in YAML texts

Why a text is refused as a YAML document: it breaks the rules of the notation, one of its scalars has the
form of a number or a date but no such value, or it does not fit what it is said to be.
-/

namespace RuleLabels.Yaml

/-- A scalar that has the form of a value but is none. -/
inductive ScalarFault where
  | year (n : Nat)
  | month
  | day
  | hour
  | minute
  | second
  | offset (microseconds : Int)
  | codePoint
  | integerTooLong (digits : Nat)
  | notAnInteger (base : Nat) (s : String)
  | notAFloat (s : String)
  deriving DecidableEq

/-- The wording of a fault in a scalar. -/
def ScalarFault.text : ScalarFault → String
  | year n => s!"year {n} is out of range"
  | month => "month must be in 1..12"
  | day => "day is out of range for month"
  | hour => "hour must be in 0..23"
  | minute => "minute must be in 0..59"
  | second => "second must be in 0..59"
  | offset n =>
    "offset must be a timedelta strictly between -timedelta(hours=24) and timedelta(hours=24), not " ++
      shownDuration n ++ "."
  | codePoint => "chr() arg not in range(0x110000)"
  | integerTooLong digits => IntegerFault.text 10 "" (.tooLong digits)
  | notAnInteger base s => IntegerFault.text base s .notANumber
  | notAFloat s => s!"could not convert string to float: {Text.quoted s}"

/-- A part of a document that does not fit: a scalar that is not what its tag says, a number beyond its
range, or too many collections inside each other. -/
inductive Misfit where
  | noDigits
  | notASwitch (word : String)
  | notAMoment
  | collectionAsMoment
  | numberTooLarge
  | codePointTooLarge
  | tooDeep
  deriving DecidableEq

/-- The wording of a misfit. -/
def Misfit.text : Misfit → String
  | noDigits => "string index out of range"
  | notASwitch word => Text.quoted word
  | notAMoment => "'NoneType' object has no attribute 'groupdict'"
  | collectionAsMoment => "expected string or bytes-like object, got 'list'"
  | numberTooLarge => "int too large to convert to float"
  | codePointTooLarge => "Python int too large to convert to C int"
  | tooDeep => "maximum recursion depth exceeded"

/-- A reason to refuse a text. -/
inductive Error where
  | malformed
  | scalar (fault : ScalarFault)
  | misfit (m : Misfit)
  deriving DecidableEq

/-- The wording of an error. -/
def Error.text : Error → String
  | malformed => "not a YAML document"
  | scalar fault => fault.text
  | misfit m => m.text

end RuleLabels.Yaml
