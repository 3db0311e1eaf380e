import RuleLabels.Text.Digit

/-!
# Faults in JSON texts

What is wrong with a text that is no JSON document, and where: by the number of the character, and by
line and column. Besides, integers may have too many digits, and collections may be nested too deeply.
-/

namespace RuleLabels.Json

/-- What is wrong. -/
inductive Fault where
  | byteOrderMark
  | noValue
  | noPropertyName
  | noColon
  | noComma
  | unterminatedString
  | controlCharacter
  | badEscape
  | badUnicodeEscape
  | extraData
  deriving DecidableEq

/-- The wording of a fault. -/
def Fault.text : Fault → String
  | byteOrderMark => "Unexpected UTF-8 BOM (decode using utf-8-sig)"
  | noValue => "Expecting value"
  | noPropertyName => "Expecting property name enclosed in double quotes"
  | noColon => "Expecting ':' delimiter"
  | noComma => "Expecting ',' delimiter"
  | unterminatedString => "Unterminated string starting at"
  | controlCharacter => "Invalid control character at"
  | badEscape => "Invalid \\escape"
  | badUnicodeEscape => "Invalid \\uXXXX escape"
  | extraData => "Extra data"

/-- The collections of JSON. -/
inductive Collection where
  | array
  | object
  deriving DecidableEq

/-- The name of a collection. -/
def Collection.name : Collection → String
  | array => "array"
  | object => "object"

/-- A reason to refuse a text: a fault at a position, an integer with too many digits, or a collection
inside too many others. -/
inductive Error where
  | malformed (fault : Fault) (position : Nat)
  | integerTooLong (digits : Nat)
  | tooDeep (collection : Collection)
  deriving DecidableEq

/-- The line and the column of a position, both counted from one. -/
def lineAndColumn (text : List Char) (position : Nat) : Nat × Nat :=
  let before := text.take position
  (before.count '\n' + 1, (before.reverse.takeWhile (· ≠ '\n')).length + 1)

/-- The wording for a collection inside too many others. -/
def tooDeepText (collection : Collection) : String :=
  s!"maximum recursion depth exceeded while decoding a JSON {collection.name} from a unicode string"

/-- The wording of an error in a text. -/
def Error.text (source : String) : Error → String
  | malformed fault position =>
    let (line, column) := lineAndColumn source.toList position
    s!"{fault.text}: line {line} column {column} (char {position})"
  | integerTooLong digits => Text.tooManyDigitsText digits
  | tooDeep collection => tooDeepText collection

end RuleLabels.Json
