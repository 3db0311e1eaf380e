import RuleLabels.Json.Read
import RuleLabels.Number.Decimal
import RuleLabels.Text.Blank
import RuleLabels.Text.Encoding

/-!
# Request bodies

The fields of the bodies that requests send, with the leniency that clients may count on: numbers and
words may stand for switches, and texts and floats without a fraction for integers. A body is a JSON
document in any of the encodings of documents.
-/

namespace RuleLabels.Http

/-- What is wrong with a body. -/
inductive BodyFault where
  | notJson
  | required
  | notAnObject
  | notAText
  | notUnicode
  | tooLong (limit : Nat)
  | notADictionary
  | notAnInteger
  | notAnIntegerText
  | fractional
  | infinite
  | tooLarge
  | notABoolean
  | notABooleanValue
  deriving DecidableEq

/-- The wording of a fault. -/
def BodyFault.text : BodyFault → String
  | notJson => "JSON decode error"
  | required => "Field required"
  | notAnObject => "Input should be a valid dictionary or object to extract fields from"
  | notAText => "Input should be a valid string"
  | notUnicode => "Input should be a valid string, unable to parse raw data as a unicode string"
  | tooLong limit => s!"String should have at most {limit} characters"
  | notADictionary => "Input should be a valid dictionary"
  | notAnInteger => "Input should be a valid integer"
  | notAnIntegerText => "Input should be a valid integer, unable to parse string as an integer"
  | fractional => "Input should be a valid integer, got a number with a fractional part"
  | infinite => "Input should be a finite number"
  | tooLarge => "Unable to parse input string as an integer, exceeded maximum size"
  | notABoolean => "Input should be a valid boolean"
  | notABooleanValue => "Input should be a valid boolean, unable to interpret input"

/-- A fault and the part of the body that has it. -/
structure BodyError where
  place : String
  fault : BodyFault
  deriving DecidableEq

/-! ## Fields -/

/-- The most characters that a name or a label may have. -/
def textLimit : Nat := 200

/-- A text without halves of characters. -/
def unicodeText (s : String) : Except BodyFault String :=
  if s.toList.any Text.isHalf then .error .notUnicode else .ok s

/-- A text that is not too long. -/
def textField (v : Value) : Except BodyFault Value :=
  match v with
  | .text s => do
    let s ← unicodeText s
    if textLimit < s.length then .error (.tooLong textLimit) else .ok v
  | _ => .error .notAText

/-- An object. -/
def objectField (v : Value) : Except BodyFault Value :=
  match v with
  | .object _ => .ok v
  | _ => .error .notADictionary

/-- The first name in an object with half of a character. -/
def badName? (v : Value) : Option String :=
  (v.fields?.getD []).findSome? fun (k, _) => if k.toList.any Text.isHalf then some k else none

/-- A text without the zeros at its front, among which there may be underscores. The last character and a
zero before a point stay. -/
def withoutZeros? (last : Char) : List Char → Option (List Char)
  | [] => some [last]
  | c :: rest =>
    if c = '0' || c = '_' then withoutZeros? c rest
    else if Text.isAsciiDigit c then some (c :: rest)
    else if c = '.' then some (last :: c :: rest)
    else none

/-- A text without the fraction of zeros at its end. -/
def withoutFraction (s : List Char) : List Char :=
  match s.dropWhile (· ≠ '.') with
  | '.' :: d :: fraction => if (d :: fraction).all (· = '0') then s.takeWhile (· ≠ '.') else s
  | _ => s

/-- Two underscores follow each other. -/
def hasDoubleUnderscore : List Char → Bool
  | '_' :: '_' :: _ => true
  | _ :: rest => hasDoubleUnderscore rest
  | [] => false

/-- A text without its underscores, if they are single and inside it. -/
def withoutUnderscores (s : List Char) : List Char :=
  if s.head? = some '_' || s.getLast? = some '_' || hasDoubleUnderscore s then s
  else s.filter (· ≠ '_')

/-- The text of an integer behind its sign in its plain form: without zeros at its front, a fraction of
zeros and underscores between its digits. -/
def plainDigits? (s : List Char) : Option (List Char) := do
  let c :: rest := s | none
  let s ← if c = '0' then withoutZeros? c rest else if Text.isAsciiDigit c then some s else none
  return withoutUnderscores (withoutFraction s)

/-- The integer that a text spells. One that begins with too many digits, where a minus sign counts as
one, is too large whatever follows them. -/
def integerText (s : String) : Except BodyFault Int :=
  let (negative, body) := NumberLiteral.sign (Text.trimNumber s)
  match plainDigits? body with
  | none => .error .notAnIntegerText
  | some cs =>
    let digits := cs.takeWhile Text.isAsciiDigit
    if cs = ['0'] then .ok 0
    else if cs.head? = some '0' then .error .notAnIntegerText
    else if Text.maxIntegerDigits < digits.length + negative.toNat then .error .tooLarge
    else if digits.isEmpty || digits.length < cs.length then .error .notAnIntegerText
    else
      let n : Int := Text.ofDigits 10 (digits.filterMap Text.asciiDigit?)
      .ok (if negative then -n else n)

/-- The integer that a float without a fraction is, if 64 bits hold it. -/
def integerFloat (x : Binary64) : Except BodyFault Int :=
  match x with
  | .nan => .error .infinite
  | .infinite _ => .error .infinite
  | x =>
    match x.toInt? with
    | none => .error .fractional
    | some i => if -2 ^ 63 < i ∧ i < 2 ^ 63 then .ok i else .error .tooLarge

/-- An integer. -/
def integerField (v : Value) : Except BodyFault Value :=
  match v with
  | .int i => .ok (.int i)
  | .bool b => .ok (.int b.toNat)
  | .float x => (integerFloat x).map .int
  | .text s => do return .int (← integerText (← unicodeText s))
  | _ => .error .notAnInteger

/-- The switch that a word means. -/
def switchWord? (s : String) : Option Bool :=
  let s := String.ofList (s.toList.map Char.toLower)
  if ["0", "off", "f", "false", "n", "no"].contains s then some false
  else if ["1", "on", "t", "true", "y", "yes"].contains s then some true
  else none

/-- The switch that an integer means. -/
def switchNumber (i : Int) : Except BodyFault Bool :=
  if i = 0 then .ok false else if i = 1 then .ok true else .error .notABooleanValue

/-- A switch. -/
def switchField (v : Value) : Except BodyFault Value :=
  match v with
  | .bool b => .ok (.bool b)
  | .text s => do
    match switchWord? (← unicodeText s) with
    | some b => .ok (.bool b)
    | none => .error .notABooleanValue
  | .int i =>
    if -2 ^ 63 ≤ i ∧ i < 2 ^ 63 then (switchNumber i).map .bool else .error .notABoolean
  | .float x =>
    match integerFloat x with
    | .ok i => (switchNumber i).map .bool
    | .error _ => .error .notABoolean
  | _ => .error .notABoolean

/-! ## Bodies -/

/-- The known fields of an object with their readings, without those that are absent or null. -/
def readFields (known : List (String × (Value → Except BodyFault Value))) (fields : Fields) :
    Except BodyError Fields :=
  match known with
  | [] => .ok []
  | (name, read) :: rest =>
    match fields.present? name with
    | none => readFields rest fields
    | some v =>
      match read v with
      | .error fault => .error ⟨name, fault⟩
      | .ok v =>
        match badName? v with
        | some bad => .error ⟨s!"{name}.{Text.quoted bad}.[key]", .notUnicode⟩
        | none => (readFields rest fields).map ((name, v) :: ·)

/-- The fields of a body about a rule. -/
def ruleFields : List (String × (Value → Except BodyFault Value)) := [
  ("name", textField), ("conditions", objectField), ("label", textField),
  ("priority", integerField), ("enabled", switchField)]

/-- Reads a body about a rule. -/
def readRule (body : Option Value) : Except BodyError Fields :=
  match body with
  | none => .error ⟨"", .required⟩
  | some (.object fields) => readFields ruleFields fields
  | some _ => .error ⟨"", .notAnObject⟩

/-- Reads a body with a switch, which may be left out. -/
def readSwitch (body : Option Value) : Except BodyError Value :=
  match body with
  | none => .ok .null
  | some .null => .ok .null
  | some (.object fields) =>
    (readFields [("enabled", switchField)] fields).map fun found =>
      (Fields.get? found "enabled").getD .null
  | some _ => .error ⟨"", .notAnObject⟩

/-- A body that cannot be read: for a fault at a place, or because its bytes spell no text, a number in it
is too long or its parts are nested too deeply. -/
inductive BodyFailure where
  | fault (e : BodyError)
  | unreadable
  deriving DecidableEq

/-- The text of a body, without the mark that it may begin with. -/
def bodyText? (bytes : List UInt8) : Option String :=
  (Text.decodeDocument? bytes).map fun s =>
    if Text.Encoding.ofBytes bytes = .utf8 ∧ s.toList.head? = some '\ufeff' then
      String.ofList s.toList.tail
    else s

/-- The document in a body, if there is one. -/
def readBody (body : Option String) : Except BodyFailure (Option Value) :=
  match body with
  | none => .ok none
  | some s =>
    if s.isEmpty then .ok none
    else
      match bodyText? (Text.utf8Bytes s) with
      | none => .error .unreadable
      | some s =>
        match Json.read s with
        | .ok v => .ok (some v)
        | .error (.malformed _ position) => .error (.fault ⟨toString position, .notJson⟩)
        | .error _ => .error .unreadable

end RuleLabels.Http
