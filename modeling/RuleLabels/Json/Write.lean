import RuleLabels.Value.Shown

/-!
# Writing JSON

Values as JSON texts, on one line with or without blanks, or indented by two blanks. Characters beyond
the ASCII range are written as they are. Some documents cannot be written: those that hold what JSON
has no form for, integers with too many digits or too many collections inside each other, and, where
the text is to be bytes, those that hold halves of characters.
-/

namespace RuleLabels.Json

/-! ## Scalars -/

/-- A character inside a string. -/
def writtenChar (c : Char) : List Char :=
  if c = '"' then ['\\', '"']
  else if c = '\\' then ['\\', '\\']
  else if c = '\n' then ['\\', 'n']
  else if c = '\r' then ['\\', 'r']
  else if c = '\t' then ['\\', 't']
  else if c = '\x08' then ['\\', 'b']
  else if c = '\x0c' then ['\\', 'f']
  else if c.toNat < 0x20 then '\\' :: 'u' :: Text.padded 16 4 c.toNat
  else [c]

/-- A text as a string. -/
def writtenString (s : String) : String :=
  "\"" ++ String.ofList (s.toList.flatMap writtenChar) ++ "\""

/-- A floating-point number. -/
def writtenFloat : Binary64 → String
  | .nan => "NaN"
  | .infinite negative => if negative then "-Infinity" else "Infinity"
  | x => x.text

/-! ## Layouts -/

/-- How the items of arrays and objects are set apart, at each depth, and what stands behind a name. -/
structure Layout where
  opening : Nat → String
  separator : Nat → String
  closing : Nat → String
  colon : String

/-- Everything on one line. -/
def Layout.line : Layout := ⟨fun _ => "", fun _ => ", ", fun _ => "", ": "⟩

/-- Everything on one line, and no blanks. -/
def Layout.tight : Layout := ⟨fun _ => "", fun _ => ",", fun _ => "", ":"⟩

/-- A new line and two blanks for each level. -/
def indentation (depth : Nat) : String := "\n" ++ String.ofList (List.replicate (2 * depth) ' ')

/-- Each item on a line of its own. -/
def Layout.indented : Layout :=
  ⟨fun depth => indentation (depth + 1), fun depth => "," ++ indentation (depth + 1), indentation, ": "⟩

/-- Items between brackets. -/
def enclosed (l : Layout) (depth : Nat) (left right : String) (items : List String) : String :=
  if items.isEmpty then left ++ right
  else left ++ l.opening depth ++ (l.separator depth).intercalate items ++ l.closing depth ++ right

mutual

/-- The text of a value at a depth. What JSON has no form for is written as messages show it. -/
def written (l : Layout) (depth : Nat) : Value → String
  | .null => "null"
  | .bool b => if b then "true" else "false"
  | .int i => toString i
  | .float x => writtenFloat x
  | .text s => writtenString s
  | .array items => enclosed l depth "[" "]" (writtenItems l (depth + 1) items)
  | .object fields => enclosed l depth "\x7b" "\x7d" (writtenFields l (depth + 1) fields)
  | .tuple items => enclosed l depth "[" "]" (writtenItems l (depth + 1) items)
  | v => writtenString v.shown

/-- The texts of the items of an array. -/
def writtenItems (l : Layout) (depth : Nat) : List Value → List String
  | [] => []
  | v :: rest => written l depth v :: writtenItems l depth rest

/-- The texts of the fields of an object. -/
def writtenFields (l : Layout) (depth : Nat) : List (String × Value) → List String
  | [] => []
  | (k, v) :: rest => (writtenString k ++ l.colon ++ written l depth v) :: writtenFields l depth rest

end

/-- The text of a value on one line. -/
def line (v : Value) : String := written .line 0 v

/-- The text of a value on one line without blanks. -/
def tight (v : Value) : String := written .tight 0 v

/-- The text of a value with two blanks for each level. -/
def indented (v : Value) : String := written .indented 0 v

/-! ## What cannot be written -/

/-- Why a value cannot be written. -/
inductive Refusal where
  | noForm (kind : String)
  | longInteger
  | tooDeep
  | noBytes (e : Text.EncodeError)

/-- What becomes of the text of a value: the most collections inside each other, if there is a most, and
whether the indented text is to be bytes. -/
structure Purpose where
  maxDepth : Option Nat
  bytes : Bool

namespace Purpose

/-- A text that is kept as the bytes of an indented document. -/
def file (maxDepth : Option Nat) : Purpose := ⟨maxDepth, true⟩

/-- A text that is shown. -/
def screen : Purpose := ⟨some 965, false⟩

/-- A text in which all characters beyond the ASCII range are escaped. -/
def column (maxDepth : Option Nat) : Purpose := ⟨maxDepth, false⟩

/-- No collection may begin at a depth. -/
def isFull (p : Purpose) (depth : Nat) : Bool := p.maxDepth.any (· ≤ depth)

end Purpose

/-- The most collections inside each other in the documents that stores keep in files and in columns, if
there is a most. -/
structure Limits where
  file : Option Nat
  column : Option Nat

/-- The limits that the stack of the interpreter sets. -/
def Limits.ofStack : Limits := ⟨some 970, some 940⟩

/-- Documents of any depth. -/
def Limits.unbounded : Limits := ⟨none, none⟩

/-- The reason for which a string cannot be written behind a number of characters. -/
def stringRefusal? (p : Purpose) (before : Nat) (s : String) : Option Refusal :=
  if p.bytes then
    (Text.encodeError? (writtenString s)).map fun e => .noBytes { e with start := e.start + before }
  else none

/-- The number of characters between two items at a depth. -/
def gap (depth : Nat) : Nat := 2 + 2 * depth

mutual

/-- The first reason for which a value cannot be written at a depth, behind a number of characters. -/
def refusalAt? (p : Purpose) (depth before : Nat) : Value → Option Refusal
  | .null => none
  | .bool _ => none
  | .int i => if i.natAbs < Value.digitBound then none else some .longInteger
  | .float _ => none
  | .text s => stringRefusal? p before s
  | .array items => if p.isFull depth then some .tooDeep else itemRefusal? p (depth + 1) items
  | .object fields => if p.isFull depth then some .tooDeep else fieldRefusal? p (depth + 1) fields
  | .tuple items => if p.isFull depth then some .tooDeep else itemRefusal? p (depth + 1) items
  | v => some (.noForm v.kind)

/-- The first reason for which an item of an array cannot be written. -/
def itemRefusal? (p : Purpose) (depth : Nat) : List Value → Option Refusal
  | [] => none
  | v :: rest =>
    match refusalAt? p depth (gap depth) v with
    | some refusal => some refusal
    | none => itemRefusal? p depth rest

/-- The first reason for which a field of an object cannot be written. -/
def fieldRefusal? (p : Purpose) (depth : Nat) : List (String × Value) → Option Refusal
  | [] => none
  | (k, v) :: rest =>
    match stringRefusal? p 0 k with
    | some refusal => some refusal
    | none =>
      match refusalAt? p depth 0 v with
      | some refusal => some refusal
      | none => fieldRefusal? p depth rest

end

/-- The first reason for which a value cannot be written. -/
def refusal? (p : Purpose) (v : Value) : Option Refusal := refusalAt? p 0 0 v

/-- The wording of a refusal. -/
def Refusal.text : Refusal → String
  | noForm kind => s!"Object of type {kind} is not JSON serializable"
  | longInteger => Value.longIntegerText
  | tooDeep => "maximum recursion depth exceeded while calling a Python object"
  | noBytes e => e.text

/-- The word for the kind of a refusal. -/
def Refusal.kind : Refusal → String
  | noForm _ => "builtins.TypeError"
  | longInteger => "builtins.ValueError"
  | tooDeep => "builtins.RecursionError"
  | noBytes _ => "builtins.UnicodeEncodeError"

/-! ## Halves that meet -/

mutual

/-- A value in which the halves of characters that follow each other are joined. -/
def joinedHalves : Value → Value
  | .text s => .text (Text.joinedHalves s)
  | .array items => .array (joinedItems items)
  | .object fields => .object (joinedFields fields)
  | v => v

/-- Items in which the halves of characters that follow each other are joined. -/
def joinedItems : List Value → List Value
  | [] => []
  | v :: rest => joinedHalves v :: joinedItems rest

/-- Fields in which the halves of characters that follow each other are joined. -/
def joinedFields : List (String × Value) → List (String × Value)
  | [] => []
  | (k, v) :: rest => (Text.joinedHalves k, joinedHalves v) :: joinedFields rest

end

end RuleLabels.Json
