import RuleLabels.Number.Shortest
import RuleLabels.Text.Quoted
import RuleLabels.Time.Moment

/-!
# Values

The data that payloads, rule documents and records are made of: the values of JSON, with integers of
any size beside floating-point numbers, and what other documents hold besides: moments, dates, bytes,
sets, objects whose names are not all texts, and collections that hold themselves. An object keeps its
fields in order, each name once.
-/

namespace RuleLabels

/-- A piece of data. A `mapping` is an object with a name that is no text. A collection that holds itself
is `looped`: it comes with its text in messages, which stops where the collection begins again, and with
a part of what it unfolds to. -/
inductive Value where
  | null
  | bool (b : Bool)
  | int (i : Int)
  | float (x : Binary64)
  | text (s : String)
  | array (items : List Value)
  | object (fields : List (String × Value))
  | moment (m : Moment)
  | date (d : Date)
  | bytes (b : List UInt8)
  | tuple (items : List Value)
  | set (items : List Value)
  | mapping (entries : List (Value × Value))
  | looped (shown : String) (v : Value)
  deriving Inhabited

/-- The fields of an object, in order. -/
abbrev Fields := List (String × Value)

namespace Value

/-- The value that stands for nothing. -/
def isNull : Value → Bool
  | null => true
  | _ => false

/-- A list of texts as a value. -/
def ofTexts (texts : List String) : Value := .array (texts.map .text)

/-- The word for the kind of a value in messages. -/
def kind : Value → String
  | null => "NoneType"
  | bool _ => "bool"
  | int _ => "int"
  | float _ => "float"
  | text _ => "str"
  | array _ => "list"
  | object _ => "dict"
  | moment _ => "datetime"
  | date _ => "date"
  | bytes _ => "bytes"
  | tuple _ => "tuple"
  | set _ => "set"
  | mapping _ => "dict"
  | looped _ v => v.kind

/-- The entries of a mapping whose names are texts. -/
def textEntries : List (Value × Value) → Fields
  | [] => []
  | (text k, v) :: rest => (k, v) :: textEntries rest
  | _ :: rest => textEntries rest

/-- The fields of an object. -/
def fields? : Value → Option Fields
  | object fields => some fields
  | mapping entries => some (textEntries entries)
  | looped _ v => v.fields?
  | _ => none

/-- The items of an array. -/
def items? : Value → Option (List Value)
  | array items => some items
  | looped _ v => v.items?
  | _ => none

end Value

namespace Fields

/-- The value of a field. -/
def get? (fields : Fields) (key : String) : Option Value := fields.lookup key

/-- The value of a field that is neither absent nor null. -/
def present? (fields : Fields) (key : String) : Option Value :=
  (fields.get? key).filter (!·.isNull)

/-- The first of some fields that is neither absent nor null. -/
def firstPresent? (fields : Fields) (keys : List String) : Option (String × Value) :=
  keys.findSome? fun k => (fields.present? k).map fun v => (k, v)

/-- A field is there, whatever its value. -/
def has (fields : Fields) (key : String) : Bool := (fields.get? key).isSome

/-- The fields with one set: in its place if it is there, and last if it is new. -/
def set (fields : Fields) (key : String) (v : Value) : Fields :=
  if fields.has key then fields.map fun f => if f.1 = key then (key, v) else f
  else fields ++ [(key, v)]

end Fields

end RuleLabels
