import RuleLabels.Number.Decimal
import RuleLabels.Text.Blank
import RuleLabels.Value.Shown

/-!
# Rendered values

The text of a value that conditions compare, and the number that stands at the front of it. A float
without a fraction is rendered as an integer, the items of an array are joined by commas, and every
object is rendered alike. An integer with too many digits cannot be rendered, nor can what shows one. And
an array takes a call for each item that is not null, so one that is nested beyond what the stack holds
cannot be rendered either.
-/

namespace RuleLabels.Value

/-! ## Text -/

/-- The text of a floating-point number: an integer where it is one. -/
def renderedFloat (x : Binary64) : String :=
  match x with
  | .nan => "NaN"
  | .infinite negative => if negative then "-Infinity" else "Infinity"
  | x => match x.toInt? with
    | some i => toString i
    | none => x.text

mutual

/-- The text of a value, where it has one. -/
def rendered : Value → String
  | null => "null"
  | bool b => if b then "true" else "false"
  | int i => toString i
  | float x => renderedFloat x
  | text s => s
  | array items => ",".intercalate (renderedItems items)
  | object _ => "[object Object]"
  | moment m => m.textWith " "
  | date d => d.text
  | bytes b => Text.quotedBytes b
  | tuple items => ",".intercalate (renderedItems items)
  | set items => (Value.set items).shown
  | mapping _ => "[object Object]"
  | looped _ v => rendered v

/-- The texts of the items of an array, where null is empty. -/
def renderedItems : List Value → List String
  | [] => []
  | v :: rest => (if v.isNull then "" else rendered v) :: renderedItems rest

end

/-! ## What cannot be compared -/

/-- Why a value cannot be compared: an integer is too large for a floating-point number or has too many
digits for a text, or arrays are nested too deeply. -/
inductive ComparisonFault where
  | tooLarge
  | tooLong
  | tooDeep
  deriving DecidableEq

/-- The calls that the stack holds inside the one that renders a value. The number differs by a few with the
place from which conditions are evaluated, so what is proved of them holds for any number. -/
def stackLevels : Nat := 327

mutual

/-- The first reason for which a value has no text, where `levels` calls fit inside the one that renders
it. -/
def renderingFault? : Nat → Value → Option ComparisonFault
  | _, int i => if i.natAbs < digitBound then none else some .tooLong
  | levels, array items => itemRenderingFault? levels items
  | levels, tuple items => itemRenderingFault? levels items
  | _, set items => if itemsHaveText items then none else some .tooLong
  | levels, looped _ v => renderingFault? levels v
  | _, _ => none

/-- The first reason for which an item of an array has no text. There is no call for null. -/
def itemRenderingFault? : Nat → List Value → Option ComparisonFault
  | _, [] => none
  | levels, null :: rest => itemRenderingFault? levels rest
  | 0, _ :: _ => some .tooDeep
  | levels + 1, v :: rest =>
    match renderingFault? levels v with
    | some fault => some fault
    | none => itemRenderingFault? (levels + 1) rest

end

/-- Renders a value, where `levels` calls fit inside the one for it. -/
def render (levels : Nat) (v : Value) : Except ComparisonFault String :=
  match v.renderingFault? levels with
  | some fault => .error fault
  | none => .ok v.rendered

/-! ## Numbers -/

/-- The number of a text: that of the longest decimal literal at its front, blanks before it aside. -/
def leadingNumber? (s : String) : Option Binary64 :=
  (NumberLiteral.atFront? (Text.trimLeft s.toList)).map fun l => l.1.toBinary64

/-- The number of a value: its own where it is a number, else that of its text. -/
def number? (levels : Nat) : Value → Except ComparisonFault (Option Binary64)
  | int i =>
    match Binary64.ofInt? i with
    | some x => .ok (some x)
    | none => .error .tooLarge
  | float .nan => .ok none
  | float x => .ok (some x)
  | v => (v.render levels).map leadingNumber?

end RuleLabels.Value
