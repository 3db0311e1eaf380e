import RuleLabels.Value

/-!
# Shown values

How messages show a rejected value: texts between quotes, arrays and objects with all they hold, and
moments by their fields. An integer with too many digits cannot be shown, nor can what holds one.
-/

namespace RuleLabels

/-- A number of microseconds by days, seconds and microseconds, of which the last two are not
negative. -/
def shownDuration (microseconds : Int) : String :=
  let days := Int.fdiv microseconds dayLength
  let rest := (Int.fmod microseconds dayLength).toNat
  let parts :=
    (if days = 0 then [] else [s!"days={days}"])
      ++ (if rest / 1000000 = 0 then [] else [s!"seconds={rest / 1000000}"])
      ++ (if rest % 1000000 = 0 then [] else [s!"microseconds={rest % 1000000}"])
  "datetime.timedelta(" ++ ", ".intercalate parts ++ ")"

/-- A distance from universal time. -/
def Offset.shown (o : Offset) : String :=
  if o.microseconds = 0 then "datetime.timezone.utc"
  else "datetime.timezone(" ++ shownDuration o.microseconds ++ ")"

/-- A moment by its fields; seconds and microseconds are left out where they are zero. -/
def Moment.shown (m : Moment) : String :=
  let t := m.time
  let fine :=
    if t.microsecond ≠ 0 then [t.second, t.microsecond]
    else if t.second ≠ 0 then [t.second] else []
  let numbers := [m.date.year, m.date.month, m.date.day, t.hour, t.minute] ++ fine
  let parts := numbers.map toString
    ++ (match m.offset with | some o => ["tzinfo=" ++ o.shown] | none => [])
  "datetime.datetime(" ++ ", ".intercalate parts ++ ")"

/-- A date by its fields. -/
def Date.shown (d : Date) : String := s!"datetime.date({d.year}, {d.month}, {d.day})"

namespace Value

mutual

/-- A value as messages show it. -/
def shown : Value → String
  | null => "None"
  | bool b => if b then "True" else "False"
  | int i => toString i
  | float x => x.text
  | text s => Text.quoted s
  | array items => "[" ++ ", ".intercalate (shownItems items) ++ "]"
  | object fields => "\x7b" ++ ", ".intercalate (shownFields fields) ++ "\x7d"
  | moment m => m.shown
  | date d => d.shown
  | bytes b => Text.quotedBytes b
  | tuple items =>
    "(" ++ ", ".intercalate (shownItems items) ++ (if items.length = 1 then ",)" else ")")
  | set items =>
    if items.isEmpty then "set()" else "\x7b" ++ ", ".intercalate (shownItems items) ++ "\x7d"
  | mapping entries => "\x7b" ++ ", ".intercalate (shownEntries entries) ++ "\x7d"
  | looped shown _ => shown

/-- The items of an array as messages show them. -/
def shownItems : List Value → List String
  | [] => []
  | v :: rest => shown v :: shownItems rest

/-- The fields of an object as messages show them. -/
def shownFields : List (String × Value) → List String
  | [] => []
  | (k, v) :: rest => (Text.quoted k ++ ": " ++ shown v) :: shownFields rest

/-- The entries of a mapping as messages show them. -/
def shownEntries : List (Value × Value) → List String
  | [] => []
  | (k, v) :: rest => (shown k ++ ": " ++ shown v) :: shownEntries rest

end

/-- A value as the text of an identifier: a text stands for itself. -/
def asText : Value → String
  | text s => s
  | moment m => m.textWith " "
  | date d => d.text
  | v => v.shown

/-! ## What has no text -/

/-- The wording for an integer with too many digits for a text. -/
def longIntegerText : String :=
  s!"Exceeds the limit ({Text.maxIntegerDigits} digits) for integer string conversion; " ++
    "use sys.set_int_max_str_digits() to increase the limit"

/-- The smallest number with too many digits for a text. -/
@[irreducible]
def digitBound : Nat := 10 ^ Text.maxIntegerDigits

mutual

/-- No integer in a value has too many digits for a text. -/
def hasText : Value → Bool
  | int i => i.natAbs < digitBound
  | array items => itemsHaveText items
  | object fields => fieldsHaveText fields
  | tuple items => itemsHaveText items
  | set items => itemsHaveText items
  | mapping entries => entriesHaveText entries
  | _ => true

/-- No integer in a list of values has too many digits for a text. -/
def itemsHaveText : List Value → Bool
  | [] => true
  | v :: rest => hasText v && itemsHaveText rest

/-- No integer in a list of fields has too many digits for a text. -/
def fieldsHaveText : List (String × Value) → Bool
  | [] => true
  | (_, v) :: rest => hasText v && fieldsHaveText rest

/-- No integer in a list of entries has too many digits for a text. -/
def entriesHaveText : List (Value × Value) → Bool
  | [] => true
  | (k, v) :: rest => hasText k && hasText v && entriesHaveText rest

end

/-- A list of texts as messages show it. -/
def shownTexts (texts : List String) : String := (ofTexts texts).shown

end Value

end RuleLabels
