import RuleLabels.Text.Digit
import RuleLabels.Time.Calendar

/-!
# Moments

A date and a time of day, with or without its distance from universal time. A timestamp is a moment
that has one; it denotes an instant, and timestamps are ordered by their instants.
-/

namespace RuleLabels

/-! ## Times of day -/

/-- Fields that make a time of day. -/
def TimeOfDay.InRange (hour minute second microsecond : Nat) : Prop :=
  hour ≤ 23 ∧ minute ≤ 59 ∧ second ≤ 59 ∧ microsecond ≤ 999999

instance (h m s u : Nat) : Decidable (TimeOfDay.InRange h m s u) := by
  unfold TimeOfDay.InRange; infer_instance

/-- A time of day to the microsecond. -/
structure TimeOfDay where
  hour : Nat
  minute : Nat
  second : Nat
  microsecond : Nat
  inRange : TimeOfDay.InRange hour minute second microsecond
  deriving DecidableEq

namespace TimeOfDay

/-- The time of day with the given fields, if there is one. -/
def of? (hour minute second microsecond : Nat) : Option TimeOfDay :=
  if h : InRange hour minute second microsecond then some ⟨hour, minute, second, microsecond, h⟩
  else none

/-- The first moment of a day. -/
def midnight : TimeOfDay := ⟨0, 0, 0, 0, by decide⟩

instance : Inhabited TimeOfDay := ⟨midnight⟩

/-- The microseconds since midnight. -/
def sinceMidnight (t : TimeOfDay) : Nat :=
  ((t.hour * 60 + t.minute) * 60 + t.second) * 1000000 + t.microsecond

end TimeOfDay

/-! ## Offsets -/

/-- The microseconds of a day. -/
def dayLength : Nat := 86400000000

/-- A number of microseconds that makes a distance from universal time: none, or at least a second and
less than a day either way. No document spells a finer distance. -/
def Offset.InRange (microseconds : Int) : Prop :=
  (microseconds = 0 ∨ 1000000 ≤ microseconds.natAbs) ∧ microseconds.natAbs < dayLength

instance (microseconds : Int) : Decidable (Offset.InRange microseconds) := by
  unfold Offset.InRange; infer_instance

/-- The distance of a local time from universal time. -/
structure Offset where
  microseconds : Int
  inRange : Offset.InRange microseconds
  deriving DecidableEq

namespace Offset

/-- Universal time. -/
def utc : Offset := ⟨0, by decide⟩

instance : Inhabited Offset := ⟨utc⟩

/-- The offset of a number of microseconds, if there is one. -/
def of? (microseconds : Int) : Option Offset :=
  if h : InRange microseconds then some ⟨microseconds, h⟩ else none

/-- The text of an offset: sign, hours and minutes, and what is finer where it is not zero. -/
def text (o : Offset) : String :=
  let n := o.microseconds.natAbs
  let micro := n % 1000000
  let seconds := n / 1000000
  let two := Text.paddedDecimal 2
  (if o.microseconds < 0 then "-" else "+") ++ two (seconds / 3600) ++ ":" ++ two (seconds / 60 % 60)
    ++ (if seconds % 60 = 0 ∧ micro = 0 then "" else ":" ++ two (seconds % 60))
    ++ (if micro = 0 then "" else "." ++ Text.paddedDecimal 6 micro)

end Offset

/-! ## Moments -/

/-- A date and a time of day, where the distance from universal time may be unknown. -/
structure Moment where
  date : Date
  time : TimeOfDay
  offset : Option Offset
  deriving DecidableEq

/-- A date and a time of day at a known distance from universal time. -/
structure Timestamp where
  date : Date
  time : TimeOfDay
  offset : Offset
  deriving DecidableEq, Inhabited

/-- The text of a date. -/
def Date.text (d : Date) : String :=
  Text.paddedDecimal 4 d.year ++ "-" ++ Text.paddedDecimal 2 d.month ++ "-" ++ Text.paddedDecimal 2 d.day

/-- The text of a time of day, with microseconds where there are any. -/
def TimeOfDay.text (t : TimeOfDay) : String :=
  Text.paddedDecimal 2 t.hour ++ ":" ++ Text.paddedDecimal 2 t.minute ++ ":"
    ++ Text.paddedDecimal 2 t.second
    ++ (if t.microsecond = 0 then "" else "." ++ Text.paddedDecimal 6 t.microsecond)

namespace Moment

/-- The text of a moment with the given mark between date and time. -/
def textWith (mark : String) (m : Moment) : String :=
  m.date.text ++ mark ++ m.time.text ++ (m.offset.map Offset.text).getD ""

/-- The text of a moment in the international form. -/
def text (m : Moment) : String := m.textWith "T"

/-- A moment without a distance from universal time is taken as universal time. -/
def toTimestamp (m : Moment) : Timestamp := ⟨m.date, m.time, m.offset.getD .utc⟩

end Moment

namespace Timestamp

/-- A timestamp as a moment. -/
def toMoment (t : Timestamp) : Moment := ⟨t.date, t.time, some t.offset⟩

/-- The text of a timestamp in the international form. -/
def text (t : Timestamp) : String := t.toMoment.text

/-- The instant of a timestamp, in microseconds of universal time. -/
def instant (t : Timestamp) : Int :=
  (t.date.ordinal * dayLength + t.time.sinceMidnight : Nat) - t.offset.microseconds

end Timestamp

/-- Whether a moment is not after another one: by their clocks if neither has a distance from universal time, and by
their instants if both have one.  If one of them has a distance and the other one has none, they do not compare. -/
def Moment.isNotAfter? (m n : Moment) : Option Bool :=
  if m.offset.isSome = n.offset.isSome then some (decide (m.toTimestamp.instant ≤ n.toTimestamp.instant)) else none

namespace Timestamp

/-- The first instant of the year 1970. -/
def epoch : Timestamp := ⟨.epoch, .midnight, .utc⟩

/-- The timestamp of universal time at a number of microseconds after the epoch. -/
def ofMicroseconds? (n : Nat) : Option Timestamp := do
  let date ← Date.ofOrdinal? (Date.epoch.ordinal + n / dayLength)
  let micro := n % dayLength
  let seconds := micro / 1000000
  let time ← TimeOfDay.of? (seconds / 3600) (seconds / 60 % 60) (seconds % 60) (micro % 1000000)
  return ⟨date, time, .utc⟩

end Timestamp

end RuleLabels
