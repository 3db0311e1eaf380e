import RuleLabels.Number.Power

/-!
# Calendar

Dates of the Gregorian calendar in the years 1 to 9999, numbered by days, and the weeks of the year
that begin on Mondays.
-/

-- A sum begins with the numeral, whatever other zeros of the natural numbers are known.
attribute [local instance (1100)] Zero.ofOfNat0

namespace RuleLabels

/-! ## Lengths -/

/-- A year with a 29th of February. -/
def isLeapYear (year : Nat) : Bool := year % 4 = 0 && (year % 100 ≠ 0 || year % 400 = 0)

/-- The days of the months of a year. -/
def monthLengths (year : Nat) : List Nat :=
  [31, if isLeapYear year then 29 else 28, 31, 30, 31, 30, 31, 31, 30, 31, 30, 31]

/-- The number of days of a month. -/
def daysInMonth (year month : Nat) : Nat := (monthLengths year).getD (month - 1) 0

/-- The number of days in the years before a year. -/
def daysBeforeYear (year : Nat) : Nat :=
  let y := year - 1
  y * 365 + y / 4 - y / 100 + y / 400

/-- The number of days of a year before a month. -/
def daysBeforeMonth (year month : Nat) : Nat := ((monthLengths year).take (month - 1)).sum

/-! ## Dates -/

/-- A year, a month and a day that make a date. -/
def Date.InRange (year month day : Nat) : Prop :=
  (1 ≤ year ∧ year ≤ 9999) ∧ (1 ≤ month ∧ month ≤ 12) ∧ (1 ≤ day ∧ day ≤ daysInMonth year month)

instance (year month day : Nat) : Decidable (Date.InRange year month day) := by
  unfold Date.InRange; infer_instance

/-- A date of the calendar. -/
structure Date where
  year : Nat
  month : Nat
  day : Nat
  inRange : Date.InRange year month day
  deriving DecidableEq

namespace Date

/-- The first day of the year 1970. -/
def epoch : Date := ⟨1970, 1, 1, by decide⟩

instance : Inhabited Date := ⟨epoch⟩

/-- The date with the given year, month and day, if there is one. -/
def of? (year month day : Nat) : Option Date :=
  if h : InRange year month day then some ⟨year, month, day, h⟩ else none

/-- The number of a date, where the first day of year 1 has the number 1. -/
def ordinal (d : Date) : Nat := daysBeforeYear d.year + daysBeforeMonth d.year d.month + d.day

/-- The first month, from `month` on, that day number `n` of the rest of the year falls into. -/
def monthOfDay (year : Nat) : Nat → List Nat → Nat → Option Date
  | _, [], _ => none
  | month, length :: rest, n =>
    if n ≤ length then of? year month n else monthOfDay year (month + 1) rest (n - length)

/-- The date with a number. -/
def ofOrdinal? (n : Nat) : Option Date :=
  let guess := n / 366 + 1
  let year := ((List.range 30).map (guess + ·)).reverse.find? fun y => daysBeforeYear y < n
  year.bind fun y => monthOfDay y 1 (monthLengths y) (n - daysBeforeYear y)

/-! ## Weeks -/

/-- The day of the week of a day number, where Monday is zero. -/
def weekday (ordinal : Nat) : Nat := (ordinal + 6) % 7

/-- The number of the Monday of the first week of a year: the week with its first Thursday. -/
def firstMonday (year : Nat) : Int :=
  let first := daysBeforeYear year + 1
  let day := weekday first
  let monday : Int := (first : Int) - day
  if 3 < day then monday + 7 else monday

/-- The number of weeks of a year. -/
def weeksInYear (year : Nat) : Nat :=
  let day := weekday (daysBeforeYear year + 1)
  if day = 3 || (day = 2 && isLeapYear year) then 53 else 52

/-- The date of a day, numbered from Monday as one, of a week of a year. -/
def ofWeek? (year week day : Nat) : Option Date :=
  if 1 ≤ year ∧ 1 ≤ week ∧ week ≤ weeksInYear year ∧ 1 ≤ day ∧ day ≤ 7 then
    let n := firstMonday year + ((week - 1) * 7 + (day - 1) : Nat)
    if 1 ≤ n then ofOrdinal? n.toNat else none
  else none

end Date

end RuleLabels
