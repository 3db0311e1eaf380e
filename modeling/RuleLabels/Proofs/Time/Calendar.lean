import Mathlib.Data.List.Basic
import Mathlib.Tactic.Common
import Mathlib.Tactic.IntervalCases
import RuleLabels.Time.Moment

/-!
# Instants and the calendar

The days of the calendar are numbered without a gap, over the ends of months and of years.  So an instant that is
told at one distance from universal time is told at every other one as well, on the day before or behind where it
has to be, unless it falls out of the years that the calendar has.

* `daysBeforeMonth_succ` and `daysBeforeYear_succ`: the lengths of months and years add up;
* `Date.exists_next`: the number of a day is followed by that of another one;
* `Date.exists_ordinal_eq` and `TimeOfDay.exists_sinceMidnight_eq`: every number is that of a day or a time;
* `Timestamp.exists_instant_eq`: an instant is told at any distance from universal time.
-/

namespace RuleLabels

/-! ## Months and years -/

theorem daysBeforeMonth_succ (year : Nat) {month : Nat} (h : 1 ≤ month) :
    daysBeforeMonth year (month + 1) = daysBeforeMonth year month + daysInMonth year month := by
  obtain ⟨i, rfl⟩ : ∃ i, month = i + 1 := ⟨month - 1, by omega⟩
  rw [daysBeforeMonth, daysBeforeMonth, daysInMonth, Nat.add_sub_cancel, Nat.add_sub_cancel, List.take_add_one,
    List.sum_append, List.getD_eq_getElem?_getD]
  cases (monthLengths year)[i]? with
  | none => rfl
  | some n => simp

/-- The days of a year. -/
theorem daysBeforeMonth_end (year : Nat) :
    daysBeforeMonth year 13 = if isLeapYear year then 366 else 365 := by
  rw [daysBeforeMonth, monthLengths]
  cases isLeapYear year with
  | false => decide
  | true => decide

theorem daysBeforeYear_succ {year : Nat} (h : 1 ≤ year) :
    daysBeforeYear (year + 1) = daysBeforeYear year + daysBeforeMonth year 13 := by
  obtain ⟨y, rfl⟩ : ∃ y, year = y + 1 := ⟨year - 1, by omega⟩
  have hle : y / 100 ≤ y / 4 := by omega
  have hquarter : 100 ∣ y + 1 → 4 ∣ y + 1 := Nat.dvd_trans (by decide)
  have hcentury : 400 ∣ y + 1 → 100 ∣ y + 1 := Nat.dvd_trans (by decide)
  have hleap : isLeapYear (y + 1) = true ↔ 4 ∣ y + 1 ∧ (¬ 100 ∣ y + 1 ∨ 400 ∣ y + 1) := by
    simp [isLeapYear, Nat.dvd_iff_mod_eq_zero]
  rw [daysBeforeMonth_end, if_congr hleap rfl rfl]
  simp only [daysBeforeYear, Nat.add_sub_cancel, Nat.succ_div]
  -- a leap day is there every four years, but not every hundred years unless it is the four-hundredth
  by_cases h4 : 4 ∣ y + 1
  · by_cases h100 : 100 ∣ y + 1
    · by_cases h400 : 400 ∣ y + 1
      · simp only [h4, h100, h400, if_true, not_true, or_true, and_true]
        omega
      · simp only [h4, h100, h400, if_true, not_true, or_false, and_false, if_false]
        omega
    · simp only [h4, h100, mt hcentury h100, if_true, not_false_iff, or_false, and_true, if_false]
      omega
  · simp only [h4, mt hquarter h4, mt (hquarter ∘ hcentury) h4, false_and, if_false]
    omega

theorem daysInMonth_pos (year : Nat) {month : Nat} (h : 1 ≤ month) (h' : month ≤ 12) :
    1 ≤ daysInMonth year month := by
  rw [daysInMonth, monthLengths]
  cases isLeapYear year with
  | false => interval_cases month <;> decide
  | true => interval_cases month <;> decide

/-! ## Days -/

namespace Date

/-- The number of the last day of the calendar. -/
def lastOrdinal : Nat := 3652059

/-- Behind a day there is another one: in its month, on the first of the next month or on that of the next year. -/
theorem exists_next (d : Date) (h : d.ordinal < lastOrdinal) : ∃ e : Date, e.ordinal = d.ordinal + 1 := by
  obtain ⟨year, month, day, hd⟩ := d
  obtain ⟨⟨hy, hy'⟩, ⟨hm, hm'⟩, hday, hday'⟩ := id hd
  have hmonth := daysBeforeMonth_succ year hm
  have hyear := daysBeforeYear_succ hy
  simp only [ordinal] at h ⊢
  by_cases hlastDay : day < daysInMonth year month
  · exact ⟨⟨year, month, day + 1, hd.1, hd.2.1, by omega, hlastDay⟩, rfl⟩
  · have heq : day = daysInMonth year month := by omega
    by_cases hlastMonth : month < 12
    · have hpos : 1 ≤ daysInMonth year (month + 1) := daysInMonth_pos year (by omega) (by omega)
      refine ⟨⟨year, month + 1, 1, hd.1, by omega, by omega, hpos⟩, ?_⟩
      show daysBeforeYear year + daysBeforeMonth year (month + 1) + 1 = _
      omega
    · have hlast : month = 12 := by omega
      subst hlast
      have hmonth : daysBeforeMonth year 13 = daysBeforeMonth year 12 + daysInMonth year 12 := hmonth
      by_cases hlastYear : year < 9999
      · refine ⟨⟨year + 1, 1, 1, by omega, by decide, by decide, daysInMonth_pos _ (by decide) (by decide)⟩, ?_⟩
        show daysBeforeYear (year + 1) + 0 + 1 = _
        omega
      · have hlast : year = 9999 := by omega
        subst hlast
        have hyear : lastOrdinal = daysBeforeYear 9999 + daysBeforeMonth 9999 13 := hyear
        omega

/-- Every number from one to the last one is that of a day. -/
theorem exists_ordinal_eq {n : Nat} (h : 1 ≤ n) (h' : n ≤ lastOrdinal) : ∃ d : Date, d.ordinal = n := by
  induction n, h using Nat.le_induction with
  | base => exact ⟨⟨1, 1, 1, by decide⟩, by decide⟩
  | succ n _ ih =>
    obtain ⟨d, rfl⟩ := ih (by omega)
    exact exists_next d h'

end Date

/-! ## Instants -/

/-- Every number of microseconds that is less than a day is that of a time of day. -/
theorem TimeOfDay.exists_sinceMidnight_eq {n : Nat} (h : n < dayLength) : ∃ t : TimeOfDay, t.sinceMidnight = n := by
  rw [dayLength] at h
  refine ⟨⟨n / 3600000000, n / 60000000 % 60, n / 1000000 % 60, n % 1000000, by omega, by omega, by omega, by omega⟩,
    ?_⟩
  simp only [sinceMidnight]
  omega

/-- An instant is told at any distance from universal time at which its local date is one of the calendar. -/
theorem Timestamp.exists_instant_eq (t : Timestamp) (o : Offset)
    (h : (dayLength : Int) ≤ t.instant + o.microseconds)
    (h' : t.instant + o.microseconds < (Date.lastOrdinal + 1) * dayLength) :
    ∃ u : Timestamp, u.offset = o ∧ u.instant = t.instant := by
  obtain ⟨n, hn⟩ : ∃ n : Nat, (n : Int) = t.instant + o.microseconds := ⟨_, Int.toNat_of_nonneg (by omega)⟩
  have hday : 0 < dayLength := by decide
  have hle : dayLength ≤ n := by omega
  have hlt : n < (Date.lastOrdinal + 1) * dayLength := by
    rw [← hn] at h'
    exact_mod_cast h'
  obtain ⟨d, hd⟩ := Date.exists_ordinal_eq (n := n / dayLength) (Nat.div_pos hle hday)
    (Nat.lt_succ_iff.1 (Nat.div_lt_of_lt_mul (by rwa [Nat.mul_comm])))
  obtain ⟨time, htime⟩ := TimeOfDay.exists_sinceMidnight_eq (Nat.mod_lt n hday)
  refine ⟨⟨d, time, o⟩, rfl, ?_⟩
  show ((d.ordinal * dayLength + time.sinceMidnight : Nat) : Int) - o.microseconds = t.instant
  rw [hd, htime, Nat.div_add_mod', hn]
  omega

end RuleLabels
