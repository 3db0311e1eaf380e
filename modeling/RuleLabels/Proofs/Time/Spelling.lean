import Mathlib.Data.List.Basic
import Mathlib.Data.List.TakeWhile
import Mathlib.Tactic.Common
import RuleLabels.Proofs.Time.Iso

/-!
# Spelled moments

A moment has many texts in the international notation.  There may be blanks around it; the seconds may be left out
if there are none, and so may zeros at the end of the fraction, or more of them be there; and the distance from
universal time may be missing, a `Z` of either case or a number.  All of them are read as the same moment.

* `SpellsTime`, `SpellsZone` and `Spells`: the texts of a moment;
* `fraction?_of_spells`, `clock?_of_spells`, `time?_of_spells`: the parts of a time are read;
* `moment?_of_spells`: all texts of a moment are read as it;
* `moment?_text`: a timestamp is read as it is written.
-/

namespace RuleLabels.Iso

open Text

/-! ## The grammar -/

/-- Digits spell a number of microseconds behind the point: six of them, without some of the zeros at the end or with
more of them. -/
def SpellsFraction (micro : Nat) (ds : List Char) : Prop :=
  ds ≠ [] ∧ ∃ zeros, ds ++ List.replicate zeros '0' = padded 10 6 micro ∨
    ds = padded 10 6 micro ++ List.replicate zeros '0'

/-- The hours and minutes of a text. -/
def hourMinute (t : TimeOfDay) : List Char := padded 10 2 t.hour ++ ':' :: padded 10 2 t.minute

/-- A text of a time of day. -/
inductive SpellsTime (t : TimeOfDay) : List Char → Prop
  | minutes : t.second = 0 → t.microsecond = 0 → SpellsTime t (hourMinute t)
  | seconds : t.microsecond = 0 → SpellsTime t (hourMinute t ++ ':' :: padded 10 2 t.second)
  | fraction {ds : List Char} : SpellsFraction t.microsecond ds →
    SpellsTime t (hourMinute t ++ ':' :: (padded 10 2 t.second ++ '.' :: ds))

/-- A text of a distance from universal time. -/
inductive SpellsZone : Option Offset → List Char → Prop
  | absent : SpellsZone none []
  | zulu {c : Char} : c = 'Z' ∨ c = 'z' → SpellsZone (some .utc) [c]
  | offset (o : Offset) : SpellsZone (some o) o.text.toList

/-- A text of a moment: any one character parts the date from the time, and blanks are around it. -/
inductive Spells (m : Moment) : List Char → Prop
  | intro {before behind time zone : List Char} {mark : Char} : (∀ c ∈ before, isBlank c = true) →
    (∀ c ∈ behind, isBlank c = true) → mark.toNat < 0x80 → SpellsTime m.time time → SpellsZone m.offset zone →
    Spells m (before ++ (m.date.text.toList ++ mark :: (time ++ zone) ++ behind))

/-! ## Times -/

theorem dropWhile_zeros (zeros : Nat) :
    ((List.replicate zeros '0').map byte).dropWhile isDigit = [] := by
  induction zeros with
  | zero => rfl
  | succ zeros ih => exact ih

theorem fraction?_of_spells (after : UInt8) {micro : Nat} (hm : micro < 1000000) {ds : List Char}
    (h : SpellsFraction micro ds) : fraction? after (ds.map byte) = some (micro, decide (after ≠ 0)) := by
  obtain ⟨-, zeros, hds | rfl⟩ := h
  · -- zeros are left out
    have hall : ∀ c ∈ ds, c.isDigit = true := fun c hc =>
      isDigit_of_mem_padded (hds ▸ List.mem_append_left _ hc)
    have hlength : ds.length + zeros = 6 := by
      have h := congrArg List.length hds
      rwa [List.length_append, List.length_replicate, length_padded (by decide) hm] at h
    have hvalue := ofDigits_append_zeros ds zeros
    rw [hds, ofDigits_padded] at hvalue
    have hread := digits?_append hall []
    have hmin : min 6 (ds.map byte).length = ds.length := by
      rw [List.length_map]
      omega
    have hzeros : 6 - ds.length = zeros := by omega
    rw [List.append_nil] at hread
    rw [fraction?, hmin, hread]
    simp only [Option.bind_eq_bind, Option.bind_some, hzeros, ← hvalue]
    rfl
  · -- more zeros are there
    have hread := @digits?_padded 6 micro (by decide) hm ((List.replicate zeros '0').map byte)
    have hmin : min 6 ((padded 10 6 micro ++ List.replicate zeros '0').map byte).length = 6 := by
      rw [List.length_map, List.length_append, length_padded (by decide) hm]
      omega
    rw [fraction?, hmin, List.map_append, hread]
    simp only [Option.bind_eq_bind, Option.bind_some, Nat.sub_self, Nat.pow_zero, Nat.mul_one, dropWhile_zeros]
    rfl

/-- Every text of a time of day has its numbers. -/
theorem clock?_of_spells (after : UInt8) {t : TimeOfDay} {time : List Char} (h : SpellsTime t time) :
    ∃ fields, clock? after 2 none (time.map byte) = some ⟨fields, t.microsecond, decide (after ≠ 0)⟩ ∧
      fields.getD 0 0 = t.hour ∧ fields.getD 1 0 = t.minute ∧ fields.getD 2 0 = t.second := by
  obtain ⟨hh, hm, hs, hu⟩ := t.inRange
  cases h with
  | minutes hsecond hmicro =>
    refine ⟨[t.hour, t.minute], ?_, rfl, rfl, hsecond.symm⟩
    have hread := @clock?_minutes after t.hour t.minute (by omega) (by omega)
    rw [hourMinute, List.map_append, List.map_cons, hmicro]
    exact hread
  | seconds hmicro =>
    refine ⟨[t.hour, t.minute, t.second], ?_, rfl, rfl, rfl⟩
    have hread := @clock?_seconds after t.hour t.minute t.second (by omega)
      (by omega) (by omega)
    rw [hourMinute, List.append_assoc, List.cons_append, List.map_append, List.map_cons, List.map_append,
      List.map_cons, hmicro]
    exact hread
  | fraction hds =>
    refine ⟨[t.hour, t.minute, t.second], ?_, rfl, rfl, rfl⟩
    have hread := @clock?_fraction after t.hour t.minute t.second _ _ _ (by omega) (by omega) (by omega)
      (fun hnil => hds.1 (List.map_eq_nil_iff.1 hnil)) (fraction?_of_spells after (by omega) hds)
    rw [hourMinute, List.append_assoc, List.cons_append, List.map_append, List.map_cons, List.map_append,
      List.map_cons, List.map_append, List.map_cons]
    exact hread

theorem isDigit_of_spellsFraction {micro : Nat} {ds : List Char} (h : SpellsFraction micro ds) {c : Char}
    (hc : c ∈ ds) : c.isDigit = true := by
  obtain ⟨-, zeros, hds | rfl⟩ := h
  · exact isDigit_of_mem_padded (hds ▸ List.mem_append_left _ hc)
  · rcases List.mem_append.1 hc with hc | hc
    · exact isDigit_of_mem_padded hc
    · rw [List.eq_of_mem_replicate hc]
      rfl

theorem isClockChar_of_spellsTime {t : TimeOfDay} {time : List Char} (h : SpellsTime t time) {c : Char}
    (hc : c ∈ time) : IsClockChar c := by
  have hp : ∀ {w n : Nat}, c ∈ padded 10 w n → IsClockChar c := fun h => .inl (isDigit_of_mem_padded h)
  have hmark : ∀ {before behind : List Char}, (c ∈ before → IsClockChar c) → (c ∈ behind → IsClockChar c) →
      ∀ {d : Char}, IsClockChar d → c ∈ before ++ d :: behind → IsClockChar c := by
    intro before behind hbefore hbehind d hd hmem
    rcases List.mem_append.1 hmem with hmem | hmem
    · exact hbefore hmem
    · rcases List.mem_cons.1 hmem with rfl | hmem
      · exact hd
      · exact hbehind hmem
  have hcolon : IsClockChar ':' := .inr (.inl rfl)
  have hfirst : c ∈ hourMinute t → IsClockChar c := hmark hp hp hcolon
  cases h with
  | minutes _ _ => exact hfirst hc
  | seconds _ => exact hmark hfirst hp hcolon hc
  | fraction hds =>
    exact hmark hfirst (hmark hp (fun hc => .inl (isDigit_of_spellsFraction hds hc)) (.inr (.inr rfl))) hcolon hc

/-- A time of day is read with a distance that is written with a sign, and without one. -/
theorem time?_of_spells {t : TimeOfDay} {time : List Char} (h : SpellsTime t time) :
    time? (time.map byte) = some (t, none) ∧
      ∀ o : Offset, time? (time.map byte ++ o.text.toList.map byte) = some (t, some o) := by
  have hplain : ∀ b ∈ time.map byte, (!beginsOffset b) = true := by
    intro b hb
    obtain ⟨c, hc, rfl⟩ := List.mem_map.1 hb
    rw [not_beginsOffset_of_isClockChar (isClockChar_of_spellsTime h hc)]
    rfl
  have hfields : ∀ fields : List Nat, fields.getD 0 0 = t.hour ∧ fields.getD 1 0 = t.minute ∧
      fields.getD 2 0 = t.second → TimeOfDay.of? (fields.getD 0 0) (fields.getD 1 0) (fields.getD 2 0)
        t.microsecond = some t := by
    rintro fields ⟨hh, hm, hs⟩
    rw [hh, hm, hs]
    exact of?_time t
  constructor
  · obtain ⟨fields, hclock, hnumbers⟩ := clock?_of_spells 0 h
    have hpart : (time.map byte).takeWhile (!beginsOffset ·) = time.map byte := List.takeWhile_eq_self_iff.2 hplain
    rw [time?]
    simp only [hpart, List.drop_length, List.headD_nil, hclock, Option.bind_eq_bind, Option.bind_some,
      List.isEmpty_nil, if_true, ne_eq, not_true, decide_false, Bool.false_eq_true, if_false, hfields _ hnumbers]
    rfl
  · intro o
    have hsign : beginsOffset (byte (sign o)) = true := by
      rw [sign]
      split <;> decide
    have hpart : (time.map byte ++ o.text.toList.map byte).takeWhile (!beginsOffset ·) = time.map byte := by
      rw [List.takeWhile_append_of_pos hplain, toList_offset, List.map_cons, List.takeWhile_cons, hsign]
      simp
    have hne : (o.text.toList.map byte).isEmpty = false := by
      rw [toList_offset]
      rfl
    obtain ⟨fields, hclock, hnumbers⟩ := clock?_of_spells ((o.text.toList.map byte).headD 0) h
    rw [time?]
    simp only [hpart, List.drop_left, hclock, offset?_text, hne, Option.bind_eq_bind, Option.bind_some,
      Option.map_some, Bool.false_eq_true, if_false, hfields _ hnumbers]
    rfl

/-! ## Moments -/

/-- The distance from universal time as it is read: with a sign where there is one. -/
def zoneText (o : Option Offset) : List Char := (o.map fun o => o.text.toList).getD []

/-- A date, any character and a time are read as a moment. -/
theorem momentOfBytes?_of_spells {m : Moment} {time : List Char} {mark : Char} (hmark : mark.toNat < 0x80)
    (h : SpellsTime m.time time) :
    momentOfBytes? ((m.date.text.toList ++ mark :: (time ++ zoneText m.offset)).map byte) = some m := by
  obtain ⟨date, t, o⟩ := m
  have htime : time? ((time ++ zoneText o).map byte) = some (t, o) := by
    rw [List.map_append]
    cases o with
    | none => exact (congrArg time? (List.append_nil _)).trans (time?_of_spells h).1
    | some o => exact (time?_of_spells h).2 o
  have hlen := length_date date
  have hone : characterLength (byte mark) = 1 := by
    have hlt : byte mark < 0x80 := by
      rw [UInt8.lt_iff_toNat_lt, toNat_byte (by omega)]
      exact hmark
    rw [characterLength, if_pos hlt]
  show momentOfBytes? ((date.text.toList ++ mark :: (time ++ zoneText o)).map byte) = some ⟨date, t, o⟩
  rw [List.map_append, List.map_cons]
  obtain ⟨rest, hrest⟩ : ∃ rest, rest = (time ++ zoneText o).map byte := ⟨_, rfl⟩
  rw [← hrest] at htime ⊢
  have hmany : 10 < (date.text.toList.map byte ++ byte mark :: rest).length := by
    rw [List.length_append, hlen, List.length_cons]
    omega
  have hdrop : (byte mark :: rest).drop 1 = rest := rfl
  rw [momentOfBytes?, dateLength?_text, if_neg (by omega)]
  simp only [Option.bind_eq_bind, Option.bind_some, date?_text, if_neg (Nat.not_le.2 hmany),
    List.drop_left' hlen, List.headD_cons, hone, hdrop, htime]
  rfl

theorem endsInDigit_of_spellsTime {t : TimeOfDay} {time : List Char} (h : SpellsTime t time) :
    EndsInDigit time := by
  cases h with
  | minutes _ _ => exact .append (.cons (endsInDigit_padded 2 _) ':') _
  | seconds _ => exact .append (.cons (endsInDigit_padded 2 _) ':') _
  | @fraction ds hds =>
    have hend : EndsInDigit ds :=
      ⟨_, List.getLast?_eq_some_getLast hds.1, isDigit_of_spellsFraction hds (List.getLast_mem hds.1)⟩
    exact .append (.cons (.append (.cons hend '.') _) ':') _

theorem endsInDigit_zone {t : TimeOfDay} {time : List Char} (h : SpellsTime t time) (o : Option Offset) :
    EndsInDigit (time ++ zoneText o) := by
  cases o with
  | none => exact (List.append_nil time).symm ▸ endsInDigit_of_spellsTime h
  | some o =>
    have hend : EndsInDigit o.text.toList := by
      rw [toList_offset]
      exact .cons (endsInDigit_distance _) _
    exact hend.append time

/-- A `Z` at the end of a text is the distance zero, and other texts of distances stay. -/
theorem spellZulu_of_spells {t : TimeOfDay} {time zone : List Char} {o : Option Offset} (h : SpellsTime t time)
    (hzone : SpellsZone o zone) (before : List Char) :
    spellZulu (before ++ (time ++ zone)) = before ++ (time ++ zoneText o) := by
  cases hzone with
  | absent => exact spellZulu_of_endsInDigit ((endsInDigit_zone h none).append before)
  | offset o => exact spellZulu_of_endsInDigit ((endsInDigit_zone h (some o)).append before)
  | @zulu c hc =>
    have hutc : zoneText (some .utc) = "+00:00".toList := by decide
    have hreverse : (before ++ time ++ [c]).reverse = c :: (before ++ time).reverse := List.reverse_concat
    rw [← List.append_assoc, ← List.append_assoc, hutc, spellZulu, hreverse]
    simp only [if_pos hc, List.reverse_reverse]

/-- The last character of a text of a moment is a digit or a `Z`. -/
theorem not_isBlank_getLast_of_spells {t : TimeOfDay} {time zone : List Char} {o : Option Offset}
    (h : SpellsTime t time) (hzone : SpellsZone o zone) :
    ∃ d ∈ (time ++ zone).getLast?, isBlank d = false := by
  have hdigit : EndsInDigit (time ++ zone) → ∃ d ∈ (time ++ zone).getLast?, isBlank d = false := by
    rintro ⟨d, hd, hdigit⟩
    exact ⟨d, hd, isBlank_of_isDigit hdigit⟩
  cases hzone with
  | absent => exact hdigit (endsInDigit_zone h none)
  | offset o => exact hdigit (endsInDigit_zone h (some o))
  | @zulu c hc =>
    refine ⟨c, List.getLast?_concat, ?_⟩
    rcases hc with rfl | rfl
    · rfl
    · rfl

/-- A date begins with a digit. -/
theorem exists_cons_date (d : Date) : ∃ c rest, d.text.toList = c :: rest ∧ c.isDigit = true := by
  rw [toList_date]
  have hne : padded 10 4 d.year ≠ [] := by
    rw [padded]
    simp
  obtain ⟨c, rest, hc⟩ := List.exists_cons_of_ne_nil hne
  have hd : c.isDigit = true := isDigit_of_mem_padded (hc ▸ List.mem_cons_self)
  rw [hc]
  exact ⟨c, _, rfl, hd⟩

/-- A text of a moment is more than blanks. -/
theorem exists_not_isBlank_of_spells {m : Moment} {s : List Char} (h : Spells m s) : ∃ c ∈ s, isBlank c = false := by
  cases h with
  | intro _ _ _ _ _ =>
    obtain ⟨c, rest, hdate, hdigit⟩ := exists_cons_date m.date
    refine ⟨c, ?_, isBlank_of_isDigit hdigit⟩
    rw [hdate]
    simp

theorem isAscii_of_isClockChar {c : Char} (h : IsClockChar c) : c.toNat < 0x80 := by
  rcases h with hd | rfl | rfl
  · have := (toNat_of_isDigit hd).2
    omega
  · decide
  · decide

theorem isAscii_of_mem_date {d : Date} {c : Char} (h : c ∈ d.text.toList) : c.toNat < 0x80 := by
  have hp : ∀ {w n : Nat}, c ∈ padded 10 w n → c.toNat < 0x80 :=
    fun h => isAscii_of_isClockChar (.inl (isDigit_of_mem_padded h))
  rw [toList_date] at h
  simp only [List.mem_append, List.mem_cons] at h
  rcases h with h | rfl | h | rfl | h
  · exact hp h
  · decide
  · exact hp h
  · decide
  · exact hp h

theorem isAscii_of_mem_zoneText {o : Option Offset} {c : Char} (h : c ∈ zoneText o) : c.toNat < 0x80 := by
  cases o with
  | none => exact nomatch h
  | some o =>
    rw [show zoneText (some o) = o.text.toList from rfl, toList_offset] at h
    rcases List.mem_cons.1 h with rfl | h
    · rw [sign]
      split <;> decide
    · exact isAscii_of_isClockChar (isClockChar_of_mem_distance h)

/-- The text that is taken apart has no other characters than those of dates and times, and the mark. -/
theorem isAscii_of_mem_parts {d : Date} {t : TimeOfDay} {o : Option Offset} {time : List Char} {mark : Char}
    (hmark : mark.toNat < 0x80) (h : SpellsTime t time) {c : Char}
    (hc : c ∈ d.text.toList ++ mark :: (time ++ zoneText o)) : c.toNat < 0x80 := by
  simp only [List.mem_append, List.mem_cons] at hc
  rcases hc with hc | rfl | hc | hc
  · exact isAscii_of_mem_date hc
  · exact hmark
  · exact isAscii_of_isClockChar (isClockChar_of_spellsTime h hc)
  · exact isAscii_of_mem_zoneText hc

/-- Every text of a moment is read as it. -/
theorem moment?_of_spells {m : Moment} {s : List Char} (h : Spells m s) : moment? (String.ofList s) = some m := by
  cases h with
  | @intro before behind time zone mark hbefore hbehind hmark htime hzone =>
    obtain ⟨c, rest, hdate, hdigit⟩ := exists_cons_date m.date
    obtain ⟨d, hd, hlast⟩ := not_isBlank_getLast_of_spells htime hzone
    have htrim := trim_append (s := m.date.text.toList ++ mark :: (time ++ zone)) (c := c) (d := d) hbefore hbehind
      (by rw [hdate]; rfl) (by
        rw [List.getLast?_append, List.getLast?_cons, Option.mem_def.1 hd]
        rfl) (isBlank_of_isDigit hdigit) hlast
    have hzulu := spellZulu_of_spells htime hzone (m.date.text.toList ++ [mark])
    rw [List.append_assoc, List.append_assoc, List.singleton_append, List.singleton_append] at hzulu
    rw [moment?, htrim, String.toList_ofList, hzulu,
      utf8Bytes_of_ascii fun _ hc => isAscii_of_mem_parts hmark htime hc]
    exact momentOfBytes?_of_spells hmark htime

/-! ## Written timestamps -/

theorem spellsTime_text (t : TimeOfDay) : SpellsTime t t.text.toList := by
  rw [TimeOfDay.text]
  by_cases h : t.microsecond = 0
  · have htext := SpellsTime.seconds (t := t) h
    simpa [h, hourMinute, paddedDecimal] using htext
  · have hdigits : SpellsFraction t.microsecond (padded 10 6 t.microsecond) :=
      ⟨by simp [padded], 0, .inl (List.append_nil _)⟩
    have htext := SpellsTime.fraction hdigits
    simpa [h, hourMinute, paddedDecimal] using htext

theorem toList_timestamp (t : Timestamp) :
    t.text.toList = t.date.text.toList ++ 'T' :: (t.time.text.toList ++ zoneText (some t.offset)) := by
  simp [Timestamp.text, Moment.text, Moment.textWith, Timestamp.toMoment, zoneText]

/-- What is written for a timestamp is one of its texts. -/
theorem spells_text (t : Timestamp) : Spells t.toMoment t.text.toList := by
  have htext : Spells t.toMoment ([] ++ (t.date.text.toList ++ 'T' :: (t.time.text.toList ++ t.offset.text.toList) ++
      [])) :=
    .intro nofun nofun (by decide) (spellsTime_text t.time) (.offset t.offset)
  rw [List.append_nil, List.nil_append] at htext
  rw [toList_timestamp]
  exact htext

theorem isAscii_of_mem_timestamp {t : Timestamp} {c : Char} (h : c ∈ t.text.toList) : c.toNat < 0x80 :=
  isAscii_of_mem_parts (show 'T'.toNat < 0x80 by decide) (spellsTime_text t.time) (toList_timestamp t ▸ h)

/-- A written timestamp is read back whole. -/
theorem moment?_text (t : Timestamp) : moment? t.text = some t.toMoment := by
  have hread := moment?_of_spells (spells_text t)
  rwa [String.ofList_toList] at hread

theorem not_allBlank_timestamp (t : Timestamp) : allBlank t.text = false := by
  rw [allBlank, List.all_eq_false]
  simpa using exists_not_isBlank_of_spells (spells_text t)

end RuleLabels.Iso
