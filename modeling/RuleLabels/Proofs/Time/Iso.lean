import Mathlib.Data.List.Basic
import Mathlib.Data.List.GetD
import Mathlib.Tactic.Common
import RuleLabels.Proofs.Text.Digits
import RuleLabels.Time.Iso

/-!
# The parts of timestamps

The reader of the international notation takes a text apart and reads a date, a time and a distance from universal
time.  Dates and distances have one form in which they are written, and it is read back to the finest part.

* `clock?_minutes`, `clock?_seconds` and `clock?_fraction` read the three forms of a clock, which times and
  offsets share;
* `offset?_text`, `dateLength?_text` and `date?_text` read distances and dates;
* `spellZulu_of_endsInDigit` and `trim_append`: what is done to a text before it is taken apart.
-/

namespace RuleLabels.Iso

open Text

/-! ## Digits -/

theorem toNat_byte {c : Char} (h : c.toNat < 0x100) : (byte c).toNat = c.toNat := by
  rw [byte, Nat.toUInt8, UInt8.toNat_ofNat', Nat.mod_eq_of_lt h]

theorem isDigit_byte {c : Char} (h : c.isDigit = true) : isDigit (byte c) = true := by
  obtain ⟨hlow, hhigh⟩ := toNat_of_isDigit h
  have hb : (byte c).toNat = c.toNat := toNat_byte (by omega)
  rw [isDigit, Bool.and_eq_true, decide_eq_true_eq, decide_eq_true_eq, UInt8.le_iff_toNat_le,
    UInt8.le_iff_toNat_le, hb]
  exact ⟨hlow, hhigh⟩

/-- Digits are read as the number that they spell, whatever follows them. -/
theorem digits?_append {ds : List Char} (hds : ∀ c ∈ ds, c.isDigit = true) (rest : List UInt8) :
    digits? ds.length (ds.map byte ++ rest) = some (ofDigits 10 (ds.map fun c => c.toNat - 0x30), rest) := by
  have hlen : (ds.map byte).length = ds.length := List.length_map _
  have hall : (ds.map byte).all isDigit = true := by
    rw [List.all_map, List.all_eq_true]
    intro c hc
    exact isDigit_byte (hds c hc)
  have hvalues : (ds.map byte).map (fun b => b.toNat - 0x30) = ds.map fun c => c.toNat - 0x30 := by
    rw [List.map_map]
    refine List.map_congr_left fun c hc => ?_
    have := (toNat_of_isDigit (hds c hc)).2
    rw [Function.comp, toNat_byte (by omega)]
  simp only [digits?]
  rw [List.take_left' hlen, List.drop_left' hlen, if_pos ⟨hlen, hall⟩, hvalues]

/-- A written number of `width` digits is read back, whatever follows it. -/
theorem digits?_padded {width n : Nat} (hw : 0 < width) (h : n < 10 ^ width) (rest : List UInt8) :
    digits? width ((padded 10 width n).map byte ++ rest) = some (n, rest) := by
  have hread := digits?_append (fun c hc => isDigit_of_mem_padded (hc : c ∈ padded 10 width n)) rest
  rwa [length_padded hw h, ofDigits_padded] at hread

/-! ## Clocks -/

/-- The bytes of a number of two digits. -/
abbrev two (n : Nat) : List UInt8 := (padded 10 2 n).map byte

/-- The bytes of a number of six digits. -/
abbrev six (n : Nat) : List UInt8 := (padded 10 6 n).map byte

theorem two_ne_nil (n : Nat) : two n ≠ [] := by
  rw [two, padded]
  simp

theorem clock?_end (after : UInt8) (more : Nat) (colons : Option Bool) {n : Nat} (h : n < 100) :
    clock? after more colons (two n) = some ⟨[n], 0, after ≠ 0⟩ := by
  have hd := @digits?_padded 2 n (by decide) h []
  rw [List.append_nil] at hd
  rw [clock?, hd]
  rfl

/-- A colon after a number calls for the next one. -/
theorem clock?_colon (after : UInt8) (more : Nat) {colons : Option Bool} (hc : colons.getD true = true)
    {n : Nat} (h : n < 100) {rest : List UInt8} (hr : rest ≠ []) :
    clock? after (more + 1) colons (two n ++ byte ':' :: rest) =
      (clock? after more (some true) rest).map fun k => { k with fields := n :: k.fields } := by
  obtain ⟨b, tail, rfl⟩ := List.exists_cons_of_ne_nil hr
  rw [clock?, @digits?_padded 2 n (by decide) h]
  simp only [Option.bind_eq_bind, Option.bind_some, decide_true, hc, Bool.and_true, Bool.not_true,
    Bool.false_and, ne_eq, not_true, decide_false, Bool.and_false, if_true, Bool.false_eq_true, if_false]
  cases clock? after more (some true) (b :: tail) with
  | none => rfl
  | some k => rfl

theorem fraction?_six (after : UInt8) {micro : Nat} (h : micro < 1000000) :
    fraction? after (six micro) = some (micro, decide (after ≠ 0)) := by
  have hd := @digits?_padded 6 micro (by decide) h []
  rw [List.append_nil] at hd
  have hlen : (six micro).length = 6 := by
    rw [List.length_map, length_padded (by decide) h]
  rw [fraction?, hlen, Nat.min_self, hd]
  simp only [Option.bind_eq_bind, Option.bind_some, Nat.sub_self, Nat.pow_zero, Nat.mul_one]
  rfl

theorem six_ne_nil (n : Nat) : six n ≠ [] := by
  rw [six, padded]
  simp

/-- A point after a number calls for a fraction. -/
theorem clock?_point {after : UInt8} (more : Nat) {n micro : Nat} {followed : Bool} {s : List UInt8}
    (h : n < 100) (hs : s ≠ []) (hfraction : fraction? after s = some (micro, followed)) :
    clock? after more (some true) (two n ++ byte '.' :: s) = some ⟨[n], micro, followed⟩ := by
  obtain ⟨b, tail, rfl⟩ := List.exists_cons_of_ne_nil hs
  have hcolon : decide (byte '.' = byte ':') = false := by decide
  rw [clock?, @digits?_padded 2 n (by decide) h]
  simp only [Option.bind_eq_bind, Option.bind_some, hcolon, Bool.and_false, Bool.not_false, decide_true,
    Bool.true_or, Bool.and_true, if_true, hfraction]
  rfl

/-- Hours and minutes. -/
theorem clock?_minutes (after : UInt8) {hour minute : Nat} (hh : hour < 100) (hm : minute < 100) :
    clock? after 2 none (two hour ++ byte ':' :: two minute) = some ⟨[hour, minute], 0, after ≠ 0⟩ := by
  rw [clock?_colon after 1 rfl hh (two_ne_nil minute), clock?_end after 1 _ hm]
  rfl

/-- Hours, minutes and seconds. -/
theorem clock?_seconds (after : UInt8) {hour minute second : Nat} (hh : hour < 100) (hm : minute < 100)
    (hs : second < 100) :
    clock? after 2 none (two hour ++ byte ':' :: (two minute ++ byte ':' :: two second)) =
      some ⟨[hour, minute, second], 0, after ≠ 0⟩ := by
  rw [clock?_colon after 1 rfl hh (by simp), clock?_colon after 0 rfl hm (two_ne_nil second),
    clock?_end after 0 _ hs]
  rfl

/-- Hours, minutes, seconds and a fraction. -/
theorem clock?_fraction {after : UInt8} {hour minute second micro : Nat} {followed : Bool} {s : List UInt8}
    (hh : hour < 100) (hm : minute < 100) (hs : second < 100) (hne : s ≠ [])
    (hfraction : fraction? after s = some (micro, followed)) :
    clock? after 2 none (two hour ++ byte ':' :: (two minute ++ byte ':' ::
      (two second ++ byte '.' :: s))) = some ⟨[hour, minute, second], micro, followed⟩ := by
  rw [clock?_colon after 1 rfl hh (by simp), clock?_colon after 0 rfl hm (by simp),
    clock?_point 0 hs hne hfraction]
  rfl

/-! ## Times of day -/

theorem of?_time (t : TimeOfDay) : TimeOfDay.of? t.hour t.minute t.second t.microsecond = some t := by
  rw [TimeOfDay.of?, dif_pos t.inRange]

/-! ## Offsets -/

/-- The sign of an offset. -/
def sign (o : Offset) : Char := if o.microseconds < 0 then '-' else '+'

/-- A number of microseconds without its sign, as offsets write it. -/
def distance (n : Nat) : List Char :=
  padded 10 2 (n / 1000000 / 3600) ++ ':' :: (padded 10 2 (n / 1000000 / 60 % 60) ++
    ((if n / 1000000 % 60 = 0 ∧ n % 1000000 = 0 then [] else ':' :: padded 10 2 (n / 1000000 % 60)) ++
      if n % 1000000 = 0 then [] else '.' :: padded 10 6 (n % 1000000)))

theorem toList_offset (o : Offset) : o.text.toList = sign o :: distance o.microseconds.natAbs := by
  rw [Offset.text, sign, distance]
  simp only [String.toList_append, paddedDecimal, String.toList_ofList, apply_ite String.toList]
  split <;> split <;> split <;> simp

/-- The clock of an offset gives its seconds and what is finer. -/
theorem clock?_distance {n : Nat} (hday : n < 86400000000) :
    ∃ k, clock? 0 2 none ((distance n).map byte) = some k ∧ k.followed = false ∧
      k.fields.getD 0 0 * 3600 + k.fields.getD 1 0 * 60 + k.fields.getD 2 0 = n / 1000000 ∧
      k.microsecond = n % 1000000 := by
  have hh : n / 1000000 / 3600 < 100 := by omega
  have hm : n / 1000000 / 60 % 60 < 100 := by omega
  have hs : n / 1000000 % 60 < 100 := by omega
  have hu : n % 1000000 < 1000000 := by omega
  have hsum : n / 1000000 / 3600 * 3600 + n / 1000000 / 60 % 60 * 60 + n / 1000000 % 60 = n / 1000000 := by
    omega
  rw [distance]
  by_cases hmicro : n % 1000000 = 0
  · by_cases hsecond : n / 1000000 % 60 = 0
    · rw [if_pos ⟨hsecond, hmicro⟩, if_pos hmicro]
      refine ⟨⟨[n / 1000000 / 3600, n / 1000000 / 60 % 60], 0, false⟩, ?_, rfl, ?_, hmicro.symm⟩
      · simpa using clock?_minutes 0 hh hm
      · rw [hsecond] at hsum
        exact hsum
    · rw [if_neg fun h => hsecond h.1, if_pos hmicro]
      refine ⟨⟨[n / 1000000 / 3600, n / 1000000 / 60 % 60, n / 1000000 % 60], 0, false⟩, ?_, rfl, hsum,
        hmicro.symm⟩
      simpa using clock?_seconds 0 hh hm hs
  · rw [if_neg fun h => hmicro h.2, if_neg hmicro]
    refine ⟨⟨[n / 1000000 / 3600, n / 1000000 / 60 % 60, n / 1000000 % 60], n % 1000000, false⟩, ?_, rfl,
      hsum, rfl⟩
    simpa using clock?_fraction hh hm hs (six_ne_nil _) (fraction?_six 0 hu)

theorem offset?_text (o : Offset) : offset? (o.text.toList.map byte) = some o := by
  obtain ⟨hfine, hday⟩ := o.inRange
  obtain ⟨k, hk, hend, hseconds, hmicro⟩ := clock?_distance (Nat.lt_of_lt_of_eq hday dayLength.eq_def)
  have hsign : byte (sign o) ≠ byte 'Z' := by
    rw [sign]
    split <;> decide
  rw [toList_offset, List.map_cons, offset?, List.headD_cons, if_neg hsign, List.tail_cons]
  simp only [hk, hend, hseconds, hmicro, Option.bind_eq_bind, Option.bind_some, Bool.false_eq_true,
    if_false]
  by_cases hzero : o.microseconds.natAbs / 1000000 = 0
  · -- an offset of no whole second is zero
    have hutc : o.microseconds = 0 := by omega
    rw [if_pos hzero]
    cases o
    cases hutc
    rfl
  · rw [if_neg hzero]
    have hback : (if byte (sign o) = byte '-' then
        -((o.microseconds.natAbs / 1000000 * 1000000 + o.microseconds.natAbs % 1000000 : Nat) : Int)
        else ((o.microseconds.natAbs / 1000000 * 1000000 + o.microseconds.natAbs % 1000000 : Nat) : Int)) =
          o.microseconds := by
      rw [sign]
      by_cases hneg : o.microseconds < 0
      · rw [if_pos hneg, if_pos rfl]
        omega
      · rw [if_neg hneg, if_neg (by decide)]
        omega
    rw [hback, Offset.of?, dif_pos o.inRange]

/-! ## Dates -/

theorem daysInMonth_le (year month : Nat) : daysInMonth year month ≤ 31 := by
  rw [daysInMonth, List.getD_eq_getElem?_getD]
  cases h : (monthLengths year)[month - 1]? with
  | none => simp
  | some length =>
    have hmem := List.mem_of_getElem? h
    have hall : ∀ n ∈ monthLengths year, n ≤ 31 := by
      rw [monthLengths]
      split <;> simp
    exact hall length hmem

theorem toList_date (d : Date) :
    d.text.toList = padded 10 4 d.year ++ '-' :: (padded 10 2 d.month ++ '-' :: padded 10 2 d.day) := by
  simp [Date.text, paddedDecimal]

/-- A number of two digits has two bytes, which are digits. -/
theorem exists_two {n : Nat} (h : n < 100) :
    ∃ a b, two n = [a, b] ∧ isDigit a = true ∧ isDigit b = true := by
  have hlen := @length_padded 2 n (by decide) h
  obtain ⟨c, d, hcd⟩ := List.length_eq_two.1 hlen
  have hdigit : ∀ e ∈ [c, d], e.isDigit = true := by
    intro e he
    exact isDigit_of_mem_padded (hcd ▸ he)
  refine ⟨byte c, byte d, ?_, isDigit_byte (hdigit c (by simp)), isDigit_byte (hdigit d (by simp))⟩
  rw [two, hcd]
  rfl

theorem ne_of_isDigit {b c : UInt8} (hb : isDigit b = true) (hc : isDigit c = false) : b ≠ c := by
  rintro rfl
  rw [hb] at hc
  exact nomatch hc

/-- The bytes of a date with dashes are read back as the date, whatever follows them. -/
theorem date?_text (d : Date) (rest : List UInt8) :
    date? 10 (d.text.toList.map byte ++ rest) = some d := by
  obtain ⟨⟨-, hy⟩, ⟨-, hm⟩, -, hd⟩ := d.inRange
  have hday := daysInMonth_le d.year d.month
  obtain ⟨a, b, hab, ha, -⟩ := @exists_two d.month (by omega)
  have hw : a ≠ byte 'W' := ne_of_isDigit ha (by decide)
  have hyear := @digits?_padded 4 d.year (by decide) (by omega)
    (byte '-' :: (two d.month ++ byte '-' :: (two d.day ++ rest)))
  have hmonth := @digits?_padded 2 d.month (by decide) (by omega) (byte '-' :: (two d.day ++ rest))
  have hread := @digits?_padded 2 d.day (by decide) (by omega) rest
  have hhead : (two d.month ++ byte '-' :: (two d.day ++ rest)).headD 0 = a := by rw [hab]; rfl
  rw [toList_date]
  simp only [List.map_append, List.map_cons, List.append_assoc, List.cons_append]
  rw [date?, hyear]
  simp only [Option.bind_eq_bind, Option.bind_some, List.headD_cons, decide_true, if_true, List.tail_cons]
  rw [hhead, if_neg hw, hmonth]
  simp only [Option.bind_some, dash?, List.headD_cons, if_true, List.tail_cons, hread]
  rw [Date.of?, dif_pos d.inRange]

theorem length_date (d : Date) : (d.text.toList.map byte).length = 10 := by
  obtain ⟨⟨-, hy⟩, ⟨-, hm⟩, -, hd⟩ := d.inRange
  have hday := daysInMonth_le d.year d.month
  have hyear := @length_padded 4 d.year (by decide) (by omega)
  have hmonth := @length_padded 2 d.month (by decide) (by omega)
  have hread := @length_padded 2 d.day (by decide) (by omega)
  rw [List.length_map, toList_date, List.length_append, List.length_cons, List.length_append,
    List.length_cons, hyear, hmonth, hread]

/-- A date with dashes is ten bytes long. -/
theorem dateLength?_text (d : Date) (rest : List UInt8) :
    dateLength? (d.text.toList.map byte ++ rest) = some 10 := by
  obtain ⟨⟨-, hy⟩, ⟨-, hm⟩, -⟩ := d.inRange
  have hseven : (d.text.toList.map byte ++ rest).length ≠ 7 := by
    rw [List.length_append, length_date]
    omega
  obtain ⟨a, b, hab, ha, -⟩ := @exists_two d.month (by omega)
  have hw : a ≠ byte 'W' := ne_of_isDigit ha (by decide)
  have hyear := @length_padded 4 d.year (by decide) (by omega)
  have hfour : (d.text.toList.map byte ++ rest).getD 4 0 = byte '-' := by
    rw [toList_date, List.map_append, List.append_assoc, List.getD_append_right _ _ _ _ (by simp [hyear])]
    simp [hyear]
  have hfive : (d.text.toList.map byte ++ rest).getD 5 0 = a := by
    rw [toList_date, List.map_append, List.append_assoc, List.getD_append_right _ _ _ _ (by simp [hyear]),
      List.length_map, hyear, List.map_cons, List.map_append]
    simp [hab]
  rw [dateLength?]
  simp only [if_neg hseven, hfour, if_true, hfive, if_neg hw]

/-! ## Parts of texts -/

/-- The characters of times and of distances. -/
def IsClockChar (c : Char) : Prop := c.isDigit = true ∨ c = ':' ∨ c = '.'

theorem isClockChar_of_mem_distance {n : Nat} {c : Char} (h : c ∈ distance n) : IsClockChar c := by
  have hp : ∀ {w n : Nat}, c ∈ padded 10 w n → IsClockChar c := fun h => .inl (isDigit_of_mem_padded h)
  rw [distance] at h
  simp only [List.mem_append, List.mem_cons] at h
  rcases h with h | rfl | h | h | h
  · exact hp h
  · exact .inr (.inl rfl)
  · exact hp h
  · split at h
    · exact nomatch h
    · rcases List.mem_cons.1 h with rfl | h
      · exact .inr (.inl rfl)
      · exact hp h
  · split at h
    · exact nomatch h
    · rcases List.mem_cons.1 h with rfl | h
      · exact .inr (.inr rfl)
      · exact hp h

theorem not_beginsOffset_of_isClockChar {c : Char} (h : IsClockChar c) :
    beginsOffset (byte c) = false := by
  rcases h with h | rfl | rfl
  · have hb := isDigit_byte h
    rw [beginsOffset, decide_eq_false (ne_of_isDigit hb (by decide)),
      decide_eq_false (ne_of_isDigit hb (by decide)), decide_eq_false (ne_of_isDigit hb (by decide))]
    rfl
  · decide
  · decide

/-! ## Ends of texts -/

/-- The last character of a text is a digit. -/
def EndsInDigit (s : List Char) : Prop := ∃ c ∈ s.getLast?, c.isDigit = true

theorem EndsInDigit.append {s : List Char} (h : EndsInDigit s) (before : List Char) :
    EndsInDigit (before ++ s) := by
  obtain ⟨c, hc, hd⟩ := h
  refine ⟨c, ?_, hd⟩
  rw [List.getLast?_append, Option.mem_def.1 hc]
  rfl

theorem endsInDigit_padded (width n : Nat) : EndsInDigit (padded 10 width n) := by
  have hne : padded 10 width n ≠ [] := by
    rw [padded]
    simp
  exact ⟨_, List.getLast?_eq_some_getLast hne, isDigit_of_mem_padded (List.getLast_mem hne)⟩

theorem EndsInDigit.cons {s : List Char} (h : EndsInDigit s) (c : Char) : EndsInDigit (c :: s) :=
  h.append [c]

theorem endsInDigit_distance (n : Nat) : EndsInDigit (distance n) := by
  rw [distance]
  refine .append (.cons ?_ ':') _
  by_cases hmicro : n % 1000000 = 0
  · rw [if_pos hmicro, List.append_nil]
    split
    · rw [List.append_nil]
      exact endsInDigit_padded 2 _
    · exact .append (.cons (endsInDigit_padded 2 _) ':') _
  · rw [if_neg hmicro]
    exact .append (.append (.cons (endsInDigit_padded 6 _) '.') _) _

theorem spellZulu_of_endsInDigit {s : List Char} (h : EndsInDigit s) : spellZulu s = s := by
  obtain ⟨c, hc, hd⟩ := h
  have hrev : s.reverse.head? = some c := by rw [List.head?_reverse, Option.mem_def.1 hc]
  rw [spellZulu]
  cases hs : s.reverse with
  | nil => rfl
  | cons d before =>
    rw [hs] at hrev
    cases hrev
    have hz : ¬(c = 'Z' ∨ c = 'z') := by
      rintro (rfl | rfl)
      · exact absurd hd (by decide)
      · exact absurd hd (by decide)
    simp only [if_neg hz]

/-- The blanks around a text that neither begins nor ends with one are trimmed. -/
theorem trim_append {before s behind : List Char} (hbefore : ∀ c ∈ before, isBlank c = true)
    (hbehind : ∀ c ∈ behind, isBlank c = true) {c d : Char} (hc : c ∈ s.head?) (hd : d ∈ s.getLast?)
    (hfirst : isBlank c = false) (hlast : isBlank d = false) :
    trim (String.ofList (before ++ (s ++ behind))) = String.ofList s := by
  have hpass : ∀ {blanks rest : List Char} {e : Char}, (∀ c ∈ blanks, isBlank c = true) → e ∈ rest.head? →
      isBlank e = false → (blanks ++ rest).dropWhile isBlank = rest := by
    intro blanks rest e hblanks he hblank
    obtain ⟨tail, rfl⟩ := List.head?_eq_some_iff.1 he
    rw [List.dropWhile_append_of_pos hblanks, List.dropWhile_cons_of_neg (Bool.eq_false_iff.1 hblank)]
  have hleft : trimLeft (before ++ (s ++ behind)) = s ++ behind := by
    refine hpass (e := c) hbefore ?_ hfirst
    rw [List.head?_append, Option.mem_def.1 hc]
    rfl
  have hright : trimRight (s ++ behind) = s := by
    have hreverse : (behind.reverse ++ s.reverse).dropWhile isBlank = s.reverse := by
      refine hpass (e := d) (fun c hc => hbehind c (List.mem_reverse.1 hc)) ?_ hlast
      rw [List.head?_reverse]
      exact hd
    rw [trimRight, List.reverse_append, hreverse, List.reverse_reverse]
  rw [trim, String.toList_ofList, hleft, hright]

end RuleLabels.Iso
