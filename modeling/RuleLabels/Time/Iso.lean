import RuleLabels.Text.Blank
import RuleLabels.Text.Digit
import RuleLabels.Text.Utf8
import RuleLabels.Time.Moment

/-!
# International timestamps

Reading of timestamps in the international notation. A date is written with or without dashes, by month
and day or by week and day; any one character parts it from the time; the time has two to six digits,
with or without colons, and a fraction; a distance from universal time may follow. Positions are counted
in bytes, and a byte beyond the end is taken as zero.
-/

namespace RuleLabels.Iso

/-! ## Digits -/

/-- The byte of an ASCII character. -/
def byte (c : Char) : UInt8 := c.toNat.toUInt8

/-- One of the digits `0` to `9`. -/
def isDigit (b : UInt8) : Bool := 0x30 ≤ b && b ≤ 0x39

/-- The number that exactly `count` digits at the front spell, and the rest. -/
def digits? (count : Nat) (s : List UInt8) : Option (Nat × List UInt8) :=
  let ds := s.take count
  if ds.length = count ∧ ds.all isDigit then
    some (Text.ofDigits 10 (ds.map fun b => b.toNat - 0x30), s.drop count)
  else none

/-! ## Dates -/

/-- The length of the date at the front of a text of at least seven bytes, as far as its first bytes
tell: the date ends where the character that parts it from the time stands. -/
def dateLength? (s : List UInt8) : Option Nat :=
  let n := s.length
  let at? (i : Nat) : UInt8 := s.getD i 0
  if n = 7 then some 7
  else if at? 4 = byte '-' then
    if at? 5 = byte 'W' then
      if 8 < n ∧ at? 8 = byte '-' then
        if n = 9 then none
        else if 10 < n ∧ isDigit (at? 10) then some 8
        else some 10
      else some 8
    else some 10
  else if at? 4 = byte 'W' then
    let stop := 7 + ((s.drop 7).takeWhile isDigit).length
    if stop < 9 then some stop else if stop % 2 = 0 then some 7 else some 8
  else some 8

/-- A dash where dates are written with dashes, and nothing where they are not. -/
def dash? (dashed : Bool) (s : List UInt8) : Option (List UInt8) :=
  if dashed then if s.headD 0 = byte '-' then some s.tail else none else some s

/-- The date at the front of a text, which is to be `length` bytes long. -/
def date? (length : Nat) (s : List UInt8) : Option Date := do
  let (year, rest) ← digits? 4 s
  let dashed := rest.headD 0 = byte '-'
  let rest := if dashed then rest.tail else rest
  if rest.headD 0 = byte 'W' then
    let (week, rest) ← digits? 2 rest.tail
    if s.length - rest.length < length then
      let (day, _) ← digits? 1 (← dash? dashed rest)
      Date.ofWeek? year week day
    else Date.ofWeek? year week 1
  else
    let (month, rest) ← digits? 2 rest
    let (day, _) ← digits? 2 (← dash? dashed rest)
    Date.of? year month day

/-! ## Times -/

/-- The numbers of a time, how many microseconds its fraction has, and whether something else follows. -/
structure Clock where
  fields : List Nat
  microsecond : Nat
  followed : Bool

/-- The fraction of a second at the front of a text: six digits count, and more are passed over. -/
def fraction? (after : UInt8) (s : List UInt8) : Option (Nat × Bool) := do
  let count := min 6 s.length
  let (n, rest) ← digits? count s
  return (n * 10 ^ (6 - count), (rest.dropWhile isDigit).headD after ≠ 0)

/-- Up to `more + 1` numbers of two digits and a fraction, in a text that `after` follows. The first
byte between two numbers decides whether all are parted by colons. -/
def clock? (after : UInt8) : Nat → Option Bool → List UInt8 → Option Clock
  | more, colons, s => do
    let (n, rest) ← digits? 2 s
    match rest with
    | [] => return ⟨[n], 0, after ≠ 0⟩
    | [c] => return ⟨[n], 0, c ≠ 0⟩
    | c :: rest =>
      let colons := colons.getD (c = byte ':')
      let ending (s : List UInt8) : Option Clock := do
        let (micro, followed) ← fraction? after s
        return ⟨[n], micro, followed⟩
      if !(colons && c = byte ':') && (c = byte '.' || c = byte ',') then ending rest
      else if colons && c ≠ byte ':' then none
      else
        let rest := if colons then rest else c :: rest
        match more with
        | 0 => ending rest
        | more + 1 => do
          let k ← clock? after more (some colons) rest
          return { k with fields := n :: k.fields }

/-- One of the bytes that begin a distance from universal time. -/
def beginsOffset (b : UInt8) : Bool := b = byte '+' || b = byte '-' || b = byte 'Z'

/-- The distance from universal time that a text spells. -/
def offset? (s : List UInt8) : Option Offset :=
  if s.headD 0 = byte 'Z' then if s.tail.headD 0 = 0 then some .utc else none
  else do
    let k ← clock? 0 2 none s.tail
    if k.followed then none
    let seconds := k.fields.getD 0 0 * 3600 + k.fields.getD 1 0 * 60 + k.fields.getD 2 0
    if seconds = 0 then return .utc
    let micro : Int := (seconds * 1000000 + k.microsecond : Nat)
    Offset.of? (if s.headD 0 = byte '-' then -micro else micro)

/-- The time of day and the distance from universal time that a text spells. What stands between a
complete time and an offset is passed over. -/
def time? (s : List UInt8) : Option (TimeOfDay × Option Offset) := do
  let part := s.takeWhile (!beginsOffset ·)
  let rest := s.drop part.length
  let k ← clock? (rest.headD 0) 2 none part
  let offset ← if rest.isEmpty then (if k.followed then none else some none) else (offset? rest).map some
  let time ← TimeOfDay.of? (k.fields.getD 0 0) (k.fields.getD 1 0) (k.fields.getD 2 0) k.microsecond
  return (time, offset)

/-! ## Whole timestamps -/

/-- The number of bytes of the character that begins with a byte. -/
def characterLength (b : UInt8) : Nat :=
  if b < 0x80 then 1 else if b / 0x10 = 0xE then 3 else if b / 0x10 = 0xF then 4 else 2

/-- The moment that bytes spell. -/
def momentOfBytes? (s : List UInt8) : Option Moment := do
  if s.length < 7 then none
  let length ← dateLength? s
  let date ← date? length s
  if s.length ≤ length then return ⟨date, .midnight, none⟩
  let rest := s.drop length
  let (time, offset) ← time? (rest.drop (characterLength (rest.headD 0)))
  return ⟨date, time, offset⟩

/-- A final `Z` of either case spelled as the distance zero. -/
def spellZulu (s : List Char) : List Char :=
  match s.reverse with
  | c :: before => if c = 'Z' ∨ c = 'z' then before.reverse ++ "+00:00".toList else s
  | [] => s

/-- The moment that a text spells, blanks around it aside. -/
def moment? (s : String) : Option Moment :=
  momentOfBytes? (Text.utf8Bytes (String.ofList (spellZulu (Text.trim s).toList)))

end RuleLabels.Iso
