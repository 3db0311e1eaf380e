import RuleLabels.Text.Digit

/-!
# Halves of characters

Documents may spell half of a character that takes two halves. A text holds such a half as one character
of a private range, so that it counts as one character and equals itself alone. Halves have no bytes.

The 2048 private characters from 10F000 to 10F7FF are given to the halves, so a text that has one of these
characters itself is taken for one with a half. What is said of texts with bytes leaves them out.
-/

namespace RuleLabels.Text

/-- The first of the private characters that stand for halves. -/
def firstHalf : Nat := 0x10F000

/-- A code point that is half of a character. -/
def isHalfCode (n : Nat) : Bool := 0xD800 ≤ n && n < 0xE000

/-- The first half of a character. -/
def isHighHalf (n : Nat) : Bool := 0xD800 ≤ n && n < 0xDC00

/-- The second half of a character. -/
def isLowHalf (n : Nat) : Bool := 0xDC00 ≤ n && n < 0xE000

/-- The character of a code point, which is a private one for half of a character. -/
def character (n : Nat) : Char :=
  Char.ofNat (if isHalfCode n then firstHalf + (n - 0xD800) else n)

/-- The code point of the half that a character stands for. -/
def halfCode? (c : Char) : Option Nat :=
  if firstHalf ≤ c.toNat && c.toNat < firstHalf + 0x800 then some (c.toNat - firstHalf + 0xD800)
  else none

/-- A character that stands for half of one. -/
def isHalf (c : Char) : Bool := (halfCode? c).isSome

/-- The character of which both halves are given. -/
def joined (high low : Nat) : Char :=
  Char.ofNat (0x10000 + (high - 0xD800) * 0x400 + (low - 0xDC00))

/-- Characters in which the two halves of one stand for it where they follow each other. -/
def joinHalves : List Char → List Char
  | c :: d :: rest =>
    match halfCode? c, halfCode? d with
    | some m, some n =>
      if isHighHalf m && isLowHalf n then joined m n :: joinHalves rest else c :: joinHalves (d :: rest)
    | _, _ => c :: joinHalves (d :: rest)
  | s => s

/-- A text in which the two halves of a character stand for it where they follow each other. -/
def joinedHalves (s : String) : String :=
  if s.toList.any isHalf then String.ofList (joinHalves s.toList) else s

/-! ## Texts without bytes -/

/-- The first run of halves in a text: its place, its length and its first half. -/
structure EncodeError where
  start : Nat
  count : Nat
  code : Nat
  deriving DecidableEq

/-- The wording of an error. -/
def EncodeError.text (e : EncodeError) : String :=
  if e.count = 1 then
    s!"'utf-8' codec can't encode character '\\u{String.ofList (padded 16 4 e.code)}' in position {e.start}: surrogates not allowed"
  else
    s!"'utf-8' codec can't encode characters in position {e.start}-{e.start + e.count - 1}: surrogates not allowed"

/-- The reason for which a text has no bytes. -/
def encodeError? (s : String) : Option EncodeError :=
  let before := s.toList.takeWhile (!isHalf ·)
  let run := (s.toList.dropWhile (!isHalf ·)).takeWhile isHalf
  run.head?.map fun c => ⟨before.length, run.length, (halfCode? c).getD 0⟩

end RuleLabels.Text
