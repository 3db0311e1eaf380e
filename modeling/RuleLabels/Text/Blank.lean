/-!
# Blank characters

The characters that count as blank at the ends of a text: the white space of the Unicode character
database together with the four information separators. Around numbers the separators are no blanks.
-/

namespace RuleLabels.Text

/-- The ranges of blank characters. -/
def blankRanges : List (Nat × Nat) := [
  (0x09, 0x0D), (0x1C, 0x20), (0x85, 0x85), (0xA0, 0xA0), (0x1680, 0x1680), (0x2000, 0x200A),
  (0x2028, 0x2029), (0x202F, 0x202F), (0x205F, 0x205F), (0x3000, 0x3000)]

/-- A number lies in one of the ranges. -/
def inRanges (ranges : List (Nat × Nat)) (n : Nat) : Bool :=
  ranges.any fun r => r.1 ≤ n && n ≤ r.2

/-- White space of any script. -/
def isBlank (c : Char) : Bool := inRanges blankRanges c.toNat

/-- White space of any script other than the information separators. -/
def isNumberBlank (c : Char) : Bool := isBlank c && !(0x1C ≤ c.toNat && c.toNat ≤ 0x1F)

/-! ## Trimming -/

/-- The characters from the first that is not blank on. -/
def trimLeft (s : List Char) : List Char := s.dropWhile isBlank

/-- The characters up to the last that is not blank. -/
def trimRight (s : List Char) : List Char := (s.reverse.dropWhile isBlank).reverse

/-- A text without the blanks at its two ends. -/
def trim (s : String) : String := String.ofList (trimRight (trimLeft s.toList))

/-- The characters of a text without the blanks around a number. -/
def trimNumber (s : String) : List Char :=
  ((s.toList.dropWhile isNumberBlank).reverse.dropWhile isNumberBlank).reverse

/-- A text of blanks alone. -/
def allBlank (s : String) : Bool := s.toList.all isBlank

end RuleLabels.Text
