/-!
# Cutting texts

Texts cut at characters: at every one of a kind, before the first with a property, and at the last one of
a kind; and texts that are found inside others.
-/

namespace RuleLabels.Text

/-- The parts of a text between the characters of a kind. -/
def splitAt (mark : Char) : List Char → List (List Char)
  | [] => [[]]
  | c :: rest =>
    if c = mark then [] :: splitAt mark rest
    else
      match splitAt mark rest with
      | part :: parts => (c :: part) :: parts
      | [] => [[c]]

/-- A text cut before the first character with a property. -/
def cutAt (p : Char → Bool) (s : List Char) : List Char × List Char :=
  (s.takeWhile (!p ·), s.dropWhile (!p ·))

/-- A text cut at its last character of a kind, which is left out. -/
def cutAtLast? (mark : Char) (s : List Char) : Option (List Char × List Char) :=
  if s.contains mark then
    let tail := (s.reverse.takeWhile (· ≠ mark)).reverse
    some (s.take (s.length - tail.length - 1), tail)
  else none

/-- A text is found inside another one. -/
def isInside (part : List Char) : List Char → Bool
  | [] => part.isEmpty
  | c :: rest => part.isPrefixOf (c :: rest) || isInside part rest

end RuleLabels.Text
