import RuleLabels.Text.Cut

/-!
# Locations of files

Names of files and folders, in the form without empty and self-referring parts. A name that steps up
keeps its steps, since only the folders themselves tell where such a step leads.
-/

namespace RuleLabels

/-- The place of a file: where its name starts, and the names from there on. -/
structure Location where
  root : String
  parts : List String
  deriving DecidableEq

namespace Location

/-- The start that a name is relative to: the folder at hand, or a root. Two slashes make a root of
their own. -/
def rootOf : List Char → String
  | '/' :: '/' :: '/' :: _ => "/"
  | '/' :: '/' :: _ => "//"
  | '/' :: _ => "/"
  | _ => ""

/-- The location that a text names. -/
def ofText (s : String) : Location where
  root := rootOf s.toList
  parts := ((Text.splitAt '/' s.toList).map String.ofList).filter fun p => p ≠ "" ∧ p ≠ "."

/-- The text of a location. -/
def text (l : Location) : String :=
  if l.root = "" ∧ l.parts = [] then "." else l.root ++ "/".intercalate l.parts

/-- A file or folder inside a folder. -/
def child (l : Location) (name : String) : Location := { l with parts := l.parts ++ [name] }

/-- The folder that holds a location; a root holds itself. -/
def parent (l : Location) : Location := { l with parts := l.parts.dropLast }

/-- The part of a file's name from its last dot on, where the dot is neither its first nor its last
character. -/
def suffix (l : Location) : String :=
  let name := (l.parts.getLast?.getD "").toList
  let tail := (name.reverse.takeWhile (· ≠ '.')).reverse
  let dot := name.length - tail.length
  if tail.isEmpty ∨ dot ≤ 1 then "" else String.ofList ('.' :: tail)

end Location

end RuleLabels
