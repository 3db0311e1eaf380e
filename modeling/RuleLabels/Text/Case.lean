import RuleLabels.Text.Blank
import RuleLabels.Text.CaseTable

/-!
# Letter case

Lower and upper case of whole texts by the full case mappings of the Unicode character database. One
letter may become several, and a capital sigma at the end of a word becomes the final sigma.
-/

namespace RuleLabels.Text

/-! ## Single letters -/

/-- The counterpart that the first fitting run gives, or the code point itself. -/
def applyRuns (runs : List CaseRun) (c : Nat) : Nat :=
  ((runs.findSome? fun r => r.image? c)).getD c

/-- The lower counterpart of a letter, where it is one letter that does not depend on its place. -/
def lowerLetter (c : Char) : Char :=
  if c.toNat < 0x80 then c.toLower else Char.ofNat (applyRuns lowerRuns c.toNat)

/-- The upper counterpart of a letter, which may be several letters. -/
def upperLetters (c : Char) : List Char :=
  if c.toNat < 0x80 then [c.toUpper]
  else match upperExpansions.lookup c.toNat with
    | some letters => letters.map Char.ofNat
    | none => [Char.ofNat (applyRuns upperRuns c.toNat)]

/-! ## Whole texts -/

/-- A letter that has case stands next in `s`, behind characters that case rules look through. -/
def casedNext (s : List Char) : Bool :=
  match s.dropWhile fun c => inRanges caseIgnorableRanges c.toNat with
  | [] => false
  | c :: _ => inRanges casedRanges c.toNat

/-- Lower case of the text `s` that follows the text with the reverse `before`. -/
def lowerAfter (before : List Char) : List Char → List Char
  | [] => []
  | c :: s =>
    let letters :=
      if c = '\u03a3' then [if casedNext before && !casedNext s then '\u03c2' else '\u03c3']
      else if c = '\u0130' then ['i', '\u0307']
      else [lowerLetter c]
    letters ++ lowerAfter (c :: before) s

/-- A text in lower case. -/
def lower (s : String) : String :=
  let cs := s.toList
  if cs.all (·.toNat < 0x80) then String.ofList (cs.map Char.toLower)
  else String.ofList (lowerAfter [] cs)

/-- A text in upper case. -/
def upper (s : String) : String := String.ofList (s.toList.flatMap upperLetters)

end RuleLabels.Text
