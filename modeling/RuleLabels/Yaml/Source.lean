import RuleLabels.Text.Half
import RuleLabels.Yaml.Error

/-!
# Positions in YAML texts

A text with the position reached in it, by character, line and column. Beyond the end of the text every
character is zero, which no text contains.
-/

namespace RuleLabels.Yaml

/-- The rest of a text, and how much of it came before. The size is that of the whole text, which bounds the
steps that can be taken in it. -/
structure Source where
  rest : List Char
  size : Nat
  index : Nat
  line : Nat
  column : Nat

/-- The character that stands for the end of a text. -/
def endMark : Char := '\x00'

/-- A character that ends a line. -/
def isBreak (c : Char) : Bool :=
  c = '\n' || c = '\r' || c = '\u0085' || c = '\u2028' || c = '\u2029'

/-- A character that ends a line, or the end of the text. -/
def isBreakOrEnd (c : Char) : Bool := isBreak c || c = endMark

/-- A blank, a character that ends a line, or the end of the text. -/
def isBlankOrEnd (c : Char) : Bool := isBreakOrEnd c || c = ' ' || c = '\t'

/-- A character of a name. -/
def isNameChar (c : Char) : Bool := c.isAlphanum || c = '-' || c = '_'

/-- A character that a text may hold. -/
def isAllowed (c : Char) : Bool :=
  let n := c.toNat
  n = 0x09 || n = 0x0A || n = 0x0D || (0x20 ≤ n && n ≤ 0x7E) || n = 0x85 || (0xA0 ≤ n && n ≤ 0xD7FF) ||
    (0xE000 ≤ n && n ≤ 0xFFFD) || (0x10000 ≤ n && !Text.isHalf c)

namespace Source

/-- The start of a text. -/
def start (s : List Char) : Source := ⟨s, s.length, 0, 0, 0⟩

/-- The character `n` places ahead. -/
def peek (s : Source) (n : Nat) : Char := s.rest.getD n endMark

/-- The next character. -/
def head (s : Source) : Char := s.rest.headD endMark

/-- The position behind the next character. -/
def next (s : Source) : Source :=
  match s.rest with
  | [] => s
  | c :: rest =>
    if c = '\n' || c = '\u0085' || c = '\u2028' || c = '\u2029' ||
        (c = '\r' && rest.head? ≠ some '\n') then
      ⟨rest, s.size, s.index + 1, s.line + 1, 0⟩
    else if c = '\ufeff' then ⟨rest, s.size, s.index + 1, s.line, s.column⟩
    else ⟨rest, s.size, s.index + 1, s.line, s.column + 1⟩

/-- The position behind the next `n` characters. -/
def advance : Nat → Source → Source
  | 0, s => s
  | n + 1, s => advance n s.next

/-- The characters up to the first without a property, and the position of that. -/
def span (s : Source) (p : Char → Bool) : List Char × Source :=
  let cs := s.rest.takeWhile p
  (cs, s.advance cs.length)

/-- The position behind the characters with a property. -/
def skip (s : Source) (p : Char → Bool) : Source := (s.span p).2

/-- The position behind blanks. -/
def skipSpaces (s : Source) : Source := s.skip (· = ' ')

/-- The end of a line as a text, and the position behind it; the text is empty inside a line. -/
def lineBreak (s : Source) : List Char × Source :=
  match s.rest with
  | '\r' :: '\n' :: _ => (['\n'], s.advance 2)
  | c :: _ =>
    if c = '\r' || c = '\n' || c = '\u0085' then (['\n'], s.next)
    else if c = '\u2028' || c = '\u2029' then ([c], s.next)
    else ([], s)
  | [] => ([], s)

/-- Three marks that begin or end a document stand here. -/
def atDocumentMark (s : Source) (mark : Char) : Bool :=
  match s.rest with
  | a :: b :: c :: _ => a = mark && b = mark && c = mark && isBlankOrEnd (s.peek 3)
  | _ => false

/-- The beginning or the end of a document stands here. -/
def atDocumentEdge (s : Source) : Bool := s.atDocumentMark '-' || s.atDocumentMark '.'

end Source

end RuleLabels.Yaml
