import RuleLabels.Yaml.Token

/-!
# Layout of YAML texts

The tokens of a whole text. Indentation opens and closes collections, and a scalar, an alias or a flow
collection turns out to be a key when a colon follows it on its line; the mark for the key, and for a
mapping that begins with it, is then put in front of it.
-/

namespace RuleLabels.Yaml

/-- Where a key may have begun: the number of tokens before it, its position, and whether only a key
may stand there. -/
structure PossibleKey where
  token : Nat
  required : Bool
  index : Nat
  line : Nat
  column : Nat

/-- The state of reading: the position, the number of open flow collections, the indentations of the
open block collections with the innermost first, whether a key may begin here, the possible keys by
their flow level, and the tokens so far with their number, the last one first. -/
structure Layout where
  source : Source
  flow : Int
  indents : List Int
  allowKey : Bool
  keys : List (Int × PossibleKey)
  tokens : List Token
  count : Nat

namespace Layout

/-- The state at the start of a text. -/
def start (s : List Char) : Layout := ⟨.start s, 0, [], true, [], [], 0⟩

/-- The indentation of the innermost block collection. -/
def indent (l : Layout) : Int := l.indents.headD (-1)

/-- Inside a flow collection. -/
def inFlow (l : Layout) : Bool := l.flow ≠ 0

/-- The column of the position. -/
def column (l : Layout) : Int := l.source.column

/-- The state with a token added. -/
def add (l : Layout) (t : Token) : Layout := { l with tokens := t :: l.tokens, count := l.count + 1 }

/-- The state with a token put behind the first ones. -/
def insert (l : Layout) (position : Nat) (t : Token) : Layout :=
  let behind := l.count - position
  { l with tokens := l.tokens.take behind ++ t :: l.tokens.drop behind, count := l.count + 1 }

/-- The state at another position. -/
def move (l : Layout) (s : Source) : Layout := { l with source := s }

/-! ## Block collections -/

/-- Closes the block collections whose indentation is larger than a column, outside flow collections. -/
def unwind (column : Int) (l : Layout) : Layout :=
  if l.inFlow then l
  else
    let closed := (l.indents.takeWhile (column < ·)).length
    { l with indents := l.indents.drop closed, tokens := List.replicate closed .blockEnd ++ l.tokens,
             count := l.count + closed }

/-- Opens a block collection at a column, if it is larger than the indentation. -/
def openAt (l : Layout) (column : Int) : Option Layout :=
  if l.indent < column then some { l with indents := column :: l.indents } else none

/-! ## Possible keys -/

/-- The most characters that a key may have. -/
def maxKeyLength : Nat := 1024

/-- A possible key is out of reach: on another line, or too far back. -/
def isStale (l : Layout) (k : PossibleKey) : Bool :=
  k.line ≠ l.source.line || maxKeyLength < l.source.index - k.index

/-- Gives up the possible keys that are out of reach. -/
def dropStale (l : Layout) : Except Error Layout :=
  if l.keys.any fun (_, k) => k.required && l.isStale k then malformed
  else .ok { l with keys := l.keys.filter fun (_, k) => !l.isStale k }

/-- Gives up the possible key of the flow level. -/
def dropKey (l : Layout) : Except Error Layout :=
  match l.keys.lookup l.flow with
  | some k =>
    if k.required then malformed else .ok { l with keys := l.keys.filter fun x => x.1 ≠ l.flow }
  | none => .ok l

/-- Notes that a key may begin here. -/
def noteKey (l : Layout) : Except Error Layout := do
  if l.allowKey then
    let required := !l.inFlow && l.indent = l.column
    let l ← l.dropKey
    let s := l.source
    return { l with keys := (l.flow, ⟨l.count, required, s.index, s.line, s.column⟩) :: l.keys }
  return l

/-! ## Tokens -/

/-- A directive or a mark between documents, which ends all collections. -/
def between (l : Layout) (read : Layout → Except Error Layout) : Except Error Layout := do
  let l ← (l.unwind (-1)).dropKey
  read { l with allowKey := false }

/-- The start of a flow collection. -/
def openFlow (l : Layout) (t : Token) : Except Error Layout := do
  let l ← l.noteKey
  return ({ l with flow := l.flow + 1, allowKey := true }.add t).move l.source.next

/-- The end of a flow collection. -/
def closeFlow (l : Layout) (t : Token) : Except Error Layout := do
  let l ← l.dropKey
  return ({ l with flow := l.flow - 1, allowKey := false }.add t).move l.source.next

/-- The comma between the members of a flow collection. -/
def flowEntry (l : Layout) : Except Error Layout := do
  let l ← { l with allowKey := true }.dropKey
  return (l.add .flowEntry).move l.source.next

/-- The mark of a collection that opens at the column, if one does. -/
def opening (l : Layout) (column : Int) (t : Token) : Layout :=
  match l.openAt column with
  | some l => l.add t
  | none => l

/-- The dash before a member of a block sequence. -/
def entry (l : Layout) : Except Error Layout := do
  if !l.inFlow && !l.allowKey then malformed
  let l := if l.inFlow then l else l.opening l.column .blockSequenceStart
  let l ← { l with allowKey := true }.dropKey
  return (l.add .entry).move l.source.next

/-- The question mark before a key. -/
def explicitKey (l : Layout) : Except Error Layout := do
  if !l.inFlow && !l.allowKey then malformed
  let l := if l.inFlow then l else l.opening l.column .blockMappingStart
  let l ← { l with allowKey := !l.inFlow }.dropKey
  return (l.add .key).move l.source.next

/-- The colon before a value. -/
def value (l : Layout) : Except Error Layout := do
  match l.keys.lookup l.flow with
  | some k =>
    let l := { l with keys := l.keys.filter fun x => x.1 ≠ l.flow }
    let l := l.insert k.token .key
    let l := if l.inFlow then l else
      match l.openAt k.column with
      | some l => l.insert k.token .blockMappingStart
      | none => l
    return ({ l with allowKey := false }.add .value).move l.source.next
  | none =>
    if !l.inFlow && !l.allowKey then malformed
    let l := if l.inFlow then l else l.opening l.column .blockMappingStart
    let l ← { l with allowKey := !l.inFlow }.dropKey
    return (l.add .value).move l.source.next

/-- A token that may be a key or belong to one. -/
def keyPart (l : Layout) (read : Source → Except Error (Token × Source)) : Except Error Layout := do
  let l ← l.noteKey
  let (t, s) ← read l.source
  return ({ l with allowKey := false }.add t).move s

/-- A scalar in a block. -/
def block (l : Layout) (folded : Bool) : Except Error Layout := do
  let l ← { l with allowKey := true }.dropKey
  let (t, s) ← blockScalar l.indent folded l.source
  return (l.add t).move s

/-- A plain scalar; where a line ends behind it a key may follow. -/
def plain (l : Layout) : Except Error Layout := do
  let l ← l.noteKey
  let (t, ended, s) := plainScalar l.indent l.inFlow l.source
  return ({ l with allowKey := ended }.add t).move s

/-- A plain scalar may begin here. -/
def plainMayBegin (l : Layout) : Bool :=
  let c := l.source.head
  !(isBlankOrEnd c || "-?:,[]\x7b\x7d#&*!|>'\"%@`".toList.contains c) ||
    (!isBlankOrEnd (l.source.peek 1) && (c = '-' || (!l.inFlow && (c = '?' || c = ':'))))

/-! ## Reading -/

/-- Passes over blanks, comments and ends of lines; behind the latter a key may begin. -/
def toNextToken : Nat → Layout → Layout
  | 0, l => l
  | fuel + 1, l =>
    let s := l.source.skipSpaces
    let s := if s.head = '#' then s.skip (!isBreakOrEnd ·) else s
    if isBreak s.head then
      toNextToken fuel { l with source := s.lineBreak.2, allowKey := l.allowKey || !l.inFlow }
    else l.move s

/-- Reads the next token, not at the end of the text. -/
def token (l : Layout) : Except Error Layout :=
  let s := l.source
  let blankNext := isBlankOrEnd (s.peek 1)
  let c := s.head
  if c = '%' && s.column = 0 then
    l.between fun l => do
      let (t, s) ← directive l.source
      return (l.add t).move s
  else if s.column = 0 && s.atDocumentMark '-' then
    l.between fun l => .ok ((l.add .documentStart).move (l.source.advance 3))
  else if s.column = 0 && s.atDocumentMark '.' then
    l.between fun l => .ok ((l.add .documentEnd).move (l.source.advance 3))
  else if c = '[' then l.openFlow .flowSequenceStart
  else if c = '\x7b' then l.openFlow .flowMappingStart
  else if c = ']' then l.closeFlow .flowSequenceEnd
  else if c = '\x7d' then l.closeFlow .flowMappingEnd
  else if c = ',' then l.flowEntry
  else if c = '-' && blankNext then l.entry
  else if c = '?' && (l.inFlow || blankNext) then l.explicitKey
  else if c = ':' && (l.inFlow || blankNext) then l.value
  else if c = '*' then l.keyPart fun s => (anchorName s).map fun (name, s) => (.alias name, s)
  else if c = '&' then l.keyPart fun s => (anchorName s).map fun (name, s) => (.anchor name, s)
  else if c = '!' then l.keyPart tagToken
  else if c = '|' && !l.inFlow then l.block false
  else if c = '>' && !l.inFlow then l.block true
  else if c = '\'' then l.keyPart (quotedScalar false)
  else if c = '"' then l.keyPart (quotedScalar true)
  else if l.plainMayBegin then l.plain
  else malformed

/-- The number of tokens that nothing can be put in front of any more. -/
def settled (l : Layout) : Nat := l.keys.foldl (fun n (_, k) => min n k.token) l.count

/-- Passes on to the next token or to the end of the text. -/
def toToken (l : Layout) : Except Error Layout := do
  let l ← (toNextToken (l.source.size + 1) l).dropStale
  return l.unwind l.column

/-- The tokens of a text up to a fault, if it has one. -/
structure Scanned where
  tokens : List Token
  fault : Option Error

/-- The settled tokens before a fault. -/
def stopped (l : Layout) (fault : Error) : Scanned :=
  let l := l.dropStale.toOption.getD l
  ⟨l.tokens.reverse.take l.settled, some fault⟩

/-- Reads the tokens up to the end of the text. -/
def tokensFrom : Nat → Layout → Scanned
  | 0, l => l.stopped .malformed
  | fuel + 1, l =>
    match l.toToken with
    | .error e => l.stopped e
    | .ok ahead =>
      if ahead.source.rest.isEmpty then
        match (ahead.unwind (-1)).dropKey with
        | .error e => l.stopped e
        | .ok ahead => ⟨ahead.tokens.reverse, none⟩
      else
        match ahead.token with
        | .error e => l.stopped e
        | .ok next => tokensFrom fuel next

end Layout

/-- The tokens of a text, up to its first fault. A text with a character that none may hold has no
tokens. -/
def scan (s : List Char) : Layout.Scanned :=
  if s.all isAllowed then
    let l := Layout.start s
    let l := if l.source.head = '\ufeff' then l.move l.source.next else l
    l.tokensFrom (s.length + 2)
  else ⟨[], some .malformed⟩

end RuleLabels.Yaml
