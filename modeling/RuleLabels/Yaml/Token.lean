import RuleLabels.Text.Half
import RuleLabels.Text.Utf8
import RuleLabels.Yaml.Source

/-!
# Tokens of YAML

The tokens of the notation, and how those that carry a text are read: names of anchors, tags,
directives, and scalars in quotes, in blocks and in neither.
-/

namespace RuleLabels.Yaml

/-- A token. -/
inductive Token where
  | versionDirective (major : Nat)
  | tagDirective (handle start : String)
  | otherDirective
  | documentStart
  | documentEnd
  | blockSequenceStart
  | blockMappingStart
  | blockEnd
  | flowSequenceStart
  | flowSequenceEnd
  | flowMappingStart
  | flowMappingEnd
  | entry
  | flowEntry
  | key
  | value
  | alias (name : String)
  | anchor (name : String)
  | tag (handle : Option String) (suffix : String)
  | scalar (plain : Bool) (s : String)
  deriving DecidableEq

/-- Refuses a text that breaks the rules of the notation. -/
def malformed {α : Type} : Except Error α := .error .malformed

/-! ## Names -/

/-- The name of an anchor, or of the anchor that an alias means. -/
def anchorName (s : Source) : Except Error (String × Source) :=
  let (name, s) := s.next.span isNameChar
  if name.isEmpty then malformed
  else if isBlankOrEnd s.head || "?:,]\x7d%@`".toList.contains s.head then .ok (String.ofList name, s)
  else malformed

/-! ## Tags -/

/-- A character of the address of a tag. -/
def isUriChar (c : Char) : Bool := c.isAlphanum || "-;/?:@&=+$,_.!~*'()[]%".toList.contains c

/-- The bytes of a run of percent signs with two hexadecimal digits each. -/
def escapedBytes : Nat → Source → Except Error (List UInt8 × Source)
  | 0, s => .ok ([], s)
  | fuel + 1, s =>
    if s.head = '%' then
      match Text.hexDigit? (s.peek 1), Text.hexDigit? (s.peek 2) with
      | some x, some y =>
        (escapedBytes fuel (s.advance 3)).map fun (bytes, s) => ((x * 16 + y).toUInt8 :: bytes, s)
      | _, _ => malformed
    else .ok ([], s)

/-- The address of a tag from here on, which may be empty. -/
def uriChars : Nat → Source → Except Error (List Char × Source)
  | 0, s => .ok ([], s)
  | fuel + 1, s =>
    if s.head = '%' then do
      let (bytes, s) ← escapedBytes fuel s
      match Text.decodeUtf8 bytes with
      | .error _ => malformed
      | .ok text =>
        let (more, s) ← uriChars fuel s
        return (text.toList ++ more, s)
    else if isUriChar s.head then do
      let (more, s') ← uriChars fuel s.next
      return (s.head :: more, s')
    else .ok ([], s)

/-- The address of a tag. -/
def tagUri (s : Source) : Except Error (String × Source) := do
  let (cs, s) ← uriChars (s.size + 1) s
  if cs.isEmpty then malformed
  return (String.ofList cs, s)

/-- The handle of a tag: a mark, or a name between two marks. -/
def tagHandle (s : Source) : Except Error (String × Source) :=
  if s.head ≠ '!' then malformed
  else if s.peek 1 = ' ' then .ok ("!", s.next)
  else
    let (name, behind) := s.next.span isNameChar
    if behind.head = '!' then .ok (String.ofList ('!' :: name ++ ['!']), behind.next)
    else malformed

/-- A tag. -/
def tagToken (s : Source) : Except Error (Token × Source) := do
  let (token, s) ←
    if s.peek 1 = '<' then do
      let (suffix, s) ← tagUri (s.advance 2)
      if s.head ≠ '>' then malformed
      pure (Token.tag none suffix, s.next)
    else if isBlankOrEnd (s.peek 1) then pure (Token.tag none "!", s.next)
    else
      let word := (s.rest.drop 1).takeWhile fun c => !(isBreakOrEnd c || c = ' ')
      if word.contains '!' then do
        let (handle, s) ← tagHandle s
        let (suffix, s) ← tagUri s
        pure (Token.tag (some handle) suffix, s)
      else do
        let (suffix, s) ← tagUri s.next
        pure (Token.tag (some "!") suffix, s)
  if isBreakOrEnd s.head || s.head = ' ' then return (token, s)
  malformed

/-! ## Directives -/

/-- What may stand between the end of a directive or a scalar's head and the end of its line. -/
def ignoredLine (s : Source) : Except Error Source :=
  let s := s.skipSpaces
  let s := if s.head = '#' then s.skip (!isBreakOrEnd ·) else s
  if isBreakOrEnd s.head then .ok s.lineBreak.2 else malformed

/-- A number in a directive. -/
def directiveNumber (s : Source) : Except Error (Nat × Source) :=
  let (ds, s) := s.span Text.isAsciiDigit
  if ds.isEmpty then malformed
  else if Text.maxIntegerDigits < ds.length then .error (.scalar (.integerTooLong ds.length))
  else .ok (Text.ofDigits 10 (ds.map fun c => c.toNat - '0'.toNat), s)

/-- A directive. -/
def directive (s : Source) : Except Error (Token × Source) := do
  let (name, s) := s.next.span isNameChar
  if name.isEmpty || !(isBreakOrEnd s.head || s.head = ' ') then malformed
  let (token, s) ←
    if name = "YAML".toList then do
      let (major, s) ← directiveNumber s.skipSpaces
      if s.head ≠ '.' then malformed
      let (_, s) ← directiveNumber s.next
      if !(isBreakOrEnd s.head || s.head = ' ') then malformed
      pure (Token.versionDirective major, s)
    else if name = "TAG".toList then do
      let (handle, s) ← tagHandle s.skipSpaces
      if s.head ≠ ' ' then malformed
      let (start, s) ← tagUri s.skipSpaces
      if !(isBreakOrEnd s.head || s.head = ' ') then malformed
      pure (Token.tagDirective handle start, s)
    else pure (Token.otherDirective, s.skip (!isBreakOrEnd ·))
  return (token, ← ignoredLine s)

/-! ## Scalars in blocks -/

/-- The ends of lines from here on, each behind at most as many blanks as an indentation has. -/
def blockBreaks (indent : Nat) : Nat → Source → List Char × Source
  | 0, s => ([], s)
  | fuel + 1, s =>
    let blanks := (s.rest.takeWhile (· = ' ')).length
    let s := s.advance (min blanks (indent - s.column))
    if isBreak s.head then
      let (c, s) := s.lineBreak
      let (more, s) := blockBreaks indent fuel s
      (c ++ more, s)
    else ([], s)

/-- The ends of lines from here on with the blanks between them, and the largest column reached. -/
def blockStart : Nat → Nat → Source → List Char × Nat × Source
  | 0, widest, s => ([], widest, s)
  | fuel + 1, widest, s =>
    if s.head = ' ' then blockStart fuel (max widest (s.column + 1)) s.next
    else if isBreak s.head then
      let (c, s) := s.lineBreak
      let (more, widest, s) := blockStart fuel widest s
      (c ++ more, widest, s)
    else ([], widest, s)

/-- The sign that says what becomes of the ends of lines at the end of a scalar: all are kept, or
none. -/
def chomping? (c : Char) : Option Bool := if c = '+' then some true else if c = '-' then some false else none

/-- The number of blanks that a digit in the head of a scalar asks for. -/
def indentDigit (s : Source) : Except Error (Option Nat × Source) :=
  match Text.asciiDigit? s.head with
  | none => .ok (none, s)
  | some 0 => malformed
  | some n => .ok (some n, s.next)

/-- The head of a scalar in a block: what becomes of the last ends of lines, and the indentation. -/
def blockHead (s : Source) : Except Error (Option Bool × Option Nat × Source) := do
  match chomping? s.head with
  | some keep =>
    let (indent, s) ← indentDigit s.next
    return (some keep, indent, s)
  | none =>
    let (indent, s) ← indentDigit s
    match indent, chomping? s.head with
    | some _, some keep => return (some keep, indent, s.next)
    | _, _ => return (none, indent, s)

/-- The lines of a scalar in a block, each followed by what stands between it and the next; behind them
the end of the last line and the ends of the lines below it. -/
def blockLines (folded : Bool) (indent : Nat) : Nat → List Char → Source →
    List Char × List Char × List Char × Source
  | 0, breaks, s => ([], [], breaks, s)
  | fuel + 1, breaks, s =>
    if s.column = indent ∧ s.head ≠ endMark then
      let flush := !(s.head = ' ' || s.head = '\t')
      let (line, s) := s.span (!isBreakOrEnd ·)
      let (ending, s) := s.lineBreak
      let (below, s) := blockBreaks indent fuel s
      if s.column = indent ∧ s.head ≠ endMark then
        let between :=
          if folded && ending = ['\n'] && flush && !(s.head = ' ' || s.head = '\t') then
            if below.isEmpty then [' '] else []
          else ending
        let (more, last, rest, s) := blockLines folded indent fuel below s
        (breaks ++ line ++ between ++ more, last, rest, s)
      else (breaks ++ line, ending, below, s)
    else ([], [], breaks, s)

/-- A scalar in a block, inside the collection with an indentation. -/
def blockScalar (outer : Int) (folded : Bool) (s : Source) : Except Error (Token × Source) := do
  let (keep, increment, s) ← blockHead s.next
  if !(isBreakOrEnd s.head || s.head = ' ') then malformed
  let s ← ignoredLine s
  let least := (max 1 (outer + 1)).toNat
  let fuel := s.size + 1
  let (indent, breaks, s) := match increment with
    | none =>
      let (breaks, widest, s) := blockStart fuel 0 s
      (max least widest, breaks, s)
    | some n =>
      let indent := least + n - 1
      let (breaks, s) := blockBreaks indent fuel s
      (indent, breaks, s)
  let (text, last, below, s) := blockLines folded indent fuel breaks s
  let text := match keep with
    | some false => text
    | none => text ++ last
    | some true => text ++ last ++ below
  return (.scalar false (String.ofList text), s)

/-! ## Scalars in quotes -/

/-- The characters that escapes of one letter stand for. -/
def escapes : List (Char × Char) := [
  ('0', '\x00'), ('a', '\x07'), ('b', '\x08'), ('t', '\t'), ('\t', '\t'), ('n', '\n'), ('v', '\x0b'),
  ('f', '\x0c'), ('r', '\r'), ('e', '\x1b'), (' ', ' '), ('"', '"'), ('\\', '\\'), ('/', '/'),
  ('N', '\u0085'), ('_', '\u00a0'), ('L', '\u2028'), ('P', '\u2029')]

/-- The number of hexadecimal digits behind the letters of numeric escapes. -/
def numericEscapes : List (Char × Nat) := [('x', 2), ('u', 4), ('U', 8)]

/-- The character of a numeric escape, or half of one. -/
def escapedChar (digits : List Char) : Except Error Char := do
  let mut n := 0
  for c in digits do
    match Text.hexDigit? c with
    | some d => n := n * 16 + d
    | none => malformed
  if 0x80000000 ≤ n then .error (.misfit .codePointTooLarge)
  if 0x110000 ≤ n then .error (.scalar .codePoint)
  return Text.character n

/-- The ends of lines and the blanks from here on; a document may not begin or end among them. -/
def quotedBreaks : Nat → Source → Except Error (List Char × Source)
  | 0, s => .ok ([], s)
  | fuel + 1, s =>
    if s.atDocumentEdge then malformed
    else
      let s := s.skip fun c => c = ' ' || c = '\t'
      if isBreak s.head then do
        let (c, s) := s.lineBreak
        let (more, s) ← quotedBreaks fuel s
        return (c ++ more, s)
      else .ok ([], s)

/-- The rest of a scalar in quotes, up to and with the closing one. -/
def quotedRest (double : Bool) : Nat → Source → Except Error (List Char × Source)
  | 0, _ => malformed
  | fuel + 1, s =>
    let c := s.head
    let quote := if double then '"' else '\''
    let go (done : List Char) (s : Source) : Except Error (List Char × Source) := do
      let (more, s) ← quotedRest double fuel s
      return (done ++ more, s)
    if c = endMark then malformed
    else if !double && c = '\'' && s.peek 1 = '\'' then go ['\''] (s.advance 2)
    else if c = quote then .ok ([], s.next)
    else if double && c = '\\' then
      let s := s.next
      match escapes.lookup s.head with
      | some e => go [e] s.next
      | none =>
        match numericEscapes.lookup s.head with
        | some count => do
          let s := s.next
          let digits := s.rest.take count
          if digits.length < count then malformed
          let e ← escapedChar digits
          go [e] (s.advance count)
        | none =>
          if isBreak s.head then do
            let (breaks, s) ← quotedBreaks fuel s.lineBreak.2
            go breaks s
          else malformed
    else if c = ' ' || c = '\t' || isBreak c then
      let (blanks, s) := s.span fun c => c = ' ' || c = '\t'
      if s.head = endMark then malformed
      else if isBreak s.head then do
        let (ending, s) := s.lineBreak
        let (breaks, s) ← quotedBreaks fuel s
        let between := if ending ≠ ['\n'] then ending else if breaks.isEmpty then [' '] else []
        go (between ++ breaks) s
      else go blanks s
    else go [c] s.next

/-- A scalar in quotes. -/
def quotedScalar (double : Bool) (s : Source) : Except Error (Token × Source) := do
  let (cs, s) ← quotedRest double (s.size + 1) s.next
  return (.scalar false (String.ofList cs), s)

/-! ## Plain scalars -/

/-- A plain scalar ends before this character inside a line; `next` is the one behind it. -/
def endsPlain (flow : Bool) (c next : Char) : Bool :=
  isBlankOrEnd c ||
    (c = ':' && (isBlankOrEnd next || (flow && ",[]\x7b\x7d".toList.contains next))) ||
    (flow && ",?[]\x7b\x7d".toList.contains c)

/-- The part of a plain scalar that stands in one run of characters. -/
def plainRun (flow : Bool) : List Char → List Char
  | [] => []
  | c :: rest => if endsPlain flow c (rest.headD endMark) then [] else c :: plainRun flow rest

/-- The ends of lines and blanks between the lines of a plain scalar, unless a document begins or ends
among them. -/
def plainBreaks : Nat → Source → Option (List Char) × Source
  | 0, s => (some [], s)
  | fuel + 1, s =>
    if s.head = ' ' then plainBreaks fuel s.next
    else if isBreak s.head then
      let (c, s) := s.lineBreak
      if s.atDocumentEdge then (none, s)
      else
        let (more, s) := plainBreaks fuel s
        (more.map (c ++ ·), s)
    else (some [], s)

/-- What stands between two runs of a plain scalar, and whether a line ended there. Nothing stands where
the scalar ends. -/
def plainSpaces (fuel : Nat) (s : Source) : List Char × Bool × Source :=
  let (blanks, s) := s.span (· = ' ')
  if isBreak s.head then
    let (ending, s) := s.lineBreak
    if s.atDocumentEdge then ([], true, s)
    else
      match plainBreaks fuel s with
      | (none, s) => ([], true, s)
      | (some breaks, s) =>
        let between := if ending ≠ ['\n'] then ending else if breaks.isEmpty then [' '] else []
        (between ++ breaks, true, s)
  else (blanks, false, s)

/-- The runs of a plain scalar with what stands between them, and whether a line ended behind the last
of them. -/
def plainRuns (flow : Bool) (indent : Int) : Nat → List Char → Bool → Source → List Char × Bool × Source
  | 0, _, broken, s => ([], broken, s)
  | fuel + 1, before, broken, s =>
    if s.head = '#' then ([], broken, s)
    else
      let run := plainRun flow s.rest
      if run.isEmpty then ([], broken, s)
      else
        let (spaces, ended, s) := plainSpaces fuel (s.advance run.length)
        if spaces.isEmpty || s.head = '#' || (!flow && (s.column : Int) < indent) then
          (before ++ run, ended, s)
        else
          let (more, ended, s) := plainRuns flow indent fuel spaces ended s
          (before ++ run ++ more, ended, s)

/-- A plain scalar inside the collection with an indentation, and whether a line ended behind it. -/
def plainScalar (outer : Int) (flow : Bool) (s : Source) : Token × Bool × Source :=
  let (cs, ended, s) := plainRuns flow (outer + 1) (s.size + 1) [] false s
  (.scalar true (String.ofList cs), ended, s)

end RuleLabels.Yaml
