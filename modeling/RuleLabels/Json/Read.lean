import RuleLabels.Json.Error
import RuleLabels.Number.Decimal
import RuleLabels.Text.Half
import RuleLabels.Value

/-!
# Reading JSON

JSON texts as values. Integers may have any size up to a limit on their digits, other numbers are
floats, the words for the undefined and the infinite floats are numbers too, and of two fields of one
name the last gives the value. An escape may stand for half of a character. Each fault is reported at
the character where it shows.
-/

namespace RuleLabels.Json

/-- The rest of a text, and the number of characters before it. -/
structure Cursor where
  position : Nat
  rest : List Char

/-- The outcome of reading a part of a text. -/
abbrev Reading (α : Type) := Except Error (α × Cursor)

/-- Refuses the text for a fault at a position. -/
def fail {α : Type} (fault : Fault) (position : Nat) : Except Error α := .error (.malformed fault position)

/-- White space between tokens. -/
def isSpace (c : Char) : Bool := c = ' ' || c = '\t' || c = '\n' || c = '\r'

/-- White space at a position passed over. -/
def skip (position : Nat) : List Char → Cursor
  | [] => ⟨position, []⟩
  | c :: rest => if isSpace c then skip (position + 1) rest else ⟨position, c :: rest⟩

/-- White space passed over. -/
def Cursor.skip (c : Cursor) : Cursor := Json.skip c.position c.rest

/-! ## Strings -/

/-- The character that an escape of one letter stands for. -/
def escape? : Char → Option Char
  | '"' => some '"'
  | '\\' => some '\\'
  | '/' => some '/'
  | 'b' => some '\x08'
  | 'f' => some '\x0c'
  | 'n' => some '\n'
  | 'r' => some '\r'
  | 't' => some '\t'
  | _ => none

/-- The number that four hexadecimal digits at the front spell. More has to follow them. -/
def hex4? : List Char → Option Nat
  | a :: b :: c :: d :: _ :: _ => do
    let a ← Text.hexDigit? a
    let b ← Text.hexDigit? b
    let c ← Text.hexDigit? c
    let d ← Text.hexDigit? d
    return ((a * 16 + b) * 16 + c) * 16 + d
  | _ => none

/-- The character that `\u` and the text `s` behind it stand for, with the number of characters of `s`
that belong to it. `position` is that of the `u`. -/
def unicodeEscape (position : Nat) (s : List Char) : Except Error (Char × Nat) :=
  match hex4? s with
  | none => fail .badUnicodeEscape position
  | some n =>
    if Text.isHighHalf n then
      match s.drop 4 with
      | '\\' :: 'u' :: low =>
        if (low.drop 4).isEmpty then .ok (Text.character n, 4)
        else
          match hex4? low with
          | none => fail .badUnicodeEscape (position + 6)
          | some m =>
            if Text.isLowHalf m then .ok (Text.joined n m, 10) else .ok (Text.character n, 4)
      | _ => .ok (Text.character n, 4)
    else .ok (Text.character n, 4)

/-- Reads the rest of the string that opens at `start`; `done` are its characters so far, the last one
first, and `passed` is the number of characters that belong to an escape already read. -/
def string (start : Nat) : Nat → Nat → List Char → List Char → Reading String
  | _, _, _, [] => fail .unterminatedString start
  | position, passed + 1, done, _ :: rest => string start (position + 1) passed done rest
  | position, 0, done, c :: rest =>
    if c = '"' then .ok (String.ofList done.reverse, ⟨position + 1, rest⟩)
    else if c = '\\' then
      match rest with
      | [] => fail .unterminatedString start
      | 'u' :: rest' =>
        match unicodeEscape (position + 1) rest' with
        | .error e => .error e
        | .ok (c, length) => string start (position + 1) (length + 1) (c :: done) rest
      | e :: _ =>
        match escape? e with
        | some c => string start (position + 1) 1 (c :: done) rest
        | none => fail .badEscape position
    else if c.toNat < 0x20 then fail .controlCharacter position
    else string start (position + 1) 0 (c :: done) rest

/-! ## Numbers -/

/-- A number as it is written: its sign, its digits before the point, its fraction and its exponent. -/
structure Numeral where
  negative : Bool
  whole : List Nat
  fraction : Option (List Nat)
  exponent : Option Int

/-- The digits before the point: a zero, or digits that do not begin with one. -/
def wholeDigits? (s : List Char) : Option (List Nat × List Char) :=
  match s with
  | '0' :: rest => some ([0], rest)
  | s =>
    match NumberLiteral.digits s with
    | ([], _) => none
    | found => some found

/-- A fraction: a point and at least one digit. -/
def fraction? (s : List Char) : Option (List Nat × List Char) :=
  match s with
  | '.' :: rest =>
    match NumberLiteral.digits rest with
    | ([], _) => none
    | found => some found
  | _ => none

/-- The number at the front of a text, its number of characters, and the rest. -/
def numeral? (s : List Char) : Option (Numeral × Nat × List Char) := do
  let (negative, body) := match s with
    | '-' :: rest => (true, rest)
    | s => (false, s)
  let (whole, rest) ← wholeDigits? body
  let length := negative.toNat + whole.length
  let (fraction, length, rest) := match fraction? rest with
    | some (ds, rest) => (some ds, length + 1 + ds.length, rest)
    | none => (none, length, rest)
  match NumberLiteral.exponent? rest with
  | some (e, n, rest) => return (⟨negative, whole, fraction, some e⟩, length + n, rest)
  | none => return (⟨negative, whole, fraction, none⟩, length, rest)

/-- The value of a number: a float if it has a fraction or an exponent. -/
def Numeral.value (n : Numeral) : Except Error Value :=
  match n.fraction, n.exponent with
  | none, none =>
    if Text.maxIntegerDigits < n.whole.length then .error (.integerTooLong n.whole.length)
    else
      let i : Int := Text.ofDigits 10 n.whole
      .ok (.int (if n.negative then -i else i))
  | fraction, exponent =>
    .ok (.float ((Decimal.ofDigits n.whole (fraction.getD []) (exponent.getD 0)).toBinary64 n.negative))

/-! ## Words -/

/-- The words that are values. -/
def words : List (List Char × Value) := [
  ("null".toList, .null), ("true".toList, .bool true), ("false".toList, .bool false),
  ("NaN".toList, .float .nan), ("Infinity".toList, .float (.infinite false)),
  ("-Infinity".toList, .float (.infinite true))]

/-- The word at the front of a text. -/
def word? (s : List Char) : Option (Value × Nat) :=
  (words.find? fun w => w.1.isPrefixOf s).map fun w => (w.2, w.1.length)

/-- Reads a word or a number. -/
def scalar (c : Cursor) : Reading Value :=
  match word? c.rest with
  | some (v, length) => .ok (v, ⟨c.position + length, c.rest.drop length⟩)
  | none =>
    match numeral? c.rest with
    | none => fail .noValue c.position
    | some (n, length, rest) => n.value.map fun v => (v, ⟨c.position + length, rest⟩)

/-! ## Values -/

/-- The fields of an object that were read last first, in their order, where the last of one name gives
the value and the first the place. -/
def gather (reversed : List (String × Value)) : Fields :=
  let latest := reversed
  (reversed.reverse.foldl (fun (seen, done) f =>
      if seen.contains f.1 then (seen, done)
      else (f.1 :: seen, (f.1, (latest.lookup f.1).getD f.2) :: done))
    (([] : List String), ([] : List (String × Value)))).2.reverse

/-- The most collections that may be open at once. -/
def maxDepth : Nat := 970

mutual

/-- Reads a value inside which `room` more collections may be open at once. -/
def value : Nat → Nat → Cursor → Reading Value
  | 0, _, c => fail .noValue c.position
  | fuel + 1, room, c =>
    match c.rest with
    | '"' :: rest => (string c.position (c.position + 1) 0 [] rest).map fun (s, c) => (.text s, c)
    | '[' :: rest =>
      match room with
      | 0 => .error (.tooDeep .array)
      | room + 1 =>
        let c := skip (c.position + 1) rest
        match c.rest with
        | ']' :: rest => .ok (.array [], ⟨c.position + 1, rest⟩)
        | _ => items fuel room c []
    | '\x7b' :: rest =>
      match room with
      | 0 => .error (.tooDeep .object)
      | room + 1 =>
        let c := skip (c.position + 1) rest
        match c.rest with
        | '\x7d' :: rest => .ok (.object [], ⟨c.position + 1, rest⟩)
        | _ => members fuel room c []
    | _ => scalar c

/-- Reads the rest of an array, whose items so far are `done`, the last one first. -/
def items : Nat → Nat → Cursor → List Value → Reading Value
  | 0, _, c, _ => fail .noValue c.position
  | fuel + 1, room, c, done =>
    match value fuel room c with
    | .error e => .error e
    | .ok (v, c) =>
      let c := c.skip
      match c.rest with
      | ']' :: rest => .ok (.array (v :: done).reverse, ⟨c.position + 1, rest⟩)
      | ',' :: rest => items fuel room (skip (c.position + 1) rest) (v :: done)
      | _ => fail .noComma c.position

/-- Reads the rest of an object, whose fields so far are `done`, the last one first. -/
def members : Nat → Nat → Cursor → List (String × Value) → Reading Value
  | 0, _, c, _ => fail .noValue c.position
  | fuel + 1, room, c, done =>
    match c.rest with
    | '"' :: rest =>
      match string c.position (c.position + 1) 0 [] rest with
      | .error e => .error e
      | .ok (name, c) =>
        let c := c.skip
        match c.rest with
        | ':' :: rest =>
          match value fuel room (skip (c.position + 1) rest) with
          | .error e => .error e
          | .ok (v, c) =>
            let c := c.skip
            let done := (name, v) :: done
            match c.rest with
            | '\x7d' :: rest => .ok (.object (gather done), ⟨c.position + 1, rest⟩)
            | ',' :: rest => members fuel room (skip (c.position + 1) rest) done
            | _ => fail .noComma c.position
        | _ => fail .noColon c.position
    | _ => fail .noPropertyName c.position

end

/-- Reads a text as one value. -/
def read (s : String) : Except Error Value :=
  let chars := s.toList
  if chars.head? = some '\ufeff' then fail .byteOrderMark 0
  else
    match value (2 * chars.length + 2) maxDepth (skip 0 chars) with
    | .error e => .error e
    | .ok (v, c) =>
      let c := c.skip
      if c.rest.isEmpty then .ok v else fail .extraData c.position

end RuleLabels.Json
