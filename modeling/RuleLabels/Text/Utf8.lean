import RuleLabels.Text.Digit

/-!
# UTF-8

Decoding of bytes with an exact account of the first fault: where it begins, how many bytes belong to
it and what is wrong with them. Surrogates, overlong forms and code points beyond the last plane are
refused at their second byte.
-/

namespace RuleLabels.Text

/-- The bytes of a text. -/
def utf8Bytes (s : String) : List UInt8 := s.toUTF8.data.toList

/-- What is wrong with a sequence of bytes. -/
inductive Utf8Fault where
  | badStart
  | badContinuation
  | truncated
  deriving DecidableEq

/-- The first fault in a byte string: its first byte's position and value, and its count of bytes. -/
structure Utf8Error where
  fault : Utf8Fault
  start : Nat
  count : Nat
  byte : UInt8
  deriving DecidableEq

/-- The wording of a fault. -/
def Utf8Fault.text : Utf8Fault → String
  | badStart => "invalid start byte"
  | badContinuation => "invalid continuation byte"
  | truncated => "unexpected end of data"

/-- The wording of an error. -/
def Utf8Error.text (e : Utf8Error) : String :=
  if e.count = 1 then
    s!"'utf-8' codec can't decode byte 0x{String.ofList (padded 16 2 e.byte.toNat)} in position {e.start}: {e.fault.text}"
  else
    s!"'utf-8' codec can't decode bytes in position {e.start}-{e.start + e.count - 1}: {e.fault.text}"

/-! ## Decoding -/

/-- A byte of the form `10xxxxxx`. -/
def isContinuation (b : UInt8) : Bool := 0x80 ≤ b && b ≤ 0xBF

/-- The number of bytes and the leading bits that a first byte announces. -/
def leadByte? (b : UInt8) : Option (Nat × Nat) :=
  if b < 0x80 then some (1, b.toNat)
  else if b < 0xC2 then none
  else if b < 0xE0 then some (2, b.toNat % 0x20)
  else if b < 0xF0 then some (3, b.toNat % 0x10)
  else if b < 0xF5 then some (4, b.toNat % 0x08)
  else none

/-- The second bytes that may follow a first byte. -/
def secondByteFits (lead b : UInt8) : Bool :=
  isContinuation b &&
  (if lead = 0xE0 then 0xA0 ≤ b
   else if lead = 0xED then b < 0xA0
   else if lead = 0xF0 then 0x90 ≤ b
   else if lead = 0xF4 then b < 0x90
   else true)

/-- The continuation bytes of one character: the accumulated code point and the rest, or the fault with
the number of bytes that were in order. -/
def continuation (lead : UInt8) : Nat → Nat → Nat → List UInt8 → Except (Utf8Fault × Nat) (Nat × List UInt8)
  | 0, _, acc, rest => .ok (acc, rest)
  | _ + 1, seen, _, [] => .error (.truncated, seen)
  | need + 1, seen, acc, b :: rest =>
    if (if seen = 1 then secondByteFits lead b else isContinuation b) then
      continuation lead need (seen + 1) (acc * 0x40 + b.toNat % 0x40) rest
    else .error (.badContinuation, seen)

/-- Decodes at most `fuel` characters of the bytes that start at `position`. -/
def decodeFrom : Nat → Nat → List UInt8 → List Char → Except Utf8Error (List Char)
  | 0, _, _, acc => .ok acc.reverse
  | _ + 1, _, [], acc => .ok acc.reverse
  | fuel + 1, position, b :: rest, acc =>
    match leadByte? b with
    | none => .error ⟨.badStart, position, 1, b⟩
    | some (count, bits) =>
      match continuation b (count - 1) 1 bits rest with
      | .error (fault, seen) => .error ⟨fault, position, seen, b⟩
      | .ok (code, rest) => decodeFrom fuel (position + count) rest (Char.ofNat code :: acc)

/-- The text that bytes spell, or the first fault in them. -/
def decodeUtf8 (bytes : List UInt8) : Except Utf8Error String :=
  (decodeFrom bytes.length 0 bytes []).map String.ofList

end RuleLabels.Text
