import RuleLabels.Text.Digit
import RuleLabels.Text.Utf8

/-!
# Percent encoding

Bytes written as a percent sign and two hexadecimal digits inside texts. Decoding leaves a percent sign
without digits as it is, and reads the decoded bytes as UTF-8 with replacement characters for faults.
-/

namespace RuleLabels.Text

/-- Decodes bytes, with a replacement character for each fault. -/
def decodeLossily : Nat → List UInt8 → List Char → List Char
  | 0, _, done => done.reverse
  | _ + 1, [], done => done.reverse
  | fuel + 1, b :: rest, done =>
    match leadByte? b with
    | none => decodeLossily fuel rest ('\ufffd' :: done)
    | some (count, bits) =>
      match continuation b (count - 1) 1 bits rest with
      | .error (_, seen) => decodeLossily fuel (rest.drop (seen - 1)) ('\ufffd' :: done)
      | .ok (code, rest) => decodeLossily fuel rest (Char.ofNat code :: done)

/-- The bytes that a text with percent signs stands for. -/
def percentBytes : List Char → List UInt8
  | '%' :: a :: b :: rest =>
    match hexDigit? a, hexDigit? b with
    | some x, some y => (x * 16 + y).toUInt8 :: percentBytes rest
    | _, _ => 0x25 :: percentBytes (a :: b :: rest)
  | c :: rest => utf8Bytes (String.singleton c) ++ percentBytes rest
  | [] => []

/-- The text that a text with percent signs stands for. -/
def percentDecode (s : String) : String :=
  let bytes := percentBytes s.toList
  String.ofList (decodeLossily bytes.length bytes [])

/-- The text of a query component, where a plus sign stands for a blank. -/
def percentDecodeQuery (s : String) : String :=
  percentDecode (String.ofList (s.toList.map fun c => if c = '+' then ' ' else c))

/-- A character that encoding keeps. -/
def isUnreserved (b : UInt8) : Bool :=
  (0x30 ≤ b && b ≤ 0x39) || (0x41 ≤ b && b ≤ 0x5A) || (0x61 ≤ b && b ≤ 0x7A) ||
    b = 0x5F || b = 0x2E || b = 0x2D || b = 0x7E

/-- One byte in capital hexadecimal digits behind a percent sign. -/
def percentByte (b : UInt8) : List Char := '%' :: (padded 16 2 b.toNat).map Char.toUpper

/-- A text with percent signs for all bytes that are neither unreserved nor among those `kept`. -/
def percentEncode (kept : List Char) (s : String) : String :=
  String.ofList <| (utf8Bytes s).flatMap fun b =>
    if isUnreserved b || kept.contains (Char.ofNat b.toNat) then [Char.ofNat b.toNat]
    else percentByte b

/-- A query component with plus signs for blanks. -/
def percentEncodeQuery (s : String) : String :=
  String.ofList ((percentEncode [' '] s).toList.map fun c => if c = ' ' then '+' else c)

end RuleLabels.Text
