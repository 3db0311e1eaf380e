import RuleLabels.Text.Half
import RuleLabels.Text.Utf8

/-!
# Encodings

The encoding of the bytes of a document, told by the zeros among the first of them, and the text that the
bytes spell in it. A document begins with characters of the ASCII range, so a zero means units of more
than one byte. Halves of characters may stand alone.
-/

namespace RuleLabels.Text

/-- The encodings of documents: by bytes, or by units of two or four bytes with the least one first or
last. -/
inductive Encoding where
  | utf8
  | units16 (leastFirst : Bool)
  | units32 (leastFirst : Bool)
  deriving DecidableEq

/-- The encoding of bytes. -/
def Encoding.ofBytes : List UInt8 → Encoding
  | a :: b :: c :: d :: _ =>
    if a = 0 then if b = 0 then units32 false else units16 false
    else if b = 0 then if c = 0 && d = 0 then units32 true else units16 true
    else utf8
  | [a, b] => if a = 0 then units16 false else if b = 0 then units16 true else utf8
  | _ => utf8

/-- The number that the bytes of a unit spell. -/
def unitValue (leastFirst : Bool) (bytes : List UInt8) : Nat :=
  ofDigits 256 ((if leastFirst then bytes.reverse else bytes).map UInt8.toNat)

/-- The units of two bytes that bytes consist of. -/
def pairUnits? (leastFirst : Bool) : List UInt8 → Option (List Nat)
  | [] => some []
  | a :: b :: rest => (pairUnits? leastFirst rest).map (unitValue leastFirst [a, b] :: ·)
  | _ => none

/-- The text of units of two bytes, in which two halves that follow each other are one character. -/
def decodeUnits16? (leastFirst : Bool) (bytes : List UInt8) : Option String :=
  (pairUnits? leastFirst bytes).map fun units => String.ofList (joinHalves (units.map character))

/-- The text of units of four bytes. -/
def decodeUnits32? (leastFirst : Bool) : List UInt8 → Option (List Char)
  | [] => some []
  | a :: b :: c :: d :: rest =>
    let n := unitValue leastFirst [a, b, c, d]
    if n < 0x110000 then (decodeUnits32? leastFirst rest).map (character n :: ·) else none
  | _ => none

/-- The text that bytes spell in their encoding. -/
def decodeDocument? (bytes : List UInt8) : Option String :=
  match Encoding.ofBytes bytes with
  | .utf8 => (decodeUtf8 bytes).toOption
  | .units16 leastFirst => decodeUnits16? leastFirst bytes
  | .units32 leastFirst => (decodeUnits32? leastFirst bytes).map String.ofList

end RuleLabels.Text
