/-!
# Base 64

Bytes written as characters of six bits each. Reading passes over all other characters, and an equals
sign where a group may end ends the text.
-/

namespace RuleLabels.Text

/-- The six bits that a character stands for. -/
def sixBits? (c : Char) : Option Nat :=
  if 'A' ≤ c ∧ c ≤ 'Z' then some (c.toNat - 'A'.toNat)
  else if 'a' ≤ c ∧ c ≤ 'z' then some (c.toNat - 'a'.toNat + 26)
  else if '0' ≤ c ∧ c ≤ '9' then some (c.toNat - '0'.toNat + 52)
  else if c = '+' then some 62
  else if c = '/' then some 63
  else none

/-- The bytes that are complete in a group of six-bit numbers. -/
def groupBytes : List Nat → List UInt8
  | [a, b] => [(a * 4 + b / 16).toUInt8]
  | [a, b, c] => [(a * 4 + b / 16).toUInt8, (b * 16 + c / 4).toUInt8]
  | [a, b, c, d] => [(a * 4 + b / 16).toUInt8, (b * 16 + c / 4).toUInt8, (c * 64 + d).toUInt8]
  | _ => []

/-- Reads the rest of a text; `group` are the numbers of the group that is open, and `pads` is the number
of equals signs behind the last of them. -/
def base64From? : List Nat → Nat → List Char → Option (List UInt8)
  | [], _, [] => some []
  | _ :: _, _, [] => none
  | group, pads, c :: rest =>
    if c = '=' then
      if group.length < 2 then base64From? group pads rest
      else if 4 ≤ group.length + pads + 1 then some (groupBytes group)
      else base64From? group (pads + 1) rest
    else
      match sixBits? c with
      | none => base64From? group pads rest
      | some n =>
        let group := group ++ [n]
        if group.length = 4 then (base64From? [] 0 rest).map (groupBytes group ++ ·)
        else base64From? group 0 rest

/-- The bytes that a text stands for. -/
def decodeBase64? (s : List Char) : Option (List UInt8) := base64From? [] 0 s

end RuleLabels.Text
