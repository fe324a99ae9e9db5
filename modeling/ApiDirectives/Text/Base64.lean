/-!
# Base 64

Four letters stand for three bytes. Characters outside the alphabet are passed over, and what follows
the padding is not read.
-/

namespace ApiDirectives.Text

/-- The value of a letter of the alphabet. -/
def base64Value? (c : Char) : Option Nat :=
  if 'A' ≤ c && c ≤ 'Z' then some (c.toNat - 'A'.toNat)
  else if 'a' ≤ c && c ≤ 'z' then some (c.toNat - 'a'.toNat + 26)
  else if '0' ≤ c && c ≤ '9' then some (c.toNat - '0'.toNat + 52)
  else if c == '+' then some 62
  else if c == '/' then some 63
  else none

/-- Reads the rest of a text. `place` counts the letters of the group of four so far, `bits` is what
the last of them left over, and `pads` counts the padding just before. -/
def base64From (place bits pads : Nat) : List Char → Option (List UInt8)
  | [] => if place = 0 then some [] else none
  | c :: r =>
    if c = '=' then
      if 2 ≤ place && 4 ≤ place + (pads + 1) then some []
      else base64From place bits (if 2 ≤ place then pads + 1 else pads) r
    else
      match base64Value? c, place with
      | none, _ => base64From place bits pads r
      | some v, 0 => base64From 1 v 0 r
      | some v, 1 => (base64From 2 (v % 16) 0 r).map ((bits * 4 + v / 16).toUInt8 :: ·)
      | some v, 2 => (base64From 3 (v % 4) 0 r).map ((bits * 16 + v / 4).toUInt8 :: ·)
      | some v, _ => (base64From 0 0 0 r).map ((bits * 64 + v).toUInt8 :: ·)

/-- The bytes that a text stands for. -/
def decodeBase64 (cs : List Char) : Option (List UInt8) := base64From 0 0 0 cs

/-- Each group of four letters gives three bytes. -/
example : decodeBase64 "TWFu".toList = some [77, 97, 110] := by decide

/-- Padding ends the text early. -/
example : decodeBase64 "TQ==xyz".toList = some [77] := by decide

/-- A group may not be cut short without padding. -/
example : decodeBase64 "TWF".toList = none := by decide

end ApiDirectives.Text
