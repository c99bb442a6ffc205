/-!
Bytes written with sixty-four characters, four of them for three bytes. Characters beyond these
are passed over; the padding that completes the last four ends the text.
-/

namespace OutlineCalc.Yaml.Base64

/-- The six bits that a character stands for. -/
def bits? (c : Char) : Option Nat :=
  if 'A' ≤ c ∧ c ≤ 'Z' then some (c.toNat - 'A'.toNat)
  else if 'a' ≤ c ∧ c ≤ 'z' then some (c.toNat - 'a'.toNat + 26)
  else if '0' ≤ c ∧ c ≤ '9' then some (c.toNat - '0'.toNat + 52)
  else if c = '+' then some 62
  else if c = '/' then some 63
  else none

/-- The bytes of a text from a place on, where `held` are the bits of the last `place` characters
of a group that are not in a byte yet, and `pads` counts the paddings met. -/
def bytesFrom : List Char → (place held pads : Nat) → List UInt8 → Option (List UInt8)
  | [], place, _, _, bytes => if place = 0 then some bytes else none
  | c :: cs, place, held, pads, bytes =>
    if c = '=' then
      if place ≥ 2 then
        if place + pads + 1 ≥ 4 then some bytes else bytesFrom cs place held (pads + 1) bytes
      else bytesFrom cs place held pads bytes
    else match bits? c with
      | none => bytesFrom cs place held pads bytes
      | some bits => match place with
        | 0 => bytesFrom cs 1 bits 0 bytes
        | 1 => bytesFrom cs 2 (bits % 16) 0 (bytes ++ [(held * 4 + bits / 16).toUInt8])
        | 2 => bytesFrom cs 3 (bits % 4) 0 (bytes ++ [(held * 16 + bits / 4).toUInt8])
        | _ => bytesFrom cs 0 0 0 (bytes ++ [(held * 64 + bits).toUInt8])

/-- The bytes that a text stands for, if its last group is complete. -/
def bytes? (text : List Char) : Option (List UInt8) := bytesFrom text 0 0 0 []

end OutlineCalc.Yaml.Base64
