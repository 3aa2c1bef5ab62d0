/-!
# Base 64

A lenient reader: characters outside the alphabet are passed over, and reading stops at a padding
that completes a group of four.
-/
namespace Scaffold.Text.Base64

def sextet? (c : Char) : Option Nat :=
  if 'A' ≤ c ∧ c ≤ 'Z' then some (c.toNat - 'A'.toNat)
  else if 'a' ≤ c ∧ c ≤ 'z' then some (c.toNat - 'a'.toNat + 26)
  else if '0' ≤ c ∧ c ≤ '9' then some (c.toNat - '0'.toNat + 52)
  else if c = '+' then some 62
  else if c = '/' then some 63
  else none

/-- `place` counts the characters of the current group, `pads` the padding after the last of them,
and `left` holds the bits that wait for the next one. A text that breaks off inside a group, or
after a single character of one, has no value. -/
def decodeFrom (place pads left : Nat) : List Char → Option (List UInt8)
  | [] => if place = 0 then some [] else none
  | c :: rest =>
    if c = '=' then
      if 2 ≤ place ∧ 4 ≤ place + pads + 1 then some []
      else decodeFrom place (if 2 ≤ place then pads + 1 else pads) left rest
    else match sextet? c with
      | none => decodeFrom place pads left rest
      | some bits =>
        if place = 0 then decodeFrom 1 0 bits rest
        else if place = 1 then
          (decodeFrom 2 0 (bits % 16) rest).map (UInt8.ofNat (left * 4 + bits / 16) :: ·)
        else if place = 2 then
          (decodeFrom 3 0 (bits % 4) rest).map (UInt8.ofNat (left * 16 + bits / 4) :: ·)
        else (decodeFrom 0 0 0 rest).map (UInt8.ofNat (left * 64 + bits) :: ·)

def decode? (cs : List Char) : Option (List UInt8) := decodeFrom 0 0 0 cs

end Scaffold.Text.Base64
