import Scaffold.Text.Pad

/-!
# Reading UTF-8

A text is decoded whole or not at all. The first fault is reported with the bytes it spoils: the
byte that can start nothing, the bytes of a sequence up to the one that does not continue it, or
the sequence that the end cuts off.
-/
namespace Scaffold.Text.Utf8

inductive Cause
  | invalidStart
  | invalidContinuation
  | unexpectedEnd
deriving DecidableEq, Repr

/-- A fault at `length` bytes from `position` on; the first of them is `first`. -/
structure Fault where
  cause : Cause
  position : Nat
  length : Nat
  first : UInt8
deriving DecidableEq, Repr

def Cause.message : Cause → String
  | .invalidStart => "invalid start byte"
  | .invalidContinuation => "invalid continuation byte"
  | .unexpectedEnd => "unexpected end of data"

def Fault.message (f : Fault) : String :=
  let place :=
    if f.length = 1 then
      "byte 0x" ++ String.ofList (hexDigits 2 f.first.toNat) ++ " in position "
        ++ toString f.position
    else "bytes in position " ++ toString f.position ++ "-" ++ toString (f.position + f.length - 1)
  "'utf-8' codec can't decode " ++ place ++ ": " ++ f.cause.message

/-- The bytes that may follow a first byte: how many, and the range of the next one. -/
def followers? (first : Nat) : Option (Nat × Nat × Nat) :=
  if first < 0xc2 then none
  else if first < 0xe0 then some (1, 0x80, 0xbf)
  else if first = 0xe0 then some (2, 0xa0, 0xbf)
  else if first = 0xed then some (2, 0x80, 0x9f)
  else if first < 0xf0 then some (2, 0x80, 0xbf)
  else if first = 0xf0 then some (3, 0x90, 0xbf)
  else if first < 0xf4 then some (3, 0x80, 0xbf)
  else if first = 0xf4 then some (3, 0x80, 0x8f)
  else none

/-- What a first byte contributes to the code point. -/
def leadBits (first : Nat) : Nat :=
  if first < 0xe0 then first % 32 else if first < 0xf0 then first % 16 else first % 8

/-- The state between two bytes: a sequence is complete, or still wants `missing` bytes, the next
of them from `low` to `high`. -/
inductive Pending
  | none
  | some (start : Nat) (first : UInt8) (seen missing low high code : Nat)

/-- Decodes bytes one by one; `position` is that of the next byte. -/
def decodeFrom (position : Nat) : Pending → List UInt8 → Except Fault (List Char)
  | .none, [] => .ok []
  | .some start first seen .., [] => .error ⟨.unexpectedEnd, start, seen, first⟩
  | .none, b :: rest =>
    if b.toNat < 0x80 then do
      return Char.ofNat b.toNat :: (← decodeFrom (position + 1) .none rest)
    else match followers? b.toNat with
      | none => .error ⟨.invalidStart, position, 1, b⟩
      | some (missing, low, high) =>
        decodeFrom (position + 1) (.some position b 1 missing low high (leadBits b.toNat)) rest
  | .some start first seen missing low high code, b :: rest =>
    if low ≤ b.toNat ∧ b.toNat ≤ high then
      let code := code * 64 + b.toNat % 64
      if missing = 1 then do
        return Char.ofNat code :: (← decodeFrom (position + 1) .none rest)
      else
        decodeFrom (position + 1) (.some start first (seen + 1) (missing - 1) 0x80 0xbf code) rest
    else .error ⟨.invalidContinuation, start, seen, first⟩

/-- Sound text takes the short way. -/
def decode (bytes : ByteArray) : Except Fault String :=
  match String.fromUTF8? bytes with
  | some s => .ok s
  | none => (decodeFrom 0 .none bytes.toList).map String.ofList

end Scaffold.Text.Utf8

namespace Scaffold.Text

/-- Every way to end a line becomes a line feed. -/
def normalizeNewlines : List Char → List Char
  | '\r' :: '\n' :: rest => '\n' :: normalizeNewlines rest
  | '\r' :: rest => '\n' :: normalizeNewlines rest
  | c :: rest => c :: normalizeNewlines rest
  | [] => []

end Scaffold.Text
