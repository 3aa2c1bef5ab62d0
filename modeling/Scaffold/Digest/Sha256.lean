import Scaffold.Text.Pad

/-!
# SHA-256

The message is padded to whole blocks of 64 bytes: a bit, zeros, and the length in bits. Each block
is expanded to 64 words, which the rounds mix into the eight words of the state.
-/
namespace Scaffold.Digest

structure State where
  a : UInt32
  b : UInt32
  c : UInt32
  d : UInt32
  e : UInt32
  f : UInt32
  g : UInt32
  h : UInt32

namespace Sha256

def initial : State :=
  ⟨0x6a09e667, 0xbb67ae85, 0x3c6ef372, 0xa54ff53a, 0x510e527f, 0x9b05688c, 0x1f83d9ab, 0x5be0cd19⟩

def constants : Array UInt32 := #[
  0x428a2f98, 0x71374491, 0xb5c0fbcf, 0xe9b5dba5, 0x3956c25b, 0x59f111f1, 0x923f82a4, 0xab1c5ed5,
  0xd807aa98, 0x12835b01, 0x243185be, 0x550c7dc3, 0x72be5d74, 0x80deb1fe, 0x9bdc06a7, 0xc19bf174,
  0xe49b69c1, 0xefbe4786, 0x0fc19dc6, 0x240ca1cc, 0x2de92c6f, 0x4a7484aa, 0x5cb0a9dc, 0x76f988da,
  0x983e5152, 0xa831c66d, 0xb00327c8, 0xbf597fc7, 0xc6e00bf3, 0xd5a79147, 0x06ca6351, 0x14292967,
  0x27b70a85, 0x2e1b2138, 0x4d2c6dfc, 0x53380d13, 0x650a7354, 0x766a0abb, 0x81c2c92e, 0x92722c85,
  0xa2bfe8a1, 0xa81a664b, 0xc24b8b70, 0xc76c51a3, 0xd192e819, 0xd6990624, 0xf40e3585, 0x106aa070,
  0x19a4c116, 0x1e376c08, 0x2748774c, 0x34b0bcb5, 0x391c0cb3, 0x4ed8aa4a, 0x5b9cca4f, 0x682e6ff3,
  0x748f82ee, 0x78a5636f, 0x84c87814, 0x8cc70208, 0x90befffa, 0xa4506ceb, 0xbef9a3f7, 0xc67178f2]

def rotate (x : UInt32) (k : UInt32) : UInt32 := (x >>> k) ||| (x <<< (32 - k))

/-- The eight bytes of a number, the greatest first. -/
def bigEndian (n : Nat) : List UInt8 :=
  (List.range 8).map fun i => UInt8.ofNat (n >>> (8 * (7 - i)))

def pad (message : ByteArray) : ByteArray :=
  let zeros := (119 - message.size % 64) % 64
  let tail := 0x80 :: List.replicate zeros 0 ++ bigEndian (message.size * 8)
  message ++ ByteArray.mk tail.toArray

def byteAt (bytes : ByteArray) (i : Nat) : UInt32 :=
  if h : i < bytes.size then (bytes[i]).toUInt32 else 0

def wordAt (bytes : ByteArray) (i : Nat) : UInt32 :=
  (byteAt bytes i <<< 24) ||| (byteAt bytes (i + 1) <<< 16) ||| (byteAt bytes (i + 2) <<< 8)
    ||| byteAt bytes (i + 3)

def word (words : Array UInt32) (i : Nat) : UInt32 := words.getD i 0

/-- The words of a block, continued by the recurrence up to 64 of them. -/
def schedule (bytes : ByteArray) (start : Nat) : Array UInt32 :=
  let input := ((List.range 16).map fun i => wordAt bytes (start + 4 * i)).toArray
  (List.range 48).foldl (fun words k =>
    let i := k + 16
    let x := word words (i - 15)
    let y := word words (i - 2)
    let s0 := rotate x 7 ^^^ rotate x 18 ^^^ (x >>> 3)
    let s1 := rotate y 17 ^^^ rotate y 19 ^^^ (y >>> 10)
    words.push (word words (i - 16) + s0 + word words (i - 7) + s1)) input

def round (words : Array UInt32) (s : State) (i : Nat) : State :=
  let s1 := rotate s.e 6 ^^^ rotate s.e 11 ^^^ rotate s.e 25
  let choice := (s.e &&& s.f) ^^^ ((s.e ^^^ 0xffffffff) &&& s.g)
  let t1 := s.h + s1 + choice + word constants i + word words i
  let s0 := rotate s.a 2 ^^^ rotate s.a 13 ^^^ rotate s.a 22
  let majority := (s.a &&& s.b) ^^^ (s.a &&& s.c) ^^^ (s.b &&& s.c)
  ⟨t1 + s0 + majority, s.a, s.b, s.c, s.d + t1, s.e, s.f, s.g⟩

def block (bytes : ByteArray) (s : State) (start : Nat) : State :=
  let words := schedule bytes start
  let r := (List.range 64).foldl (round words) s
  ⟨s.a + r.a, s.b + r.b, s.c + r.c, s.d + r.d, s.e + r.e, s.f + r.f, s.g + r.g, s.h + r.h⟩

end Sha256

/-- The digest of a message in 64 hexadecimal digits. -/
def sha256 (message : ByteArray) : String :=
  let bytes := Sha256.pad message
  let s := (List.range (bytes.size / 64)).foldl
    (fun s i => Sha256.block bytes s (64 * i)) Sha256.initial
  let words := [s.a, s.b, s.c, s.d, s.e, s.f, s.g, s.h]
  String.ofList (words.flatMap fun w => Text.hexDigits 8 w.toNat)

end Scaffold.Digest
