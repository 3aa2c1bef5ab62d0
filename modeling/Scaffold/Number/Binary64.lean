import Scaffold.Number.Power

/-!
# Binary floating point of 64 bits

A number is its bit pattern. Everything is computed in exact integer arithmetic: a result is the
fraction that the operation means, rounded once to the nearest representable number, and to the one
with the even significand when two are equally near.
-/
namespace Scaffold.Number

structure Binary64 where
  bits : UInt64
deriving DecidableEq, Repr, Inhabited

namespace Binary64

/-- What a bit pattern stands for; a finite number is `± significand * 2 ^ exponent`. -/
inductive Value
  | nan
  | infinite (negative : Bool)
  | finite (negative : Bool) (significand : Nat) (exponent : Int)

def value (x : Binary64) : Value :=
  let bits := x.bits.toNat
  let negative := bits / twoTo 63 == 1
  let biased := bits / twoTo 52 % twoTo 11
  let fraction := bits % twoTo 52
  if biased = 2047 then
    if fraction = 0 then .infinite negative else .nan
  else if biased = 0 then .finite negative fraction (-1074)
  else .finite negative (twoTo 52 + fraction) (Int.ofNat biased - 1075)

def ofBits (negative : Bool) (magnitude : Nat) : Binary64 :=
  ⟨UInt64.ofNat (magnitude + if negative then twoTo 63 else 0)⟩

def zero (negative : Bool) : Binary64 := ofBits negative 0

def infinity (negative : Bool) : Binary64 := ofBits negative (2047 * twoTo 52)

def nan : Binary64 := ofBits false (2047 * twoTo 52 + twoTo 51)

/-- The pattern of `± significand * 2 ^ exponent`, for a significand of at most `2 ^ 53` that has
fewer than 53 bits only at the least exponent. -/
def ofScaled (negative : Bool) (significand : Nat) (exponent : Int) : Binary64 :=
  if significand < twoTo 52 then ofBits negative significand
  else
    let magnitude := (exponent + 1074).toNat * twoTo 52 + significand
    if 2047 * twoTo 52 ≤ magnitude then infinity negative else ofBits negative magnitude

/-- A quotient rounded to the nearest integer, halves to the even one. -/
def roundDiv (num den : Nat) : Nat :=
  let q := num / den
  let r := num % den
  if 2 * r < den then q
  else if den < 2 * r then q + 1
  else q + q % 2

/-- The number nearest to `± num / den`, where `den` is not zero. -/
def ofRatio (negative : Bool) (num den : Nat) : Binary64 :=
  if num = 0 then zero negative
  else
    -- The quotient has `bits` or `bits + 1` binary digits before its point.
    let bits : Int := Int.ofNat num.log2 - Int.ofNat den.log2
    let guess := max (bits - 53) (-1074)
    let (n, d) := inUnits twoTo guess num den
    let exponent := if twoTo 53 * d ≤ n then guess + 1 else guess
    let (n, d) := inUnits twoTo exponent num den
    ofScaled negative (roundDiv n d) exponent

/-- The exact fraction of a finite number, as sign, numerator and denominator. -/
def toRatio? (x : Binary64) : Option (Bool × Nat × Nat) :=
  match x.value with
  | .finite negative significand exponent =>
    some <| if 0 ≤ exponent then (negative, significand * twoTo exponent.toNat, 1)
      else (negative, significand, twoTo (-exponent).toNat)
  | _ => none

def ofInt (i : Int) : Binary64 := ofRatio (i < 0) i.natAbs 1

def digitCount (n : Nat) : Nat := (Nat.toDigits 10 n).length

/-- The number nearest to `± digits * 10 ^ power`. Powers far outside the range are settled without
being computed. -/
def ofDecimal (negative : Bool) (digits : Nat) (power : Int) : Binary64 :=
  if digits = 0 then zero negative
  else
    let magnitude := Int.ofNat (digitCount digits) + power
    if 310 < magnitude then infinity negative
    else if magnitude < -330 then zero negative
    else if 0 ≤ power then ofRatio negative (digits * tenTo power.toNat) 1
    else ofRatio negative digits (tenTo (-power).toNat)

def isFinite (x : Binary64) : Bool :=
  match x.value with
  | .finite .. => true
  | _ => false

def isNan (x : Binary64) : Bool :=
  match x.value with
  | .nan => true
  | _ => false

/-- The value of a finite number that is whole. -/
def toInt? (x : Binary64) : Option Int :=
  x.toRatio?.bind fun (negative, num, den) =>
    if num % den = 0 then
      let n := Int.ofNat (num / den)
      some (if negative then -n else n)
    else none

/-- The sum of two signed fractions; a sum of zero is negative only if both parts are. -/
def addRatio (a b : Bool × Nat × Nat) : Binary64 :=
  let signed (x : Bool × Nat × Nat) (den : Nat) : Int :=
    let n := Int.ofNat (x.2.1 * den)
    if x.1 then -n else n
  let sum := signed a b.2.2 + signed b a.2.2
  if sum = 0 then zero (a.1 && b.1)
  else ofRatio (sum < 0) sum.natAbs (a.2.2 * b.2.2)

def negate (x : Binary64) : Binary64 :=
  ⟨x.bits ^^^ 0x8000000000000000⟩

def add (x y : Binary64) : Binary64 :=
  match x.value, y.value with
  | .nan, _ | _, .nan => nan
  | .infinite a, .infinite b => if a = b then x else nan
  | .infinite _, _ => x
  | _, .infinite _ => y
  | .finite .., .finite .. =>
    match x.toRatio?, y.toRatio? with
    | some a, some b => addRatio a b
    | _, _ => nan

def sub (x y : Binary64) : Binary64 := x.add y.negate

/-- The product of two signed fractions. -/
def mulRatio (a b : Bool × Nat × Nat) : Binary64 :=
  ofRatio (a.1 != b.1) (a.2.1 * b.2.1) (a.2.2 * b.2.2)

/-- An infinity times a finite number. -/
def mulInfinite (negative : Bool) (x : Bool × Nat × Nat) : Binary64 :=
  if x.2.1 = 0 then nan else infinity (negative != x.1)

def mul (x y : Binary64) : Binary64 :=
  match x.value, y.value with
  | .nan, _ | _, .nan => nan
  | .infinite a, .infinite b => infinity (a != b)
  | .infinite a, .finite .. => (y.toRatio?.map (mulInfinite a)).getD nan
  | .finite .., .infinite b => (x.toRatio?.map (mulInfinite b)).getD nan
  | .finite .., .finite .. =>
    match x.toRatio?, y.toRatio? with
    | some a, some b => mulRatio a b
    | _, _ => nan

end Binary64
end Scaffold.Number
