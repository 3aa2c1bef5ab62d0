import Scaffold.Number.Binary64
import Scaffold.Text.Pad

/-!
# Decimal texts of binary numbers

The shortest text has the fewest digits that still read back as the same number, and of those
digits the nearest. The fixed text has a given number of places, rounded from the exact value. The
whole text writes out every digit of a whole number.
-/
namespace Scaffold.Number

/-- A numeral with more digits is neither read nor written. -/
def digitLimit : Nat := 4300

def longNumeralText : String :=
  s!"Exceeds the limit ({digitLimit} digits) for integer string conversion"

def longNumeralAdvice : String := "use sys.set_int_max_str_digits() to increase the limit"

/-- The numeral of a whole number, unless it is too long. -/
def numeral? (i : Int) : Option String :=
  if digitLimit < (toString i.natAbs).length then none else some (toString i)

/-- Digits `d₁d₂…dₙ` with the decimal point after the first `point` of them. -/
structure DigitString where
  digits : Nat
  point : Int

namespace Binary64

/-- The power of ten just above `num / den`, for a positive fraction. -/
def decimalPoint (num den : Nat) : Int :=
  let guess := Int.ofNat (digitCount num) - Int.ofNat (digitCount den)
  let reaches (power : Int) : Bool :=
    let (n, d) := inUnits tenTo power num den
    d ≤ n
  if reaches guess then guess + 1 else guess

/-- The nearer of the two neighbours of `num / den` on the grid of `count` digits that read back as
`x`. -/
def gridPoint? (x : Binary64) (num den : Nat) (point : Int) (count : Nat) : Option Nat :=
  let power := point - Int.ofNat count
  let (n, d) := inUnits tenTo power num den
  let low := n / d
  let nearest := roundDiv n d
  let other := if nearest = low then low + 1 else low
  let readsBack (digits : Nat) : Bool := ofDecimal false digits power == x
  if readsBack nearest then some nearest
  else if readsBack other then some other
  else none

/-- The shortest digits of a positive number; seventeen are always enough. -/
def shortestDigits (x : Binary64) (num den : Nat) : DigitString :=
  let point := decimalPoint num den
  let hit (count : Nat) := (gridPoint? x num den point count).map fun d => (d, count)
  match ((List.range 17).map (· + 1)).findSome? hit with
  | some (d, count) => if d = tenTo count then ⟨1, point + 1⟩ else ⟨d, point⟩
  | none => ⟨0, 1⟩

end Binary64

/-- Digits without the zeros that end them. -/
def trimZeros (cs : List Char) : List Char := (cs.reverse.dropWhile (· = '0')).reverse

/-- Positional from `0.0001` up to sixteen digits before the point, else with a power of ten of two
digits or more. A whole number keeps the mark of a fraction, as in `1.0`. -/
def DigitString.text (s : DigitString) : String :=
  let cs := trimZeros (toString s.digits).toList
  let count := Int.ofNat cs.length
  if s.point ≤ -4 ∨ 16 < s.point then
    let power := s.point - 1
    let sign := if power < 0 then "-" else "+"
    let mantissa := match cs with
      | [] => "0"
      | [d] => String.singleton d
      | d :: rest => String.ofList (d :: '.' :: rest)
    mantissa ++ "e" ++ sign ++ Text.zeroPadded 2 power.natAbs
  else if s.point ≤ 0 then
    String.ofList ('0' :: '.' :: List.replicate (-s.point).toNat '0' ++ cs)
  else if count ≤ s.point then
    String.ofList (cs ++ List.replicate (s.point - count).toNat '0' ++ ['.', '0'])
  else
    String.ofList (cs.take s.point.toNat ++ '.' :: cs.drop s.point.toNat)

def signMark (negative : Bool) : String := if negative then "-" else ""

/-- The shortest text that reads back. -/
def Binary64.shortest (x : Binary64) : String :=
  match x.value with
  | .nan => "nan"
  | .infinite negative => signMark negative ++ "inf"
  | .finite negative _ _ =>
    match x.toRatio? with
    | some (_, num, den) =>
      if num = 0 then signMark negative ++ "0.0"
      else
        let magnitude := if negative then x.negate else x
        signMark negative ++ (magnitude.shortestDigits num den).text
    | none => ""

/-- The text with `places` digits after the point; the exact value is rounded, halves to even. -/
def Binary64.fixed (places : Nat) (x : Binary64) : String :=
  match x.value with
  | .nan => "nan"
  | .infinite negative => signMark negative ++ "inf"
  | .finite negative _ _ =>
    match x.toRatio? with
    | some (_, num, den) =>
      let scaled := roundDiv (num * tenTo places) den
      signMark negative ++ toString (scaled / tenTo places) ++
        (if places = 0 then "" else "." ++ Text.zeroPadded places (scaled % tenTo places))
    | none => ""

/-- All digits of a whole number, else the shortest text. -/
def Binary64.wholeOrShortest (x : Binary64) : String :=
  match x.toInt? with
  | some i => toString i
  | none => x.shortest

end Scaffold.Number
