import Scaffold.Checked.Scalar
import Scaffold.Text.Base64
import Scaffold.Text.Case
import Scaffold.Text.Digit
import Scaffold.Yaml.Fault
import Scaffold.Yaml.Tag

/-!
# Values of scalars

What a text denotes as a truth value, a number, a date or bytes. A plain scalar has its type because
of its form; under a tag of its own any text can claim to be of a type.
-/
namespace Scaffold.Yaml.Scalar

open Number
open Calendar (Date DateTime)
open Document.Json (hexValue? isDigit digitsNumber)

def truth (s : String) : Except Fault Document :=
  let word := Text.lower s
  if ["yes", "true", "on"].contains word then .ok (.bool true)
  else if ["no", "false", "off"].contains word then .ok (.bool false)
  else .error (.notTruth word)

/-- The characters by which a number is read, without the white space around them. -/
def numerals (cs : List Char) : List Char := Text.trimChars (cs.map Text.numeral)

/-- A text without its underscores. -/
def joined (s : String) : List Char := s.toList.filter (· ≠ '_')

/-- Whether a number is negative, and its text without the sign. -/
def withoutSign (cs : List Char) : Bool × List Char :=
  match cs with
  | '-' :: rest => (true, rest)
  | '+' :: rest => (false, rest)
  | cs => (false, cs)

/-! ## Whole numbers -/

/-- The mark that digits of a base can begin with. -/
def baseMark? : Nat → Option Char
  | 2 => some 'b'
  | 8 => some 'o'
  | 16 => some 'x'
  | _ => none

def withoutMark (base : Nat) (cs : List Char) : List Char :=
  match cs with
  | '0' :: c :: rest => if baseMark? base = some c.toLower then rest else cs
  | cs => cs

/-- The number that digits of a base denote; blanks around them and a sign are passed over. -/
def whole (base : Nat) (cs : List Char) : Except Fault Int :=
  let (negative, body) := withoutSign (numerals cs)
  let isBaseDigit (c : Char) : Bool := (hexValue? c).any (· < base)
  let (digits, rest) := (withoutMark base body).span isBaseDigit
  if base = 10 && Number.digitLimit < digits.length then
    .error (.tooManyDigits digits.length)
  else if digits.isEmpty || !rest.isEmpty then .error (.notInteger base (String.ofList cs))
  else
    let n := Int.ofNat (digits.foldl (fun n c => n * base + (hexValue? c).getD 0) 0)
    .ok (if negative then -n else n)

/-- Parts that each count sixty times the next one. -/
def sexagesimal (parts : List Int) : Int := parts.foldl (fun n part => n * 60 + part) 0

def magnitude (cs : List Char) : Except Fault Int :=
  match cs with
  | [] => .error .noDigits
  | '0' :: 'b' :: rest => whole 2 rest
  | '0' :: 'x' :: rest => whole 16 rest
  | ['0'] => .ok 0
  | '0' :: _ => whole 8 cs
  | cs =>
    if cs.contains ':' then return sexagesimal (← (Text.parts ':' cs).mapM (whole 10))
    else whole 10 cs

def int (s : String) : Except Fault Document := do
  let (negative, body) := withoutSign (joined s)
  let n ← magnitude body
  return .int (if negative then -n else n)

/-! ## Numbers -/

def number (cs : List Char) : Except Fault Binary64 :=
  match Reading.signed? (numerals cs) with
  | some x => .ok x
  | none => .error (.notNumber (String.ofList cs))

/-- The sum of parts, given from the last to the first, where the last counts `unit` and each one
sixty times the one after it. What a part counts is itself rounded. -/
def sumOfParts (sum : Binary64) (unit : Nat) : List Binary64 → Except Fault Binary64
  | [] => .ok sum
  | part :: rest =>
    let weight := Binary64.ofInt (Int.ofNat unit)
    if weight.isFinite then sumOfParts (sum.add (part.mul weight)) (unit * 60) rest
    else .error .tooLarge

/-- Parts that each count sixty times the next one. -/
def sexagesimalNumber (parts : List Binary64) : Except Fault Binary64 :=
  sumOfParts (Binary64.zero false) 1 parts.reverse

/-- The word for what is no number. -/
def isNanWord (cs : List Char) : Bool := cs = ".nan".toList

/-- A text in small letters without underscores. -/
def plainForm (s : String) : List Char := (Text.lower (String.ofList (joined s))).toList

def float (s : String) : Except Fault Document := do
  let cs := plainForm s
  if cs.isEmpty then throw .noDigits
  let (negative, body) := withoutSign cs
  let signed (x : Binary64) : Document := .float (if negative then x.negate else x)
  if body = ".inf".toList then return signed (.infinity false)
  if isNanWord body then return .float .nan
  if body.contains ':' then
    return signed (← sexagesimalNumber (← (Text.parts ':' body).mapM number))
  return signed (← number body)

/-- Whether a value is no number and yet is not written as the word for that: then it is like no
other value. -/
def isOwnNan (d : Document) (s : String) : Bool :=
  match d with
  | .float x => x.isNan && !isNanWord (withoutSign (plainForm s)).2
  | _ => false

/-! ## Dates and times -/

/-- The first six digits after the point. -/
def microseconds (fraction : List Char) : Nat :=
  digitsNumber (fraction.take 6 ++ List.replicate (6 - fraction.length) '0')

/-- The distance from universal time in minutes. -/
def offset (zone : Option Char × List Char × List Char) : Int :=
  let minutes := Int.ofNat (digitsNumber zone.2.1 * 60 + digitsNumber zone.2.2)
  if zone.1 = some '-' then -minutes else minutes

def time (s : String) : Except Fault Document :=
  match Tag.timeParts? (Text.withoutFinalBreak s.toList) with
  | none => .error .notTime
  | some p =>
    let number := digitsNumber
    let made : Except Calendar.Fault Document :=
      if p.hour.isEmpty then
        (Date.make (number p.year) (number p.month) (number p.day)).map .date
      else
        (DateTime.make (number p.year) (number p.month) (number p.day) (number p.hour)
          (number p.minute) (number p.second) (microseconds p.fraction)
          (p.zone.map offset)).map .dateTime
    match made with
    | .ok d => .ok d
    | .error f => .error (.time f)

/-! ## Bytes -/

def binary (s : String) : Except Fault Document :=
  let cs := s.toList
  if cs.all fun c => c.toNat < 128 then
    match Text.Base64.decode? cs with
    | some bytes => .ok (.bytes bytes)
    | none => .error .malformed
  else .error .malformed

/-- What letters denote under a tag; a half counts for what it is in a text alone. -/
def value (tag : Tag) (letters : List Letter) : Except Fault Document :=
  let s := Letter.text letters
  match tag with
  | .null => .ok .null
  | .bool => truth s
  | .int => int s
  | .float => float s
  | .timestamp => time s
  | .text => .ok (.ofLetters letters)
  | .binary => binary s
  | _ => .error .malformed

end Scaffold.Yaml.Scalar
