import Scaffold.Document.Json
import Scaffold.Text.Lines

/-!
# Tags

The tag of a node is its type. A plain scalar without a tag gets the type whose form it has: a truth
value, a number, a date, null, or else text.
-/
namespace Scaffold.Yaml

open Document.Json (isDigit)

/-- What the tags of the standard types begin with. -/
def standardTag (name : String) : String := "tag:yaml.org,2002:" ++ name

inductive Tag
  | null
  | bool
  | int
  | float
  | timestamp
  | text
  | binary
  | merge
  | value
  | sequence
  | mapping
  | set
  | orderedMap
  | pairs
  | unknown
deriving DecidableEq, Repr

namespace Tag

def standard : List (String × Tag) := [
  ("null", null),
  ("bool", bool),
  ("int", int),
  ("float", float),
  ("timestamp", timestamp),
  ("str", text),
  ("binary", binary),
  ("merge", merge),
  ("value", value),
  ("seq", sequence),
  ("map", mapping),
  ("set", set),
  ("omap", orderedMap),
  ("pairs", pairs)]

def ofText (s : String) : Tag :=
  match standard.find? fun t => standardTag t.1 = s with
  | some t => t.2
  | none => unknown

/-! ## Forms of plain scalars -/

def truthWords : List String := [
  "yes", "Yes", "YES", "no", "No", "NO", "true", "True", "TRUE", "false", "False", "FALSE",
  "on", "On", "ON", "off", "Off", "OFF"]

def nullWords : List String := ["~", "null", "Null", "NULL", ""]

def infinityWords : List String := [".inf", ".Inf", ".INF"]

def nanWords : List String := [".nan", ".NaN", ".NAN"]

def isDigitOrLow (c : Char) : Bool := isDigit c || c = '_'

def withoutSign : List Char → List Char
  | '-' :: rest => rest
  | '+' :: rest => rest
  | cs => cs

/-- Nothing, or a power of ten with its sign. -/
def isPower : List Char → Bool
  | [] => true
  | e :: sign :: digits =>
    (e = 'e' || e = 'E') && (sign = '+' || sign = '-') && !digits.isEmpty && digits.all isDigit
  | _ => false

/-- A digit and further digits or underscores. -/
def beginsWithDigit : List Char → Bool
  | c :: rest => isDigit c && rest.all isDigitOrLow
  | [] => false

/-- One digit, or two below sixty. -/
def isSixtieth : List Char → Bool
  | [a] => isDigit a
  | [a, b] => '0' ≤ a && a ≤ '5' && isDigit b
  | _ => false

/-- Parts between colons, the first of any size and the others below sixty. -/
def isSexagesimal (begins : List Char → Bool) (cs : List Char) : Bool :=
  match Text.parts ':' cs with
  | first :: second :: rest => begins first && (second :: rest).all isSixtieth
  | _ => false

def isFloat (cs : List Char) : Bool :=
  let body := withoutSign cs
  let (whole, rest) := body.span (· ≠ '.')
  let pointed := match rest with
    | _ :: rest =>
      let (fraction, power) := rest.span isDigitOrLow
      (beginsWithDigit whole && isPower power)
        || (cs.head? = some '.' && beginsWithDigit fraction && isPower power)
        || (isSexagesimal beginsWithDigit whole && power.isEmpty)
    | [] => false
  pointed || infinityWords.contains (String.ofList body) || nanWords.contains (String.ofList cs)

def isHexadecimal (c : Char) : Bool := (Document.Json.hexValue? c).isSome || c = '_'

/-- A digit from one to nine and further digits or underscores. -/
def beginsWithOneToNine (cs : List Char) : Bool := beginsWithDigit cs && cs.head? ≠ some '0'

def isInt (cs : List Char) : Bool :=
  match withoutSign cs with
  | ['0'] => true
  | '0' :: 'b' :: rest => !rest.isEmpty && rest.all fun c => c = '0' || c = '1' || c = '_'
  | '0' :: 'x' :: rest => !rest.isEmpty && rest.all isHexadecimal
  | '0' :: rest => rest.all fun c => ('0' ≤ c && c ≤ '7') || c = '_'
  | body => beginsWithOneToNine body || isSexagesimal beginsWithOneToNine body

/-! ### Dates -/

/-- Between `least` and `most` digits, and what follows them. -/
def digits? (least most : Nat) (cs : List Char) : Option (List Char × List Char) :=
  let found := (cs.take most).takeWhile isDigit
  if found.length < least then none else some (found, cs.drop found.length)

/-- What follows a character. -/
def after? (mark : Char) : List Char → Option (List Char)
  | [] => none
  | c :: rest => if c = mark then some rest else none

structure TimeParts where
  year : List Char
  month : List Char
  day : List Char
  hour : List Char := []
  minute : List Char := []
  second : List Char := []
  fraction : List Char := []
  zone : Option (Option Char × List Char × List Char) := none
deriving DecidableEq, Repr

def skipBlanks (cs : List Char) : List Char := cs.dropWhile fun c => c = ' ' || c = '\t'

/-- `Z`, or a sign with hours and perhaps minutes; nothing more may follow. -/
def zone? (cs : List Char) : Option (Option (Option Char × List Char × List Char)) :=
  match cs with
  | [] => some none
  | _ => match skipBlanks cs with
    | ['Z'] => some (some (none, [], []))
    | sign :: rest =>
      if sign = '+' ∨ sign = '-' then do
        let (hour, rest) ← digits? 1 2 rest
        match rest with
        | [] => some (some (some sign, hour, []))
        | ':' :: rest => do
          let (minute, rest) ← digits? 2 2 rest
          if rest.isEmpty then some (some (some sign, hour, minute)) else none
        | _ => none
      else none
    | [] => none

/-- What separates a date from a time. -/
def timeSeparator? : List Char → Option (List Char)
  | c :: rest =>
    if c = 'T' ∨ c = 't' then some rest
    else if c = ' ' ∨ c = '\t' then some (skipBlanks rest)
    else none
  | [] => none

def timeParts? (cs : List Char) : Option TimeParts := do
  let (year, rest) ← digits? 4 4 cs
  let rest ← after? '-' rest
  let (month, rest) ← digits? 1 2 rest
  let rest ← after? '-' rest
  let (day, rest) ← digits? 1 2 rest
  if rest.isEmpty then return { year, month, day }
  let rest ← timeSeparator? rest
  let (hour, rest) ← digits? 1 2 rest
  let rest ← after? ':' rest
  let (minute, rest) ← digits? 2 2 rest
  let rest ← after? ':' rest
  let (second, rest) ← digits? 2 2 rest
  let (fraction, rest) := match rest with
    | '.' :: rest => rest.span isDigit
    | rest => ([], rest)
  let zone ← zone? rest
  return { year, month, day, hour, minute, second, fraction, zone }

/-- A date by itself has two digits for the month and for the day. -/
def isTimestamp (cs : List Char) : Bool :=
  match timeParts? cs with
  | some p => !p.hour.isEmpty || (p.month.length = 2 && p.day.length = 2)
  | none => false

/-! ### Forms -/

def ofForm (cs : List Char) : Tag :=
  let s := String.ofList cs
  if truthWords.contains s then .bool
  else if isFloat cs then .float
  else if isInt cs then .int
  else if s = "<<" then .merge
  else if nullWords.contains s then .null
  else if isTimestamp cs then .timestamp
  else if s = "=" then .value
  else if s = "!" ∨ s = "&" ∨ s = "*" then .unknown
  else .text

/-- The type whose form a plain scalar has. A form does not mind a line feed at its end, but a line
feed alone is text. -/
def ofPlain (s : String) : Tag :=
  if s = "\n" then .text else ofForm (Text.withoutFinalBreak s.toList)

end Tag
end Scaffold.Yaml
