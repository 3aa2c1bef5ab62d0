import Scaffold.Document

/-!
# Reading JSON

The reader goes through the text once. A fault is told by what was expected and by the rest of the
text from the place where it was missed; the place is counted off only for the message. Beside the
standard forms `NaN` and the two infinities are numbers.
-/
namespace Scaffold.Document.Json

open Number

def tooManyDigitsText (count : Nat) : String :=
  longNumeralText ++ s!": value has {count} digits; " ++ longNumeralAdvice

/-- How many arrays and objects can lie inside each other. -/
def nestingLimit : Nat := 990

def depthText : String := "maximum recursion depth exceeded "

def decodingText (collection : String) : String :=
  s!"while decoding a JSON {collection} from a unicode string"

inductive Cause
  | value
  | propertyName
  | colon
  | comma
  | extraData
  | unterminatedString
  | controlCharacter
  | escape
  | unicodeEscape
  | byteOrderMark
  /-- A whole number has more digits than are read. -/
  | tooManyDigits (count : Nat)
  /-- An array or an object lies inside too many others. -/
  | tooDeep (collection : String)
deriving DecidableEq, Repr

def Cause.message : Cause → String
  | .value => "Expecting value"
  | .propertyName => "Expecting property name enclosed in double quotes"
  | .colon => "Expecting ':' delimiter"
  | .comma => "Expecting ',' delimiter"
  | .extraData => "Extra data"
  | .unterminatedString => "Unterminated string starting at"
  | .controlCharacter => "Invalid control character at"
  | .escape => "Invalid \\escape"
  | .unicodeEscape => "Invalid \\uXXXX escape"
  | .byteOrderMark => "Unexpected UTF-8 BOM (decode using utf-8-sig)"
  | .tooManyDigits count => tooManyDigitsText count
  | .tooDeep collection => depthText ++ decodingText collection

/-- What went wrong, and the text from there on. -/
structure Fault where
  cause : Cause
  rest : List Char

/-- A fault with its place, counted in characters from the start of the text. -/
structure Error where
  cause : Cause
  line : Nat
  column : Nat
  position : Nat
deriving DecidableEq, Repr

def Error.message (e : Error) : String :=
  s!"{e.cause.message}: line {e.line} column {e.column} (char {e.position})"

def Fault.locate (f : Fault) (cs : List Char) : Error :=
  let position := cs.length - f.rest.length
  let before := cs.take position
  let lastLine := before.reverse.takeWhile (· ≠ '\n')
  ⟨f.cause, before.count '\n' + 1, lastLine.length + 1, position⟩

abbrev Reader (α : Type) := List Char → Except Fault (α × List Char)

def isBlank (c : Char) : Bool := c == ' ' || c == '\t' || c == '\n' || c == '\r'

def skipBlank (cs : List Char) : List Char := cs.dropWhile isBlank

/-! ## Strings -/

def hexValue? (c : Char) : Option Nat :=
  if '0' ≤ c ∧ c ≤ '9' then some (c.toNat - '0'.toNat)
  else if 'a' ≤ c ∧ c ≤ 'f' then some (c.toNat - 'a'.toNat + 10)
  else if 'A' ≤ c ∧ c ≤ 'F' then some (c.toNat - 'A'.toNat + 10)
  else none

/-- The number that hexadecimal digits denote. -/
def hexNumber? (cs : List Char) : Option Nat :=
  cs.foldl (fun n c => n.bind fun n => (hexValue? c).map (n * 16 + ·)) (some 0)

def escaped? : Char → Option Char
  | '"' => some '"'
  | '\\' => some '\\'
  | '/' => some '/'
  | 'b' => some '\x08'
  | 'f' => some '\x0c'
  | 'n' => some '\n'
  | 'r' => some '\r'
  | 't' => some '\t'
  | _ => none

def isHighUnit (n : Nat) : Bool := 0xd800 ≤ n && n < 0xdc00

def isLowUnit (n : Nat) : Bool := 0xdc00 ≤ n && n < 0xe000

/-- The letter of one unit: half of a pair stands for no character. -/
def letterOfUnit (n : Nat) : Letter :=
  if h : 0xd800 ≤ n ∧ n < 0xe000 then .half ⟨n - 0xd800, by omega⟩ else .char (Char.ofNat n)

def charOfPair (high low : Nat) : Char :=
  Char.ofNat (0x10000 + (high - 0xd800) * 0x400 + (low - 0xdc00))

def prepend (l : Letter) :
    Except Fault (List Letter × List Char) → Except Fault (List Letter × List Char)
  | .ok (letters, rest) => .ok (l :: letters, rest)
  | .error e => .error e

/-- The letters up to the closing quote; `opening` is the text from the opening one on. -/
def string (opening : List Char) : Reader (List Letter)
  | [] => .error ⟨.unterminatedString, opening⟩
  | '"' :: rest => .ok ([], rest)
  | ['\\'] => .error ⟨.unterminatedString, opening⟩
  | '\\' :: 'u' :: a :: b :: c :: d :: '\\' :: 'u' :: e :: f :: g :: h :: after :: rest =>
    match hexNumber? [a, b, c, d] with
    | none => .error ⟨.unicodeEscape,
        'u' :: a :: b :: c :: d :: '\\' :: 'u' :: e :: f :: g :: h :: after :: rest⟩
    | some high =>
      if isHighUnit high then
        match hexNumber? [e, f, g, h] with
        | none => .error ⟨.unicodeEscape, 'u' :: e :: f :: g :: h :: after :: rest⟩
        | some low =>
          if isLowUnit low then
            prepend (.char (charOfPair high low)) (string opening (after :: rest))
          else prepend (letterOfUnit high)
            (string opening ('\\' :: 'u' :: e :: f :: g :: h :: after :: rest))
      else prepend (letterOfUnit high)
        (string opening ('\\' :: 'u' :: e :: f :: g :: h :: after :: rest))
  | '\\' :: 'u' :: a :: b :: c :: d :: after :: rest =>
    match hexNumber? [a, b, c, d] with
    | none => .error ⟨.unicodeEscape, 'u' :: a :: b :: c :: d :: after :: rest⟩
    | some unit => prepend (letterOfUnit unit) (string opening (after :: rest))
  | '\\' :: 'u' :: rest => .error ⟨.unicodeEscape, 'u' :: rest⟩
  | '\\' :: c :: rest =>
    match escaped? c with
    | some d => prepend (.char d) (string opening rest)
    | none => .error ⟨.escape, '\\' :: c :: rest⟩
  | c :: rest =>
    if c.toNat < 0x20 then .error ⟨.controlCharacter, c :: rest⟩
    else prepend (.char c) (string opening rest)

theorem string_quote (opening rest : List Char) :
    string opening ('"' :: rest) = .ok ([], rest) := by
  rw [string]

/-! ## Numbers -/

def isDigit (c : Char) : Bool := '0' ≤ c && c ≤ '9'

def digitsNumber (cs : List Char) : Nat := cs.foldl (fun n c => n * 10 + (c.toNat - '0'.toNat)) 0

/-- The digits before the point: a zero stands alone. -/
def wholePart : List Char → Option (List Char × List Char)
  | '0' :: rest => some (['0'], rest)
  | cs => match cs.span isDigit with
    | ([], _) => none
    | found => some found

/-- A point counts only with a digit after it. -/
def fractionPart : List Char → List Char × List Char
  | '.' :: rest => match rest.span isDigit with
    | ([], _) => ([], '.' :: rest)
    | found => found
  | cs => ([], cs)

/-- The mark of a power counts only with a digit after it and its sign. -/
def powerPart? (cs : List Char) : Option (Int × List Char) :=
  let signed (negative : Bool) (cs : List Char) : Option (Int × List Char) :=
    match cs.span isDigit with
    | ([], _) => none
    | (digits, rest) =>
      let n := Int.ofNat (digitsNumber digits)
      some (if negative then -n else n, rest)
  match cs with
  | c :: '-' :: rest => if c = 'e' ∨ c = 'E' then signed true rest else none
  | c :: '+' :: rest => if c = 'e' ∨ c = 'E' then signed false rest else none
  | c :: rest => if c = 'e' ∨ c = 'E' then signed false rest else none
  | [] => none

/-- A number is whole unless it has a fraction or a power of ten. -/
def number? (negative : Bool) (cs : List Char) : Option (Document × List Char) :=
  (wholePart cs).map fun (whole, rest) =>
    let (fraction, rest) := fractionPart rest
    let float (power : Int) : Document := .float <| Binary64.ofDecimal negative
      (digitsNumber (whole ++ fraction)) (power - Int.ofNat fraction.length)
    match powerPart? rest with
    | some (power, rest) => (float power, rest)
    | none =>
      if fraction.isEmpty then
        let n := Int.ofNat (digitsNumber whole)
        (.int (if negative then -n else n), rest)
      else (float 0, rest)

/-- How many digits a whole number has, if they are too many. -/
def excess? (cs : List Char) : Option Nat :=
  let body := match cs with
    | '-' :: rest => rest
    | cs => cs
  (wholePart body).bind fun (whole, rest) =>
    let (fraction, rest) := fractionPart rest
    let isWhole := fraction.isEmpty && (powerPart? rest).isNone
    if isWhole && digitLimit < whole.length then some whole.length else none

/-- Numbers and the words that stand for values. -/
def atom? : List Char → Option (Document × List Char)
  | 'n' :: 'u' :: 'l' :: 'l' :: rest => some (.null, rest)
  | 't' :: 'r' :: 'u' :: 'e' :: rest => some (.bool true, rest)
  | 'f' :: 'a' :: 'l' :: 's' :: 'e' :: rest => some (.bool false, rest)
  | 'N' :: 'a' :: 'N' :: rest => some (.float .nan, rest)
  | 'I' :: 'n' :: 'f' :: 'i' :: 'n' :: 'i' :: 't' :: 'y' :: rest =>
    some (.float (.infinity false), rest)
  | '-' :: 'I' :: 'n' :: 'f' :: 'i' :: 'n' :: 'i' :: 't' :: 'y' :: rest =>
    some (.float (.infinity true), rest)
  | '-' :: rest => number? true rest
  | cs => number? false cs

/-! ## Values -/

mutual

/-- One value. A value spends a step and so does a list of items or members, each for a character of
its own or for the value that comes next; two steps for each character are enough. `levels` says how
many more collections can be opened inside each other. -/
def value : Nat → Nat → Reader Document
  | 0, _, cs => .error ⟨.value, cs⟩
  | steps + 1, levels, cs =>
    match cs with
    | '"' :: rest => do
      let (letters, rest) ← string cs rest
      return (.ofLetters letters, rest)
    | '{' :: rest =>
      match levels, skipBlank rest with
      | 0, _ => .error ⟨.tooDeep "object", cs⟩
      | _, '}' :: rest => .ok (.map [], rest)
      | levels + 1, rest => do
        let (members, rest) ← members steps levels rest
        return (.map (ofAssignments members), rest)
    | '[' :: rest =>
      match levels, skipBlank rest with
      | 0, _ => .error ⟨.tooDeep "array", cs⟩
      | _, ']' :: rest => .ok (.list [], rest)
      | levels + 1, rest => do
        let (items, rest) ← items steps levels rest
        return (.list items, rest)
    | _ => match excess? cs, atom? cs with
      | some count, _ => .error ⟨.tooManyDigits count, cs⟩
      | none, some found => .ok found
      | none, none => .error ⟨.value, cs⟩

/-- Members of an object up to the closing brace. -/
def members : Nat → Nat → Reader (List (Document × Document))
  | 0, _, cs => .error ⟨.propertyName, cs⟩
  | steps + 1, levels, cs =>
    match cs with
    | '"' :: rest => do
      let (name, rest) ← string cs rest
      match skipBlank rest with
      | ':' :: rest => do
        let (v, rest) ← value steps levels (skipBlank rest)
        let member := (Document.ofLetters name, v)
        match skipBlank rest with
        | '}' :: rest => return ([member], rest)
        | ',' :: rest => do
          let (others, rest) ← members steps levels (skipBlank rest)
          return (member :: others, rest)
        | rest => .error ⟨.comma, rest⟩
      | rest => .error ⟨.colon, rest⟩
    | _ => .error ⟨.propertyName, cs⟩

/-- Items of an array up to the closing bracket. -/
def items : Nat → Nat → Reader (List Document)
  | 0, _, cs => .error ⟨.value, cs⟩
  | steps + 1, levels, cs => do
    let (v, rest) ← value steps levels cs
    match skipBlank rest with
    | ']' :: rest => return ([v], rest)
    | ',' :: rest => do
      let (others, rest) ← items steps levels (skipBlank rest)
      return (v :: others, rest)
    | rest => .error ⟨.comma, rest⟩

end

def wholeText (cs : List Char) : Except Fault Document :=
  if cs.head? = some '\uFEFF' then .error ⟨.byteOrderMark, cs⟩
  else do
    let (v, rest) ← value (2 * cs.length + 2) nestingLimit (skipBlank cs)
    match skipBlank rest with
    | [] => return v
    | rest => .error ⟨.extraData, rest⟩

/-- The document that a text denotes. -/
def parse (s : String) : Except Error Document :=
  let cs := s.toList
  match wholeText cs with
  | .ok v => .ok v
  | .error f => .error (f.locate cs)

end Scaffold.Document.Json
