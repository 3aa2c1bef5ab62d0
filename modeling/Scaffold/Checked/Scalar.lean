import Scaffold.Checked
import Scaffold.Document
import Scaffold.Document.Json
import Scaffold.Text.Blank
import Scaffold.Text.Utf8

/-!
# Reading single values

Documents are written by hand, so a value is taken for what it plainly means: `"5"` is a number
where a number is wanted, and `yes` is a truth value. What has no plain meaning is refused.
-/
namespace Scaffold

open Number

/-- How a value of type `α` is read from a document. -/
abbrev Reading (α : Type) := Document → Checked α

namespace Reading

variable {α : Type}

/-- Text, and bytes that are text. -/
def readable? : Document → Option (Option String)
  | .text s => some (some s)
  | .bytes b => some (Text.Utf8.decode (ByteArray.mk b.toArray)).toOption
  | _ => none

def wholeText : Reading String := fun d =>
  match readable? d with
  | some (some s) => .valid s
  | some none => .refuse .unreadableText
  | none => match d with
    | .halved .. => .refuse .unreadableText
    | _ => .refuse .notText

/-- Any text, known by what it shows. -/
def text : Reading String
  | .halved start place rest => .valid (Document.halvedText start place rest)
  | d => wholeText d

/-- A text whose characters are counted, so it can have no halves. -/
def nonEmptyText : Reading String := fun d =>
  (wholeText d).thenCheck fun s => if s = "" then .refuse .emptyText else .valid s

/-- An absent value may be written as null. -/
def nullable (read : Reading α) : Reading (Option α) := fun d =>
  match d with
  | .null => .valid none
  | d => (read d).map some

/-- The items of a list, or those of a set in the order in which it gives them. -/
def list (read : Reading α) : Reading (List α) := fun d =>
  match d with
  | .list items => Checked.listFrom read 0 items
  | .set items => Checked.listFrom read 0 items
  | _ => .refuse .notList

def choice (choices : List (String × α)) : Reading α := fun d =>
  let found := match d with
    | .text s => choices.lookup s
    | _ => none
  match found with
  | some a => .valid a
  | none => .refuse (.notChoice (choices.map (·.1)))

/-! ## Truth values -/

def falseWords : List String := ["0", "f", "n", "no", "off", "false"]

def trueWords : List String := ["1", "t", "y", "on", "yes", "true"]

def truthOfText (s : String) : Checked Bool :=
  let word := s.map Char.toLower
  if falseWords.contains word then .valid false
  else if trueWords.contains word then .valid true
  else .refuse .unclearTruth

/-- The least positive number that needs more than 64 bits, its sign included. -/
def int64Bound : Int := 0x8000000000000000

/-- Whether a number has a place among the signed integers of 64 bits. -/
def fitsInt64 (i : Int) : Bool := -int64Bound ≤ i && i < int64Bound

def truthOfInt (i : Int) : Checked Bool :=
  if i = 0 then .valid false
  else if i = 1 then .valid true
  else if fitsInt64 i then .refuse .unclearTruth
  else .refuse .notTruth

def truth : Reading Bool
  | .bool b => .valid b
  | .int i => truthOfInt i
  | .float x =>
    match x.toInt? with
    | some i => if -int64Bound < i then truthOfInt i else .refuse .notTruth
    | none => .refuse .notTruth
  | .halved .. => .refuse .unreadableText
  | d =>
    match readable? d with
    | some (some s) => truthOfText s
    | some none => .refuse .unclearTruth
    | none => .refuse .notTruth

/-! ## Whole numbers -/

/-- Digits with single underscores between them. -/
def groupedDigits? (cs : List Char) : Option (List Char) :=
  let rec go : List Char → Option (List Char)
    | [] => some []
    | ['_'] => none
    | '_' :: '_' :: _ => none
    | '_' :: rest => go rest
    | c :: rest => if Document.Json.isDigit c then (go rest).map (c :: ·) else none
  match cs with
  | [] => none
  | '_' :: _ => none
  | cs => go cs

/-- Leading zeros and the underscores among them are dropped as long as a digit is left. -/
def dropLeadingZeros (cs : List Char) : List Char :=
  match cs with
  | '0' :: rest =>
    match rest.dropWhile fun c => c = '0' || c = '_' with
    | [] => cs.drop (cs.length - 1)
    | '.' :: tail => '0' :: '.' :: tail
    | digits => digits
  | cs => cs

/-- A fraction of zeros is dropped. -/
def dropZeroFraction (cs : List Char) : List Char :=
  match cs.span (· ≠ '.') with
  | (whole, '.' :: fraction) => if fraction.all (· = '0') then whole else cs
  | _ => cs

def wholeOfText (s : String) : Checked Int :=
  let cs := Text.trimChars s.toList
  let (negative, digits) := match cs with
    | '-' :: rest => (true, rest)
    | '+' :: rest => (false, rest)
    | cs => (false, cs)
  match groupedDigits? (dropZeroFraction (dropLeadingZeros digits)) with
  | some digits =>
    if Number.digitLimit < digits.length then .refuse .oversized
    else
      let n := Int.ofNat (Document.Json.digitsNumber digits)
      .valid (if negative then -n else n)
  | none => .refuse .unclearWhole

/-- A float counts as a whole number if it is one and has a place among 64 bits. -/
def wholeOfFloat (x : Binary64) : Checked Int :=
  if !x.isFinite then .refuse .notFinite
  else match x.toInt? with
    | some i => if -int64Bound < i ∧ i < int64Bound then .valid i else .refuse .oversized
    | none => .refuse .fractional

def int : Reading Int
  | .int i => .valid i
  | .bool b => .valid (if b then 1 else 0)
  | .float x => wholeOfFloat x
  | .halved .. => .refuse .unreadableText
  | d =>
    match readable? d with
    | some (some s) => wholeOfText s
    | some none => .refuse .unclearWhole
    | none => .refuse .notWhole

/-- A whole number from `least` on. -/
def atLeast (least : Nat) : Reading Nat := fun d =>
  (int d).thenCheck fun i =>
    if Int.ofNat least ≤ i then .valid i.toNat else .refuse (.tooSmall least)

/-! ## Numbers -/

/-- `1.5`, `.5`, `5.`, each with or without a power of ten. -/
def decimal? (negative : Bool) (cs : List Char) : Option Binary64 :=
  let (whole, rest) := cs.span Document.Json.isDigit
  let (fraction, rest) := match rest with
    | '.' :: rest => rest.span Document.Json.isDigit
    | rest => ([], rest)
  let number (power : Int) : Binary64 := Binary64.ofDecimal negative
    (Document.Json.digitsNumber (whole ++ fraction)) (power - Int.ofNat fraction.length)
  if whole.isEmpty && fraction.isEmpty then none
  else match Document.Json.powerPart? rest with
    | some (power, []) => some (number power)
    | some _ => none
    | none => if rest.isEmpty then some (number 0) else none

def signed? (cs : List Char) : Option Binary64 :=
  let (negative, body) := match cs with
    | '-' :: rest => (true, rest)
    | '+' :: rest => (false, rest)
    | cs => (false, cs)
  let word := String.ofList (body.map Char.toLower)
  if word = "inf" ∨ word = "infinity" then some (.infinity negative)
  else if word = "nan" then some .nan
  else decimal? negative body

/-- Underscores inside a number, none of them next to another. -/
def dropUnderscores? (cs : List Char) : Option (List Char) :=
  let rec paired : List Char → Bool
    | '_' :: '_' :: _ => true
    | _ :: rest => paired rest
    | [] => false
  if cs.head? = some '_' ∨ cs.getLast? = some '_' ∨ paired cs then none
  else some (cs.filter (· ≠ '_'))

def numberOfText (s : String) : Checked Binary64 :=
  let cs := s.toList
  match signed? (Text.trimChars cs) with
  | some x => .valid x
  | none =>
    match (dropUnderscores? cs).bind signed? with
    | some x => .valid x
    | none => .refuse .unclearNumber

def number : Reading Binary64
  | .float x => .valid x
  | .int i => let x := Binary64.ofInt i; if x.isFinite then .valid x else .refuse .notNumber
  | .bool b => .valid (.ofInt (if b then 1 else 0))
  | .halved .. => .refuse .unreadableText
  | d =>
    match readable? d with
    | some (some s) => numberOfText s
    | some none => .refuse .unclearNumber
    | none => .refuse .notNumber

end Reading
end Scaffold
