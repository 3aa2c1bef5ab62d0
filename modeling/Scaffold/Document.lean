import Scaffold.Calendar.Date
import Scaffold.Number.Decimal
import Scaffold.Text.Literal

/-!
# Documents

The values that a schema or configuration file can hold. A mapping keeps its entries in the order
of their first appearance and holds no two equal keys; numbers and truth values are equal as keys
when they denote the same number. An escape in a file can be half of a pair that makes up one
character; a text that has a half by itself cannot be encoded, but is a value as good as any other.
-/
namespace Scaffold

open Number Calendar

/-- What a text is made of: characters, and halves of pairs, by their place among all halves. -/
inductive Letter
  | char (c : Char)
  | half (place : Fin 0x800)
deriving DecidableEq, Repr

namespace Letter

/-- What stands for a half, which has no look of its own: no character of any language. -/
def standIn : Char := '\uFFFF'

def shown : Letter → Char
  | .char c => c
  | .half _ => standIn

/-- The text that letters show. -/
def text (letters : List Letter) : String := String.ofList (letters.map shown)

/-- The letters of a text. -/
def ofText (s : String) : List Letter := s.toList.map .char

@[simp] theorem text_map_char (chars : List Char) :
    text (chars.map .char) = String.ofList chars := by
  have hshown : shown ∘ char = id := rfl
  rw [text, List.map_map, hshown, List.map_id]

end Letter

inductive Document
  | null
  | bool (b : Bool)
  | int (i : Int)
  | float (x : Binary64)
  | text (s : String)
  /-- A text with a half in it: what comes before the first one, the half, and the rest. -/
  | halved (start : String) (place : Fin 0x800) (rest : List Letter)
  | bytes (b : List UInt8)
  | date (d : Date)
  | dateTime (t : DateTime)
  | list (items : List Document)
  | set (items : List Document)
  | map (entries : List (Document × Document))
deriving Inhabited

namespace Document

/-! ## Texts -/

/-- The characters before the first half, and the letters from there on. -/
def untilHalf : List Letter → List Char × List Letter
  | .char c :: rest =>
    let (chars, left) := untilHalf rest
    (c :: chars, left)
  | letters => ([], letters)

/-- The text with some letters. -/
def ofLetters (letters : List Letter) : Document :=
  match untilHalf letters with
  | (chars, .half place :: rest) => .halved (String.ofList chars) place rest
  | (chars, _) => .text (String.ofList chars)

@[simp] theorem untilHalf_map_char (chars : List Char) :
    untilHalf (chars.map .char) = (chars, []) := by
  induction chars with
  | nil => rfl
  | cons c rest ih => rw [List.map_cons, untilHalf, ih]

@[simp] theorem ofLetters_map_char (chars : List Char) :
    ofLetters (chars.map .char) = .text (String.ofList chars) := by
  rw [ofLetters, untilHalf_map_char]

@[simp] theorem ofLetters_ofText (s : String) : ofLetters (Letter.ofText s) = .text s := by
  rw [Letter.ofText, ofLetters_map_char, String.ofList_toList]

theorem ofLetters_cases (letters : List Letter) : (∃ s, ofLetters letters = .text s) ∨
    ∃ start place rest, ofLetters letters = .halved start place rest := by
  unfold ofLetters
  split
  · exact .inr ⟨_, _, _, rfl⟩
  · exact .inl ⟨_, rfl⟩

/-- What a text with halves shows. -/
def halvedText (start : String) (place : Fin 0x800) (rest : List Letter) : String :=
  start ++ Letter.text (.half place :: rest)

/-! ## Keys -/

/-- What a scalar is as a key. -/
inductive Key
  | null
  | number (negative : Bool) (num den : Nat)
  | notANumber
  | infinite (negative : Bool)
  | text (s : String)
  | halved (start : String) (place : Fin 0x800) (rest : List Letter)
  | bytes (b : List UInt8)
  | date (d : Date)
  | localTime (t : DateTime)
  | instant (seconds : Int) (microsecond : Nat)
deriving DecidableEq

/-- A fraction in lowest terms; zero has no sign. -/
def Key.ofRatio (negative : Bool) (num den : Nat) : Key :=
  let g := Nat.gcd num den
  .number (negative && num != 0) (num / g) (den / g)

/-- The key of a document; a collection cannot be one. -/
def key? : Document → Option Key
  | .null => some .null
  | .bool b => some (.ofRatio false b.toNat 1)
  | .int i => some (.ofRatio (i < 0) i.natAbs 1)
  | .float x => some <| match x.value with
    | .nan => .notANumber
    | .infinite negative => .infinite negative
    | .finite .. => match x.toRatio? with
      | some (negative, num, den) => .ofRatio negative num den
      | none => .notANumber
  | .text s => some (.text s)
  | .halved start place rest => some (.halved start place rest)
  | .bytes b => some (.bytes b)
  | .date d => some (.date d)
  | .dateTime t =>
    some <| if t.offset.isSome then .instant t.seconds t.microsecond else .localTime t
  | .list _ | .set _ | .map _ => none

/-- Puts an entry among others: a new key goes to the end, a known one keeps its place and its first
spelling and takes the new value. Keys are the same when their identities are. -/
def insertBy {α β ι : Type} [DecidableEq ι] (identity : α → ι) (key : α) (value : β)
    (entries : List (α × β)) : List (α × β) :=
  match entries with
  | [] => [(key, value)]
  | (k, v) :: rest =>
    if identity k = identity key then (k, value) :: rest
    else (k, v) :: insertBy identity key value rest

/-- Puts an entry into a mapping. -/
def insert (key value : Document) (entries : List (Document × Document)) :
    List (Document × Document) :=
  insertBy key? key value entries

/-- The entries of a mapping written as a sequence of assignments. -/
def ofAssignments (pairs : List (Document × Document)) : List (Document × Document) :=
  pairs.foldl (fun entries (k, v) => insert k v entries) []

/-- The value under a text key. -/
def find? (name : String) : List (Document × Document) → Option Document
  | [] => none
  | (.text s, v) :: rest => if s = name then some v else find? name rest
  | _ :: rest => find? name rest

/-! ## Kinds -/

def isMap : Document → Bool
  | .map _ => true
  | _ => false

/-- The word for the kind of a value, as messages use it. -/
def kindName : Document → String
  | .null => "NoneType"
  | .bool _ => "bool"
  | .int _ => "int"
  | .float _ => "float"
  | .text _ | .halved .. => "str"
  | .bytes _ => "bytes"
  | .date _ => "date"
  | .dateTime _ => "datetime"
  | .list _ => "list"
  | .set _ => "set"
  | .map _ => "dict"

/-- A span of minutes as messages write it, in days and seconds. -/
def spanText (minutes : Int) : String :=
  let days := minutes.fdiv 1440
  let seconds := minutes.fmod 1440 * 60
  let parts := (if days = 0 then [] else [s!"days={days}"])
    ++ (if seconds = 0 then [] else [s!"seconds={seconds}"])
  "datetime.timedelta(" ++ (if parts.isEmpty then "0" else ", ".intercalate parts) ++ ")"

def numbersText (numbers : List Nat) : String := ", ".intercalate (numbers.map toString)

/-- A scalar key as messages show it; a truth value counts as a number. -/
def keyText : Document → String
  | .null => "None"
  | .bool b => if b then "1" else "0"
  | .int i => (numeral? i).getD "<unprintable int object>"
  | .float x => x.shortest
  | .text s => s
  | .halved start place rest => halvedText start place rest
  | .bytes b => "b" ++ Text.Literal.readable (String.ofList (b.map fun u => Char.ofNat u.toNat))
  | .date d => "datetime.date(" ++ numbersText [d.year, d.month, d.day] ++ ")"
  | .dateTime t =>
    let seconds := if t.microsecond = 0 then if t.second = 0 then [] else [t.second]
      else [t.second, t.microsecond]
    let zone := match t.offset with
      | none => ""
      | some 0 => ", tzinfo=datetime.timezone.utc"
      | some minutes => ", tzinfo=datetime.timezone(" ++ spanText minutes ++ ")"
    "datetime.datetime("
      ++ numbersText ([t.date.year, t.date.month, t.date.day, t.hour, t.minute] ++ seconds)
      ++ zone ++ ")"
  | .list _ | .set _ | .map _ => ""

/-! ## Sets -/

/-- The order in which sets give their items, which need not be that in which they were put in. -/
structure SetOrder where
  arrange : List Document → List Document
  perm : ∀ items, (arrange items).Perm items

def SetOrder.asWritten : SetOrder := ⟨id, .refl⟩

mutual

/-- A document with the items of its sets in the order in which they are given. -/
def arranged (order : SetOrder) : Document → Document
  | .list items => .list (arrangedItems order items)
  | .set items => .set (order.arrange (arrangedItems order items))
  | .map entries => .map (arrangedEntries order entries)
  | d => d

def arrangedItems (order : SetOrder) : List Document → List Document
  | [] => []
  | item :: rest => item.arranged order :: arrangedItems order rest

/-- A collection cannot be a key, so the keys stay. -/
def arrangedEntries (order : SetOrder) : List (Document × Document) → List (Document × Document)
  | [] => []
  | (key, value) :: rest => (key, value.arranged order) :: arrangedEntries order rest

end

/-! ## Whole texts -/

mutual

/-- Whether no text in a document has a half. -/
def isWhole : Document → Bool
  | .halved .. => false
  | .list items | .set items => areWhole items
  | .map entries => haveWhole entries
  | _ => true

def areWhole : List Document → Bool
  | [] => true
  | item :: rest => item.isWhole && areWhole rest

def haveWhole : List (Document × Document) → Bool
  | [] => true
  | (key, value) :: rest => key.isWhole && value.isWhole && haveWhole rest

end

end Document
end Scaffold
