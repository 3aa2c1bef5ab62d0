import Scaffold.Text.Case
import Scaffold.Text.Pad

/-!
# Conversions in a format

A conversion is a percent sign, flags, a width, one of the letters `E` and `O`, and the letter that
says what is written. All but the percent sign and the last letter may be left out. What is written
is a piece: text at the right end of a field.
-/
namespace Scaffold.Calendar

/-- What stands in front of a text that is shorter than its field. -/
inductive Filler
  | zeros
  | blanks
  | bare
deriving DecidableEq, Repr

structure Piece where
  missing : Nat
  filler : Char
  text : List Char
deriving DecidableEq, Repr

namespace Piece

def size (p : Piece) : Nat := p.missing + p.text.length

def chars (p : Piece) : List Char := List.replicate p.missing p.filler ++ p.text

@[simp] theorem length_chars (p : Piece) : p.chars.length = p.size := by simp [chars, size]

/-- Text in a field of `width` characters, or in one of its own length if that is more. -/
def field (width : Nat) (filler : Char) (text : List Char) : Piece :=
  ⟨width - text.length, filler, text⟩

@[simp] theorem size_field (width : Nat) (filler : Char) (text : List Char) :
    (field width filler text).size = max width text.length := by
  simp only [field, size]; omega

end Piece

/-- A conversion as far as it has been read: `read` is all of it, percent sign included. -/
structure Directive where
  read : List Char
  filler : Option Filler
  capitals : Bool
  turned : Bool
  width : Option Nat
  variant : Option Char
deriving DecidableEq, Repr

/-- What a letter stands for, with the way in which flags change it. -/
inductive Meaning
  | number (digits n : Nat)
  | spacedNumber (n : Nat)
  | name (text : String)
  | half (text : String)
  | phrase (text : String)
  | exactly (text : String)
  | noZone
  | noDistance
deriving DecidableEq, Repr

/-- A letter that is not one letter as a capital is left as it is. -/
def capital (c : Char) : Char :=
  match Text.upperChar c with
  | [u] => u
  | _ => c

namespace Directive

def start : Directive := ⟨['%'], none, false, false, none, none⟩

/-- Flags come first, then the width, then one of `E` and `O`: `none` if a character is out of place
here and so ends the conversion. -/
def extend? (d : Directive) (c : Char) : Option Directive :=
  let d' := { d with read := d.read ++ [c] }
  if d.variant.isSome then none
  else if c = 'E' ∨ c = 'O' then some { d' with variant := some c }
  else match d.width with
    | some w => if c.isDigit then some { d' with width := some (w * 10 + (c.toNat - 48)) } else none
    | none =>
      match c with
      | '_' => some { d' with filler := some .blanks }
      | '-' => some { d' with filler := some .bare }
      | '0' => some { d' with filler := some .zeros }
      | '^' => some { d' with capitals := true }
      | '#' => some { d' with turned := true }
      | _ => if c.isDigit then some { d' with width := some (c.toNat - 48) } else none

/-- The letters that `E` and `O` may stand before. -/
def admits (d : Directive) (letter : Char) : Bool :=
  match d.variant with
  | none => true
  | some 'E' => letter ∉ "%aADFbhBdeHIkljMmSUVgGWw".toList
  | some _ => letter ∉ "%aADFcxXY".toList

def text (d : Directive) (cs : List Char) : Piece :=
  Piece.field (d.width.getD 0) (if d.filler = some .zeros then '0' else ' ') cs

def raised (d : Directive) (inCapitals : Bool) (cs : List Char) : Piece :=
  d.text (if inCapitals then cs.map capital else cs)

/-- A number has at least `digits` places; with the flag `-` only a given width counts. -/
def number (d : Directive) (filler : Filler) (digits n : Nat) : Piece :=
  let cs := (toString n).toList
  let width := max digits (d.width.getD 0)
  match d.filler.getD filler with
  | .zeros => Piece.field width '0' cs
  | .blanks => Piece.field width ' ' cs
  | .bare => d.text cs

/-- Both `^` and `#` give a name in capitals; `#` gives a half of the day in small letters. The flag
`-` takes the field away from a zone that has no name, and a distance that is not known has none. -/
def write (d : Directive) : Meaning → Piece
  | .number digits n => d.number .zeros digits n
  | .spacedNumber n => d.number .blanks 2 n
  | .name s => d.raised (d.capitals || d.turned) s.toList
  | .half s => d.text (if d.turned then s.toList.map Char.toLower else s.toList)
  | .phrase s => d.raised d.capitals s.toList
  | .exactly s => d.text s.toList
  | .noZone => if d.filler = some .bare then Piece.field 0 ' ' [] else d.text []
  | .noDistance => Piece.field 0 ' ' []

/-- What means nothing is written as it stands, from its last percent sign on. The flag `#` counts
where the letter is that of a short name. -/
def unknown (d : Directive) (letter : Char) : Piece :=
  d.raised (d.capitals || (d.turned && (letter = 'b' || letter = 'h')))
    (if letter = '%' then ['%'] else d.read ++ [letter])

/-- A conversion that the end of the format cuts off. -/
def unfinished (d : Directive) : Piece := d.raised d.capitals d.read

end Directive
end Scaffold.Calendar
