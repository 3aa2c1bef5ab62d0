import Scaffold.Text.CaseTable

/-!
# Upper and lower case

Full case mapping: a character may turn into several, and a capital sigma at the end of a word
turns into the final small sigma. ASCII letters are mapped without a look at the tables.
-/
namespace Scaffold.Text

def isUppercase (c : Char) : Bool :=
  if c.toNat < 128 then c.isUpper else Case.uppercase.contains c.toNat

/-- The lower case of a character taken by itself. -/
def lowerChar (c : Char) : List Char :=
  if c.toNat < 128 then [c.toLower]
  else match Case.lowerSpecial.lookup c.toNat with
    | some codes => codes.map Char.ofNat
    | none => [Char.ofNat (Case.mapCode Case.lowerRuns c.toNat)]

def upperChar (c : Char) : List Char :=
  if c.toNat < 128 then [c.toUpper]
  else match Case.upperSpecial.lookup c.toNat with
    | some codes => codes.map Char.ofNat
    | none => [Char.ofNat (Case.mapCode Case.upperRuns c.toNat)]

@[simp] theorem lowerChar_ascii {c : Char} (h : c.toNat < 128) : lowerChar c = [c.toLower] := by
  simp [lowerChar, h]

@[simp] theorem upperChar_ascii {c : Char} (h : c.toNat < 128) : upperChar c = [c.toUpper] := by
  simp [upperChar, h]

namespace Case

/-- Whether a text begins with a cased letter once ignorable characters are passed over. -/
def beginsCased (cs : List Char) : Bool :=
  match cs.dropWhile fun c => ignorable.contains c.toNat with
  | c :: _ => cased.contains c.toNat
  | [] => false

/-- Whether a letter between `before` (nearest character first) and `after` ends a word. -/
def endsWord (before after : List Char) : Bool :=
  beginsCased before && !beginsCased after

def lowerAfter (before : List Char) : List Char → List Char
  | [] => []
  | c :: rest =>
    (if c = 'Σ' then [if endsWord before rest then 'ς' else 'σ'] else lowerChar c)
      ++ lowerAfter (c :: before) rest

end Case

def upper (s : String) : String := String.ofList (s.toList.flatMap upperChar)

def lower (s : String) : String := String.ofList (Case.lowerAfter [] s.toList)

end Scaffold.Text
