/-!
# Lines

A text is a list of lines, each closed by a line feed.
-/
namespace Scaffold.Text

def unlines (lines : List String) : String :=
  String.join (lines.map (· ++ "\n"))

/-- The number of line feeds, and one more for a last line that has none. -/
def countLines (s : String) : Nat :=
  let cs := s.toList
  match cs.getLast? with
  | none => 0
  | some last => cs.count '\n' + if last = '\n' then 0 else 1

/-- The parts of a text between the characters that equal `mark`. -/
def parts (mark : Char) : List Char → List (List Char)
  | [] => [[]]
  | c :: rest =>
    if c = mark then [] :: parts mark rest
    else match parts mark rest with
      | [] => [[c]]
      | part :: others => (c :: part) :: others

/-- A text without the line feed that closes its last line. -/
def withoutFinalBreak (cs : List Char) : List Char :=
  if cs.getLast? = some '\n' then cs.dropLast else cs

/-- Text that appears only under a condition. -/
def onlyIf (b : Bool) (s : String) : String := if b then s else ""

@[simp] theorem withoutFinalBreak_append (cs : List Char) :
    withoutFinalBreak (cs ++ ['\n']) = cs := by
  simp [withoutFinalBreak]

@[simp] theorem unlines_nil : unlines [] = "" := rfl

@[simp] theorem unlines_cons (line : String) (lines : List String) :
    unlines (line :: lines) = line ++ "\n" ++ unlines lines := by
  simp [unlines]

@[simp] theorem unlines_append (xs ys : List String) :
    unlines (xs ++ ys) = unlines xs ++ unlines ys := by
  induction xs with
  | nil => simp
  | cons x xs ih => simp [ih, String.append_assoc]

end Scaffold.Text
