import Scaffold.Document.Json
import Scaffold.Yaml.Cursor
import Scaffold.Yaml.Fault

/-!
# Block scalars

Lines kept as they are, or folded into paragraphs. The header says whether the breaks at the end are
dropped, reduced to one or kept, and how far the lines are indented, if the first line cannot tell.
-/
namespace Scaffold.Yaml

/-- What happens to the breaks at the end. -/
inductive Chomping
  | strip
  | clip
  | keep
deriving DecidableEq, Repr

structure BlockHeader where
  chomping : Chomping := .clip
  indent : Option Nat := none
deriving DecidableEq, Repr

def chomping? : Char → Option Chomping
  | '-' => some .strip
  | '+' => some .keep
  | _ => none

/-- A digit for the indentation, which cannot be zero; none where no digit stands. -/
def indentDigit (c : Cursor) : Except Fault (Option Nat × Cursor) :=
  let ch := c.peek
  if ch = '0' then .error .malformed
  else if Document.Json.isDigit ch then .ok (some (ch.toNat - '0'.toNat), c.next)
  else .ok (none, c)

/-- The two indicators in either order. -/
def blockIndicators (c : Cursor) : Except Fault (BlockHeader × Cursor) := do
  match chomping? c.peek with
  | some chomping =>
    let (indent, c) ← indentDigit c.next
    return (⟨chomping, indent⟩, c)
  | none =>
    let (indent, c) ← indentDigit c
    match indent, chomping? c.peek with
    | some _, some chomping => return (⟨chomping, indent⟩, c.next)
    | _, _ => return (⟨.clip, indent⟩, c)

/-- The rest of a line that may hold only a comment. -/
def restOfLine (c : Cursor) : Except Fault Cursor :=
  let c := (c.skipWhile (· = ' ')).skipComment
  if isBreakOrEnd c.peek then .ok c.lineBreak.2 else .error .malformed

/-- Spaces up to a column. -/
def skipIndent (indent : Nat) : Nat → Cursor → Cursor
  | 0, c => c
  | steps + 1, c =>
    if c.column < indent && c.peek = ' ' then skipIndent indent steps c.next else c

/-- Empty lines, and the indentation of the line after them. -/
def blockBreaks (indent : Nat) : Nat → Cursor → List Char × Cursor
  | 0, c => ([], c)
  | steps + 1, c =>
    let c := skipIndent indent indent c
    if isBreak c.peek then
      let (first, c) := c.lineBreak
      let (others, c) := blockBreaks indent steps c
      (first ++ others, c)
    else ([], c)

/-- Empty lines before the first line with text, and the widest indentation among them all. -/
def leadingBreaks (widest : Nat) : Nat → Cursor → List Char × Nat × Cursor
  | 0, c => ([], widest, c)
  | steps + 1, c =>
    let c := c.skipWhile (· = ' ')
    let widest := max widest c.column
    if isBreak c.peek then
      let (first, c) := c.lineBreak
      let (others, widest, c) := leadingBreaks widest steps c
      (first ++ others, widest, c)
    else ([], widest, c)

/-- The lines of a scalar. `before` are the breaks in front of the next line, `last` is the break
that ended the line before it. -/
structure BlockLines where
  chars : List Char
  last : List Char
  trailing : List Char
  cursor : Cursor

/-- What stands between two lines. A fold joins two lines that begin with text. -/
def joint (folds : Bool) (last trailing : List Char) (beganWithText : Bool) (next : Char) :
    List Char :=
  if folds && last = ['\n'] && beganWithText && !isSpaceOrTab next then
    if trailing.isEmpty then [' '] else []
  else last

def blockLines (folds : Bool) (indent : Nat) (breaks : List Char) : Nat → Cursor → BlockLines
  | 0, c => ⟨[], [], breaks, c⟩
  | steps + 1, c =>
    if c.column = indent && !atEnd c.peek then
      let beganWithText := !isSpaceOrTab c.peek
      let (text, c) := c.span fun ch => !isBreak ch
      let (last, c) := c.lineBreak
      let (trailing, c) := blockBreaks indent c.steps c
      if c.column = indent && !atEnd c.peek then
        let between := joint folds last trailing beganWithText c.peek
        let others := blockLines folds indent trailing steps c
        { others with chars := breaks ++ text ++ between ++ others.chars }
      else ⟨breaks ++ text, last, trailing, c⟩
    else ⟨[], [], breaks, c⟩

/-- A block scalar after its first mark, inside a block that is indented by `outer`. -/
def blockScalar (folds : Bool) (outer : Int) (c : Cursor) :
    Except Fault (List Char × Cursor) := do
  let (header, c) ← blockIndicators c
  unless isSpaceOrEnd c.peek do throw .malformed
  let c ← restOfLine c
  let least := (max (outer + 1) 1).toNat
  let steps := c.steps
  let (breaks, indent, c) := match header.indent with
    | some more =>
      let indent := least + more - 1
      let (breaks, c) := blockBreaks indent steps c
      (breaks, indent, c)
    | none =>
      let (breaks, widest, c) := leadingBreaks 0 steps c
      (breaks, max least widest, c)
  let lines := blockLines folds indent breaks c.steps c
  let ending := match header.chomping with
    | .strip => []
    | .clip => lines.last
    | .keep => lines.last ++ lines.trailing
  return (lines.chars ++ ending, lines.cursor)

end Scaffold.Yaml
