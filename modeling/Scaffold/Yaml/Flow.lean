import Scaffold.Document.Json
import Scaffold.Yaml.Cursor
import Scaffold.Yaml.Fault

/-!
# Scalars within lines

Quoted and plain scalars can go over several lines. A single break between two lines counts as a
space, and of several the first is dropped; the blanks around them never count. An escape for half
of a pair gives a half, also where the other half follows.
-/
namespace Scaffold.Yaml

open Document.Json (hexNumber? letterOfUnit)

/-- What a break and the empty lines after it mean. -/
def folded (first : List Char) (others : List Char) : List Char :=
  (if first ≠ ['\n'] then first else if others.isEmpty then [' '] else []) ++ others

/-! ## Quoted scalars -/

inductive Quote
  | single
  | double
deriving DecidableEq, Repr

def Quote.mark : Quote → Char
  | .single => '\''
  | .double => '"'

/-- Escapes of one character. -/
def escaped? : Char → Option Char
  | '0' => some '\x00'
  | 'a' => some '\x07'
  | 'b' => some '\x08'
  | 't' => some '\t'
  | '\t' => some '\t'
  | 'n' => some '\n'
  | 'v' => some '\x0b'
  | 'f' => some '\x0c'
  | 'r' => some '\r'
  | 'e' => some '\x1b'
  | ' ' => some ' '
  | '"' => some '"'
  | '\\' => some '\\'
  | '/' => some '/'
  | 'N' => some '\x85'
  | '_' => some '\xa0'
  | 'L' => some '\u2028'
  | 'P' => some '\u2029'
  | _ => none

/-- How many digits give the number of a character. -/
def escapeDigits? : Char → Option Nat
  | 'x' => some 2
  | 'u' => some 4
  | 'U' => some 8
  | _ => none

def letterOfNumber (n : Nat) : Except Fault Letter :=
  if 0x110000 ≤ n then .error (.codePoint n) else .ok (letterOfUnit n)

/-- Empty lines inside quotes; a mark of a document cannot stand there. -/
def quotedBreaks : Nat → Cursor → Except Fault (List Char × Cursor)
  | 0, _ => .error .malformed
  | steps + 1, c =>
    if c.atDocumentMark then .error .malformed
    else
      let c := c.skipWhile isSpaceOrTab
      if isBreak c.peek then do
        let (first, c) := c.lineBreak
        let (others, c) ← quotedBreaks steps c
        return (first ++ others, c)
      else .ok ([], c)

/-- The number in an escape after its backslash, if it is one with digits. -/
def escapeNumber? (c : Cursor) : Option (Nat × Cursor) :=
  (escapeDigits? c.peek).bind fun count =>
    let digits := c.next.rest.take count
    if digits.length = count then (hexNumber? digits).map (·, c.next.skip count) else none

/-- What a backslash and the characters after it stand for. -/
def quotedEscape (steps : Nat) (c : Cursor) : Except Fault (List Letter × Cursor) :=
  let ch := c.peek
  match escaped? ch, escapeNumber? c with
  | some char, _ => .ok ([.char char], c.next)
  | none, some (n, c) => do
    let letter ← letterOfNumber n
    return ([letter], c)
  | none, none =>
    if isBreak ch then do
      let (breaks, c) ← quotedBreaks steps c.lineBreak.2
      return (breaks.map .char, c)
    else .error .malformed

/-- The letters of a quoted scalar after its first quote. -/
def quoted (quote : Quote) : Nat → Cursor → Except Fault (List Letter × Cursor)
  | 0, _ => .error .malformed
  | steps + 1, c =>
    let ch := c.peek
    let continued (part : List Letter) (c : Cursor) : Except Fault (List Letter × Cursor) := do
      let (others, c) ← quoted quote steps c
      return (part ++ others, c)
    if quote = .single ∧ ch = '\'' ∧ c.peekAt 1 = '\'' then continued [.char '\''] (c.skip 2)
    else if ch = quote.mark then .ok ([], c.next)
    else if quote = .double ∧ ch = '\\' then do
      let (part, c) ← quotedEscape steps c.next
      continued part c
    else if isSpaceOrTab ch || isBreak ch then
      let (blanks, c) := c.span isSpaceOrTab
      if isBreak c.peek then do
        let (first, c) := c.lineBreak
        let (others, c) ← quotedBreaks steps c
        continued ((folded first others).map .char) c
      else continued (blanks.map .char) c
    else if atEnd ch then .error .malformed
    else continued [.char ch] c.next

/-! ## Plain scalars -/

/-- Whether a plain scalar ends at a character, given the one after it. -/
def endsPlain (inFlow : Bool) (ch after : Char) : Bool :=
  let closes (c : Char) : Bool := inFlow && [',', '[', ']', '\x7b', '\x7d'].contains c
  isBlankOrEnd ch
    || (ch = ':' && (isBlankOrEnd after || closes after))
    || closes ch || (inFlow && ch = '?')

/-- A run of plain characters. -/
def plainRun (inFlow : Bool) : List Char → List Char
  | [] => []
  | ch :: rest =>
    if endsPlain inFlow ch (rest.headD '\x00') then [] else ch :: plainRun inFlow rest

/-- Empty and blank lines before the next line of a plain scalar; none where the scalar ends at the
mark of a document. -/
def plainBreaks : Nat → Cursor → Option (List Char) × Cursor
  | 0, c => (none, c)
  | steps + 1, c =>
    let c := c.skipWhile (· = ' ')
    if isBreak c.peek then
      let (first, c) := c.lineBreak
      if c.atDocumentMark then (none, c)
      else match plainBreaks steps c with
        | (some others, c) => (some (first ++ others), c)
        | (none, c) => (none, c)
    else (some [], c)

/-- The blanks after a run, whether a line ended there, and the place after them. -/
def plainBlanks (c : Cursor) : List Char × Bool × Cursor :=
  let (blanks, c) := c.span (· = ' ')
  if isBreak c.peek then
    let (first, c) := c.lineBreak
    if c.atDocumentMark then ([], true, c)
    else match plainBreaks c.steps c with
      | (some others, c) => (folded first others, true, c)
      | (none, c) => ([], true, c)
  else (blanks, false, c)

/-- A plain scalar as far as it goes. -/
structure PlainScalar where
  chars : List Char
  /-- Whether it ended at the end of a line, so that a key can follow. -/
  lineEnded : Bool
  cursor : Cursor

/-- Runs of characters with blanks between them. A scalar in a block goes on only where a line is
indented by `indent` or more. -/
def plain (inFlow : Bool) (indent : Int) : Nat → Cursor → PlainScalar
  | 0, c => ⟨[], false, c⟩
  | steps + 1, c =>
    let run := if c.peek = '#' then [] else plainRun inFlow c.rest
    if run.isEmpty then ⟨[], false, c⟩
    else
      let (blanks, lineEnded, c) := plainBlanks (c.skip run.length)
      if blanks.isEmpty || c.peek = '#' || (!inFlow && Int.ofNat c.column < indent) then
        ⟨run, lineEnded, c⟩
      else
        let others := plain inFlow indent steps c
        if others.chars.isEmpty then ⟨run, lineEnded, c⟩
        else ⟨run ++ blanks ++ others.chars, others.lineEnded, others.cursor⟩

end Scaffold.Yaml
