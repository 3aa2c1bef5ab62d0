/-!
# A place in a text

The text from here on, with the number of the character, of the line and of the column. The end of
the text is seen as a null character, which no document contains.
-/
namespace Scaffold.Yaml

structure Cursor where
  rest : List Char
  index : Nat := 0
  line : Nat := 0
  column : Nat := 0
  /-- How many characters the whole text has. -/
  size : Nat := 0
deriving Repr

/-! ## Classes of characters -/

def atEnd (c : Char) : Bool := c = '\x00'

def isBreak (c : Char) : Bool :=
  c = '\n' || c = '\r' || c = '\x85' || c = '\u2028' || c = '\u2029'

def isBreakOrEnd (c : Char) : Bool := isBreak c || atEnd c

def isSpaceOrEnd (c : Char) : Bool := c = ' ' || isBreakOrEnd c

def isBlankOrEnd (c : Char) : Bool := c = '\t' || isSpaceOrEnd c

def isSpaceOrTab (c : Char) : Bool := c = ' ' || c = '\t'

/-- Characters of names of anchors, handles and directives. -/
def isNameChar (c : Char) : Bool := c.isAlphanum || c = '-' || c = '_'

/-- Characters that a document can contain. -/
def isAllowed (c : Char) : Bool :=
  let n := c.toNat
  n = 0x9 || n = 0xA || n = 0xD || n = 0x85 || (0x20 ≤ n && n ≤ 0x7E) || (0xA0 ≤ n && n ≤ 0xD7FF)
    || (0xE000 ≤ n && n ≤ 0xFFFD) || 0x10000 ≤ n

namespace Cursor

def ofChars (cs : List Char) : Cursor := { rest := cs, size := cs.length }

/-- More steps than a walk takes that passes a character in each. -/
def steps (c : Cursor) : Nat := c.size + 1

def peek (c : Cursor) : Char := c.rest.headD '\x00'

/-- The character `k` places further on. -/
def peekAt (c : Cursor) (k : Nat) : Char := (c.rest.drop k).headD '\x00'

/-- Past one character; a carriage return before a line feed does not end the line. -/
def next (c : Cursor) : Cursor :=
  match c.rest with
  | [] => c
  | ch :: rest =>
    if isBreak ch && !(ch = '\r' && rest.head? = some '\n') then
      { c with rest, index := c.index + 1, line := c.line + 1, column := 0 }
    else
      let column := if ch = '\uFEFF' then c.column else c.column + 1
      { c with rest, index := c.index + 1, column }

def skip : Nat → Cursor → Cursor
  | 0, c => c
  | n + 1, c => skip n c.next

/-- The characters up to the first one outside a class. -/
def span (isIn : Char → Bool) (c : Cursor) : List Char × Cursor :=
  let cs := c.rest.takeWhile isIn
  (cs, c.skip cs.length)

def skipWhile (isIn : Char → Bool) (c : Cursor) : Cursor := (c.span isIn).2

/-- The break at this place, if there is one, as it counts in a text. -/
def lineBreak (c : Cursor) : List Char × Cursor :=
  match c.rest with
  | '\r' :: '\n' :: _ => (['\n'], c.skip 2)
  | ch :: _ =>
    if ch = '\u2028' ∨ ch = '\u2029' then ([ch], c.next)
    else if isBreak ch then (['\n'], c.next)
    else ([], c)
  | [] => ([], c)

/-- A comment, up to the end of its line. -/
def skipComment (c : Cursor) : Cursor :=
  if c.peek = '#' then c.skipWhile fun ch => !isBreak ch else c

/-- Whether three marks stand here by themselves. -/
def hasMarks (mark : Char) (c : Cursor) : Bool :=
  c.rest.take 3 = [mark, mark, mark] && isBlankOrEnd (c.peekAt 3)

/-- Whether the line that begins here begins or ends a document. -/
def atDocumentMark (c : Cursor) : Bool := c.hasMarks '-' || c.hasMarks '.'

end Cursor
end Scaffold.Yaml
