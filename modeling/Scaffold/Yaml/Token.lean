import Scaffold.Yaml.Block
import Scaffold.Yaml.Flow
import Scaffold.Yaml.Property

/-!
# Tokens

The marks and scalars of a document in order, with tokens of their own where indentation begins and
ends a collection. A key is known as one only by the colon after it; until then its place among the
tokens is remembered, one for each level of brackets, and it has to end on its line.
-/
namespace Scaffold.Yaml

inductive Token
  | streamEnd
  | directive (d : Directive)
  | documentStart
  | documentEnd
  | blockSequenceStart
  | blockMappingStart
  | blockEnd
  | flowSequenceStart
  | flowSequenceEnd
  | flowMappingStart
  | flowMappingEnd
  | blockEntry
  | flowEntry
  | key
  | value
  | reference (name : String)
  | anchor (name : String)
  | tag (t : TagText)
  | scalar (letters : List Letter) (isPlain : Bool)
  /-- Here the text breaks off. -/
  | fault (f : Fault)
deriving DecidableEq, Repr

/-- A token that may turn out to begin a key. -/
structure PendingKey where
  /-- How many tokens come before it. -/
  place : Nat
  /-- A key at the indentation of its mapping has to get its colon. -/
  required : Bool
  index : Nat
  line : Nat
  column : Nat
deriving Repr

structure Scanner where
  cursor : Cursor
  /-- The last token comes first. -/
  tokens : List Token := []
  /-- How many tokens there are. -/
  count : Nat := 0
  flowLevel : Nat := 0
  indent : Int := -1
  indents : List Int := []
  keyAllowed : Bool := true
  /-- Pending keys, by the level of brackets. -/
  keys : List (Nat × PendingKey) := []

/-- How far a key can reach. -/
def keyLimit : Nat := 1024

namespace Scanner

abbrev Result := Except Fault Scanner

def column (s : Scanner) : Int := s.cursor.column

def inFlow (s : Scanner) : Bool := s.flowLevel ≠ 0

def push (s : Scanner) (t : Token) : Scanner :=
  { s with tokens := t :: s.tokens, count := s.count + 1 }

def moveTo (s : Scanner) (c : Cursor) : Scanner := { s with cursor := c }

def allowKey (s : Scanner) (allowed : Bool) : Scanner := { s with keyAllowed := allowed }

/-- Puts a token before those that came after the first `place`. -/
def insertAt (s : Scanner) (place : Nat) (t : Token) : Scanner :=
  let later := s.count - place
  { s with tokens := s.tokens.take later ++ t :: s.tokens.drop later, count := s.count + 1 }

/-! ## Pending keys -/

def isStale (s : Scanner) (k : PendingKey) : Bool :=
  k.line ≠ s.cursor.line || keyLimit < s.cursor.index - k.index

/-- Keys that can get no colon any more are given up, unless one is required. -/
def dropStaleKeys (s : Scanner) : Result :=
  if s.keys.any fun k => s.isStale k.2 && k.2.required then .error .malformed
  else .ok { s with keys := s.keys.filter fun k => !s.isStale k.2 }

/-- Gives up the pending key of this level. -/
def dropKey (s : Scanner) : Result :=
  match s.keys.lookup s.flowLevel with
  | some k =>
    if k.required then .error .malformed
    else .ok { s with keys := s.keys.filter fun k => k.1 ≠ s.flowLevel }
  | none => .ok s

/-- Remembers that the next token may begin a key. -/
def noteKey (s : Scanner) : Result :=
  if s.keyAllowed then do
    let required := !s.inFlow && s.indent = s.column
    let key : PendingKey := ⟨s.count, required, s.cursor.index, s.cursor.line, s.cursor.column⟩
    let s ← s.dropKey
    return { s with keys := (s.flowLevel, key) :: s.keys }
  else .ok s

/-! ## Indentation -/

/-- Ends the blocks that are indented more than `column`. -/
def closeBlocks (column : Int) : List Int → Scanner → Scanner
  | [], s => s
  | outer :: more, s =>
    if column < s.indent then
      closeBlocks column more { s.push .blockEnd with indent := outer, indents := more }
    else s

def unwind (s : Scanner) (column : Int) : Scanner :=
  if s.inFlow then s else closeBlocks column s.indents s

/-- Opens a block at a column, if that is further in. -/
def indentTo (s : Scanner) (column : Int) : Option Scanner :=
  if s.indent < column then some { s with indent := column, indents := s.indent :: s.indents }
  else none

/-! ## One token -/

/-- Spaces, comments and breaks before the next token. -/
def skipBlank : Nat → Scanner → Scanner
  | 0, s => s
  | steps + 1, s =>
    let c := (s.cursor.skipWhile (· = ' ')).skipComment
    match c.lineBreak with
    | ([], _) => s.moveTo c
    | (_, after) => skipBlank steps ((s.moveTo after).allowKey (s.keyAllowed || !s.inFlow))

def scanEnd (s : Scanner) : Result := do
  let s ← (s.unwind (-1)).dropKey
  return s.push .streamEnd

def scanDirective (s : Scanner) : Result := do
  let s ← (s.unwind (-1)).dropKey
  let (d, c) ← Yaml.directive s.cursor.next
  return ((s.allowKey false).push (.directive d)).moveTo c

def scanDocumentMark (s : Scanner) (t : Token) : Result := do
  let s ← (s.unwind (-1)).dropKey
  return ((s.allowKey false).push t).moveTo (s.cursor.skip 3)

def scanFlowStart (s : Scanner) (t : Token) : Result := do
  let s ← s.noteKey
  let inner := { s with flowLevel := s.flowLevel + 1 }
  return ((inner.allowKey true).push t).moveTo s.cursor.next

def scanFlowEnd (s : Scanner) (t : Token) : Result := do
  let s ← s.dropKey
  let outer := { s with flowLevel := s.flowLevel - 1 }
  return ((outer.allowKey false).push t).moveTo s.cursor.next

def scanFlowEntry (s : Scanner) : Result := do
  let s ← (s.allowKey true).dropKey
  return (s.push .flowEntry).moveTo s.cursor.next

/-- Opens a block for a mark outside brackets, which has to stand where a key could. -/
def openBlock (s : Scanner) (start : Token) : Result :=
  if s.inFlow then .ok s
  else if !s.keyAllowed then .error .malformed
  else .ok (match s.indentTo s.column with
    | some inner => inner.push start
    | none => s)

def scanBlockEntry (s : Scanner) : Result := do
  let s ← s.openBlock .blockSequenceStart
  let s ← (s.allowKey true).dropKey
  return (s.push .blockEntry).moveTo s.cursor.next

def scanKey (s : Scanner) : Result := do
  let s ← s.openBlock .blockMappingStart
  let s ← (s.allowKey (!s.inFlow)).dropKey
  return (s.push .key).moveTo s.cursor.next

/-- A colon makes the pending key one, or stands alone for a key that is marked or empty. -/
def scanValue (s : Scanner) : Result := do
  let s ← match s.keys.lookup s.flowLevel with
    | some key =>
      let s := { s with keys := s.keys.filter fun k => k.1 ≠ s.flowLevel }
      let s := s.insertAt key.place .key
      let opened := if s.inFlow then none else s.indentTo key.column
      let s := match opened with
        | some inner => inner.insertAt key.place .blockMappingStart
        | none => s
      pure (s.allowKey false)
    | none => do
      let s ← s.openBlock .blockMappingStart
      (s.allowKey (!s.inFlow)).dropKey
  return (s.push .value).moveTo s.cursor.next

/-- A token that may begin a key and after which none can begin. -/
def scanWord (s : Scanner) (read : Except Fault (Token × Cursor)) : Result := do
  let s ← s.noteKey
  let (t, c) ← read
  return ((s.allowKey false).push t).moveTo c

def scanBlockScalar (s : Scanner) (folds : Bool) : Result := do
  let s ← (s.allowKey true).dropKey
  let (cs, c) ← blockScalar folds s.indent s.cursor.next
  return (s.push (.scalar (cs.map .char) false)).moveTo c

def scanQuoted (s : Scanner) (quote : Quote) : Result :=
  s.scanWord do
    let (letters, c) ← quoted quote s.cursor.steps s.cursor.next
    return (.scalar letters false, c)

def scanPlain (s : Scanner) : Result := do
  let s ← s.noteKey
  let found := plain s.inFlow (s.indent + 1) s.cursor.steps s.cursor
  return ((s.allowKey found.lineEnded).push (.scalar (found.chars.map .char) true)).moveTo
    found.cursor

/-- Characters that cannot begin a plain scalar. -/
def indicators : List Char := "-?:,[]\x7b\x7d#&*!|>'\"%@`".toList

def beginsPlain (s : Scanner) (ch after : Char) : Bool :=
  (!isBlankOrEnd ch && !indicators.contains ch)
    || (!isBlankOrEnd after && (ch = '-' || (!s.inFlow && (ch = '?' || ch = ':'))))

/-- Goes on to the next token, and ends what can go on no more. -/
def approach (s : Scanner) : Result := do
  let s ← (skipBlank s.cursor.steps s).dropStaleKeys
  return s.unwind s.column

/-- The token that begins here. -/
def token (s : Scanner) : Result :=
  let c := s.cursor
  let ch := c.peek
  let after := c.peekAt 1
  let spaced := s.inFlow || isBlankOrEnd after
  let lineStart := c.column = 0
  if atEnd ch then s.scanEnd
  else if ch = '%' && lineStart then s.scanDirective
  else if lineStart && c.hasMarks '-' then s.scanDocumentMark .documentStart
  else if lineStart && c.hasMarks '.' then s.scanDocumentMark .documentEnd
  else if ch = '[' then s.scanFlowStart .flowSequenceStart
  else if ch = '\x7b' then s.scanFlowStart .flowMappingStart
  else if ch = ']' then s.scanFlowEnd .flowSequenceEnd
  else if ch = '\x7d' then s.scanFlowEnd .flowMappingEnd
  else if ch = ',' then s.scanFlowEntry
  else if ch = '-' && isBlankOrEnd after then s.scanBlockEntry
  else if ch = '?' && spaced then s.scanKey
  else if ch = ':' && spaced then s.scanValue
  else if ch = '*' then s.scanWord ((anchorName c.next).map fun (n, c) => (.reference n, c))
  else if ch = '&' then s.scanWord ((anchorName c.next).map fun (n, c) => (.anchor n, c))
  else if ch = '!' then s.scanWord ((tagText c).map fun (t, c) => (.tag t, c))
  else if ch = '|' && !s.inFlow then s.scanBlockScalar false
  else if ch = '>' && !s.inFlow then s.scanBlockScalar true
  else if ch = '\'' then s.scanQuoted .single
  else if ch = '"' then s.scanQuoted .double
  else if s.beginsPlain ch after then s.scanPlain
  else throw .malformed

/-- One more token, and those that indentation asks for before it. -/
def scan (s : Scanner) : Result := do
  let s ← s.approach
  s.token

/-- The tokens before the first one of which it is open whether it begins a key. -/
def settled (s : Scanner) : List Token :=
  let places := (s.keys.filter fun k => !s.isStale k.2).map (·.2.place)
  s.tokens.reverse.take (places.min?.getD s.count)

/-- Tokens up to the end of the text or to its first fault. A token that may begin a key is given
out only when that is settled, so a fault that comes before takes its place. -/
def run : Nat → Scanner → List Token
  | 0, s => s.settled ++ [.fault .malformed]
  | steps + 1, s =>
    match s.scan with
    | .error f => s.settled ++ [.fault f]
    | .ok s =>
      match s.tokens with
      | .streamEnd :: _ => s.tokens.reverse
      | _ => run steps s

end Scanner

/-- A byte order mark before the text is no part of it. -/
def withoutMark (c : Cursor) : Cursor := if c.peek = '\uFEFF' then c.next else c

/-- The tokens of a text of allowed characters. Each token takes at least one character. -/
def tokens (cs : List Char) : List Token :=
  let c := Cursor.ofChars cs
  Scanner.run c.steps { cursor := withoutMark c }

end Scaffold.Yaml
