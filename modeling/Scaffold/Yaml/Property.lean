import Scaffold.Document.Json
import Scaffold.Text.Utf8
import Scaffold.Yaml.Block

/-!
# Anchors, tags and directives
-/
namespace Scaffold.Yaml

open Document.Json (hexNumber? isDigit digitsNumber)

/-- A tag as it is written: a handle that stands for the beginning of a tag, and the rest. -/
structure TagText where
  handle : Option String
  suffix : String
deriving DecidableEq, Repr

inductive Directive
  | version (major minor : Nat)
  | tag (handle beginning : String)
  | other
deriving DecidableEq, Repr

/-- Accepts what was read if the next character is in a class. -/
def followed {α : Type} (isIn : Char → Bool) (a : α) (c : Cursor) : Except Fault (α × Cursor) :=
  if isIn c.peek then .ok (a, c) else .error .malformed

/-- The name of an anchor, after its mark. -/
def anchorName (c : Cursor) : Except Fault (String × Cursor) :=
  let (name, c) := c.span isNameChar
  if name.isEmpty then .error .malformed
  else followed
    (fun ch => isBlankOrEnd ch || ['?', ':', ',', ']', '\x7d', '%', '@', '\x60'].contains ch)
    (String.ofList name) c

/-! ## Tags -/

def isTagChar (ch : Char) : Bool :=
  ch.isAlphanum || ("-;/?:@&=+$,_.!~*'()[]".toList).contains ch

/-- Bytes that are written as a percent sign and two digits. -/
def percentBytes : List Char → Except Fault (List UInt8 × List Char)
  | '%' :: a :: b :: rest =>
    match hexNumber? [a, b] with
    | some n => do
      let (others, rest) ← percentBytes rest
      return (UInt8.ofNat n :: others, rest)
    | none => .error .malformed
  | '%' :: _ => .error .malformed
  | cs => .ok ([], cs)

/-- The characters of a tag; runs of escaped bytes have to be UTF-8. -/
def tagChars : Nat → Cursor → Except Fault (List Char × Cursor)
  | 0, _ => .error .malformed
  | steps + 1, c =>
    let ch := c.peek
    if ch = '%' then do
      let (bytes, rest) ← percentBytes c.rest
      match String.fromUTF8? (ByteArray.mk bytes.toArray) with
      | some s =>
        let (others, c) ← tagChars steps (c.skip (c.rest.length - rest.length))
        return (s.toList ++ others, c)
      | none => .error .malformed
    else if isTagChar ch then do
      let (others, c) ← tagChars steps c.next
      return (ch :: others, c)
    else .ok ([], c)

def tagSuffix (c : Cursor) : Except Fault (String × Cursor) := do
  let (cs, after) ← tagChars c.steps c
  if after.index = c.index then throw .malformed
  return (String.ofList cs, after)

/-- `!`, `!!` or `!name!`. -/
def tagHandle (c : Cursor) : Except Fault (String × Cursor) :=
  if c.peek ≠ '!' then .error .malformed
  else if c.peekAt 1 = ' ' then .ok ("!", c.next)
  else
    let (name, after) := c.next.span isNameChar
    if after.peek = '!' then .ok (String.ofList ('!' :: name ++ ['!']), after.next)
    else .error .malformed

/-- Whether a second mark stands in the word that begins after the first. -/
def hasHandle (c : Cursor) : Bool :=
  (c.next.rest.takeWhile fun ch => !isSpaceOrEnd ch).contains '!'

/-- A tag from its first mark on. -/
def tagText (c : Cursor) : Except Fault (TagText × Cursor) := do
  let after := c.peekAt 1
  let (tag, c) ←
    if after = '<' then do
      let (suffix, c) ← tagSuffix (c.skip 2)
      if c.peek ≠ '>' then throw .malformed
      pure (TagText.mk none suffix, c.next)
    else if isBlankOrEnd after then pure (TagText.mk none "!", c.next)
    else if hasHandle c then do
      let (handle, c) ← tagHandle c
      let (suffix, c) ← tagSuffix c
      pure (TagText.mk (some handle) suffix, c)
    else do
      let (suffix, c) ← tagSuffix c.next
      pure (TagText.mk (some "!") suffix, c)
  followed isSpaceOrEnd tag c

/-! ## Directives -/

def versionNumber (c : Cursor) : Except Fault (Nat × Cursor) :=
  let (digits, c) := c.span isDigit
  if digits.isEmpty then .error .malformed else .ok (digitsNumber digits, c)

def versionDirective (c : Cursor) : Except Fault (Directive × Cursor) := do
  let (major, c) ← versionNumber (c.skipWhile (· = ' '))
  if c.peek ≠ '.' then throw .malformed
  let (minor, c) ← versionNumber c.next
  followed isSpaceOrEnd (.version major minor) c

def tagDirective (c : Cursor) : Except Fault (Directive × Cursor) := do
  let (handle, c) ← tagHandle (c.skipWhile (· = ' '))
  if c.peek ≠ ' ' then throw .malformed
  let (beginning, c) ← tagSuffix (c.skipWhile (· = ' '))
  followed isSpaceOrEnd (.tag handle beginning) c

/-- A directive after its mark, to the end of its line. -/
def directive (c : Cursor) : Except Fault (Directive × Cursor) := do
  let (name, c) := c.span isNameChar
  if name.isEmpty then throw .malformed
  if !isSpaceOrEnd c.peek then throw .malformed
  let (d, c) ← match String.ofList name with
    | "YAML" => versionDirective c
    | "TAG" => tagDirective c
    | _ => pure (.other, c.skipWhile fun ch => !isBreak ch)
  let c ← restOfLine c
  return (d, c)

end Scaffold.Yaml
