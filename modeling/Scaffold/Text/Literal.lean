import Scaffold.Text.Pad
import Scaffold.Text.Printable

/-!
# Literals

How arbitrary text is written down inside the generated files: between the quotes of an SQL or a
TypeScript string, as a JSON string that may stand in a page of markup, and in the readable form
that is used for patterns and for the names of files in messages.
-/
namespace Scaffold.Text.Literal

/-- A quote is written twice. -/
def sqlBody : List Char → List Char
  | [] => []
  | c :: rest => (if c = '\'' then ['\'', '\''] else [c]) ++ sqlBody rest

def sql (s : String) : String := String.ofList ('\'' :: sqlBody s.toList ++ ['\''])

/-- Backslashes and quotes are marked by a backslash. -/
def scriptBody : List Char → List Char
  | [] => []
  | c :: rest => (if c = '\\' ∨ c = '\'' then ['\\', c] else [c]) ++ scriptBody rest

def script (s : String) : String := String.ofList ('\'' :: scriptBody s.toList ++ ['\''])

/-- Readable text stands between single quotes unless only the double ones are free. -/
def quoteFor (cs : List Char) : Char :=
  if cs.contains '\'' && !cs.contains '"' then '"' else '\''

/-- A character of readable text: what has no glyph is written by its number. -/
def readableChar (quote c : Char) : List Char :=
  if c = quote ∨ c = '\\' then ['\\', c]
  else if c = '\n' then ['\\', 'n']
  else if c = '\r' then ['\\', 'r']
  else if c = '\t' then ['\\', 't']
  else if isPrintable c then [c]
  else if c.toNat < 0x100 then '\\' :: 'x' :: hexDigits 2 c.toNat
  else if c.toNat < 0x10000 then '\\' :: 'u' :: hexDigits 4 c.toNat
  else '\\' :: 'U' :: hexDigits 8 c.toNat

def readableChars (cs : List Char) : List Char :=
  let quote := quoteFor cs
  quote :: cs.flatMap (readableChar quote) ++ [quote]

def readable (s : String) : String := String.ofList (readableChars s.toList)

/-- One unit of UTF-16 by its number. -/
def unitEscape (unit : Nat) : List Char := '\\' :: 'u' :: hexDigits 4 unit

/-- Characters that would end a script or an attribute are escaped with the rest of what is not
plain ASCII; characters outside the basic plane take a pair of units. -/
def jsonChar (c : Char) : List Char :=
  if c = '"' ∨ c = '\\' then ['\\', c]
  else if c = '\n' then ['\\', 'n']
  else if c = '\r' then ['\\', 'r']
  else if c = '\t' then ['\\', 't']
  else if c = '\x08' then ['\\', 'b']
  else if c = '\x0c' then ['\\', 'f']
  else if c = '<' ∨ c = '>' ∨ c = '&' ∨ c = '\'' then unitEscape c.toNat
  else if 0x20 ≤ c.toNat ∧ c.toNat < 0x7f then [c]
  else if c.toNat < 0x10000 then unitEscape c.toNat
  else
    let offset := c.toNat - 0x10000
    unitEscape (0xd800 + offset / 0x400) ++ unitEscape (0xdc00 + offset % 0x400)

def json (s : String) : String := String.ofList ('"' :: s.toList.flatMap jsonChar ++ ['"'])

end Scaffold.Text.Literal
