import Scaffold.Proofs.Notation
import Scaffold.Yaml.Token

/-!
# Portable notations

JSON that YAML understands alike. Between marks it has no other blanks than spaces and line feeds,
its strings hold only characters that YAML keeps as they are and escape no half of a pair, a number
that is not whole has a point and a sign before its power, and a name has its colon on its line and
near.
-/
namespace Scaffold.Document.Json

open Yaml (Token isAllowed isBreak keyLimit)

/-! ## What is portable -/

def Gap.isPortable (gap : Gap) : Bool := gap.chars.all fun c => c = ' ' || c = '\n'

/-- Blanks that do not leave the line. -/
def Gap.isInline (gap : Gap) : Bool := gap.chars.all (· = ' ')

def Piece.isPortable : Piece → Bool
  | .plain c _ => isAllowed c && !isBreak c
  | .short .. => true
  | .unit digits => !(isHighUnit digits.number || isLowUnit digits.number)
  | .pair .. => false

def Quoted.isPortable (q : Quoted) : Bool := q.all Piece.isPortable

def Numeral.isPortable (n : Numeral) : Bool :=
  n.isWhole || (!n.fraction.isEmpty && n.power.all fun p => p.sign.isSome)

def Atom.isPortable : Atom → Bool
  | .null | .bool _ => true
  | .notANumber | .infinity _ => false
  | .numeral n => n.isPortable

/-- How far the colon is from the opening quote. -/
def Name.reach (name : Name) : Nat := 1 + name.quoted.text.length + name.before.chars.length

def Name.isPortable (name : Name) : Bool :=
  name.quoted.isPortable && name.before.isInline && name.after.isPortable && name.reach ≤ keyLimit

mutual

def Value.isPortable : Value → Bool
  | .atom a => a.isPortable
  | .string q => q.isPortable
  | .emptyArray gap | .emptyObject gap => gap.isPortable
  | .array gap items => gap.isPortable && items.isPortable
  | .object gap members => gap.isPortable && members.isPortable

def Items.isPortable : Items → Bool
  | .last v after => v.isPortable && after.isPortable
  | .more v after before others =>
    v.isPortable && after.isPortable && before.isPortable && others.isPortable

def Members.isPortable : Members → Bool
  | .last name v after => name.isPortable && v.isPortable && after.isPortable
  | .more name v after before others =>
    name.isPortable && v.isPortable && after.isPortable && before.isPortable && others.isPortable

end

def Notation.isPortable (n : Notation) : Bool :=
  n.before.isPortable && n.value.isPortable && n.after.isPortable

/-- An object, with members or without. -/
def Value.isObject : Value → Bool
  | .emptyObject _ | .object .. => true
  | _ => false

/-! ## Its tokens -/

def Name.tokens (name : Name) : List Token := [.key, .scalar name.quoted.letters false, .value]

mutual

/-- The tokens of a value, as YAML has it. -/
def Value.tokens : Value → List Token
  | .atom a => [.scalar (a.text.map .char) true]
  | .string q => [.scalar q.letters false]
  | .emptyArray _ => [.flowSequenceStart, .flowSequenceEnd]
  | .array _ items => .flowSequenceStart :: items.tokens
  | .emptyObject _ => [.flowMappingStart, .flowMappingEnd]
  | .object _ members => .flowMappingStart :: members.tokens

def Items.tokens : Items → List Token
  | .last v _ => v.tokens ++ [.flowSequenceEnd]
  | .more v _ _ others => v.tokens ++ .flowEntry :: others.tokens

def Members.tokens : Members → List Token
  | .last name v _ => name.tokens ++ v.tokens ++ [.flowMappingEnd]
  | .more name v _ _ others => name.tokens ++ v.tokens ++ .flowEntry :: others.tokens

end

mutual

/-- How many collections lie in one another. -/
def Value.depth : Value → Nat
  | .atom _ | .string _ => 0
  | .emptyArray _ | .emptyObject _ => 1
  | .array _ items => items.depth + 1
  | .object _ members => members.depth + 1

def Items.depth : Items → Nat
  | .last v _ => v.depth
  | .more v _ _ others => max v.depth others.depth

def Members.depth : Members → Nat
  | .last _ v _ => v.depth
  | .more _ v _ _ others => max v.depth others.depth

end

end Scaffold.Document.Json
