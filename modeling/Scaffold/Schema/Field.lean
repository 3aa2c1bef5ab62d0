import Scaffold.Number.Decimal
import Scaffold.Schema.Types
import Scaffold.Text.Lines
import Scaffold.Text.Literal

/-!
# Fields

A field has a name in code and a column in its table. Its form in each generated language follows
from its type, and for validation also from its rules.
-/
namespace Scaffold

open Number

/-- Rules for the values of a field. -/
structure Rules where
  minLength : Option Nat := none
  maxLength : Option Nat := none
  min : Option Binary64 := none
  max : Option Binary64 := none
  email : Bool := false
  url : Bool := false
  pattern : Option String := none
deriving DecidableEq, Repr

structure Field where
  name : String
  column : String
  type : FieldType
  required : Bool := false
  defaultValue : Option String := none
  primaryKey : Bool := false
  unique : Bool := false
  references : Option String := none
  onDelete : Option String := none
  indexed : Bool := false
  indexMethod : Option String := none
  enumValues : Option (List String) := none
  element : Option ElementType := none
  rules : Option Rules := none
  autoUpdate : Bool := false
deriving DecidableEq, Repr

namespace Field

def isEnum (f : Field) : Bool := f.type == .enum

/-- The declared values, none where there is no list of them. -/
def values (f : Field) : List String := f.enumValues.getD []

def elementType (f : Field) : ElementType := f.element.getD .string

def sqlType (f : Field) : String :=
  if f.type = .array then f.elementType.toFieldType.sqlType ++ "[]" else f.type.sqlType

/-- A default that begins like one of these is an expression already. -/
def expressionStarts : List String := ["'", "gen_random_uuid", "NOW"]

def isExpression (s : String) : Bool :=
  expressionStarts.any fun start => start.toList.isPrefixOf s.toList

/-- Textual defaults are quoted unless they are expressions; others stand as they are declared. -/
def sqlDefault (f : Field) : Option String :=
  f.defaultValue.map fun s =>
    if (f.type = .string ∨ f.type = .enum) ∧ !isExpression s then Text.Literal.sql s else s

/-- An enumeration is the union of its values. -/
def scriptType (f : Field) : String :=
  match f.type with
  | .enum => " | ".intercalate (f.values.map Text.Literal.script)
  | .array => f.elementType.toFieldType.scriptType ++ "[]"
  | type => type.scriptType

def scriptDefault (f : Field) : String :=
  if !f.required then "null"
  else match f.type, f.values with
    | .enum, first :: _ => Text.Literal.script first
    | type, _ => type.scriptDefault

/-- One call in a chain, if there is something to call it with. -/
def call (name : String) (argument : Option String) : String :=
  match argument with
  | some a => "." ++ name ++ "(" ++ a ++ ")"
  | none => ""

def textRules (r : Rules) : String :=
  call "min" (r.minLength.map toString) ++ call "max" (r.maxLength.map toString)
    ++ Text.onlyIf r.email ".email()" ++ Text.onlyIf r.url ".url()"
    ++ call "regex" ((r.pattern.filter (· ≠ "")).map fun p =>
      "new RegExp(" ++ Text.Literal.readable p ++ ")")

def numberRules (r : Rules) : String :=
  call "min" (r.min.map Binary64.wholeOrShortest) ++ call "max" (r.max.map Binary64.wholeOrShortest)

/-- The bounds on the length of a text. -/
def lengthBounds (f : Field) : List Nat :=
  match f.type, f.rules with
  | .string, some r => r.minLength.toList ++ r.maxLength.toList
  | _, _ => []

/-- Only texts and numbers have rules that the validation library can check. -/
def validator (f : Field) : String :=
  match f.type with
  | .enum => "z.enum([" ++ ", ".intercalate (f.values.map Text.Literal.script) ++ "])"
  | .array => "z.array(" ++ f.elementType.toFieldType.validator ++ ")"
  | .string => FieldType.string.validator ++ (f.rules.map textRules).getD ""
  | .number => FieldType.number.validator ++ (f.rules.map numberRules).getD ""
  | .integer => FieldType.integer.validator ++ (f.rules.map numberRules).getD ""
  | type => type.validator

/-- A field on one line, for people. -/
def summary (f : Field) : String :=
  "<Field " ++ f.name ++ " (" ++ f.column ++ ") " ++ f.type.name
    ++ Text.onlyIf f.primaryKey " PK" ++ ">"

end Field
end Scaffold
