import Scaffold.Schema.Filters
import Scaffold.Text.Naming

/-!
# Pieces of TypeScript

The generated layers agree with each other in their members, methods and requests. These are kept
as values here and turned into text in one place.
-/
namespace Scaffold.Script

open Text

/-- A name between single quotes, as it stands. -/
def quoted (name : String) : String := "'" ++ name ++ "'"

def quotedList (names : List String) : String := ", ".intercalate (names.map quoted)

def literalList (values : List String) : String := ", ".intercalate (values.map Literal.script)

def literalUnion (values : List String) : String := " | ".intercalate (values.map Literal.script)

/-- A member of an interface. -/
structure Member where
  name : String
  optional : Bool := false
  type : String
  nullable : Bool := false
deriving DecidableEq, Repr

def Member.line (m : Member) : String :=
  "  " ++ m.name ++ onlyIf m.optional "?" ++ ": " ++ m.type ++ onlyIf m.nullable " | null"

/-- An interface, or an object type by the words that open it. -/
structure Interface where
  opening : String
  members : List Member
deriving DecidableEq, Repr

def Interface.body (i : Interface) : List String := i.members.map Member.line

def Interface.lines (i : Interface) : List String :=
  [i.opening ++ " \x7b"] ++ i.body ++ ["\x7d"]

/-- A comment block, indented by `indent`. -/
def comment (indent : String) (text : List String) : List String :=
  [indent ++ "/**"]
    ++ text.map (fun line => indent ++ " *" ++ onlyIf (line ≠ "") (" " ++ line))
    ++ [indent ++ " */"]

def generated : String := "Generated by apiforge. Do not edit by hand."

def keyList (names : List String) : String := "[" ++ quotedList names ++ "]"

/-- What a layer sends to the endpoint: the action it asks for, and the rest of the request. -/
structure Request where
  action : String
  arguments : List String
deriving DecidableEq, Repr

/-- The properties of the object that is sent. -/
def Request.properties (r : Request) : List String :=
  ("action: " ++ quoted r.action) :: r.arguments

def Request.text (r : Request) : String :=
  "\x7b " ++ ", ".intercalate r.properties ++ " \x7d"

/-- A method of a class or of an object. -/
structure Method where
  remark : Option String := none
  name : String
  parameters : String
  result : String
  body : List String
deriving DecidableEq, Repr

/-- What is said above a method. -/
def remarkLines (remark : String) : List String := ["  /**", "   * " ++ remark, "   */"]

/-- The lines of a method, the last of them ended by `mark`. -/
def Method.lines (mark : String) (m : Method) : List String :=
  m.remark.elim [] remarkLines
    ++ ["  async " ++ m.name ++ "(" ++ m.parameters ++ "): " ++ m.result ++ " \x7b"]
    ++ m.body.map ("    " ++ ·) ++ ["  \x7d" ++ mark]

/-- The `Pick` of a record type down to some of its keys. -/
def keyUnion (keys : List String) : String :=
  if keys.isEmpty then "never" else " | ".intercalate (keys.map quoted)

/-- A list of options for paging. -/
def pageMembers : List Member := [
  { name := "limit", optional := true, type := "number" },
  { name := "offset", optional := true, type := "number" }]

end Scaffold.Script

namespace Scaffold

open Script Text

namespace Field

/-- The field as a member of a record in code. -/
def member (f : Field) : Member :=
  { name := f.name, type := f.scriptType, nullable := !f.required }

/-- The field as a member of a row of its table. -/
def columnMember (f : Field) : Member :=
  { name := f.column, type := f.scriptType, nullable := !f.required }

/-- The field as a member that may be left out. -/
def optionalMember (f : Field) : Member := { f.member with optional := true }

/-- The name of the type of an enumeration. -/
def typeName (entity : String) (f : Field) : String := entity ++ pascalCase f.name

/-- An enumeration as a filter of its own. -/
def filterMember (entity : String) (f : Field) : Member :=
  { name := f.name, optional := true, type := f.typeName entity }

end Field

def Filter.member (f : Filter) : Member :=
  { name := f.name, optional := true, type := f.scriptType }

namespace Operation

/-- A description that says something. -/
def remark? (op : Operation) : Option String := op.description.filter (· ≠ "")

/-- Filters that begin from the limit of an operation, where it has one. -/
def limited? (op : Operation) : Option String :=
  (op.limit.filter (· ≠ 0)).map fun n => "\x7b limit: " ++ toString n ++ ", ...filters \x7d"

/-- The argument `filters` of a request. -/
def filtersArgument (op : Operation) : String :=
  match op.limited? with
  | some limited => "filters: " ++ limited
  | none => "filters"

/-- What is said above a method that lists rows. -/
def listRemark (table : String) (op : Operation) : String :=
  op.remark?.getD ("List " ++ table)

def customRemark (op : Operation) : String := op.remark?.getD op.label

end Operation
end Scaffold
