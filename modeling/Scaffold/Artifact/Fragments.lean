import Scaffold.Artifact.Script
import Scaffold.Artifact.Template

/-!
# Fragments of templates

What several templates write in the same way: comments, members of interfaces, lists of names, and
what depends on the type of an operation.
-/
namespace Scaffold.Template

open Script Text

/-! ## Comments -/

/-- The lines of a comment block; one without parts is blank. -/
def remarkNodes (parts : List Node) : List Node :=
  if parts.isEmpty then plain [" *"] else line ([.text " * "] ++ parts)

def commentNodes (remarks : List (List Node)) : List Node :=
  plain ["/**"] ++ remarks.flatMap remarkNodes ++ plain [" */"]

/-- What is said above a method. -/
def methodRemark (parts : List Node) : List Node :=
  plain ["  /**"] ++ line ([.text "   * "] ++ parts) ++ plain ["   */"]

/-! ## Interfaces -/

/-- A member for each field of a list, with a mark behind its name. -/
def members (items key : String) (mark : Node) : Node :=
  .each "field" (.var items) (line [
    "  ",
    .print (dot "field" key),
    mark,
    ": ",
    .print (dot "field" "typescript_type"),
    pick (dot "field" "required") "" " | null"])

/-- The mark of a member that may be left out unless the test holds. -/
def markUnless (test : Expr) : Node := pick test "" "?"

/-- The name of an enumeration in the name of its type. -/
def enumName : Node := .print (.filtered (dot "field" "name") "pascal_case")

/-- The values of an enumeration as literals. -/
def enumValues (separator : String) : Node :=
  .print (.joined (.mapped (dot "field" "enum_values") "ts_string") separator)

def enumMembers : Node :=
  .each "field" "enum_fields"
    (line ["  ", .print (dot "field" "name"), "?: ", .print "name", enumName])

def filterMembers : Node :=
  .each "filter" "declared_filters"
    (line ["  ", .print (dot "filter" "name"), "?: ", .print (dot "filter" "typescript_type")])

/-- The lines of an interface. -/
def interfaceNodes (opening members : List Node) : List Node :=
  line (opening ++ [.text " \x7b"]) ++ members ++ plain ["\x7d"]

/-! ## Methods -/

/-- A line in the body of a method. -/
def bodyLine (parts : List Node) : List Node := line ([.text "    "] ++ parts)

/-- Lines in the body of a method without anything to fill in. -/
def bodyLines (lines : List String) : List Node := plain (lines.map ("    " ++ ·))

/-- The lines of a method, the last of them ended by `mark`. -/
def methodNodes (remarks : Option (List Node)) (name : Node) (parameters result body : List Node)
    (mark : String) : List Node :=
  remarks.elim [] methodRemark
    ++ line ([.text "  async ", name, .text "("] ++ parameters ++ [.text "): "] ++ result
      ++ [.text " \x7b"])
    ++ body ++ plain ["  \x7d" ++ mark]

/-! ## Names -/

/-- Names between quotes, with a separator. -/
def quotedNames (name : String) (items shown : Expr) (separator : String) : Node :=
  .each name items ["'", .print shown, "'", between separator]

def filterNames (separator : String) : Node := quotedNames "f" (dot "op" "filters") "f" separator

/-! ## Operations -/

def ofType (type : OperationType) : Expr := .equal (dot "op" "op_type") (.literal type.name)

/-- What depends on the type of an operation. -/
def byType (list get create update delete custom : List Node) : List Node :=
  [.cond (ofType .list) list
    [.cond (ofType .get) get
      [.cond (ofType .create) create
        [.cond (ofType .update) update
          [.cond (ofType .delete) delete custom]]]]]

/-- The name of the method for a custom operation. -/
def methodName : Node := .print (.filtered (dot "op" "name") "camel_case")

/-- Filters that begin from the limit of an operation, after other text. -/
def limited (before otherwise : String) : Node :=
  .print (.choice (dot "op" "limit")
    (.formatted (before ++ "\x7b limit: ") (dot "op" "limit") ", ...filters \x7d")
    (.literal otherwise))

/-- What is said above a method that lists rows. -/
def listRemark : Node :=
  .print (.either (dot "op" "description") (.followed (.literal "List ") "table_name"))

def customRemark : Node := .print (.either (dot "op" "description") (dot "op" "name"))

end Scaffold.Template
