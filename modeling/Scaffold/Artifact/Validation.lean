import Scaffold.Artifact.Fragments

/-!
# The validation schemas

What the endpoint accepts for a new row and for a change. A change may leave out everything.
-/
namespace Scaffold.Artifact.Validation

open Script Template Text

/-- One key of a validation schema. -/
structure Entry where
  key : String
  validator : String
  optional : Bool
  nullable : Bool
deriving DecidableEq, Repr

def Entry.line (e : Entry) : String :=
  "  " ++ e.key ++ ": " ++ e.validator ++ onlyIf e.optional ".optional()"
    ++ onlyIf e.nullable ".nullable()" ++ ","

def createEntry (f : Field) : Entry := ⟨f.name, f.validator, !f.required, !f.required⟩

def updateEntry (f : Field) : Entry := ⟨f.name, f.validator, true, !f.required⟩

def createEntries (s : Schema) : List Entry := s.writableFields.map createEntry

def updateEntries (s : Schema) : List Entry := s.updatableFields.map updateEntry

/-- A schema of its own for each enumeration. -/
def enumConstant (s : Schema) (f : Field) : String := f.typeName s.name ++ "Schema"

def createConstant (s : Schema) : String := s.name ++ "CreateSchema"

def updateConstant (s : Schema) : String := s.name ++ "UpdateSchema"

/-- The exported constants, in order. -/
def constants (s : Schema) : List String :=
  s.enumFields.map (enumConstant s) ++ [createConstant s, updateConstant s]

def enumLines (s : Schema) (f : Field) : List String :=
  ["", s!"export const {enumConstant s f} = z.enum([{literalList f.values}])"]

def objectLines (constant : String) (entries : List Entry) : List String :=
  ["", s!"export const {constant} = z.object(\x7b"] ++ entries.map Entry.line ++ ["\x7d)"]

def headerLines (s : Schema) : List String :=
  comment "" [
    s!"{s.name} validation schemas ({s.table}-crud)",
    generated]
  ++ ["", "import \x7b z \x7d from 'https://deno.land/x/zod@v3.23.8/mod.ts'"]

def typeLines (s : Schema) : List String := [
  "",
  s!"export type {s.name}CreateInput = z.infer<typeof {createConstant s}>",
  s!"export type {s.name}UpdateInput = z.infer<typeof {updateConstant s}>"]

/-- The lines of the file. -/
def lines (s : Schema) : List String :=
  headerLines s ++ s.enumFields.flatMap (enumLines s)
    ++ objectLines (createConstant s) (createEntries s)
    ++ objectLines (updateConstant s) (updateEntries s) ++ typeLines s

def text (s : Schema) : String := unlines (lines s)

def scope (s : Schema) : Variables :=
  Variables.ofNames s ++ [
    ("writable_fields", Variables.codeFields s.writableFields),
    ("updatable_fields", Variables.codeFields s.updatableFields),
    ("enum_fields", Variables.enumFields s.enumFields)]

/-! ## The template -/

def headerNodes : List Node :=
  commentNodes [
      [.print "name", " validation schemas (", .print "table_name", "-crud)"],
      [.text generated]]
    ++ plain ["", "import \x7b z \x7d from 'https://deno.land/x/zod@v3.23.8/mod.ts'"]

def enumNodes : List Node :=
  plain [""]
    ++ line ["export const ", .print "name", enumName, "Schema = z.enum([", enumValues ", ", "])"]

def objectNodes (kind fields : String) (marks : List Node) : List Node :=
  plain [""] ++ line ["export const ", .print "name", .text (kind ++ "Schema = z.object(\x7b")]
    ++ [.each "field" (.var fields)
      (line ([.text "  ", .print (dot "field" "name"), .text ": ", .print (dot "field" "zod_type")]
        ++ marks ++ [.text ","]))]
    ++ plain ["\x7d)"]

def createNodes : List Node :=
  objectNodes "Create" "writable_fields" [pick (dot "field" "required") "" ".optional().nullable()"]

def updateNodes : List Node :=
  objectNodes "Update" "updatable_fields"
    [".optional()", pick (dot "field" "required") "" ".nullable()"]

def typeNodes (kind : String) : List Node :=
  line [
    "export type ",
    .print "name",
    .text (kind ++ "Input = z.infer<typeof "),
    .print "name",
    .text (kind ++ "Schema>")]

def nodes : List Node :=
  headerNodes ++ [.each "field" "enum_fields" enumNodes] ++ createNodes ++ updateNodes
    ++ plain [""] ++ typeNodes "Create" ++ typeNodes "Update"

end Scaffold.Artifact.Validation
