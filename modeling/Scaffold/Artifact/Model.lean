import Scaffold.Artifact.Fragments

/-!
# The model

The record as the frontend knows it, its inputs, and the conversions from and to a row.
-/
namespace Scaffold.Artifact.Model

open Script Template Text

/-! ## Types -/

/-- The constant with the values of an enumeration. -/
def valuesConstant (s : Schema) (f : Field) : String :=
  upper (snakeCase s.name) ++ "_" ++ upper f.column ++ "_VALUES"

def enumLines (s : Schema) (f : Field) : List String := [
  "",
  s!"export type {f.typeName s.name} = {literalUnion f.values}",
  "",
  s!"export const {valuesConstant s f}: {f.typeName s.name}[] = [{literalList f.values}]"]

def rowInterface (s : Schema) : Interface :=
  ⟨s!"export interface {s.name}DatabaseRecord", s.columns.map Field.columnMember⟩

def dataInterface (s : Schema) : Interface :=
  ⟨s!"export interface {s.name}Data", s.columns.map Field.member⟩

/-- The endpoint fills in the owner of a new row. -/
def createMember (f : Field) : Member :=
  { f.member with optional := !f.required || f.name = Field.owner.name }

def createType (s : Schema) : Interface :=
  ⟨s!"export type {s.name}CreateInput =", s.writableFields.map createMember⟩

def updateType (s : Schema) : Interface :=
  ⟨s!"export type {s.name}UpdateInput =", s.updatableFields.map Field.optionalMember⟩

/-- The names that the file exports, in order. -/
def exports (s : Schema) : List String :=
  s.enumFields.flatMap (fun f => [f.typeName s.name, valuesConstant s f])
    ++ [s.name ++ "DatabaseRecord", s.name ++ "Data", s.name ++ "CreateInput",
      s.name ++ "UpdateInput", s.name]

/-! ## The class -/

def classLines (s : Schema) : List String :=
  ["", s!"export class {s.name} \x7b"]
  ++ (s.columns.map Field.member).map Member.line
  ++ ["", s!"  constructor(data: {s.name}Data) \x7b"]
  ++ s.columns.map (fun f => s!"    this.{f.name} = data.{f.name}")
  ++ ["  \x7d", "", s!"  static fromDatabase(record: {s.name}DatabaseRecord): {s.name} \x7b",
    s!"    return new {s.name}(\x7b"]
  ++ s.columns.map (fun f => s!"      {f.name}: record.{f.column},")
  ++ ["    \x7d)", "  \x7d", "", s!"  toDatabase(): Partial<{s.name}DatabaseRecord> \x7b",
    "    return \x7b"]
  ++ s.writableFields.map (fun f => s!"      {f.column}: this.{f.name},")
  ++ ["    \x7d", "  \x7d", "", "  static emptyForm(): Record<string, unknown> \x7b",
    "    return \x7b"]
  ++ s.writableFields.map (fun f => s!"      {f.name}: {f.scriptDefault},")
  ++ ["    \x7d", "  \x7d", "\x7d"]

/-! ## The file -/

def headerLines (s : Schema) : List String :=
  comment "" [
    s!"{s.name} Model",
    s!"Frontend domain model for public.{s.table}",
    "",
    "- fromDatabase / toDatabase conversion",
    "- " ++ generated]

/-- The lines of the file. -/
def lines (s : Schema) : List String :=
  headerLines s ++ s.enumFields.flatMap (enumLines s)
    ++ [""] ++ (rowInterface s).lines ++ [""] ++ (dataInterface s).lines
    ++ [""] ++ (createType s).lines ++ [""] ++ (updateType s).lines ++ classLines s

def text (s : Schema) : String := unlines (lines s)

def scope (s : Schema) : Variables :=
  Variables.ofNames s ++ [
    ("fields", Variables.codeFields s.columns),
    ("writable_fields", Variables.codeFields s.writableFields),
    ("updatable_fields", Variables.codeFields s.updatableFields),
    ("enum_fields", Variables.enumFields s.enumFields),
    ("owner_field", .text Field.owner.name)]

/-! ## The template -/

def headerNodes : List Node :=
  commentNodes [
    [.print "name", " Model"],
    ["Frontend domain model for public.", .print "table_name"],
    [],
    ["- fromDatabase / toDatabase conversion"],
    ["- ", .text generated]]

def enumNodes : List Node :=
  plain [""] ++ line ["export type ", .print "name", enumName, " = ", enumValues " | "]
    ++ plain [""]
    ++ line [
      "export const ",
      .print (.filtered (.filtered "name" "snake_case") "upper"),
      "_",
      .print (.filtered (dot "field" "db_name") "upper"),
      "_VALUES: ",
      .print "name",
      enumName,
      "[] = [",
      enumValues ", ",
      "]"]

def createMark : Node :=
  markUnless (.both (dot "field" "required") (.negated (.equal (dot "field" "name") "owner_field")))

def interfacesNodes : List Node :=
  plain [""]
    ++ interfaceNodes ["export interface ", .print "name", "DatabaseRecord"]
      [members "fields" "db_name" ""]
    ++ plain [""]
    ++ interfaceNodes ["export interface ", .print "name", "Data"] [members "fields" "name" ""]
    ++ plain [""]
    ++ interfaceNodes ["export type ", .print "name", "CreateInput ="]
      [members "writable_fields" "name" createMark]
    ++ plain [""]
    ++ interfaceNodes ["export type ", .print "name", "UpdateInput ="]
      [members "updatable_fields" "name" "?"]

/-- A line for each field of a list. -/
def fieldNodes (fields : String) (parts : List Node) : List Node :=
  [.each "field" (.var fields) (line parts)]

def classNodes : List Node :=
  plain [""] ++ line ["export class ", .print "name", " \x7b"] ++ [members "fields" "name" ""]
    ++ plain [""] ++ line ["  constructor(data: ", .print "name", "Data) \x7b"]
    ++ fieldNodes "fields" [
      "    this.",
      .print (dot "field" "name"),
      " = data.",
      .print (dot "field" "name")]
    ++ plain ["  \x7d", ""]
    ++ line [
      "  static fromDatabase(record: ",
      .print "name",
      "DatabaseRecord): ",
      .print "name",
      " \x7b"]
    ++ line ["    return new ", .print "name", "(\x7b"]
    ++ fieldNodes "fields" [
      "      ",
      .print (dot "field" "name"),
      ": record.",
      .print (dot "field" "db_name"),
      ","]
    ++ plain ["    \x7d)", "  \x7d", ""]
    ++ line ["  toDatabase(): Partial<", .print "name", "DatabaseRecord> \x7b"]
    ++ plain ["    return \x7b"]
    ++ fieldNodes "writable_fields" [
      "      ",
      .print (dot "field" "db_name"),
      ": this.",
      .print (dot "field" "name"),
      ","]
    ++ plain [
      "    \x7d",
      "  \x7d",
      "",
      "  static emptyForm(): Record<string, unknown> \x7b",
      "    return \x7b"]
    ++ fieldNodes "writable_fields" [
      "      ",
      .print (dot "field" "name"),
      ": ",
      .print (dot "field" "typescript_default"),
      ","]
    ++ plain ["    \x7d", "  \x7d", "\x7d"]

def nodes : List Node :=
  headerNodes ++ [.each "field" "enum_fields" enumNodes] ++ interfacesNodes ++ classNodes

end Scaffold.Artifact.Model
