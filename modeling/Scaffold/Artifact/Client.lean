import Scaffold.Artifact.Fragments

/-!
# The command-line client

A class with a method for each operation, and a helper for each value of an enumeration but the
first. An enumeration whose helpers would clash with other methods, or with each other, is dropped;
operations may then filter by it like by any other field.
-/
namespace Scaffold.Artifact.Client

open Script Template Text

/-! ## Which enumerations are kept -/

/-- Methods that the class may have besides its custom operations. -/
def standardMethods : List String := ["list", "getById", "create", "update", "delete"]

def customMethods (s : Schema) : List String :=
  ((s.operationsOf .custom).filterMap fun op => op.name.filter (· ≠ "")).map camelCase

/-- The values that have a helper. -/
def helperValues (f : Field) : List String := f.values.drop 1

def helpers (f : Field) : List String := (helperValues f).map camelCase

/-- Each clashing name once, in order. -/
def clashes (taken : List String) (f : Field) : List String :=
  let names := helpers f
  let clashing := names.filter fun h => taken.contains h || 1 < names.count h
  (distinct clashing).mergeSort fun a b => a ≤ b

/-- Whether an enumeration is kept, or the names because of which it is dropped. -/
abbrev Decision := Field × List String

/-- Enumerations are taken in order, each if it fits to the methods taken so far. -/
def firstFit (taken : List String) : List Field → List Decision
  | [] => []
  | f :: rest =>
    let clashing := clashes taken f
    (f, clashing) :: firstFit (if clashing.isEmpty then taken ++ helpers f else taken) rest

def decisions (s : Schema) : List Decision :=
  firstFit (standardMethods ++ customMethods s) s.enumFields

def enumFields (s : Schema) : List Field :=
  (decisions s).filterMap fun (f, clashing) => if clashing.isEmpty then some f else none

def dropped (s : Schema) : List Decision := (decisions s).filter fun d => !d.2.isEmpty

/-- What is said of a dropped enumeration. -/
def dropRemark (s : Schema) (d : Decision) : String :=
  s!"CLI client for {s.name}: dropping enum field '{d.1.name}' (helpers ["
    ++ ", ".intercalate (d.2.map Literal.readable) ++ "] clash with other client methods)."

def operations (s : Schema) : List Operation :=
  s.operationsWithout (.enumsAmong ((enumFields s).map (·.name)))

def filters (s : Schema) : List Filter := s.declaredFilters (Schema.filterNames (operations s))

/-! ## Types -/

/-- What every row has besides the fields that it can be given. -/
def keptMembers : List Member := [
  { name := "id", type := "string" },
  { name := "createdAt", type := "string" },
  { name := "updatedAt", type := "string" }]

def recordInterface (s : Schema) : Interface :=
  ⟨s!"export interface {s.name}", s.writableFields.map Field.member ++ keptMembers⟩

def createMember (f : Field) : Member := { f.member with optional := !f.required }

def createInterface (s : Schema) : Interface :=
  ⟨s!"export interface {s.name}CreateInput", s.updatableFields.map createMember⟩

def updateInterface (s : Schema) : Interface :=
  ⟨s!"export interface {s.name}UpdateInput", s.updatableFields.map Field.optionalMember⟩

def filtersInterface (s : Schema) : Interface :=
  ⟨s!"export interface {s.name}Filters",
    (enumFields s).map (Field.filterMember s.name) ++ (filters s).map Filter.member
      ++ pageMembers⟩

/-! ## Methods -/

/-- A method of the client and the request that it sends. -/
structure Call where
  remark : String
  name : String
  parameters : String
  /-- The type of the answer, none for a method that only reports success. -/
  answer : Option String
  request : Request
deriving DecidableEq, Repr

def Call.method (c : Call) : Method where
  remark := some c.remark
  name := c.name
  parameters := c.parameters
  result := match c.answer with
    | some type => s!"Promise<{type}>"
    | none => "Promise<void>"
  body :=
    let opening := match c.answer with
      | some type => s!"return this.client.invoke<{type}>"
      | none => "await this.client.invoke<\x7b success: boolean \x7d>"
    [opening ++ "(FUNCTION_NAME, \x7b"] ++ c.request.properties.map (fun p => "  " ++ p ++ ",")
      ++ ["\x7d)"]

/-- A call that answers with several rows. -/
def query (s : Schema) (remark name action filters : String) : Call where
  remark := remark
  name := name
  parameters := s!"filters: {s.name}Filters = \x7b\x7d"
  answer := some (s.name ++ "[]")
  request := ⟨action, [filters]⟩

def call (s : Schema) (op : Operation) : Call :=
  match op.type with
  | .list => query s (op.listRemark s.table) "list" "list" op.filtersArgument
  | .get => {
      remark := "Get by ID"
      name := "getById"
      parameters := "id: string"
      answer := some s.name
      request := ⟨"get", ["id"]⟩ }
  | .create => {
      remark := "Create"
      name := "create"
      parameters := s!"data: {s.name}CreateInput"
      answer := some s.name
      request := ⟨"create", ["data"]⟩ }
  | .update => {
      remark := "Update"
      name := "update"
      parameters := s!"id: string, data: {s.name}UpdateInput"
      answer := some s.name
      request := ⟨"update", ["id", "data"]⟩ }
  | .delete => {
      remark := "Delete"
      name := "delete"
      parameters := "id: string"
      answer := none
      request := ⟨"delete", ["id"]⟩ }
  | .custom => query s op.customRemark (camelCase op.label) op.label op.filtersArgument

def operationCalls (s : Schema) : List Call := (operations s).map (call s)

/-- The list, filtered by one value. -/
def helperCall (s : Schema) (f : Field) (value : String) : Call :=
  query s s!"List with {f.name} = '{value}'" (camelCase value) "list"
    s!"filters: \x7b ...filters, {f.name}: {Literal.script value} \x7d"

def helperCalls (s : Schema) : List Call :=
  (enumFields s).flatMap fun f => (helperValues f).map (helperCall s f)

def calls (s : Schema) : List Call := operationCalls s ++ helperCalls s

def classLines (s : Schema) : List String :=
  [s!"export class {s.name}sClient \x7b", "  constructor(private client: ApiClient) \x7b\x7d"]
    ++ (calls s).flatMap (fun c => "" :: c.method.lines "") ++ ["\x7d"]

/-! ## The file -/

def nameLines (s : Schema) : List String := ["", s!"const FUNCTION_NAME = '{s.table}-crud'"]

def headerLines (s : Schema) : List String :=
  let stem := lower (camelCase s.name)
  comment "" [
    s!"{s.name} API Client (app-cli)",
    "",
    "Usage:",
    "```typescript",
    "import \x7b ApiClient \x7d from '../client.js'",
    s!"import \x7b {s.name}sClient \x7d from './{s.name}sClient.js'",
    "",
    "const client = new ApiClient()",
    "await client.login(email, password)",
    "",
    s!"const {stem}s = new {s.name}sClient(client)",
    s!"const items = await {stem}s.list()",
    "```",
    "",
    generated]
  ++ [
    "",
    "import \x7b ApiClient \x7d from '../client.js'"]
  ++ nameLines s

def enumLines (s : Schema) (f : Field) : List String :=
  ["", s!"export type {f.typeName s.name} = {literalUnion f.values}"]

/-- A declaration under a comment that names it. -/
def titled (title : String) (lines : List String) : List String :=
  [""] ++ comment "" [title] ++ lines

/-- The lines of the file. -/
def lines (s : Schema) : List String :=
  headerLines s ++ (enumFields s).flatMap (enumLines s)
    ++ titled (s.name ++ " type") (recordInterface s).lines
    ++ titled (s.name ++ " create input") (createInterface s).lines
    ++ titled (s.name ++ " update input") (updateInterface s).lines
    ++ titled (s.name ++ " list filters") (filtersInterface s).lines
    ++ titled (s.name ++ " API Client") (classLines s)

def text (s : Schema) : String := unlines (lines s)

def scope (s : Schema) : Variables :=
  Variables.ofNames s ++ [
    ("operations", Variables.operations (operations s)),
    ("writable_fields", Variables.codeFields s.writableFields),
    ("updatable_fields", Variables.codeFields s.updatableFields),
    ("enum_fields", Variables.enumFields (enumFields s)),
    ("declared_filters", Variables.filters (filters s))]

/-! ## The template -/

/-- What the usage calls a list of rows. -/
def stemNode : Node := .print (.filtered (.filtered "name" "camel_case") "lower")

def headerNodes : List Node :=
  commentNodes [
      [.print "name", " API Client (app-cli)"],
      [],
      ["Usage:"],
      ["```typescript"],
      ["import \x7b ApiClient \x7d from '../client.js'"],
      ["import \x7b ", .print "name", "sClient \x7d from './", .print "name", "sClient.js'"],
      [],
      ["const client = new ApiClient()"],
      ["await client.login(email, password)"],
      [],
      ["const ", stemNode, "s = new ", .print "name", "sClient(client)"],
      ["const items = await ", stemNode, "s.list()"],
      ["```"],
      [],
      [.text generated]]
    ++ plain ["", "import \x7b ApiClient \x7d from '../client.js'", ""]
    ++ line ["const FUNCTION_NAME = '", .print "table_name", "-crud'"]

def enumNodes : List Node :=
  plain [""] ++ line ["export type ", .print "name", enumName, " = ", enumValues " | "]

/-- A declaration under a comment that names it. -/
def titledNodes (title : String) (declaration : List Node) : List Node :=
  plain [""] ++ commentNodes [[.print "name", .text (" " ++ title)]] ++ declaration

def interfacesNodes : List Node :=
  titledNodes "type" (interfaceNodes ["export interface ", .print "name"]
    ([members "writable_fields" "name" ""] ++ plain (keptMembers.map Member.line)))
  ++ titledNodes "create input" (interfaceNodes ["export interface ", .print "name", "CreateInput"]
    [members "updatable_fields" "name" (markUnless (dot "field" "required"))])
  ++ titledNodes "update input" (interfaceNodes ["export interface ", .print "name", "UpdateInput"]
    [members "updatable_fields" "name" "?"])
  ++ titledNodes "list filters" (interfaceNodes ["export interface ", .print "name", "Filters"]
    ([enumMembers, filterMembers] ++ plain (pageMembers.map Member.line)))

/-- A method that sends a request and gives an answer of a type. -/
def answerNodes (remarks : List Node) (name : Node) (parameters answer request : List Node) :
    List Node :=
  plain [""]
    ++ methodNodes (some remarks) name parameters ([.text "Promise<"] ++ answer ++ [.text ">"])
      (bodyLine ([.text "return this.client.invoke<"] ++ answer
          ++ [.text ">", .text "(FUNCTION_NAME, \x7b"])
        ++ request ++ bodyLines ["\x7d)"])
      ""

/-- A property of a request. -/
def propertyLine (parts : List Node) : List Node := bodyLine ([.text "  "] ++ parts ++ [.text ","])

/-- A method that answers with several rows. -/
def queryNodes (remarks : List Node) (name action : Node) (filters : List Node) : List Node :=
  answerNodes remarks name ["filters: ", .print "name", "Filters = \x7b\x7d"] [.print "name", "[]"]
    (propertyLine ["action: '", action, "'"] ++ propertyLine filters)

/-- A method that sends the same properties each time. -/
def fixedNodes (remark name : String) (parameters : List Node) (properties : List String) :
    List Node :=
  answerNodes [.text remark] (.text name) parameters [.print "name"]
    (bodyLines (properties.map fun p => "  " ++ p ++ ","))

def callNodes : List Node :=
  byType
    (queryNodes [listRemark] "list" "list" ["filters", limited ": " ""])
    (fixedNodes "Get by ID" "getById" ["id: string"] ["action: 'get'", "id"])
    (fixedNodes "Create" "create" ["data: ", .print "name", "CreateInput"]
      ["action: 'create'", "data"])
    (fixedNodes "Update" "update" ["id: string, data: ", .print "name", "UpdateInput"]
      ["action: 'update'", "id", "data"])
    (plain [""]
      ++ methodNodes (some ["Delete"]) "delete" ["id: string"] ["Promise<void>"]
        (bodyLines ["await this.client.invoke<\x7b success: boolean \x7d>(FUNCTION_NAME, \x7b"]
          ++ bodyLines ["  action: 'delete',", "  id,"] ++ bodyLines ["\x7d)"])
        "")
    (queryNodes [customRemark] methodName (.print (dot "op" "name")) ["filters", limited ": " ""])

def helperNodes : List Node :=
  queryNodes ["List with ", .print (dot "field" "name"), " = '", .print "value", "'"]
    (.print (.filtered "value" "camel_case")) "list" [
      "filters: \x7b ...filters, ",
      .print (dot "field" "name"),
      ": ",
      .print (.filtered "value" "ts_string"),
      " \x7d"]

def classNodes : List Node :=
  line ["export class ", .print "name", "sClient \x7b"]
    ++ plain ["  constructor(private client: ApiClient) \x7b\x7d"]
    ++ [.each "op" "operations" callNodes,
      .each "field" "enum_fields" [.each "value" (.rest (dot "field" "enum_values")) helperNodes]]
    ++ plain ["\x7d"]

def nodes : List Node :=
  headerNodes ++ [.each "field" "enum_fields" enumNodes] ++ interfacesNodes
    ++ titledNodes "API Client" classNodes

end Scaffold.Artifact.Client
