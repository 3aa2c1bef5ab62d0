import Scaffold.Artifact.Fragments

/-!
# The service

The frontend's calls of the endpoint, one method for each operation.
-/
namespace Scaffold.Artifact.Service

open Script Template Text

/-- A method of the service and the request that it sends. -/
structure Call where
  name : String
  request : Request
  /-- The keys that its filters can have, where it filters. -/
  keys : List String := []
  remark : Option String := none
  parameters : String
  result : String
  body : String → List String

def filtersParameter (s : Schema) (keys : List String) : String :=
  s!"filters: Partial<Pick<{s.name}Data, {keyUnion keys}>> & PageOptions = \x7b\x7d"

/-- A call that answers with several rows. -/
def query (s : Schema) (name action remark : String) (op : Operation) : Call where
  name := name
  request := ⟨action, [op.filtersArgument]⟩
  keys := op.filters
  remark := some remark
  parameters := filtersParameter s op.filters
  result := s!"Promise<{s.name}[]>"
  body request := [s!"return toModels(await invoke<{s.name}DatabaseRecord[]>({request}))"]

def call (s : Schema) (op : Operation) : Call :=
  match op.type with
  | .list => query s "list" "list" (op.listRemark s.table) op
  | .get => {
      name := "getById"
      request := ⟨"get", ["id"]⟩
      parameters := "id: string"
      result := s!"Promise<{s.name} | null>"
      body := fun request => [
        s!"const record = await invoke<{s.name}DatabaseRecord | null>({request})",
        s!"return record ? {s.name}.fromDatabase(record) : null"] }
  | .create => {
      name := "create"
      request := ⟨"create", ["data"]⟩
      parameters := s!"data: {s.name}CreateInput"
      result := s!"Promise<{s.name}>"
      body := fun request => [
        s!"return {s.name}.fromDatabase(await invoke<{s.name}DatabaseRecord>({request}))"] }
  | .update => {
      name := "update"
      request := ⟨"update", ["id", "data"]⟩
      parameters := s!"id: string, data: {s.name}UpdateInput"
      result := s!"Promise<{s.name}>"
      body := fun request => [
        s!"return {s.name}.fromDatabase(await invoke<{s.name}DatabaseRecord>({request}))"] }
  | .delete => {
      name := "delete"
      request := ⟨"delete", ["id"]⟩
      parameters := "id: string"
      result := "Promise<void>"
      body := fun request => [s!"await invoke<\x7b success: boolean \x7d>({request})"] }
  | .custom => query s (camelCase op.label) op.label op.customRemark op

def calls (s : Schema) : List Call := s.operations.map (call s)

def Call.method (c : Call) : Method where
  remark := c.remark
  name := c.name
  parameters := c.parameters
  result := c.result
  body := c.body c.request.text

/-! ## The file -/

def modelImport (s : Schema) : String := s!"../models/{s.name}"

def headerLines (s : Schema) : List String :=
  comment "" [
    s!"{s.name} Service",
    s!"Calls the {s.table}-crud Edge Function",
    "",
    generated]
  ++ [
    "",
    "import \x7b supabase \x7d from '../lib/supabase'",
    s!"import \x7b {s.name} \x7d from '{modelImport s}'",
    "import type \x7b",
    s!"  {s.name}CreateInput,",
    s!"  {s.name}Data,",
    s!"  {s.name}DatabaseRecord,",
    s!"  {s.name}UpdateInput,"]
  ++ s.enumFields.map (fun f => s!"  {f.typeName s.name},")
  ++ [s!"\x7d from '{modelImport s}'"]

def functionLines (s : Schema) : List String := [
  "",
  s!"const FUNCTION_NAME = '{s.table}-crud'",
  "",
  "export interface PageOptions \x7b",
  "  limit?: number",
  "  offset?: number",
  "\x7d",
  "",
  "async function invoke<T>(body: Record<string, unknown>): Promise<T> \x7b",
  "  const \x7b data, error \x7d = await supabase.functions.invoke(FUNCTION_NAME, \x7b body \x7d)",
  s!"  if (error) throw new Error(`[{s.name}Service] $\x7bString(body.action)\x7d failed: "
    ++ "$\x7berror.message\x7d`)",
  s!"  if (data?.error) throw new Error(`[{s.name}Service] $\x7bString(body.action)\x7d failed: "
    ++ "$\x7bdata.error\x7d`)",
  "  return data.data as T",
  "\x7d",
  "",
  s!"function toModels(records: {s.name}DatabaseRecord[] | null): {s.name}[] \x7b",
  s!"  return (records ?? []).map((record) => {s.name}.fromDatabase(record))",
  "\x7d"]

def valuesLines (s : Schema) (f : Field) : List String :=
  [s!"  {f.name}Values: [{literalList f.values}] as {f.typeName s.name}[],", ""]

def objectLines (s : Schema) : List String :=
  ["", s!"export const {s.name}Service = \x7b"] ++ s.enumFields.flatMap (valuesLines s)
    ++ (calls s).flatMap (fun c => c.method.lines "," ++ [""]) ++ ["\x7d"]

/-- The lines of the file. -/
def lines (s : Schema) : List String :=
  headerLines s ++ functionLines s ++ objectLines s

def text (s : Schema) : String := unlines (lines s)

def scope (s : Schema) : Variables :=
  Variables.ofNames s ++ [
    ("operations", Variables.operations s.operations),
    ("writable_fields", Variables.codeFields s.writableFields),
    ("updatable_fields", Variables.codeFields s.updatableFields),
    ("enum_fields", Variables.enumFields s.enumFields)]

/-! ## The template -/

def importNodes : List Node :=
  plain ["", "import \x7b supabase \x7d from '../lib/supabase'"]
    ++ line ["import \x7b ", .print "name", " \x7d from '../models/", .print "name", "'"]
    ++ plain ["import type \x7b"]
    ++ line ["  ", .print "name", "CreateInput,"]
    ++ line ["  ", .print "name", "Data,"]
    ++ line ["  ", .print "name", "DatabaseRecord,"]
    ++ line ["  ", .print "name", "UpdateInput,"]
    ++ [.each "field" "enum_fields" (line ["  ", .print "name", enumName, ","])]
    ++ line ["\x7d from '../models/", .print "name", "'"]

def headerNodes : List Node :=
  commentNodes [
      [.print "name", " Service"],
      ["Calls the ", .print "table_name", "-crud Edge Function"],
      [],
      [.text generated]]
    ++ importNodes

/-- What is thrown under a condition. -/
def throwNodes (condition message : String) : List Node :=
  line [
    .text ("  if (" ++ condition ++ ") throw new Error(`["),
    .print "name",
    .text ("Service] $\x7bString(body.action)\x7d failed: $\x7b" ++ message ++ "\x7d`)")]

def functionNodes : List Node :=
  plain [""] ++ line ["const FUNCTION_NAME = '", .print "table_name", "-crud'"]
    ++ plain [
      "",
      "export interface PageOptions \x7b",
      "  limit?: number",
      "  offset?: number",
      "\x7d",
      "",
      "async function invoke<T>(body: Record<string, unknown>): Promise<T> \x7b",
      "  const \x7b data, error \x7d = await supabase.functions.invoke(FUNCTION_NAME, "
        ++ "\x7b body \x7d)"]
    ++ throwNodes "error" "error.message" ++ throwNodes "data?.error" "data.error"
    ++ plain ["  return data.data as T", "\x7d", ""]
    ++ line [
      "function toModels(records: ",
      .print "name",
      "DatabaseRecord[] | null): ",
      .print "name",
      "[] \x7b"]
    ++ line [
      "  return (records ?? []).map((record) => ",
      .print "name",
      ".fromDatabase(record))"]
    ++ plain ["\x7d"]

def valuesNodes : List Node :=
  line [
      "  ",
      .print (dot "field" "name"),
      "Values: [",
      enumValues ", ",
      "] as ",
      .print "name",
      enumName,
      "[],"]
    ++ plain [""]

/-- The filters of a request. -/
def filtersNodes : List Node := ["filters", limited ": " ""]

/-- A method that answers with several rows. -/
def queryNodes (remarks name action : Node) : List Node :=
  methodNodes (some [remarks]) name [
      "filters: Partial<Pick<",
      .print "name",
      "Data, ",
      pick (.negated (dot "op" "filters")) "never" "",
      filterNames " | ",
      ">> & PageOptions = \x7b\x7d"]
    ["Promise<", .print "name", "[]>"]
    (bodyLine ([.text "return toModels(await invoke<", .print "name",
        .text "DatabaseRecord[]>(\x7b action: '", action, .text "', "]
      ++ filtersNodes ++ [.text " \x7d))"]))
    "," ++ plain [""]

def getNodes : List Node :=
  methodNodes none "getById" ["id: string"] ["Promise<", .print "name", " | null>"]
    (bodyLine [
        "const record = await invoke<",
        .print "name",
        "DatabaseRecord | null>(\x7b action: 'get', id \x7d)"]
      ++ bodyLine ["return record ? ", .print "name", ".fromDatabase(record) : null"])
    "," ++ plain [""]

/-- A method that answers with one row. -/
def rowNodes (name : String) (parameters : List Node) (request : String) : List Node :=
  methodNodes none name parameters ["Promise<", .print "name", ">"]
    (bodyLine [
      "return ",
      .print "name",
      ".fromDatabase(await invoke<",
      .print "name",
      "DatabaseRecord>(",
      .text request,
      "))"])
    "," ++ plain [""]

def operationNodes : List Node :=
  byType
    (queryNodes listRemark "list" "list")
    getNodes
    (rowNodes "create" ["data: ", .print "name", "CreateInput"] "\x7b action: 'create', data \x7d")
    (rowNodes "update" ["id: string, data: ", .print "name", "UpdateInput"]
      "\x7b action: 'update', id, data \x7d")
    (methodNodes none "delete" ["id: string"] ["Promise<void>"]
      (bodyLines ["await invoke<\x7b success: boolean \x7d>(\x7b action: 'delete', id \x7d)"])
      "," ++ plain [""])
    (queryNodes customRemark methodName (.print (dot "op" "name")))

def nodes : List Node :=
  headerNodes ++ functionNodes ++ plain [""]
    ++ line ["export const ", .print "name", "Service = \x7b"]
    ++ [.each "field" "enum_fields" valuesNodes] ++ [.each "op" "operations" operationNodes]
    ++ plain ["\x7d"]

end Scaffold.Artifact.Service
