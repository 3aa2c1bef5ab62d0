import Scaffold.Artifact.Fragments

/-!
# The repository

The backend's access to the table: one method for each standard operation, whether it is declared
or not, and one for each custom operation.
-/
namespace Scaffold.Artifact.Repository

open Script Template Text

/-! ## Filters -/

/-- The filters of the first operation that lists rows. -/
def listFilters (s : Schema) : List String :=
  match s.operationsOf .list with
  | op :: _ => op.filters
  | [] => []

/-- The names that are not in `seen` yet, each once. -/
def unseen (seen : List String) : List String → List String
  | [] => []
  | name :: rest =>
    if seen.contains name then unseen seen rest else name :: unseen (name :: seen) rest

/-- The filters of the list come first, then those of the other operations. -/
def allFilters (s : Schema) : List String :=
  listFilters s ++ unseen (listFilters s) (Schema.filterNames s.operations)

def filters (s : Schema) : List Filter := s.declaredFilters (allFilters s)

/-! ## Types -/

def recordInterface (s : Schema) : Interface :=
  ⟨s!"export interface {s.name}Record", s.columns.map Field.columnMember⟩

def inputInterface (s : Schema) : Interface :=
  ⟨s!"export interface {s.name}Input", s.writableFields.map Field.optionalMember⟩

def filtersInterface (s : Schema) : Interface :=
  ⟨s!"export interface {s.name}Filters", (filters s).map Filter.member ++ pageMembers⟩

/-! ## Methods -/

def failure (s : Schema) (action : String) : String :=
  s!"if (error) throw new Error(`[{s.name}Repository] {action} failed: $\x7berror.message\x7d`)"

/-- A query with filters, and the keys by which it may filter. -/
structure Query where
  name : String
  remark : String
  label : String
  keys : List String
  filters : String
  order : String
deriving DecidableEq, Repr

def Query.method (s : Schema) (q : Query) : Method where
  remark := some q.remark
  name := q.name
  parameters := s!"filters: {s.name}Filters = \x7b\x7d"
  result := s!"Promise<{s.name}Record[]>"
  body := [
    "let query = this.supabase.from(this.table).select('*')" ++ q.order,
    "query = this.applyFilters(query, " ++ q.filters ++ ", " ++ keyList q.keys ++ ")",
    "const \x7b data, error \x7d = await query",
    failure s q.label,
    "return data ?? []"]

def listQuery (s : Schema) : Query where
  name := "list"
  remark :=
    let names := ", ".intercalate (listFilters s)
    s!"List {s.table} (filters: " ++ (if names = "" then "none" else names) ++ ")"
  label := "list"
  keys := listFilters s
  filters := "filters"
  order := ".order('created_at', \x7b ascending: false \x7d)"

def customQuery (op : Operation) : Query where
  name := camelCase op.label
  remark := op.customRemark
  label := op.label
  keys := op.filters
  filters := op.limited?.getD "filters"
  order := ""

def findMethod (s : Schema) : Method where
  name := "findById"
  parameters := "id: string"
  result := s!"Promise<{s.name}Record | null>"
  body := [
    "const \x7b data, error \x7d = await this.supabase.from(this.table).select('*')"
      ++ ".eq('id', id).maybeSingle()",
    failure s "findById",
    "return data"]

def createMethod (s : Schema) : Method where
  name := "create"
  parameters := s!"input: {s.name}Input"
  result := s!"Promise<{s.name}Record>"
  body := [
    "const \x7b data, error \x7d = await this.supabase.from(this.table)"
      ++ ".insert(toRecord(input)).select().single()",
    failure s "create",
    "return data"]

def updateMethod (s : Schema) : Method where
  name := "update"
  parameters := s!"id: string, input: {s.name}Input"
  result := s!"Promise<{s.name}Record>"
  body := [
    "const \x7b data, error \x7d = await this.supabase",
    "  .from(this.table)",
    "  .update(toRecord(input))",
    "  .eq('id', id)",
    "  .select()",
    "  .single()",
    failure s "update",
    "return data"]

def deleteMethod (s : Schema) : Method where
  name := "delete"
  parameters := "id: string"
  result := "Promise<void>"
  body := [
    "const \x7b error \x7d = await this.supabase.from(this.table).delete().eq('id', id)",
    failure s "delete"]

def queries (s : Schema) : List Query := (s.operationsOf .custom).map customQuery

/-- The public methods, in order. -/
def methods (s : Schema) : List Method :=
  [(listQuery s).method s, findMethod s, createMethod s, updateMethod s, deleteMethod s]
    ++ (queries s).map (Query.method s)

/-- The private method that turns filters into conditions. -/
def applyFiltersName : String := "applyFilters"

def applyFiltersLines (s : Schema) : List String := [
  "",
  s!"  private {applyFiltersName}(query: any, filters: {s.name}Filters, keys: string[]): any \x7b",
  "    for (const key of keys) \x7b",
  "      const value = (filters as Record<string, unknown>)[key]",
  "      if (value !== undefined && value !== null) \x7b",
  "        query = query.eq(COLUMNS[key] ?? key, value)",
  "      \x7d",
  "    \x7d",
  "    if (filters.limit !== undefined) query = query.limit(filters.limit)",
  "    if (filters.offset !== undefined) \x7b",
  "      query = query.range(filters.offset, filters.offset + (filters.limit ?? 50) - 1)",
  "    \x7d",
  "    return query",
  "  \x7d"]

def classLines (s : Schema) : List String :=
  ["", s!"export class {s.name}Repository extends BaseRepository \x7b",
    s!"  private readonly table = '{s.table}'"]
    ++ applyFiltersLines s ++ (methods s).flatMap (fun m => "" :: m.lines "") ++ ["\x7d"]

/-! ## The file -/

def headerLines (s : Schema) : List String :=
  comment "" [
    s!"{s.name} Repository (Edge Functions)",
    s!"Data access layer for public.{s.table}",
    "",
    generated]
  ++ ["", "import \x7b BaseRepository \x7d from '../repository.ts'"]

def columnLine (f : Field) : String := s!"  {f.name}: '{f.column}',"

def assignmentLine (f : Field) : String :=
  s!"  if (data.{f.name} !== undefined) record.{f.column} = data.{f.name}"

def columnsLines (s : Schema) : List String :=
  ["", "const COLUMNS: Record<string, string> = \x7b"] ++ s.columns.map columnLine ++ ["\x7d"]

def toRecordLines (s : Schema) : List String :=
  ["", s!"function toRecord(data: {s.name}Input): Record<string, unknown> \x7b",
    "  const record: Record<string, unknown> = \x7b\x7d"]
    ++ s.writableFields.map assignmentLine ++ ["  return record", "\x7d"]

/-- The lines of the file. -/
def lines (s : Schema) : List String :=
  headerLines s ++ [""] ++ (recordInterface s).lines ++ [""] ++ (inputInterface s).lines
    ++ [""] ++ (filtersInterface s).lines ++ columnsLines s ++ toRecordLines s ++ classLines s

def text (s : Schema) : String := unlines (lines s)

def scope (s : Schema) : Variables :=
  Variables.ofNames s ++ [
    ("fields", Variables.codeFields s.columns),
    ("writable_fields", Variables.codeFields s.writableFields),
    ("updatable_fields", Variables.codeFields s.updatableFields),
    ("list_filters", Document.ofTexts (listFilters s)),
    ("all_filters", Document.ofTexts (allFilters s)),
    ("declared_filters", Variables.filters (filters s)),
    ("custom_operations", .list ((s.operationsOf .custom).map Operation.customView))]

/-! ## The template -/

def headerNodes : List Node :=
  commentNodes [
      [.print "name", " Repository (Edge Functions)"],
      ["Data access layer for public.", .print "table_name"],
      [],
      [.text generated]]
    ++ plain ["", "import \x7b BaseRepository \x7d from '../repository.ts'"]

def interfacesNodes : List Node :=
  plain [""]
    ++ interfaceNodes ["export interface ", .print "name", "Record"] [members "fields" "db_name" ""]
    ++ plain [""]
    ++ interfaceNodes ["export interface ", .print "name", "Input"]
      [members "writable_fields" "name" "?"]
    ++ plain [""]
    ++ interfaceNodes ["export interface ", .print "name", "Filters"]
      ([filterMembers] ++ plain (pageMembers.map Member.line))

def columnsNodes : List Node :=
  plain ["", "const COLUMNS: Record<string, string> = \x7b"]
    ++ [.each "field" "fields"
      (line ["  ", .print (dot "field" "name"), ": '", .print (dot "field" "db_name"), "',"])]
    ++ plain ["\x7d"]

def toRecordNodes : List Node :=
  plain [""]
    ++ line ["function toRecord(data: ", .print "name", "Input): Record<string, unknown> \x7b"]
    ++ plain ["  const record: Record<string, unknown> = \x7b\x7d"]
    ++ [.each "field" "writable_fields" (line [
      "  if (data.",
      .print (dot "field" "name"),
      " !== undefined) record.",
      .print (dot "field" "db_name"),
      " = data.",
      .print (dot "field" "name")])]
    ++ plain ["  return record", "\x7d"]

def applyFiltersNodes : List Node :=
  plain [""]
    ++ line [
      "  private ",
      .text applyFiltersName,
      "(query: any, filters: ",
      .print "name",
      "Filters, keys: string[]): any \x7b"]
    ++ plain [
      "    for (const key of keys) \x7b",
      "      const value = (filters as Record<string, unknown>)[key]",
      "      if (value !== undefined && value !== null) \x7b",
      "        query = query.eq(COLUMNS[key] ?? key, value)",
      "      \x7d",
      "    \x7d",
      "    if (filters.limit !== undefined) query = query.limit(filters.limit)",
      "    if (filters.offset !== undefined) \x7b",
      "      query = query.range(filters.offset, filters.offset + (filters.limit ?? 50) - 1)",
      "    \x7d",
      "    return query",
      "  \x7d"]

def failureNodes (action : Node) : List Node :=
  bodyLine [
    "if (error) throw new Error(`[",
    .print "name",
    "Repository] ",
    action,
    " failed: $\x7berror.message\x7d`)"]

/-- A method that sets up a query. -/
def queryNodes (remarks : List Node) (name : Node) (order : String) (filters keys action : Node) :
    List Node :=
  plain [""]
    ++ methodNodes (some remarks) name ["filters: ", .print "name", "Filters = \x7b\x7d"]
      ["Promise<", .print "name", "Record[]>"]
      (bodyLine ["let query = this.supabase.from(this.table).select('*')", .text order]
        ++ bodyLine ["query = this.applyFilters(query, ", filters, ", [", keys, "])"]
        ++ bodyLines ["const \x7b data, error \x7d = await query"] ++ failureNodes action
        ++ bodyLines ["return data ?? []"])
      ""

def listNodes : List Node :=
  queryNodes [
      "List ",
      .print "table_name",
      " (filters: ",
      .print (.either (.joined "list_filters" ", ") (.literal "none")),
      ")"]
    "list" ".order('created_at', \x7b ascending: false \x7d)" "filters"
    (quotedNames "key" "list_filters" "key" ", ") "list"

def findNodes : List Node :=
  plain [""]
    ++ methodNodes none "findById" ["id: string"] ["Promise<", .print "name", "Record | null>"]
      (bodyLines [
          "const \x7b data, error \x7d = await this.supabase.from(this.table).select('*')"
            ++ ".eq('id', id).maybeSingle()"]
        ++ failureNodes "findById" ++ bodyLines ["return data"])
      ""

def createNodes : List Node :=
  plain [""]
    ++ methodNodes none "create" ["input: ", .print "name", "Input"]
      ["Promise<", .print "name", "Record>"]
      (bodyLines [
          "const \x7b data, error \x7d = await this.supabase.from(this.table)"
            ++ ".insert(toRecord(input)).select().single()"]
        ++ failureNodes "create" ++ bodyLines ["return data"])
      ""

def updateNodes : List Node :=
  plain [""]
    ++ methodNodes none "update" ["id: string, input: ", .print "name", "Input"]
      ["Promise<", .print "name", "Record>"]
      (bodyLines [
          "const \x7b data, error \x7d = await this.supabase",
          "  .from(this.table)",
          "  .update(toRecord(input))",
          "  .eq('id', id)",
          "  .select()",
          "  .single()"]
        ++ failureNodes "update" ++ bodyLines ["return data"])
      ""

def deleteNodes : List Node :=
  plain [""]
    ++ methodNodes none "delete" ["id: string"] ["Promise<void>"]
      (bodyLines [
          "const \x7b error \x7d = await this.supabase.from(this.table).delete().eq('id', id)"]
        ++ failureNodes "delete")
      ""

def customNodes : List Node :=
  queryNodes [customRemark] methodName "" (limited "" "filters")
    (quotedNames "key" (dot "op" "filters") "key" ", ") (.print (dot "op" "name"))

def classNodes : List Node :=
  plain [""]
    ++ line ["export class ", .print "name", "Repository extends BaseRepository \x7b"]
    ++ line ["  private readonly table = '", .print "table_name", "'"]
    ++ applyFiltersNodes ++ listNodes ++ findNodes ++ createNodes ++ updateNodes ++ deleteNodes
    ++ [.each "op" "custom_operations" customNodes] ++ plain ["\x7d"]

def nodes : List Node :=
  headerNodes ++ interfacesNodes ++ columnsNodes ++ toRecordNodes ++ classNodes

end Scaffold.Artifact.Repository
