import Scaffold.Artifact.Fragments

/-!
# The hook

Queries and mutations around the service. Every enumeration is a filter with a type of its own, so
its name is taken out of the filters of the operations.
-/
namespace Scaffold.Artifact.Hook

open Script Template Text

def operations (s : Schema) : List Operation := s.operationsWithout .enums

def filters (s : Schema) : List Filter := s.declaredFilters (Schema.filterNames (operations s))

def filtersInterface (s : Schema) : Interface :=
  ⟨s!"export interface Use{s.name}sFilters",
    s.enumFields.map (Field.filterMember s.name) ++ (filters s).map Filter.member ++ pageMembers⟩

/-- The constant that is set up for an operation, the method of the service that it calls, and what
the hook returns for it. -/
structure Binding where
  constant : String
  serviceMethod : String
  lines : List String
  /-- A key of the returned object, and its value where it is not the constant of that name. -/
  entries : List (String × Option String)
deriving DecidableEq, Repr

/-- A query that runs by itself. -/
def query (s : Schema) (constant key serviceMethod : String) : List String := [
  s!"  const {constant} = useQuery(\x7b",
  "    queryKey: [QUERY_KEY, " ++ quoted key ++ ", filters],",
  s!"    queryFn: () => {s.name}Service.{serviceMethod}(filters),",
  "  \x7d)"]

/-- A change, after which all queries are out of date. -/
def mutation (s : Schema) (constant parameters serviceMethod arguments : String) : List String := [
  s!"  const {constant} = useMutation(\x7b",
  s!"    mutationFn: ({parameters}) => {s.name}Service.{serviceMethod}({arguments}),",
  "    onSuccess: invalidate,",
  "  \x7d)"]

def binding (s : Schema) (op : Operation) : Binding :=
  match op.type with
  | .list => {
      constant := "listQuery"
      serviceMethod := "list"
      lines := query s "listQuery" "list" "list"
      entries := [
        ("items", some "listQuery.data ?? []"),
        ("isLoading", some "listQuery.isLoading"),
        ("error", some "listQuery.error"),
        ("refetch", some "listQuery.refetch")] }
  | .get => {
      constant := "getById"
      serviceMethod := "getById"
      lines := [
        "  const getById = (id: string) =>",
        "    queryClient.fetchQuery(\x7b",
        "      queryKey: [QUERY_KEY, 'get', id],",
        s!"      queryFn: () => {s.name}Service.getById(id),",
        "    \x7d)"]
      entries := [("getById", none)] }
  | .create => {
      constant := "createMutation"
      serviceMethod := "create"
      lines := mutation s "createMutation" s!"data: {s.name}CreateInput" "create" "data"
      entries := [
        ("create", some "createMutation.mutateAsync"),
        ("isCreating", some "createMutation.isPending")] }
  | .update => {
      constant := "updateMutation"
      serviceMethod := "update"
      lines := mutation s "updateMutation"
        s!"\x7b id, data \x7d: \x7b id: string; data: {s.name}UpdateInput \x7d" "update" "id, data"
      entries := [
        ("update", some "updateMutation.mutateAsync"),
        ("isUpdating", some "updateMutation.isPending")] }
  | .delete => {
      constant := "deleteMutation"
      serviceMethod := "delete"
      lines := mutation s "deleteMutation" "id: string" "delete" "id"
      entries := [
        ("remove", some "deleteMutation.mutateAsync"),
        ("isDeleting", some "deleteMutation.isPending")] }
  | .custom =>
    let method := camelCase op.label
    { constant := method ++ "Query"
      serviceMethod := method
      lines := query s (method ++ "Query") op.label method
      entries := [(method, some (method ++ "Query.data ?? []"))] }

def bindings (s : Schema) : List Binding := (operations s).map (binding s)

/-- The keys of the object that the hook returns. -/
def returned (s : Schema) : List String := (bindings s).flatMap fun b => b.entries.map (·.1)

def entryLine (entry : String × Option String) : String :=
  match entry with
  | (key, some value) => "    " ++ key ++ ": " ++ value ++ ","
  | (key, none) => "    " ++ key ++ ","

/-! ## The file -/

def serviceImport (s : Schema) : String := s!"../services/{s.name}Service"

def modelImport (s : Schema) : String := s!"../models/{s.name}"

def headerLines (s : Schema) : List String :=
  comment "" [
    s!"use{s.name}s Hook",
    s!"React Query hook for {s.table}",
    "",
    "- useQuery for fetching",
    "- useMutation for create/update/delete",
    "- Automatic cache invalidation",
    "",
    generated]
  ++ [
    "",
    "import \x7b useMutation, useQuery, useQueryClient \x7d from '@tanstack/react-query'",
    s!"import \x7b {s.name}Service \x7d from '{serviceImport s}'",
    "import type \x7b",
    s!"  {s.name}CreateInput,",
    s!"  {s.name}UpdateInput,"]
  ++ s.enumFields.map (fun f => s!"  {f.typeName s.name},")
  ++ [s!"\x7d from '{modelImport s}'", "", s!"const QUERY_KEY = '{s.table}'"]

def functionLines (s : Schema) : List String :=
  [
    "",
    s!"export function use{s.name}s(filters: Use{s.name}sFilters = \x7b\x7d) \x7b",
    "  const queryClient = useQueryClient()",
    "  const invalidate = () => queryClient.invalidateQueries(\x7b queryKey: [QUERY_KEY] \x7d)"]
  ++ (bindings s).flatMap (fun b => "" :: b.lines)
  ++ ["", "  return \x7b"]
  ++ (bindings s).flatMap (fun b => b.entries.map entryLine)
  ++ ["  \x7d", "\x7d"]

/-- The lines of the file. -/
def lines (s : Schema) : List String :=
  headerLines s ++ [""] ++ (filtersInterface s).lines ++ functionLines s

def text (s : Schema) : String := unlines (lines s)

def scope (s : Schema) : Variables :=
  Variables.ofNames s ++ [
    ("operations", Variables.operations (operations s)),
    ("writable_fields", Variables.codeFields s.writableFields),
    ("updatable_fields", Variables.codeFields s.updatableFields),
    ("enum_fields", Variables.enumFields s.enumFields),
    ("declared_filters", Variables.filters (filters s))]

/-! ## The template -/

def importNodes : List Node :=
  plain [
    "",
    "import \x7b useMutation, useQuery, useQueryClient \x7d from '@tanstack/react-query'"]
    ++ line [
      "import \x7b ",
      .print "name",
      "Service \x7d from '../services/",
      .print "name",
      "Service'"]
    ++ plain ["import type \x7b"]
    ++ line ["  ", .print "name", "CreateInput,"]
    ++ line ["  ", .print "name", "UpdateInput,"]
    ++ [.each "field" "enum_fields" (line ["  ", .print "name", enumName, ","])]
    ++ line ["\x7d from '../models/", .print "name", "'"]
    ++ plain [""] ++ line ["const QUERY_KEY = '", .print "table_name", "'"]

def headerNodes : List Node :=
  commentNodes [
      ["use", .print "name", "s Hook"],
      ["React Query hook for ", .print "table_name"],
      [],
      ["- useQuery for fetching"],
      ["- useMutation for create/update/delete"],
      ["- Automatic cache invalidation"],
      [],
      [.text generated]]
    ++ importNodes

def filtersNodes : List Node :=
  interfaceNodes ["export interface Use", .print "name", "sFilters"]
    ([enumMembers, filterMembers] ++ plain (pageMembers.map Member.line))

/-- A query that runs by itself. -/
def queryNodes (constant : List Node) (key method : Node) : List Node :=
  plain [""] ++ line ([.text "  const "] ++ constant ++ [.text " = useQuery(\x7b"])
    ++ line ["    queryKey: [QUERY_KEY, '", key, "', filters],"]
    ++ line ["    queryFn: () => ", .print "name", "Service.", method, "(filters),"]
    ++ plain ["  \x7d)"]

def getNodes : List Node :=
  plain [
    "",
    "  const getById = (id: string) =>",
    "    queryClient.fetchQuery(\x7b",
    "      queryKey: [QUERY_KEY, 'get', id],"]
    ++ line ["      queryFn: () => ", .print "name", "Service.getById(id),"] ++ plain ["    \x7d)"]

/-- A change, after which all queries are out of date. -/
def mutationNodes (constant : String) (parameters : List Node) (call : String) : List Node :=
  plain ["", "  const " ++ constant ++ " = useMutation(\x7b"]
    ++ line ([.text "    mutationFn: ("] ++ parameters
      ++ [.text ") => ", .print "name", .text ("Service." ++ call ++ ",")])
    ++ plain ["    onSuccess: invalidate,", "  \x7d)"]

def bindingNodes : List Node :=
  byType
    (queryNodes ["listQuery"] "list" "list")
    getNodes
    (mutationNodes "createMutation" ["data: ", .print "name", "CreateInput"] "create(data)")
    (mutationNodes "updateMutation"
      ["\x7b id, data \x7d: \x7b id: string; data: ", .print "name", "UpdateInput \x7d"]
      "update(id, data)")
    (mutationNodes "deleteMutation" ["id: string"] "delete(id)")
    (queryNodes [methodName, "Query"] (.print (dot "op" "name")) methodName)

def entryNodes : List Node :=
  byType
    (plain [
      "    items: listQuery.data ?? [],",
      "    isLoading: listQuery.isLoading,",
      "    error: listQuery.error,",
      "    refetch: listQuery.refetch,"])
    (plain ["    getById,"])
    (plain [
      "    create: createMutation.mutateAsync,",
      "    isCreating: createMutation.isPending,"])
    (plain [
      "    update: updateMutation.mutateAsync,",
      "    isUpdating: updateMutation.isPending,"])
    (plain [
      "    remove: deleteMutation.mutateAsync,",
      "    isDeleting: deleteMutation.isPending,"])
    (line ["    ", methodName, ": ", methodName, "Query.data ?? [],"])

def functionNodes : List Node :=
  plain [""]
    ++ line [
      "export function use",
      .print "name",
      "s(filters: Use",
      .print "name",
      "sFilters = \x7b\x7d) \x7b"]
    ++ plain [
      "  const queryClient = useQueryClient()",
      "  const invalidate = () => queryClient.invalidateQueries(\x7b queryKey: [QUERY_KEY] \x7d)"]
    ++ [.each "op" "operations" bindingNodes] ++ plain ["", "  return \x7b"]
    ++ [.each "op" "operations" entryNodes] ++ plain ["  \x7d", "\x7d"]

def nodes : List Node := headerNodes ++ plain [""] ++ filtersNodes ++ functionNodes

end Scaffold.Artifact.Hook
