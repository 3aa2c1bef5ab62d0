import Scaffold.Artifact.Fragments

/-!
# The endpoint

One function that switches on the action of a request. Each operation has a branch that calls a
method of the repository.
-/
namespace Scaffold.Artifact.Endpoint

open Script Template Text

/-- What a branch passes to the repository. -/
inductive Arguments
  | filters (keys : List String)
  | id
  | input
  | idAndInput
deriving DecidableEq, Repr

def Arguments.text : Arguments → String
  | .filters keys => s!"pick(body.filters, {keyList keys})"
  | .id => "String(body.id)"
  | .input => "input"
  | .idAndInput => "String(body.id), input"

/-- What a branch answers. -/
inductive Answer
  | rows
  | newRow
  | success
deriving DecidableEq, Repr

structure Branch where
  action : String
  /-- How the data of the request is read, where it is needed. -/
  input : Option String := none
  method : String
  arguments : Arguments
  answer : Answer := .rows
deriving DecidableEq, Repr

def Branch.call (b : Branch) : String := s!"await repo.{b.method}({b.arguments.text})"

def Branch.answerLines (b : Branch) : List String :=
  match b.answer with
  | .rows => [s!"        return json(\x7b data: {b.call} \x7d)"]
  | .newRow => [s!"        return json(\x7b data: {b.call} \x7d, 201)"]
  | .success => [s!"        {b.call}", "        return json(\x7b success: true \x7d)"]

def Branch.lines (b : Branch) : List String :=
  let opening := "      case " ++ quoted b.action ++ ":"
  match b.input with
  | some input =>
    [opening ++ " \x7b", s!"        const input = {input}"] ++ b.answerLines ++ ["      \x7d"]
  | none => opening :: b.answerLines

def branch (s : Schema) (op : Operation) : Branch :=
  match op.type with
  | .list => { action := "list", method := "list", arguments := .filters op.filters }
  | .get => { action := "get", method := "findById", arguments := .id }
  | .create => {
      action := "create"
      input := some (s.name ++
        "CreateSchema.parse(\x7b ...pick(body.data, WRITABLE_FIELDS), userId: auth.user.id \x7d)")
      method := "create"
      arguments := .input
      answer := .newRow }
  | .update => {
      action := "update"
      input := some (s.name ++ "UpdateSchema.parse(pick(body.data, WRITABLE_FIELDS))")
      method := "update"
      arguments := .idAndInput }
  | .delete => { action := "delete", method := "delete", arguments := .id, answer := .success }
  | .custom => {
      action := op.label
      method := camelCase op.label
      arguments := .filters op.filters }

def branches (s : Schema) : List Branch := s.operations.map (branch s)

/-- The members of the type of actions. -/
def actions (s : Schema) : List String :=
  s.operations.map fun op => if op.type = .custom then op.name.getD "" else op.type.name

def actionLine (s : Schema) : String := "type Action = " ++ keyUnion (actions s)

def repositoryImport (s : Schema) : String :=
  s!"../_shared/repositories/{s.name}Repository.ts"

def schemaImport : String := "./schema.ts"

def headerLines (s : Schema) : List String :=
  comment "" [
    s!"{s.table}-crud Edge Function",
    s!"CRUD endpoint for {s.name}",
    "",
    "Request body: \x7b action, id?, data?, filters? \x7d",
    generated]
  ++ [
    "",
    "import \x7b createClient \x7d from 'https://esm.sh/@supabase/supabase-js@2'",
    "import \x7b corsHeaders \x7d from '../_shared/cors.ts'",
    s!"import \x7b {s.name}Repository \x7d from '{repositoryImport s}'",
    s!"import \x7b {s.name}CreateSchema, {s.name}UpdateSchema \x7d from '{schemaImport}'"]

def requestLines (s : Schema) : List String := [
  "",
  actionLine s,
  "",
  "interface RequestBody \x7b",
  "  action: Action",
  "  id?: string",
  "  data?: Record<string, unknown>",
  "  filters?: Record<string, unknown>",
  "\x7d",
  "",
  "const WRITABLE_FIELDS = " ++ keyList (s.writableFields.map (·.name))]

def functionLines : List String := [
  "",
  "function json(body: unknown, status = 200): Response \x7b",
  "  return new Response(JSON.stringify(body), \x7b",
  "    status,",
  "    headers: \x7b ...corsHeaders, 'Content-Type': 'application/json' \x7d,",
  "  \x7d)",
  "\x7d",
  "",
  "function pick(source: Record<string, unknown> | undefined, keys: string[])"
    ++ ": Record<string, any> \x7b",
  "  const picked: Record<string, any> = \x7b\x7d",
  "  for (const key of keys) \x7b",
  "    if (source && source[key] !== undefined) picked[key] = source[key]",
  "  \x7d",
  "  if (source && typeof source.limit === 'number') picked.limit = source.limit",
  "  if (source && typeof source.offset === 'number') picked.offset = source.offset",
  "  return picked",
  "\x7d"]

/-- Requests without a user are turned away. -/
def guardLines : List String := [
  "",
  "Deno.serve(async (req: Request) => \x7b",
  "  if (req.method === 'OPTIONS') \x7b",
  "    return new Response('ok', \x7b headers: corsHeaders \x7d)",
  "  \x7d",
  "",
  "  const authHeader = req.headers.get('Authorization')",
  "  if (!authHeader) \x7b",
  "    return json(\x7b error: 'Missing Authorization header' \x7d, 401)",
  "  \x7d",
  "",
  "  const supabase = createClient(Deno.env.get('SUPABASE_URL')!, "
    ++ "Deno.env.get('SUPABASE_ANON_KEY')!, \x7b",
  "    global: \x7b headers: \x7b Authorization: authHeader \x7d \x7d,",
  "  \x7d)",
  "  const \x7b data: auth \x7d = await supabase.auth.getUser()",
  "  if (!auth.user) \x7b",
  "    return json(\x7b error: 'Unauthorized' \x7d, 401)",
  "  \x7d",
  ""]

def setupLines (s : Schema) : List String := [
  s!"  const repo = new {s.name}Repository(supabase)",
  "",
  "  try \x7b",
  "    const body = (await req.json()) as RequestBody"]

/-- What is answered where no branch is for the action, and where a branch fails. -/
def refusalLines : List String := [
  "        return json(\x7b error: `Unknown action: "
    ++ "$\x7b(body as \x7b action?: string \x7d).action\x7d` \x7d, 400)",
  "    \x7d",
  "  \x7d catch (error) \x7b",
  "    const message = error instanceof Error ? error.message : String(error)",
  "    return json(\x7b error: message \x7d, 400)",
  "  \x7d",
  "\x7d)"]

def serverLines (s : Schema) : List String :=
  guardLines ++ setupLines s ++ ["    switch (body.action) \x7b"]
    ++ (branches s).flatMap Branch.lines
    ++ ["      default:"] ++ refusalLines

/-- The lines of the file. -/
def lines (s : Schema) : List String :=
  headerLines s ++ requestLines s ++ functionLines ++ serverLines s

def text (s : Schema) : String := unlines (lines s)

def scope (s : Schema) : Variables :=
  Variables.ofNames s ++ [
    ("operations", Variables.operations s.operations),
    ("writable_fields", Variables.codeFields s.writableFields)]

/-! ## The template -/

def headerNodes : List Node :=
  commentNodes [
      [.print "table_name", "-crud Edge Function"],
      ["CRUD endpoint for ", .print "name"],
      [],
      ["Request body: \x7b action, id?, data?, filters? \x7d"],
      [.text generated]]
    ++ plain [
      "",
      "import \x7b createClient \x7d from 'https://esm.sh/@supabase/supabase-js@2'",
      "import \x7b corsHeaders \x7d from '../_shared/cors.ts'"]
    ++ line [
      "import \x7b ",
      .print "name",
      "Repository \x7d from '",
      "../_shared/repositories/",
      .print "name",
      "Repository.ts",
      "'"]
    ++ line [
      "import \x7b ",
      .print "name",
      "CreateSchema, ",
      .print "name",
      "UpdateSchema \x7d from '",
      .text schemaImport,
      "'"]

def actionName : Expr := .choice (ofType .custom) (dot "op" "name") (dot "op" "op_type")

def requestNodes : List Node :=
  plain [""]
    ++ line ([.text "type Action = "] ++ [pick (.negated "operations") "never" "",
      quotedNames "op" "operations" actionName " | "])
    ++ plain [
      "",
      "interface RequestBody \x7b",
      "  action: Action",
      "  id?: string",
      "  data?: Record<string, unknown>",
      "  filters?: Record<string, unknown>",
      "\x7d",
      ""]
    ++ line [
      "const WRITABLE_FIELDS = ",
      "[",
      quotedNames "field" "writable_fields" (dot "field" "name") ", ",
      "]"]

/-- What the branch of an operation that lists rows answers. -/
def rowsNodes (method : Node) : List Node :=
  line [
    "        return json(\x7b data: ",
    "await repo.",
    method,
    "(",
    "pick(body.filters, ",
    "[",
    filterNames ", ",
    "]",
    ")",
    ")",
    " \x7d)"]

/-- The line of a branch that reads the data of the request. -/
def inputNodes (parse : String) : List Node :=
  line ["        const input = ", .print "name", .text parse]

def branchNodes : List Node :=
  byType
    (plain ["      case 'list':"] ++ rowsNodes "list")
    (plain [
      "      case 'get':",
      "        return json(\x7b data: await repo.findById(String(body.id)) \x7d)"])
    (plain ["      case 'create': \x7b"]
      ++ inputNodes
        "CreateSchema.parse(\x7b ...pick(body.data, WRITABLE_FIELDS), userId: auth.user.id \x7d)"
      ++ plain ["        return json(\x7b data: await repo.create(input) \x7d, 201)", "      \x7d"])
    (plain ["      case 'update': \x7b"]
      ++ inputNodes "UpdateSchema.parse(pick(body.data, WRITABLE_FIELDS))"
      ++ plain [
        "        return json(\x7b data: await repo.update(String(body.id), input) \x7d)",
        "      \x7d"])
    (plain [
      "      case 'delete':",
      "        await repo.delete(String(body.id))",
      "        return json(\x7b success: true \x7d)"])
    (line ["      case '", .print (dot "op" "name"), "':"] ++ rowsNodes methodName)

def setupNodes : List Node :=
  line ["  const repo = new ", .print "name", "Repository(supabase)"]
    ++ plain ["", "  try \x7b", "    const body = (await req.json()) as RequestBody"]

def nodes : List Node :=
  headerNodes ++ requestNodes ++ plain (functionLines ++ guardLines) ++ setupNodes
    ++ plain ["    switch (body.action) \x7b"] ++ [.each "op" "operations" branchNodes]
    ++ plain ("      default:" :: refusalLines)

end Scaffold.Artifact.Endpoint
