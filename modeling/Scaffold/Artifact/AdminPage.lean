import Scaffold.Artifact.Display
import Scaffold.Artifact.Fragments

/-!
# The admin page

A form for one row, a table of all rows, and the examples of the documentation.
-/
namespace Scaffold.Artifact.AdminPage

open Script Template Text

def displayFields (s : Schema) : List Field := s.displayFields 4

/-! ## Constants and types -/

/-- The constant with the values to choose from. -/
def optionsConstant (f : Field) : String := upper (snakeCase f.name) ++ "_OPTIONS"

def optionsLines (f : Field) : List String :=
  ["", s!"const {optionsConstant f} = [{literalList f.values}]"]

def exampleLine (e : Example) : String :=
  "  \x7b title: " ++ Literal.json e.title ++ ", code: " ++ Literal.json e.code ++ " \x7d,"

def examplesLines (s : Schema) : List String :=
  ["", "const EXAMPLES: \x7b title: string; code: string \x7d[] = ["]
    ++ s.examples.map exampleLine ++ ["]"]

def rowInterface (s : Schema) : Interface :=
  ⟨s!"interface {s.name}Row",
    [{ name := "id", type := "string" }] ++ s.writableFields.map Field.columnMember
      ++ [{ name := "created_at", type := "string" }, { name := "updated_at", type := "string" }]⟩

def formLines (s : Schema) : List String :=
  ["", "type FormValues = Record<string, unknown>", "", "const EMPTY_FORM: FormValues = \x7b"]
    ++ s.updatableFields.map (fun f => s!"  {f.name}: {f.scriptDefault},") ++ ["\x7d"]

/-! ## Requests -/

def listRequest : Request := ⟨"list", ["filters: \x7b\x7d"]⟩

def updateRequest : Request := ⟨"update", ["id: editingId", "data: form"]⟩

def createRequest : Request := ⟨"create", ["data: form"]⟩

def deleteRequest : Request := ⟨"delete", ["id"]⟩

/-- All that the page sends. -/
def requests : List Request := [listRequest, updateRequest, createRequest, deleteRequest]

def callLines : List String := [
  "",
  "async function call<T>(body: Record<string, unknown>): Promise<T> \x7b",
  "  const \x7b data, error \x7d = await supabase.functions.invoke(FUNCTION_NAME, \x7b body \x7d)",
  "  if (error) throw new Error(error.message)",
  "  if (data?.error) throw new Error(data.error)",
  "  return data.data as T",
  "\x7d"]

def failureLine : String := "      setError(e instanceof Error ? e.message : String(e))"

def loadLines (s : Schema) : List String := [
  s!"  const [rows, setRows] = useState<{s.name}Row[]>([])",
  "  const [form, setForm] = useState<FormValues>(EMPTY_FORM)",
  "  const [editingId, setEditingId] = useState<string | null>(null)",
  "  const [error, setError] = useState<string | null>(null)",
  "  const [loading, setLoading] = useState(false)",
  "",
  "  const load = useCallback(async () => \x7b",
  "    setLoading(true)",
  "    try \x7b",
  s!"      setRows(await call<{s.name}Row[]>({listRequest.text}))",
  "      setError(null)",
  "    \x7d catch (e) \x7b",
  failureLine,
  "    \x7d finally \x7b",
  "      setLoading(false)",
  "    \x7d",
  "  \x7d, [])",
  "",
  "  useEffect(() => \x7b",
  "    load()",
  "  \x7d, [load])"]

def changeLines (s : Schema) : List String :=
  [
    "",
    "  const update = (key: string, value: unknown) => "
      ++ "setForm((prev) => (\x7b ...prev, [key]: value \x7d))",
    "",
    "  const submit = async () => \x7b",
    "    try \x7b",
    "      if (editingId) \x7b",
    s!"        await call({updateRequest.text})",
    "      \x7d else \x7b",
    s!"        await call({createRequest.text})",
    "      \x7d",
    "      setForm(EMPTY_FORM)",
    "      setEditingId(null)",
    "      await load()",
    "    \x7d catch (e) \x7b",
    failureLine,
    "    \x7d",
    "  \x7d",
    "",
    s!"  const edit = (row: {s.name}Row) => \x7b",
    "    setEditingId(row.id)",
    "    setForm(\x7b"]
  ++ s.updatableFields.map (fun f => s!"      {f.name}: row.{f.column},")
  ++ [
    "    \x7d)",
    "  \x7d",
    "",
    "  const remove = async (id: string) => \x7b",
    "    try \x7b",
    s!"      await call({deleteRequest.text})",
    "      await load()",
    "    \x7d catch (e) \x7b",
    failureLine,
    "    \x7d",
    "  \x7d"]

/-! ## The form -/

/-- What a field is edited with. -/
inductive Widget
  | choice
  | checkbox
  | number
  | box
  | line
deriving DecidableEq, Repr

/-- A field with declared values is a choice, whatever its type. -/
def widget (f : Field) : Widget :=
  if !f.values.isEmpty then .choice
  else if f.type = .boolean then .checkbox
  else if f.type = .number ∨ f.type = .integer then .number
  else if f.name = Field.contentName then .box
  else .line

def valueLine (f : Field) : String := s!"            value=\x7bString(form.{f.name} ?? '')\x7d"

def onChange (f : Field) (value : String) : String :=
  s!"            onChange=\x7b(e) => update('{f.name}', {value})\x7d"

def inputStyle : String := "            className=\"mt-1 block w-full rounded border p-2\""

def widgetLines (f : Field) : List String :=
  match widget f with
  | .choice => [
      "          <select",
      inputStyle,
      valueLine f,
      onChange f "e.target.value",
      "          >",
      s!"            \x7b{optionsConstant f}.map((option) => (",
      "              <option key=\x7boption\x7d value=\x7boption\x7d>",
      "                \x7boption\x7d",
      "              </option>",
      "            ))\x7d",
      "          </select>"]
  | .checkbox => [
      "          <input",
      "            type=\"checkbox\"",
      "            className=\"ml-2\"",
      s!"            checked=\x7bBoolean(form.{f.name})\x7d",
      onChange f "e.target.checked",
      "          />"]
  | .number => [
      "          <input",
      "            type=\"number\"",
      inputStyle,
      valueLine f,
      onChange f "e.target.value === '' ? null : Number(e.target.value)",
      "          />"]
  | .box => [
      "          <textarea",
      "            rows=\x7b12\x7d",
      "            className=\"mt-1 block w-full rounded border p-2 font-mono\"",
      valueLine f,
      onChange f "e.target.value",
      "          />"]
  | .line => [
      "          <input",
      inputStyle,
      valueLine f,
      onChange f "e.target.value",
      "          />"]

def inputLines (f : Field) : List String :=
  let mark := onlyIf f.required " *"
  ["        <label className=\"block\">",
    s!"          <span className=\"text-sm\">{f.name}{mark}</span>"]
    ++ widgetLines f ++ ["        </label>"]

/-- The constants that the page declares. -/
def declaredConstants (s : Schema) : List String := s.enumFields.map optionsConstant

/-- The constants that its form refers to. -/
def usedConstants (s : Schema) : List String :=
  (s.updatableFields.filter fun f => widget f = .choice).map optionsConstant

/-! ## The table -/

def cellLine (f : Field) : String :=
  let cut := onlyIf (f.name = Field.contentName) ".slice(0, 80)"
  s!"              <td className=\"p-2\">\x7bString(row.{f.column} ?? ''){cut}\x7d</td>"

/-- What the form begins with: its heading. -/
def formOpening (s : Schema) : List String := [
  "      <section className=\"space-y-3 rounded border p-4\">",
  "        <h2 className=\"font-semibold\">"
    ++ s!"\x7beditingId ? 'Edit {s.name}' : 'New {s.name}'\x7d</h2>"]

/-- What the form ends with: the button that sends it. -/
def formClosing : List String := [
  "        <button className=\"rounded bg-blue-600 px-4 py-2 text-white\" onClick=\x7bsubmit\x7d>",
  "          \x7beditingId ? 'Save' : 'Create'\x7d",
  "        </button>",
  "      </section>"]

def headingLines (s : Schema) : List String :=
  let width := if s.hasContent then "max-w-5xl" else "max-w-4xl"
  [
    "",
    "  return (",
    s!"    <div className=\"{width} mx-auto space-y-6 p-6\">",
    s!"      <h1 className=\"text-2xl font-bold\">{s.name} Admin</h1>",
    "      \x7berror && <p className=\"text-red-600\">\x7berror\x7d</p>\x7d",
    ""]

def tableLines (s : Schema) : List String :=
  [
    "",
    "      <table className=\"w-full text-left text-sm\">",
    "        <thead>",
    "          <tr>"]
  ++ (displayFields s).map (fun f => s!"            <th className=\"p-2\">{f.name}</th>")
  ++ [
    "            <th className=\"p-2\">Actions</th>",
    "          </tr>",
    "        </thead>",
    "        <tbody>",
    "          \x7bloading && (",
    "            <tr>",
    "              <td className=\"p-2\">Loading...</td>",
    "            </tr>",
    "          )\x7d",
    "          \x7brows.map((row) => (",
    "            <tr key=\x7brow.id\x7d className=\"border-t\">"]
  ++ (displayFields s).map cellLine
  ++ [
    "              <td className=\"space-x-2 p-2\">",
    "                <button onClick=\x7b() => edit(row)\x7d>Edit</button>",
    "                <button className=\"text-red-600\" onClick=\x7b() => remove(row.id)\x7d>",
    "                  Delete",
    "                </button>",
    "              </td>",
    "            </tr>",
    "          ))\x7d",
    "        </tbody>",
    "      </table>"]

def excerptLines : List String := [
  "",
  "      \x7bEXAMPLES.length > 0 && (",
  "        <section className=\"space-y-2\">",
  "          <h2 className=\"font-semibold\">Examples</h2>",
  "          \x7bEXAMPLES.map((example) => (",
  "            <details key=\x7bexample.title\x7d>",
  "              <summary>\x7bexample.title\x7d</summary>",
  "              <pre className=\"overflow-x-auto rounded bg-gray-100 p-3 text-xs\">"
    ++ "\x7bexample.code\x7d</pre>",
  "            </details>",
  "          ))\x7d",
  "        </section>",
  "      )\x7d",
  "    </div>",
  "  )",
  "\x7d"]

/-- What the page returns: the form, the table and the examples. -/
def pageLines (s : Schema) : List String :=
  headingLines s ++ formOpening s ++ s.updatableFields.flatMap inputLines ++ formClosing
    ++ tableLines s ++ excerptLines

/-! ## The file -/

def nameLines (s : Schema) : List String := ["", s!"const FUNCTION_NAME = '{s.table}-crud'"]

def headerLines (s : Schema) : List String :=
  comment "" [
    s!"{s.name} Admin Page",
    s!"CRUD management UI for public.{s.table}",
    "",
    generated]
  ++ [
    "",
    "import \x7b useCallback, useEffect, useState \x7d from 'react'",
    "import \x7b supabase \x7d from '../../lib/supabase'"]
  ++ nameLines s

/-- The lines of the file. -/
def lines (s : Schema) : List String :=
  headerLines s ++ s.enumFields.flatMap optionsLines ++ examplesLines s
    ++ [""] ++ (rowInterface s).lines ++ formLines s ++ callLines
    ++ ["", s!"export function {s.name}AdminPage() \x7b"] ++ loadLines s ++ changeLines s
    ++ pageLines s ++ ["", s!"export default {s.name}AdminPage"]

def text (s : Schema) : String := unlines (lines s)

def scope (s : Schema) : Variables :=
  Variables.ofNames s ++ [
    ("fields", Variables.formFields s.columns),
    ("writable_fields", Variables.formFields s.writableFields),
    ("updatable_fields", Variables.formFields s.updatableFields),
    ("display_fields", Variables.formFields (displayFields s)),
    ("enum_fields", Variables.enumFields s.enumFields),
    ("has_content_field", .bool s.hasContent),
    ("examples", .list (s.examples.map Example.toDocument))]

/-! ## The template -/

def headerNodes : List Node :=
  commentNodes [
      [.print "name", " Admin Page"],
      ["CRUD management UI for public.", .print "table_name"],
      [],
      [.text generated]]
    ++ plain [
      "",
      "import \x7b useCallback, useEffect, useState \x7d from 'react'",
      "import \x7b supabase \x7d from '../../lib/supabase'",
      ""]
    ++ line ["const FUNCTION_NAME = '", .print "table_name", "-crud'"]

/-- The name of the constant with the values to choose from. -/
def optionsName : List Node :=
  [.print (.filtered (.filtered (dot "field" "name") "snake_case") "upper"), "_OPTIONS"]

def optionsNodes : List Node :=
  plain [""]
    ++ line ([.text "const "] ++ optionsName ++ [.text " = [", enumValues ", ", .text "]"])

def examplesNodes : List Node :=
  plain ["", "const EXAMPLES: \x7b title: string; code: string \x7d[] = ["]
    ++ [.each "example" "examples" (line [
      "  \x7b title: ",
      .print (.filtered (dot "example" "title") "tojson"),
      ", code: ",
      .print (.filtered (dot "example" "code") "tojson"),
      " \x7d,"])]
    ++ plain ["]"]

def rowNodes : List Node :=
  plain [""]
    ++ interfaceNodes ["interface ", .print "name", "Row"]
      (plain ["  id: string"] ++ [members "writable_fields" "db_name" ""]
        ++ plain ["  created_at: string", "  updated_at: string"])

def valuesNodes : List Node :=
  plain ["", "type FormValues = Record<string, unknown>", "", "const EMPTY_FORM: FormValues = \x7b"]
    ++ [.each "field" "updatable_fields" (line [
      "  ",
      .print (dot "field" "name"),
      ": ",
      .print (dot "field" "typescript_default"),
      ","])]
    ++ plain ["\x7d"]

def loadNodes : List Node :=
  line ["  const [rows, setRows] = useState<", .print "name", "Row[]>([])"]
    ++ plain [
      "  const [form, setForm] = useState<FormValues>(EMPTY_FORM)",
      "  const [editingId, setEditingId] = useState<string | null>(null)",
      "  const [error, setError] = useState<string | null>(null)",
      "  const [loading, setLoading] = useState(false)",
      "",
      "  const load = useCallback(async () => \x7b",
      "    setLoading(true)",
      "    try \x7b"]
    ++ line [
      "      setRows(await call<",
      .print "name",
      "Row[]>(\x7b action: 'list', filters: \x7b\x7d \x7d))"]
    ++ plain [
      "      setError(null)",
      "    \x7d catch (e) \x7b",
      failureLine,
      "    \x7d finally \x7b",
      "      setLoading(false)",
      "    \x7d",
      "  \x7d, [])",
      "",
      "  useEffect(() => \x7b",
      "    load()",
      "  \x7d, [load])"]

def changeNodes : List Node :=
  plain [
    "",
    "  const update = (key: string, value: unknown) => "
      ++ "setForm((prev) => (\x7b ...prev, [key]: value \x7d))",
    "",
    "  const submit = async () => \x7b",
    "    try \x7b",
    "      if (editingId) \x7b",
    "        await call(\x7b action: 'update', id: editingId, data: form \x7d)",
    "      \x7d else \x7b",
    "        await call(\x7b action: 'create', data: form \x7d)",
    "      \x7d",
    "      setForm(EMPTY_FORM)",
    "      setEditingId(null)",
    "      await load()",
    "    \x7d catch (e) \x7b",
    failureLine,
    "    \x7d",
    "  \x7d",
    ""]
    ++ line ["  const edit = (row: ", .print "name", "Row) => \x7b"]
    ++ plain ["    setEditingId(row.id)", "    setForm(\x7b"]
    ++ [.each "field" "updatable_fields" (line [
      "      ",
      .print (dot "field" "name"),
      ": row.",
      .print (dot "field" "db_name"),
      ","])]
    ++ plain [
      "    \x7d)",
      "  \x7d",
      "",
      "  const remove = async (id: string) => \x7b",
      "    try \x7b",
      "      await call(\x7b action: 'delete', id \x7d)",
      "      await load()",
      "    \x7d catch (e) \x7b",
      failureLine,
      "    \x7d",
      "  \x7d"]

def headingNodes : List Node :=
  plain ["", "  return ("]
    ++ line [
      "    <div className=\"",
      pick "has_content_field" "max-w-5xl" "max-w-4xl",
      " mx-auto space-y-6 p-6\">"]
    ++ line ["      <h1 className=\"text-2xl font-bold\">", .print "name", " Admin</h1>"]
    ++ plain ["      \x7berror && <p className=\"text-red-600\">\x7berror\x7d</p>\x7d", ""]

def valueNodes : List Node :=
  line ["            value=\x7bString(form.", .print (dot "field" "name"), " ?? '')\x7d"]

def updateNodes (value : String) : List Node :=
  line [
    "            onChange=\x7b(e) => update('",
    .print (dot "field" "name"),
    .text ("', " ++ value ++ ")\x7d")]

def choiceNodes : List Node :=
  plain ["          <select", inputStyle] ++ valueNodes ++ updateNodes "e.target.value"
    ++ plain ["          >"]
    ++ line ([.text "            ", .print (.literal "\x7b")] ++ optionsName
      ++ [.text ".map((option) => ("])
    ++ plain [
      "              <option key=\x7boption\x7d value=\x7boption\x7d>",
      "                \x7boption\x7d",
      "              </option>",
      "            ))\x7d",
      "          </select>"]

def checkboxNodes : List Node :=
  plain ["          <input", "            type=\"checkbox\"", "            className=\"ml-2\""]
    ++ line ["            checked=\x7bBoolean(form.", .print (dot "field" "name"), ")\x7d"]
    ++ updateNodes "e.target.checked" ++ plain ["          />"]

/-- A field that is typed in, by the lines that open it. -/
def typedNodes (opening : List String) (value : String) : List Node :=
  plain opening ++ valueNodes ++ updateNodes value ++ plain ["          />"]

def isContent : Expr := .equal (dot "field" "name") (.literal "content")

def widgetNodes : List Node :=
  [.cond (dot "field" "enum_values") choiceNodes
    [.cond (.equal (dot "field" "field_type") (.literal "boolean")) checkboxNodes
      [.cond (.among (dot "field" "field_type") ["number", "integer"])
        (typedNodes ["          <input", "            type=\"number\"", inputStyle]
          "e.target.value === '' ? null : Number(e.target.value)")
        [.cond isContent
          (typedNodes [
              "          <textarea",
              "            rows=\x7b12\x7d",
              "            className=\"mt-1 block w-full rounded border p-2 font-mono\""]
            "e.target.value")
          (typedNodes ["          <input", inputStyle] "e.target.value")]]]]

def inputNodes : List Node :=
  plain ["        <label className=\"block\">"]
    ++ line [
      "          <span className=\"text-sm\">",
      .print (dot "field" "name"),
      pick (dot "field" "required") " *" "",
      "</span>"]
    ++ widgetNodes ++ plain ["        </label>"]

def formNodes : List Node :=
  plain ["      <section className=\"space-y-3 rounded border p-4\">"]
    ++ line [
      "        <h2 className=\"font-semibold\">\x7beditingId ? 'Edit ",
      .print "name",
      "' : 'New ",
      .print "name",
      "'\x7d</h2>"]
    ++ [.each "field" "updatable_fields" inputNodes] ++ plain formClosing

def cellNodes : List Node :=
  [.cond isContent
    (line [
      "              <td className=\"p-2\">\x7bString(row.",
      .print (dot "field" "db_name"),
      " ?? '').slice(0, 80)\x7d</td>"])
    (line [
      "              <td className=\"p-2\">\x7bString(row.",
      .print (dot "field" "db_name"),
      " ?? '')\x7d</td>"])]

def tableNodes : List Node :=
  plain [
    "",
    "      <table className=\"w-full text-left text-sm\">",
    "        <thead>",
    "          <tr>"]
    ++ [.each "field" "display_fields"
      (line ["            <th className=\"p-2\">", .print (dot "field" "name"), "</th>"])]
    ++ plain [
      "            <th className=\"p-2\">Actions</th>",
      "          </tr>",
      "        </thead>",
      "        <tbody>",
      "          \x7bloading && (",
      "            <tr>",
      "              <td className=\"p-2\">Loading...</td>",
      "            </tr>",
      "          )\x7d",
      "          \x7brows.map((row) => (",
      "            <tr key=\x7brow.id\x7d className=\"border-t\">"]
    ++ [.each "field" "display_fields" cellNodes]
    ++ plain [
      "              <td className=\"space-x-2 p-2\">",
      "                <button onClick=\x7b() => edit(row)\x7d>Edit</button>",
      "                <button className=\"text-red-600\" onClick=\x7b() => remove(row.id)\x7d>",
      "                  Delete",
      "                </button>",
      "              </td>",
      "            </tr>",
      "          ))\x7d",
      "        </tbody>",
      "      </table>"]

def nodes : List Node :=
  headerNodes ++ [.each "field" "enum_fields" optionsNodes] ++ examplesNodes ++ rowNodes
    ++ valuesNodes ++ plain callLines ++ plain [""]
    ++ line ["export function ", .print "name", "AdminPage() \x7b"] ++ loadNodes ++ changeNodes
    ++ headingNodes ++ formNodes ++ tableNodes ++ plain (excerptLines ++ [""])
    ++ line ["export default ", .print "name", "AdminPage"]

end Scaffold.Artifact.AdminPage
