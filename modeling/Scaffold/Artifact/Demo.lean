import Scaffold.Artifact.Display
import Scaffold.Artifact.Fragments

/-!
# The demo component

A short form and a list, on top of the hook.
-/
namespace Scaffold.Artifact.Demo

open Script Template Text

def displayFields (s : Schema) : List Field := s.displayFields 3

/-- What the component takes from the object that the hook returns. -/
def hookMembers : List String := ["items", "isLoading", "error", "create", "remove"]

def hookImport (s : Schema) : String := s!"../../../hooks/use{s.name}s"

/-! ## The form -/

/-- What a field is edited with. -/
inductive Widget
  | choice
  | checkbox
  | box
  | line
deriving DecidableEq, Repr

def widget (f : Field) : Widget :=
  if !f.values.isEmpty then .choice
  else if f.type = .boolean then .checkbox
  else if f.name = Field.contentName then .box
  else .line

def inputStyle : String := "          className=\"block w-full rounded border p-2\""

def valueLine (f : Field) : String := s!"          value=\x7bString(form.{f.name} ?? '')\x7d"

def onChange (f : Field) (value : String) : String :=
  s!"onChange=\x7b(e) => setForm(\x7b ...form, {f.name}: {value} \x7d)\x7d"

/-- A value as the attribute and the text of an option. -/
def optionLine (value : String) : String := s!"          <option value=\"{value}\">{value}</option>"

def widgetLines (f : Field) : List String :=
  match widget f with
  | .choice =>
    ["        <select", inputStyle, valueLine f, "          " ++ onChange f "e.target.value",
      "        >"]
    ++ f.values.map optionLine ++ ["        </select>"]
  | .checkbox => [
      "        <label className=\"flex items-center gap-2\">",
      "          <input",
      "            type=\"checkbox\"",
      s!"            checked=\x7bBoolean(form.{f.name})\x7d",
      "            " ++ onChange f "e.target.checked",
      "          />",
      s!"          {f.name}",
      "        </label>"]
  | .box => [
      "        <textarea",
      "          rows=\x7b4\x7d",
      s!"          placeholder=\"{f.name}\"",
      inputStyle,
      valueLine f,
      "          " ++ onChange f "e.target.value",
      "        />"]
  | .line => [
      "        <input",
      s!"          placeholder=\"{f.name}\"",
      inputStyle,
      valueLine f,
      "          " ++ onChange f "e.target.value",
      "        />"]

/-! ## The list -/

def itemLines (f : Field) : List String :=
  if f.name = Field.contentName then
    ["              <p className=\"whitespace-pre-wrap text-sm\">"
      ++ s!"\x7bString(item.{f.name} ?? '')\x7d</p>"]
  else [
    "              <p>",
    s!"                <span className=\"text-gray-500\">{f.name}:</span> "
      ++ s!"\x7bString(item.{f.name} ?? '')\x7d",
    "              </p>"]

/-! ## The file -/

def headerLines (s : Schema) : List String :=
  comment "" [
    s!"{s.name}s Demo",
    s!"Minimal showcase of the generated {s.table} stack (hook + service)",
    "",
    generated]
  ++ [
    "",
    "import \x7b useState \x7d from 'react'",
    s!"import \x7b use{s.name}s \x7d from '{hookImport s}'",
    "",
    "type DemoForm = Record<string, unknown>",
    "",
    "const EMPTY_FORM: DemoForm = \x7b"]
  ++ (displayFields s).map (fun f => s!"  {f.name}: {f.scriptDefault},")
  ++ ["\x7d"]

def formLines (s : Schema) : List String :=
  [
    "",
    s!"export function {s.name}sDemo() \x7b",
    "  const \x7b " ++ ", ".intercalate hookMembers ++ s!" \x7d = use{s.name}s()",
    "  const [form, setForm] = useState<DemoForm>(EMPTY_FORM)",
    "",
    "  const submit = async () => \x7b",
    "    await create(form as never)",
    "    setForm(EMPTY_FORM)",
    "  \x7d",
    "",
    "  return (",
    "    <div className=\"space-y-4 rounded-lg border p-4\">",
    s!"      <h2 className=\"text-lg font-semibold\">{s.name}s Demo</h2>",
    "",
    "      <div className=\"space-y-2\">"]
  ++ (displayFields s).flatMap widgetLines
  ++ [
    "        <button className=\"rounded bg-blue-600 px-4 py-2 text-white\""
      ++ " onClick=\x7bsubmit\x7d>",
    s!"          Add {s.name}",
    "        </button>",
    "      </div>"]

def listLines (s : Schema) : List String :=
  let spacing := if s.hasContent then "space-y-4" else "space-y-2"
  [
    "",
    "      \x7bisLoading && <p>Loading...</p>\x7d",
    "      \x7berror && <p className=\"text-red-600\">\x7bString(error)\x7d</p>\x7d",
    "",
    s!"      <ul className=\"{spacing}\">",
    "        \x7bitems.map((item) => (",
    "          <li key=\x7bitem.id\x7d "
      ++ "className=\"flex items-start justify-between rounded border p-2\">",
    "            <div>"]
  ++ (displayFields s).flatMap itemLines
  ++ [
    "            </div>",
    "            <button className=\"text-red-600\" onClick=\x7b() => remove(item.id)\x7d>",
    "              Delete",
    "            </button>",
    "          </li>",
    "        ))\x7d",
    "      </ul>",
    "    </div>",
    "  )",
    "\x7d",
    "",
    s!"export default {s.name}sDemo"]

/-- The lines of the file. -/
def lines (s : Schema) : List String :=
  headerLines s ++ formLines s ++ listLines s

def text (s : Schema) : String := unlines (lines s)

def scope (s : Schema) : Variables :=
  Variables.ofNames s ++ [
    ("fields", Variables.formFields s.columns),
    ("writable_fields", Variables.formFields s.writableFields),
    ("updatable_fields", Variables.formFields s.updatableFields),
    ("display_fields", Variables.formFields (displayFields s)),
    ("enum_fields", Variables.enumFields s.enumFields),
    ("has_content_field", .bool s.hasContent)]

/-! ## The template -/

def headerNodes : List Node :=
  commentNodes [
      [.print "name", "s Demo"],
      ["Minimal showcase of the generated ", .print "table_name", " stack (hook + service)"],
      [],
      [.text generated]]
    ++ plain ["", "import \x7b useState \x7d from 'react'"]
    ++ line [
      "import \x7b use",
      .print "name",
      "s \x7d from '../../../hooks/use",
      .print "name",
      "s'"]
    ++ plain [
      "",
      "type DemoForm = Record<string, unknown>",
      "",
      "const EMPTY_FORM: DemoForm = \x7b"]
    ++ [.each "field" "display_fields" (line [
      "  ",
      .print (dot "field" "name"),
      ": ",
      .print (dot "field" "typescript_default"),
      ","])]
    ++ plain ["\x7d"]

def valueNodes : List Node :=
  line ["          value=\x7bString(form.", .print (dot "field" "name"), " ?? '')\x7d"]

def changeNodes (indent value : String) : List Node :=
  line [
    .text (indent ++ "onChange=\x7b(e) => setForm(\x7b ...form, "),
    .print (dot "field" "name"),
    .text (": " ++ value ++ " \x7d)\x7d")]

def choiceNodes : List Node :=
  plain ["        <select", inputStyle] ++ valueNodes ++ changeNodes "          " "e.target.value"
    ++ plain ["        >"]
    ++ [.each "value" (dot "field" "enum_values") (line [
      "          <option value=\"",
      .print "value",
      "\">",
      .print "value",
      "</option>"])]
    ++ plain ["        </select>"]

def checkboxNodes : List Node :=
  plain [
    "        <label className=\"flex items-center gap-2\">",
    "          <input",
    "            type=\"checkbox\""]
    ++ line ["            checked=\x7bBoolean(form.", .print (dot "field" "name"), ")\x7d"]
    ++ changeNodes "            " "e.target.checked" ++ plain ["          />"]
    ++ line ["          ", .print (dot "field" "name")] ++ plain ["        </label>"]

/-- A field of text, by the lines that open it. -/
def textNodes (opening : List String) : List Node :=
  plain opening ++ line ["          placeholder=\"", .print (dot "field" "name"), "\""]
    ++ plain [inputStyle] ++ valueNodes ++ changeNodes "          " "e.target.value"
    ++ plain ["        />"]

def isContent : Expr := .equal (dot "field" "name") (.literal "content")

def widgetNodes : List Node :=
  [.cond (dot "field" "enum_values") choiceNodes
    [.cond (.equal (dot "field" "field_type") (.literal "boolean")) checkboxNodes
      [.cond isContent (textNodes ["        <textarea", "          rows=\x7b4\x7d"])
        (textNodes ["        <input"])]]]

def formNodes : List Node :=
  plain [""] ++ line ["export function ", .print "name", "sDemo() \x7b"]
    ++ line [
      "  const \x7b items, isLoading, error, create, remove \x7d = use",
      .print "name",
      "s()"]
    ++ plain [
      "  const [form, setForm] = useState<DemoForm>(EMPTY_FORM)",
      "",
      "  const submit = async () => \x7b",
      "    await create(form as never)",
      "    setForm(EMPTY_FORM)",
      "  \x7d",
      "",
      "  return (",
      "    <div className=\"space-y-4 rounded-lg border p-4\">"]
    ++ line ["      <h2 className=\"text-lg font-semibold\">", .print "name", "s Demo</h2>"]
    ++ plain ["", "      <div className=\"space-y-2\">"]
    ++ [.each "field" "display_fields" widgetNodes]
    ++ plain [
      "        <button className=\"rounded bg-blue-600 px-4 py-2 text-white\""
        ++ " onClick=\x7bsubmit\x7d>"]
    ++ line ["          Add ", .print "name"] ++ plain ["        </button>", "      </div>"]

def itemNodes : List Node :=
  [.cond isContent
    (line [
      "              <p className=\"whitespace-pre-wrap text-sm\">\x7bString(item.",
      .print (dot "field" "name"),
      " ?? '')\x7d</p>"])
    (plain ["              <p>"]
      ++ line [
        "                <span className=\"text-gray-500\">",
        .print (dot "field" "name"),
        ":</span> \x7bString(item.",
        .print (dot "field" "name"),
        " ?? '')\x7d"]
      ++ plain ["              </p>"])]

def listNodes : List Node :=
  plain [
    "",
    "      \x7bisLoading && <p>Loading...</p>\x7d",
    "      \x7berror && <p className=\"text-red-600\">\x7bString(error)\x7d</p>\x7d",
    ""]
    ++ line ["      <ul className=\"", pick "has_content_field" "space-y-4" "space-y-2", "\">"]
    ++ plain [
      "        \x7bitems.map((item) => (",
      "          <li key=\x7bitem.id\x7d"
        ++ " className=\"flex items-start justify-between rounded border p-2\">",
      "            <div>"]
    ++ [.each "field" "display_fields" itemNodes]
    ++ plain [
      "            </div>",
      "            <button className=\"text-red-600\" onClick=\x7b() => remove(item.id)\x7d>",
      "              Delete",
      "            </button>",
      "          </li>",
      "        ))\x7d",
      "      </ul>",
      "    </div>",
      "  )",
      "\x7d",
      ""]
    ++ line ["export default ", .print "name", "sDemo"]

def nodes : List Node := headerNodes ++ formNodes ++ listNodes

end Scaffold.Artifact.Demo
