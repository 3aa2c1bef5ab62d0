import Scaffold.Config
import Scaffold.Run
import Scaffold.Schema.Reading
import Scaffold.Text.Utf8
import Scaffold.Yaml

/-!
# Loading

Schemas and configurations from files. The ending of a name tells the format; under any other
ending the text is read as JSON and, if it is none, as YAML.
-/
namespace Scaffold

/-- Where a schema comes from. -/
inductive Source
  /-- A document that is given directly. -/
  | entries (es : Entries)
  | file (path : String)

def Source.label : Source → String
  | .entries _ => "<mapping>"
  | .file path => path

namespace Loading

def hasNull (s : String) : Bool := s.toList.contains '\x00'

/-- Nothing is at a path with a null character. -/
def isThere (p : Path) : Run Bool := do
  let w ← get
  if hasNull p.text then return false
  Run.inquire p (w.files.has w.directory p)

/-- The text of a file. -/
def text (p : Path) : Run String := do
  unless ← isThere p do Run.fail (.unreadable p.text "file not found")
  let w ← get
  match w.files.find w.directory p with
  | .ok (.file content) =>
    match Text.Utf8.decode content with
    | .ok s => return String.ofList (Text.normalizeNewlines s.toList)
    | .error fault => Run.fail (.unreadable p.text fault.message)
  | _ => Run.fail (.unreadable p.text "not a file")

inductive Format
  | yaml
  | json
  | unknown
deriving DecidableEq, Repr

def Format.ofSuffix (suffix : String) : Format :=
  if suffix = ".yaml" ∨ suffix = ".yml" then .yaml
  else if suffix = ".json" then .json
  else .unknown

def malformed {α : Type} (p : Path) (detail : String) : Run α :=
  Run.fail (.malformed (some p.text) detail)

def ofYaml (p : Path) (s : String) : Run Document :=
  match Yaml.parse s with
  | .ok d => do
    let w ← get
    return d.arranged w.order
  | .error .malformed => malformed p ("Invalid YAML: " ++ Yaml.Fault.malformed.message)
  | .error fault => Run.breakDown (.value fault)

/-- A document and, where a text is no JSON, why it is none. -/
def jsonOrWhy (s : String) : Run (Except Document.Json.Error Document) :=
  match Document.Json.parse s with
  | .error ⟨.tooManyDigits count, _, _, _⟩ => Run.breakDown (.tooManyDigits (some count))
  | .error ⟨.tooDeep collection, _, _, _⟩ =>
    Run.breakDown (.tooDeep (Document.Json.decodingText collection))
  | result => pure result

def parse (p : Path) (suffix s : String) : Run Document :=
  match Format.ofSuffix suffix with
  | .yaml => ofYaml p s
  | .json => do
    match ← jsonOrWhy s with
    | .ok d => return d
    | .error e => malformed p ("Invalid JSON: " ++ e.message)
  | .unknown => do
    Run.note .info .loader s!"Unknown extension '{suffix}' — trying JSON then YAML."
    match ← jsonOrWhy s with
    | .ok d => return d
    | .error _ => ofYaml p s

/-- The entries of the mapping that a file holds. -/
def document (p : Path) : Run Entries := do
  let s ← text p
  match ← parse p (Text.lower p.suffix) s with
  | .map entries => return entries
  | d => malformed p s!"Expected a mapping at top level, got {d.kindName}."

/-- What a mapping says, with the problems named by their source. -/
def checked {α : Type} (source : Option String) (read : Reading α) (entries : Entries) : Run α :=
  match read (.map entries) with
  | .valid a => pure a
  | .invalid problems => Run.fail (.malformed source (Problem.messages problems))

/-- The schema of a source. -/
def schema : Source → Run Schema
  | .entries es => checked none Schema.read es
  | .file path => do
    let p := Path.ofString path
    let s ← checked (some p.text) Schema.read (← document p)
    Run.note .info .loader (s!"Loaded schema {s.name} from {p.text} "
      ++ s!"({s.fields.length} fields, {s.operations.length} operations).")
    return s

/-- Whether the document of a source has no halves of characters in its texts. -/
def isWhole (source : Source) (w : World) : Bool :=
  match source with
  | .entries es => (Document.map es).isWhole
  | .file path =>
    match ((document (Path.ofString path)).start w).1 with
    | .ok es => (Document.map es).isWhole
    | .error _ => true

/-- The configuration in a file, or the standard one. -/
def config : Option String → Run Config
  | none => pure Config.standard
  | some path => do
    let p := Path.ofString path
    let c ← checked (some p.text) Config.read (← document p)
    Run.note .info .loader s!"Loaded generator config from {p.text}."
    return c

end Loading
end Scaffold
