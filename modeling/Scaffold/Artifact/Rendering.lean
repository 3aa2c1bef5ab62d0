import Scaffold.Artifact.AdminPage
import Scaffold.Artifact.Client
import Scaffold.Artifact.Demo
import Scaffold.Artifact.Endpoint
import Scaffold.Artifact.Hook
import Scaffold.Artifact.Kind
import Scaffold.Artifact.Migration
import Scaffold.Artifact.Model
import Scaffold.Artifact.Repository
import Scaffold.Artifact.Service
import Scaffold.Artifact.Validation
import Scaffold.Run

/-!
# Rendering

The text of an artifact comes from the template of its kind, filled in with a view of the schema. A
project can bring templates of its own, for which it has an engine of its own.
-/
namespace Scaffold.Artifact

namespace Kind

/-- The text of an artifact. -/
def text : Kind → Schema → String
  | .migration => Migration.text
  | .validation => Validation.text
  | .repository => Repository.text
  | .endpoint => Endpoint.text
  | .model => Model.text
  | .service => Service.text
  | .hook => Hook.text
  | .adminPage => AdminPage.text
  | .demo => Demo.text
  | .client => Client.text

/-- The template for an artifact. -/
def nodes : Kind → List Template.Node
  | .migration => Migration.nodes
  | .validation => Validation.nodes
  | .repository => Repository.nodes
  | .endpoint => Endpoint.nodes
  | .model => Model.nodes
  | .service => Service.nodes
  | .hook => Hook.nodes
  | .adminPage => AdminPage.nodes
  | .demo => Demo.nodes
  | .client => Client.nodes

/-- What a template for an artifact can name. -/
def scope : Kind → Schema → Variables
  | .migration => Migration.scope
  | .validation => Validation.scope
  | .repository => Repository.scope
  | .endpoint => Endpoint.scope
  | .model => Model.scope
  | .service => Service.scope
  | .hook => Hook.scope
  | .adminPage => AdminPage.scope
  | .demo => Demo.scope
  | .client => Client.scope

/-- Whether the view of a kind has the validators of the fields. -/
def hasValidators : Kind → Bool
  | .migration | .adminPage | .demo => false
  | _ => true

/-- The operations whose limits stand in the text of a kind. -/
def limitedOperations (s : Schema) : Kind → List Operation
  | .repository => s.operationsOf .custom
  | .service | .client => s.operations.filter fun op => op.type = .list ∨ op.type = .custom
  | _ => []

end Kind

/-- A schema as the artifact of one kind sees it. -/
structure View where
  kind : Kind
  schema : Schema
deriving DecidableEq, Repr

def View.scope (v : View) : Variables := v.kind.scope v.schema

/-! ## Engines -/

/-- Why an engine gives no text. -/
inductive Refusal
  /-- The template is at fault. -/
  | reported (reason : String)
  /-- The engine breaks off with an error of a class of its own. -/
  | raised (error message : String)
deriving DecidableEq, Repr

/-- What fills in the template of a name. -/
abbrev Engine := String → Variables → Except Refusal String

inductive Templates
  | shipped
  /-- The templates of a directory, as they are filled in. -/
  | own (directory : String) (engine : Engine)

/-- What is said of a fault in a template that is shipped. -/
def refusal : Template.Fault → Refusal
  | .undefined name => .reported s!"UndefinedError: '{name}' is undefined"
  | .noAttribute name => .reported s!"UndefinedError: the value has no attribute '{name}'"
  | .noFilter name => .reported s!"TemplateAssertionError: No filter named '{name}'."
  | .unsuited operation => .raised "TypeError" operation

/-- The template of a kind, filled in. -/
def Templates.fill (kind : Kind) (scope : Variables) : Templates → Except Refusal String
  | .shipped => (Template.run scope kind.nodes).mapError refusal
  | .own _ engine => engine kind.template scope

/-! ## Artifacts -/

/-- The whole numbers that are written out for an artifact: in the view the bounds on the lengths of
texts, and in the text that is made from it the limits of operations. -/
def numerals (templates : Templates) (kind : Kind) (s : Schema) : List Nat :=
  (if kind.hasValidators then s.columns.flatMap Field.lengthBounds else [])
    ++ match templates with
      | .shipped => (kind.limitedOperations s).filterMap (·.limit)
      | .own .. => []

/-- The text of a kind of artifact from a view, which has to be of that kind. -/
def render (templates : Templates) (kind : Kind) (view : View) : Except Stop String :=
  if view.kind ≠ kind then
    .error (.failure (.unrendered kind.template s!"expected {kind.view}, got {view.kind.view}"))
  else match templates.fill kind view.scope with
    | .ok text => .ok text
    | .error (.reported reason) => .error (.failure (.unrendered kind.template reason))
    | .error (.raised error message) => .error (.breakdown (.foreign error message))

/-- The text of a kind that is asked for by name. -/
def renderNamed (templates : Templates) (name : String) (view : View) : Except Stop String :=
  match Kind.ofName? name with
  | some kind => render templates kind view
  | none => .error (.failure (.unrendered name "unknown artifact kind"))

end Scaffold.Artifact
