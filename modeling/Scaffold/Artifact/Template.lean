import Scaffold.Artifact.Variables
import Scaffold.Text.Lines
import Scaffold.Text.Naming

/-!
# Templates

The text of an artifact is written by a template: literal text with expressions, loops and
conditions over the variables of a view. It is strict. A variable, an attribute or a filter that
does not exist ends it, and so does a value that an operation cannot take.
-/
namespace Scaffold.Template

open Text

/-- Functions on text that a template can name. -/
def filters : List (String × (String → String)) := [
  ("snake_case", snakeCase),
  ("camel_case", camelCase),
  ("pascal_case", pascalCase),
  ("kebab_case", kebabCase),
  ("singular", singular),
  ("upper", upper),
  ("lower", lower),
  ("ts_string", Literal.script),
  ("sql_string", Literal.sql),
  ("tojson", Literal.json)]

/-! ## Syntax -/

inductive Expr
  | var (name : String)
  | literal (content : String)
  | attribute (record : Expr) (name : String)
  | filtered (value : Expr) (filter : String)
  /-- Each item of a list through a filter. -/
  | mapped (items : Expr) (filter : String)
  | joined (items : Expr) (separator : String)
  /-- A list without its first item. -/
  | rest (items : Expr)
  | either (first second : Expr)
  | both (first second : Expr)
  | negated (value : Expr)
  | equal (first second : Expr)
  | among (value : Expr) (options : List String)
  /-- Whether there is a value at all. -/
  | given (value : Expr)
  /-- One text after the other. -/
  | followed (first second : Expr)
  /-- A whole number between two texts. -/
  | formatted (before : String) (number : Expr) (after : String)
  | choice (test yes no : Expr)

inductive Node
  | text (content : String)
  | print (value : Expr)
  /-- A loop; in it, the name stands for one item after the other, and `loop` for its place. -/
  | each (name : String) (items : Expr) (body : List Node)
  | cond (test : Expr) (yes no : List Node)

/-- Text where a node is expected. -/
instance : Coe String Node := ⟨.text⟩

/-- A name where an expression is expected. -/
instance : Coe String Expr := ⟨.var⟩

/-- An attribute of the value of a variable. -/
def dot (name key : String) : Expr := .attribute name key

/-- One of two texts. -/
def pick (test : Expr) (yes no : String) : Node :=
  .print (.choice test (.literal yes) (.literal no))

/-- What stands between the items of a loop. -/
def between (separator : String) : Node := pick (.negated (dot "loop" "last")) separator ""

/-- The parts of one line, and its end. -/
def line (parts : List Node) : List Node := parts ++ [.text "\n"]

/-- Lines without anything to fill in. -/
def plain (lines : List String) : List Node := [.text (unlines lines)]

/-! ## Values -/

/-- What ends a template. -/
inductive Fault
  | undefined (name : String)
  | noAttribute (name : String)
  | noFilter (name : String)
  | unsuited (operation : String)
deriving DecidableEq, Repr

/-- What counts as true. -/
def truthy : Document → Bool
  | .null => false
  | .bool b => b
  | .int i => i != 0
  | .text s => s != ""
  | .list items => !items.isEmpty
  | _ => true

/-- A value as it appears in a list. -/
def shownItem : Document → String
  | .text s => Literal.readable s
  | .bool b => if b then "True" else "False"
  | d => d.keyText

/-- A value as it appears in the text. -/
def shown : Document → String
  | .text s => s
  | .list items =>
    let texts := items.map shownItem
    "(" ++ ", ".intercalate texts ++ onlyIf (texts.length = 1) "," ++ ")"
  | d => shownItem d

def textOf (operation : String) : Document → Except Fault String
  | .text s => .ok s
  | _ => .error (.unsuited operation)

def itemsOf (operation : String) : Document → Except Fault (List Document)
  | .list items => .ok items
  | _ => .error (.unsuited operation)

def lookUp (scope : Variables) (name : String) : Except Fault Document :=
  match scope.lookup name with
  | some value => .ok value
  | none => .error (.undefined name)

def attributeOf (name : String) : Document → Except Fault Document
  | .map entries => match Document.find? name entries with
    | some value => .ok value
    | none => .error (.noAttribute name)
  | _ => .error (.noAttribute name)

def filterBy (filter : String) (value : Document) : Except Fault Document :=
  match filters.lookup filter with
  | some f => (textOf filter value).map fun s => .text (f s)
  | none => .error (.noFilter filter)

def format (before after : String) : Document → Except Fault Document
  | .int i => .ok (.text (before ++ toString i ++ after))
  | _ => .error (.unsuited "%d")

/-! ## Running -/

def Expr.eval (scope : Variables) : Expr → Except Fault Document
  | .var name => lookUp scope name
  | .literal content => .ok (.text content)
  | .attribute record name => do attributeOf name (← record.eval scope)
  | .filtered value filter => do filterBy filter (← value.eval scope)
  | .mapped items filter => do
    let items ← itemsOf "map" (← items.eval scope)
    return .list (← items.mapM (filterBy filter))
  | .joined items separator => do
    let items ← itemsOf "join" (← items.eval scope)
    return .text (separator.intercalate (← items.mapM (textOf "join")))
  | .rest items => do return .list ((← itemsOf "slice" (← items.eval scope)).drop 1)
  | .either first second => do
    let value ← first.eval scope
    if truthy value then return value else second.eval scope
  | .both first second => do
    let value ← first.eval scope
    if truthy value then second.eval scope else return value
  | .negated value => do return .bool (!truthy (← value.eval scope))
  | .equal first second => do
    return .bool ((← textOf "==" (← first.eval scope)) = (← textOf "==" (← second.eval scope)))
  | .among value options => do
    return .bool (options.contains (← textOf "in" (← value.eval scope)))
  | .given value => do
    return .bool (match ← value.eval scope with
      | .null => false
      | _ => true)
  | .followed first second => do
    return .text ((← textOf "~" (← first.eval scope)) ++ (← textOf "~" (← second.eval scope)))
  | .formatted before number after => do format before after (← number.eval scope)
  | .choice test yes no => do
    if truthy (← test.eval scope) then yes.eval scope else no.eval scope

/-- Each item, and whether it is the last. -/
def rounds {α : Type} : List α → List (α × Bool)
  | [] => []
  | [item] => [(item, true)]
  | item :: next :: rest => (item, false) :: rounds (next :: rest)

/-- The variables in a round of a loop. -/
def inRound (scope : Variables) (name : String) (round : Document × Bool) : Variables :=
  ("loop", Document.record [("last", .bool round.2)]) :: (name, round.1) :: scope

mutual

def Node.run (scope : Variables) : Node → Except Fault String
  | .text content => .ok content
  | .print value => do return shown (← value.eval scope)
  | .each name items body => do
    let items ← itemsOf "for" (← items.eval scope)
    return String.join (← (rounds items).mapM fun round => run (inRound scope name round) body)
  | .cond test yes no => do
    if truthy (← test.eval scope) then run scope yes else run scope no

/-- The text that a template writes. -/
def run (scope : Variables) : List Node → Except Fault String
  | [] => .ok ""
  | node :: rest => do return (← node.run scope) ++ (← run scope rest)

end

end Scaffold.Template
