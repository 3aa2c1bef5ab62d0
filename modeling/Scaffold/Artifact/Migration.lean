import Scaffold.Artifact.Fragments
import Scaffold.Text.Case

/-!
# The migration

The table with its columns, its comment, the indexes, the trigger that keeps the time of the last
change, and the policies.
-/
namespace Scaffold.Artifact.Migration

open Template Text

def rule : String := "-- " ++ repeated 76 '='

/-! ## Columns -/

/-- The key needs no separate word that a value is required. -/
def presence (f : Field) : List String :=
  if f.primaryKey then ["PRIMARY KEY"] else if f.required then ["NOT NULL"] else []

def reference (f : Field) : List String :=
  match f.references.filter (· ≠ ""), f.onDelete.filter (· ≠ "") with
  | some target, some action => ["REFERENCES " ++ target ++ " ON DELETE " ++ upper action]
  | some target, none => ["REFERENCES " ++ target]
  | none, _ => []

def valueList (values : List String) : String := ", ".intercalate (values.map Literal.sql)

/-- The check that a column holds one of the declared values. -/
def restriction (f : Field) : List String :=
  if f.values.isEmpty then []
  else ["CHECK (" ++ f.column ++ " IN (" ++ valueList f.values ++ "))"]

def clauses (f : Field) : List String :=
  presence f ++ (if f.unique then ["UNIQUE"] else [])
    ++ (f.sqlDefault.map ("DEFAULT " ++ ·)).toList ++ reference f ++ restriction f

def definition (f : Field) : String :=
  "  " ++ " ".intercalate (f.column :: f.sqlType :: clauses f)

/-- A comma after every line but the last. -/
def separated : List String → List String
  | [] => []
  | [line] => [line]
  | line :: next :: rest => (line ++ ",") :: separated (next :: rest)

def tableLines (s : Schema) : List String :=
  [s!"CREATE TABLE IF NOT EXISTS public.{s.table} ("] ++ separated (s.columns.map definition)
    ++ [");"]

/-! ## Comment, indexes, trigger -/

/-- A description that says something. -/
def remark? (s : Schema) : Option String := s.description.filter (· ≠ "")

def commentLines (s : Schema) : List String :=
  match remark? s with
  | some text => ["", s!"COMMENT ON TABLE public.{s.table} IS " ++ Literal.sql text ++ ";"]
  | none => []

def indexName (s : Schema) (f : Field) : String := s!"idx_{s.table}_{f.column}"

def indexLine (s : Schema) (f : Field) : String :=
  let method := match f.indexMethod.filter (· ≠ "") with
    | some name => " USING " ++ name
    | none => ""
  s!"CREATE INDEX IF NOT EXISTS {indexName s f} ON public.{s.table}{method} ({f.column});"

def indexLines (s : Schema) : List String :=
  if s.indexedFields.isEmpty then []
  else ["", "-- Indexes"] ++ s.indexedFields.map (indexLine s)

def hasUpdatedAt (s : Schema) : Bool :=
  s.columns.any fun f => f.name = Field.updatedAt.name && f.autoUpdate

def triggerFunction (s : Schema) : String := s!"update_{s.table}_updated_at"

def triggerName (s : Schema) : String := s!"trigger_update_{s.table}_updated_at"

def triggerLines (s : Schema) : List String :=
  if hasUpdatedAt s then [
    "",
    "-- Auto-update updated_at",
    s!"CREATE OR REPLACE FUNCTION public.{triggerFunction s}()",
    "RETURNS TRIGGER AS $$",
    "BEGIN",
    "  NEW.updated_at = NOW();",
    "  RETURN NEW;",
    "END;",
    "$$ LANGUAGE plpgsql;",
    "",
    s!"CREATE TRIGGER {triggerName s}",
    s!"  BEFORE UPDATE ON public.{s.table}",
    "  FOR EACH ROW",
    s!"  EXECUTE FUNCTION public.{triggerFunction s}();"]
  else []

/-! ## Policies -/

/-- A semicolon after the last line. -/
def terminated : List String → List String
  | [] => []
  | [line] => [line ++ ";"]
  | line :: next :: rest => line :: terminated (next :: rest)

/-- A clause with a condition that says something. -/
def clause (word : String) (condition : Option String) : List String :=
  match condition.filter (· ≠ "") with
  | some text => ["  " ++ word ++ " (" ++ text ++ ")"]
  | none => []

def policyLines (s : Schema) (p : Policy) : List String :=
  ["", s!"CREATE POLICY \"{p.name}\" ON public.{s.table}"]
    ++ terminated (["  FOR " ++ upper p.action] ++ clause "USING" p.condition
      ++ clause "WITH CHECK" p.check)

/-! ## The file -/

def headerLines (s : Schema) : List String :=
  [rule, s!"-- {s.name} Migration", rule] ++ ((remark? s).map ("-- " ++ ·)).toList
    ++ ["-- Generated by apiforge. Do not edit by hand.", rule]

def securityLines (s : Schema) : List String :=
  ["", "-- Row Level Security", s!"ALTER TABLE public.{s.table} ENABLE ROW LEVEL SECURITY;"]
    ++ s.policies.flatMap (policyLines s)

/-- The lines below the table. -/
def followingLines (s : Schema) : List String :=
  commentLines s ++ indexLines s ++ triggerLines s ++ securityLines s

/-- The lines of the file. -/
def lines (s : Schema) : List String :=
  headerLines s ++ [""] ++ tableLines s ++ followingLines s

def text (s : Schema) : String := unlines (lines s)

def scope (s : Schema) : Variables :=
  Variables.ofNames s ++ [
    ("fields", Variables.columnFields s.columns),
    ("indexed_fields", Variables.columnFields s.indexedFields),
    ("rls", .list (s.policies.map Policy.view)),
    ("has_updated_at", .bool (hasUpdatedAt s)),
    ("description", Document.ofOption .text s.description)]

/-! ## The template -/

def presenceNode : Node :=
  .cond (dot "field" "primary_key") [" PRIMARY KEY"]
    [.cond (dot "field" "required") [" NOT NULL"] []]

def uniqueNode : Node := .cond (dot "field" "unique") [" UNIQUE"] []

def defaultNode : Node :=
  .cond (.given (dot "field" "default")) [" DEFAULT ", .print (dot "field" "default")] []

def actionNode : Node :=
  .cond (dot "field" "on_delete")
    [" ON DELETE ", .print (.filtered (dot "field" "on_delete") "upper")] []

def referenceNode : Node :=
  .cond (dot "field" "references")
    [" REFERENCES ", .print (dot "field" "references"), actionNode] []

def checkNode : Node :=
  .cond (dot "field" "enum_values") [
    " CHECK (",
    .print (dot "field" "db_name"),
    " IN (",
    .print (.joined (.mapped (dot "field" "enum_values") "sql_string") ", "),
    "))"] []

def definitionNodes : List Node := [
  "  ",
  .print (dot "field" "db_name"),
  " ",
  .print (dot "field" "sql_type"),
  presenceNode,
  uniqueNode,
  defaultNode,
  referenceNode,
  checkNode]

def headerNodes : List Node :=
  plain [rule] ++ line ["-- ", .print "name", " Migration"] ++ plain [rule]
    ++ [.cond "description" (line ["-- ", .print "description"]) []]
    ++ plain ["-- Generated by apiforge. Do not edit by hand.", rule]

def tableNodes : List Node :=
  line ["CREATE TABLE IF NOT EXISTS public.", .print "table_name", " ("]
    ++ [.each "field" "fields" (line (definitionNodes ++ [between ","]))] ++ plain [");"]

def commentNodes : List Node :=
  [.cond "description"
    (plain [""] ++ line [
      "COMMENT ON TABLE public.",
      .print "table_name",
      " IS ",
      .print (.filtered "description" "sql_string"),
      ";"]) []]

def indexParts : List Node := [
  "CREATE INDEX IF NOT EXISTS ",
  "idx_",
  .print "table_name",
  "_",
  .print (dot "field" "db_name"),
  " ON public.",
  .print "table_name",
  .print (.choice (dot "field" "index_type")
    (.followed (.literal " USING ") (dot "field" "index_type")) (.literal "")),
  " (",
  .print (dot "field" "db_name"),
  ");"]

def indexNodes : List Node :=
  [.cond "indexed_fields"
    (plain ["", "-- Indexes"] ++ [.each "field" "indexed_fields" (line indexParts)]) []]

def triggerFunctionParts : List Node := ["update_", .print "table_name", "_updated_at"]

def triggerNodes : List Node :=
  [.cond "has_updated_at"
    (plain ["", "-- Auto-update updated_at"]
      ++ line ([.text "CREATE OR REPLACE FUNCTION public."] ++ triggerFunctionParts ++ [.text "()"])
      ++ plain [
        "RETURNS TRIGGER AS $$",
        "BEGIN",
        "  NEW.updated_at = NOW();",
        "  RETURN NEW;",
        "END;",
        "$$ LANGUAGE plpgsql;",
        ""]
      ++ line ([.text "CREATE TRIGGER ", .text "trigger_"] ++ triggerFunctionParts)
      ++ line ["  BEFORE UPDATE ON public.", .print "table_name"]
      ++ plain ["  FOR EACH ROW"]
      ++ line ([.text "  EXECUTE FUNCTION public."] ++ triggerFunctionParts ++ [.text "();"])) []]

def clauseNode (word key : String) : Node :=
  .cond (dot "policy" key)
    ["\n", "  ", .text word, " (", .print (dot "policy" key), ")"] []

def policyNodes : List Node :=
  plain [""]
    ++ line [
      "CREATE POLICY \"",
      .print (dot "policy" "name"),
      "\" ON public.",
      .print "table_name"]
    ++ line ([.text "  FOR ", .print (.filtered (dot "policy" "action") "upper")]
      ++ [clauseNode "USING" "using"] ++ [clauseNode "WITH CHECK" "with_check"] ++ [.text ";"])

def securityNodes : List Node :=
  plain ["", "-- Row Level Security"]
    ++ line ["ALTER TABLE public.", .print "table_name", " ENABLE ROW LEVEL SECURITY;"]
    ++ [.each "policy" "rls" policyNodes]

def nodes : List Node :=
  headerNodes ++ plain [""] ++ tableNodes ++ commentNodes ++ indexNodes ++ triggerNodes
    ++ securityNodes

end Scaffold.Artifact.Migration
