import Scaffold.Artifact.Paths
import Scaffold.Artifact.Rendering
import Scaffold.Calendar.Format
import Scaffold.Emission

/-!
# Generation

From a source to the files of its artifacts: the schema is loaded, all artifacts are rendered, and
only then the first is written. A batch does this for several sources and records failures; a check
only loads them.
-/
namespace Scaffold

open Artifact (Kind Templates View)

structure Generator where
  root : Path
  config : Config := {}
  dryRun : Bool := false
  templates : Templates := .shipped

namespace Generator

/-- Where the templates are, for the journal. -/
def templateDirectory : Templates → String
  | .shipped => "<templates>"
  | .own directory _ => directory

def announce (g : Generator) : Run Unit := do
  Run.note .debug .templates
    s!"TemplateEngine initialised (templates: {templateDirectory g.templates})."
  Run.note .debug .generator
    s!"APIGenerator initialised: root={g.root.text}, dry_run={truthText g.dryRun}."

/-- The time as the names of migrations show it. -/
def timestamp (g : Generator) : Run String := do
  return (← get).now.format g.config.timestampFormat

/-! ## Artifacts -/

/-- What is said about a schema before a kind of artifact is made from it. -/
def preparation (s : Schema) : Kind → List String
  | .client => (Artifact.Client.dropped s).map (Artifact.Client.dropRemark s)
  | _ => []

def rendered (g : Generator) (timestamp : String) (s : Schema) (kind : Kind) : Run Artifact := do
  match Artifact.render g.templates kind ⟨kind, s⟩ with
  | .error stop => throw stop
  | .ok content =>
    Run.note .debug .templates s!"Rendered {kind.template} ({content.length} chars)."
    return {
      kind
      path := g.config.layout.path timestamp s.name s.table kind
      content
      description := kind.description }

/-- The artifact of a kind, unless a numeral in it is too long to be written. -/
def artifact (g : Generator) (timestamp : String) (s : Schema) (kind : Kind) : Run Artifact := do
  for message in preparation s kind do Run.note .debug .views message
  if (Artifact.numerals g.templates kind s).any fun n => (Number.numeral? n).isNone then
    Run.breakDown (.tooManyDigits none)
  g.rendered timestamp s kind

/-- All artifacts of a schema. The time is taken from the clock unless it is given. -/
def artifacts (g : Generator) (given : Option String) (s : Schema) : Run (List Artifact) := do
  let timestamp ← match given.filter (· ≠ "") with
    | some timestamp => pure timestamp
    | none => g.timestamp
  Kind.all.mapM (g.artifact timestamp s)

/-- An artifact of a source: where that has halves of characters, they are what a stand-in shows. -/
def marked (source : Source) (w : World) (a : Artifact) : Artifact :=
  { a with half := !Loading.isWhole source w && a.content.toList.contains Letter.standIn }

/-! ## One schema -/

def emitter (g : Generator) : Emitter :=
  { root := g.root, dryRun := g.dryRun, overwrite := g.config.overwrite }

/-- The steps for a source, with a report that is not yet judged. -/
def steps (g : Generator) (source : Source) (report : Report) : Run Report := do
  let (s, loading) ← Run.timed "load" (Loading.schema source)
  let (artifacts, rendering) ← Run.timed "render" (g.artifacts none s)
  let w ← get
  let emitter ← g.emitter.start
  let (outcomes, writing) ←
    Run.timed "emit" (emitter.emit true (artifacts.map (marked source w)))
  let written := (outcomes.filter (·.success)).length
  return { report with
    entity := s.name
    table := s.table
    outcomes
    steps := [
      ⟨"Load Schema", true, loading,
        s!"{s.columns.length} columns, {s.operations.length} operations"⟩,
      ⟨"Render Templates", true, rendering, s!"{artifacts.length} artifacts"⟩,
      ⟨"Write Files", outcomes.all (·.success), writing, s!"{written} written"⟩] }

/-- A report with its totals. -/
def totalled (report : Report) (elapsed : Number.Binary64) : Report :=
  { report with
    elapsed
    totalBytes := report.outcomes.foldr (fun o total => o.bytes + total) 0
    totalLines :=
      (report.outcomes.filter (·.success)).foldr (fun o total => o.artifact.lineCount + total) 0 }

/-- Makes the files for one source. The first artifact that cannot be written fails the run. -/
def generate (g : Generator) (source : Source) : Run Report := do
  let root ← resolve g.root
  let report : Report := { source := source.label, root := root.text, dryRun := g.dryRun }
  let (report, elapsed) ← Run.timed "generate_one" (g.steps source report)
  let report := totalled report elapsed
  match report.outcomes.findSome? (·.failure) with
  | some failure => Run.fail failure
  | none =>
    let report := { report with success := true }
    Run.note .info .generator report.description
    return report

/-! ## Several schemas -/

def batchEntry (g : Generator) (source : Source) : Run BatchEntry := do
  match ← Run.attempt (g.generate source) with
  | .ok report => return .done source.label report
  | .error failure =>
    Run.note .error .generator s!"{source.label}: {failure.message}"
    return .failed source.label failure

/-- Makes the files for several sources; a failure of one does not keep the others. -/
def batch (g : Generator) (sources : List Source) : Run BatchReport := do
  let (entries, elapsed) ← Run.timed "generate_batch" (sources.mapM g.batchEntry)
  let report : BatchReport := { entries, elapsed }
  Run.note .info .generator (s!"Batch finished: {report.succeeded.length} succeeded, "
    ++ s!"{report.failed.length} failed.")
  return report

/-! ## Checking -/

def verdict (source : Source) : Run Verdict := do
  match ← Run.attempt (Loading.schema source) with
  | .ok s => return { source := source.label, valid := true, entity := s.name }
  | .error failure =>
    Run.note .warning .generator s!"Invalid schema {source.label}: {failure.message}"
    return { source := source.label, valid := false, message := failure.message }

/-- Loads several sources without making anything. -/
def validate (sources : List Source) : Run ValidationReport := do
  return ⟨← sources.mapM verdict⟩

end Generator
end Scaffold
