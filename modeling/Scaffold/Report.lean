import Scaffold.Artifact.File
import Scaffold.Failure
import Scaffold.Number.Decimal
import Scaffold.Text.Pad

/-!
# Reports

What a run says about one schema, about several, and about schemas that are only checked.
-/
namespace Scaffold

open Number Text

def heavyRule : String := repeated 60 '='

def lightRule : String := repeated 60 '─'

def tick (success : Bool) : String := if success then "✓" else "✗"

/-- What became of one artifact. -/
structure Outcome where
  artifact : Artifact
  target : Path
  bytes : Nat := 0
  digest : String := ""
  failure : Option Failure := none

namespace Outcome

def success (o : Outcome) : Bool := o.failure.isNone

def line (o : Outcome) : String :=
  s!"    {tick o.success} {o.artifact.path.text}  ({o.artifact.description})"

end Outcome

/-! ## One schema -/

/-- One step of a run. -/
structure Step where
  name : String
  success : Bool := true
  elapsed : Binary64
  detail : String
deriving DecidableEq, Repr

def Step.line (t : Step) : String :=
  let name := padRight 28 ' ' t.name
  let elapsed := padLeft 7 ' ' (t.elapsed.fixed 3)
  s!"    {tick t.success} {name} {elapsed}s  {t.detail}"

structure Report where
  success : Bool := false
  source : String := ""
  entity : String := ""
  table : String := ""
  root : String := ""
  dryRun : Bool := false
  outcomes : List Outcome := []
  totalBytes : Int := 0
  totalLines : Int := 0
  elapsed : Binary64 := .zero false
  steps : List Step := []

namespace Report

def written (r : Report) : List Path := (r.outcomes.filter (·.success)).map (·.target)

/-- A report in one sentence. -/
def description (r : Report) : String :=
  let verb := if r.dryRun then "Planned" else "Generated"
  s!"{verb} {r.written.length} artifact(s) for {r.entity} (table {r.table}): "
    ++ s!"{signedByThousands r.totalLines} lines, {signedByThousands r.totalBytes} bytes."

def stepLines (r : Report) : List String :=
  if r.steps.isEmpty then [] else ["  Pipeline Steps:"] ++ r.steps.map Step.line ++ [lightRule]

def lines (r : Report) : List String :=
  let status := if r.success then "✅ SUCCESS" else "❌ FAILED"
  [
    heavyRule,
    "  APIForge — Generation Report",
    heavyRule,
    s!"  Status:           {status}",
    s!"  Schema:           {r.source}",
    s!"  Entity:           {r.entity} ({r.table})",
    s!"  Root:             {r.root}",
    s!"  Files:            {r.written.length}",
    s!"  Total lines:      {signedByThousands r.totalLines}",
    s!"  Total time:       {r.elapsed.fixed 3}s"]
  ++ (if r.dryRun then ["  Mode:             dry run (nothing written)"] else [])
  ++ [lightRule] ++ r.stepLines ++ ["  Files:"] ++ r.outcomes.map Outcome.line ++ [heavyRule]

def summary (r : Report) : String := "\n".intercalate r.lines

end Report

/-! ## Several schemas -/

/-- What became of one schema of a batch. -/
structure BatchEntry where
  source : String
  success : Bool
  report : Option Report := none
  failure : Option Failure := none

structure BatchReport where
  entries : List BatchEntry := []
  elapsed : Binary64 := .zero false

namespace BatchEntry

/-- The entry of a schema whose files were made. -/
def done (source : String) (report : Report) : BatchEntry :=
  { source, success := true, report := some report }

/-- The entry of a schema that failed. -/
def failed (source : String) (failure : Failure) : BatchEntry :=
  { source, success := false, failure := some failure }

def reason (e : BatchEntry) : String :=
  match e.failure with
  | some failure => failure.message
  | none => "unknown error"

def line (e : BatchEntry) : String := s!"    ✗ {(Path.ofString e.source).name}: {e.reason}"

end BatchEntry

namespace BatchReport

def success (b : BatchReport) : Bool := b.entries.all (·.success)

def succeeded (b : BatchReport) : List BatchEntry := b.entries.filter (·.success)

def failed (b : BatchReport) : List BatchEntry := b.entries.filter fun e => !e.success

def failureLines (b : BatchReport) : List String :=
  if b.failed.isEmpty then []
  else [lightRule, s!"  Failures ({b.failed.length}):"] ++ b.failed.map BatchEntry.line

def lines (b : BatchReport) : List String :=
  [
    heavyRule,
    "  APIForge — Batch Report",
    heavyRule,
    s!"  Schemas:          {b.entries.length}",
    s!"  Succeeded:        {b.succeeded.length}",
    s!"  Failed:           {b.failed.length}",
    s!"  Total time:       {b.elapsed.fixed 3}s"]
  ++ b.failureLines ++ [heavyRule]

def summary (b : BatchReport) : String := "\n".intercalate b.lines

end BatchReport

/-! ## Schemas that are only checked -/

structure Verdict where
  source : String
  valid : Bool
  message : String := ""
  entity : String := ""
deriving DecidableEq, Repr

structure ValidationReport where
  entries : List Verdict := []
deriving DecidableEq, Repr

namespace Verdict

def line (v : Verdict) : String :=
  s!"  {tick v.valid} {v.source}: {if v.valid then v.entity else v.message}"

end Verdict

namespace ValidationReport

def valid (r : ValidationReport) : Bool := r.entries.all (·.valid)

def exitCode (r : ValidationReport) : Nat := if r.valid then 0 else 1

def lines (r : ValidationReport) : List String :=
  let invalid := (r.entries.filter fun v => !v.valid).length
  r.entries.map Verdict.line ++ [s!"{r.entries.length} schema(s) checked, {invalid} invalid."]

def summary (r : ValidationReport) : String := "\n".intercalate r.lines

end ValidationReport
end Scaffold
