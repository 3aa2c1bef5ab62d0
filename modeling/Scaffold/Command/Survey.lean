import Scaffold.Command.Execution

/-!
# What a command can touch

The paths that a command reads and writes, found without writing anything. Whoever carries out a
command has to know what is at these paths and on the way to them, and nothing else.
-/
namespace Scaffold.Command

/-- The files that the command line names. -/
def Invocation.named (i : Invocation) : List Path :=
  (i.given.config.toList ++ i.schemas).map Path.ofString

/-- The targets of all artifacts that a run without writing makes. -/
def plan (i : Invocation) : Run (List Path) := do
  let g ← generator { i.given with dryRun := true }
  let report ← g.batch (i.schemas.map source)
  return report.entries.flatMap fun e =>
    (e.report.map fun r => r.outcomes.map (·.target)).getD []

/-- The files that a command writes if nothing keeps it. -/
def Invocation.targets (i : Invocation) (w : World) : List Path :=
  match i.verb, ((plan i).start w).1 with
  | .validate, _ => []
  | _, .ok targets => targets
  | _, .error _ => []

/-- Every place from the root down to where a path leads by name. -/
def placesTo (cwd : Location) (p : Path) : List Location :=
  let place := (FileSystem.absolute cwd p).names
  ((List.range place.length).map fun n => place.take (n + 1))

/-- What is different after a run, in the order in which it can be made. -/
def changes (before after : FileSystem) : List (Location × Entry) :=
  after.entries.filter fun (place, entry) =>
    match entry, before.get? place with
    | .directory, some .directory => false
    | .file new, some (.file old) => new != old
    | _, _ => true

end Scaffold.Command
