import Scaffold.Command.Invocation
import Scaffold.Generation

/-!
# Carrying out a command

A command prints its report and ends with an exit code: 0 for success, 1 for an invalid schema or a
batch with failures, 2 for files that cannot be made or for misuse, 4 for input that cannot be
loaded.
-/
namespace Scaffold.Command

structure Result where
  exit : Nat
  output : String := ""
deriving DecidableEq, Repr

/-- The exit code of a failure. -/
def exitCode : Failure → Nat
  | .unreadable .. => 4
  | .malformed .. => 4
  | _ => 2

def failed (f : Failure) (exit : Nat) : Run Result := do
  Run.note .error .command f.message
  return { exit }

def printed (exit : Nat) (summary : String) : Result := ⟨exit, summary ++ "\n"⟩

/-- The generator that the settings describe. -/
def generator (given : Given) : Run Generator := do
  let config ← Loading.config given.config
  if given.dryRun then
    Run.note .info .command "Dry-run mode: files will not be written to disk."
  let g : Generator := { root := Path.ofString given.root, config, dryRun := given.dryRun }
  g.announce
  return g

def source (schema : String) : Source := .file (Path.ofString schema).text

def generateOne (given : Given) (schema : String) : Run Result := do
  let work : Run Report := do (← generator given).generate (source schema)
  match ← Run.attempt work with
  | .ok report => return printed 0 report.summary
  | .error f => failed f (exitCode f)

def generateSeveral (given : Given) (schemas : List String) : Run Result := do
  match ← Run.attempt (generator given) with
  | .error f => failed f 4
  | .ok g =>
    let report ← g.batch (schemas.map source)
    return printed (if report.success then 0 else 1) report.summary

def validateAll (schemas : List String) : Run Result := do
  Generator.announce { root := Path.ofString "." }
  let report ← Generator.validate (schemas.map source)
  return printed report.exitCode report.summary

def carryOut (i : Invocation) : Run Result :=
  match i.verb with
  | .generate => generateOne i.given (i.schemas.headD "")
  | .batch => generateSeveral i.given i.schemas
  | .validate => validateAll i.schemas

/-- Carries out a command and says how it ended. -/
def perform (i : Invocation) : Run Result := do
  let result ← carryOut i
  if result.exit = 0 then
    Run.note .info .command s!"{i.verb.name} completed successfully."
  else
    Run.note .error .command s!"{i.verb.name} failed with exit code {result.exit}."
  return result

/-- All that a command shows. -/
structure Reply where
  exit : Nat
  output : String
  remarks : String
deriving DecidableEq, Repr

def Halt.reply : Halt → Reply
  | .help g => ⟨0, g.helpText, ""⟩
  | .version => ⟨0, "APIForge v1.0.0\n", ""⟩
  | .misuse g m => ⟨2, "", g.usageText ++ s!"{g.program}: error: {m.message}\n"⟩

/-- Does what the arguments ask for. Remarks are shown with the time of day as far as they are
heard. -/
def run (time : String) (args : List String) : Run Reply := do
  match invocation args with
  | .error halt => return halt.reply
  | .ok i =>
    let before := (← get).journal.length
    let result ← perform i
    let remarks := ((← get).journal.drop before).filter i.given.hearing.hears
    return ⟨result.exit, result.output, Text.unlines (remarks.map (Remark.line time))⟩

end Scaffold.Command
