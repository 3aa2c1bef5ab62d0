import Scaffold.Digest.Sha256
import Scaffold.Loading
import Scaffold.Report

/-!
# Emission

Artifacts are written one after the other below a root. Each attempt has its outcome: an artifact
that cannot be written is a failure of that artifact only, and those written before it stay.
-/
namespace Scaffold

/-- What goes on when directories lie too deep. -/
def makingText : String := "while calling a Python object"

/-- Writes a text to a path and makes the directories above it; gives the number of bytes. -/
def writeText (atomic : Bool) (p : Path) (s : String) : Run (Except FileSystem.Fault Nat) := do
  let w ← get
  let cwd := w.directory
  let content := s.toUTF8
  if Loading.hasNull p.parent.text then Run.breakDown .nullCharacter
  if FileSystem.depthLimit < w.files.missingLevels cwd p.parent then
    Run.breakDown (.tooDeep makingText)
  match ← Run.change (FileSystem.makeDirectory cwd p.parent) with
  | .error fault => return .error fault
  | .ok _ =>
    Run.note .debug .tools s!"Ensured directory exists: {p.parent.text}"
    if Loading.hasNull p.name then Run.breakDown .nullCharacter
    let write := if atomic then FileSystem.writeWhole else FileSystem.writeInto
    match ← Run.change (write cwd p content) with
    | .error fault => return .error fault
    | .ok _ =>
      Run.note .debug .tools s!"Wrote {content.size} bytes to {p.text}"
      return .ok content.size

/-- A path from the root of the file system. -/
def resolve (p : Path) : Run Path := do
  if Loading.hasNull p.text then Run.breakDown .nullCharacter
  let w ← get
  return ⟨.absolute, (FileSystem.absolute w.directory p).names⟩

def truthText (b : Bool) : String := if b then "True" else "False"

structure Emitter where
  root : Path
  dryRun : Bool := false
  overwrite : Bool := true
  atomic : Bool := true
deriving DecidableEq, Repr

namespace Emitter

/-- The emitter of a root that may be relative. -/
def start (e : Emitter) : Run Emitter := do
  let root ← resolve e.root
  Run.note .debug .emitter (s!"FileEmitter initialised: root={root.text}, "
    ++ s!"dry_run={truthText e.dryRun}, overwrite={truthText e.overwrite}.")
  return { e with root }

def refused (a : Artifact) (target : Path) (reason : String) : Run Outcome := do
  let failure := Failure.unwritten target.text reason
  Run.note .error .emitter failure.message
  return { artifact := a, target, failure := some failure }

/-- Writes an artifact. -/
def write (e : Emitter) (a : Artifact) (target : Path) : Run Outcome := do
  match ← writeText e.atomic target a.content with
  | .error fault => refused a target s!"{fault.kind}: {fault.message}"
  | .ok bytes =>
    Run.note .info .emitter s!"Wrote {a.path.text} ({bytes} bytes, {a.lineCount} lines)."
    return { artifact := a, target, bytes, digest := Digest.sha256 a.content.toUTF8 }

/-- What becomes of an artifact whose text can be encoded. -/
def emitWhole (e : Emitter) (a : Artifact) : Run Outcome := do
  let target := e.root.join a.path
  if e.dryRun then
    Run.note .info .emitter s!"[dry-run] would write {a.path.text}"
    return { artifact := a, target, digest := Digest.sha256 a.content.toUTF8 }
  if e.overwrite then e.write a target
  else if ← Loading.isThere target then
    refused a target "already exists and overwrite is disabled"
  else e.write a target

/-- What becomes of one artifact. Its text is summed up before anything else is done, so half of a
character ends a dry run as well. -/
def emitOne (e : Emitter) (a : Artifact) : Run Outcome := do
  if a.half then Run.breakDown .halfCharacter
  e.emitWhole a

theorem emitOne_of_half (e : Emitter) {a : Artifact} (h : a.half = true) :
    e.emitOne a = Run.breakDown .halfCharacter := by
  unfold emitOne
  rw [if_pos h]
  rfl

theorem emitOne_of_whole (e : Emitter) {a : Artifact} (h : a.half = false) :
    e.emitOne a = e.emitWhole a := by
  unfold emitOne
  rw [if_neg (Bool.eq_false_iff.1 h)]

/-- The outcomes of artifacts in order; those after a failure are left out if it is to stop them. -/
def outcomes (e : Emitter) (failFast : Bool) : List Artifact → Run (List Outcome)
  | [] => pure []
  | a :: rest => do
    let outcome ← e.emitOne a
    if !outcome.success && failFast then
      Run.note .debug .emitter s!"fail_fast: stopping after {outcome.target.text}."
      return [outcome]
    else return outcome :: (← e.outcomes failFast rest)

/-- Writes artifacts and tells how many were written. -/
def emit (e : Emitter) (failFast : Bool) (artifacts : List Artifact) : Run (List Outcome) := do
  let (outcomes, elapsed) ← Run.timed "emit" (e.outcomes failFast artifacts)
  let written := (outcomes.filter (·.success)).length
  let failed := outcomes.length - written
  if failed = 0 then
    let mode := if e.dryRun then " (dry run)" else ""
    Run.note .info .emitter s!"Emitted {written} artifact(s){mode} in {elapsed.fixed 3}s."
  else
    Run.note .error .emitter
      s!"Emitted {written} artifact(s), {failed} failed, in {elapsed.fixed 3}s."
  return outcomes

end Emitter
end Scaffold
