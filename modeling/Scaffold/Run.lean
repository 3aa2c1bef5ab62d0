import Scaffold.Failure
import Scaffold.FileSystem
import Scaffold.Journal
import Scaffold.Timer
import Scaffold.Yaml.Fault

/-!
# Runs

A run works on a file system and keeps a journal. It can end with a failure, which a batch records
before it goes on, or break down, which ends the whole batch; the files that it wrote stay.
-/
namespace Scaffold

open Number Calendar

/-- What nobody provides for. -/
inductive Breakdown
  | storage (fault : FileSystem.Fault)
  | nullCharacter
  /-- Half of a character is to be written. -/
  | halfCharacter
  /-- A numeral is too long to be read, or, without a count, to be written. -/
  | tooManyDigits (count : Option Nat)
  /-- Something lies inside too many others of its kind. -/
  | tooDeep (activity : String)
  | value (fault : Yaml.Fault)
  /-- An error of other software, by its class. -/
  | foreign (error message : String)
deriving DecidableEq, Repr

def Breakdown.message : Breakdown → String
  | .storage fault => fault.message
  | .nullCharacter => "embedded null byte"
  | .halfCharacter => "surrogates not allowed"
  | .tooManyDigits (some count) => Document.Json.tooManyDigitsText count
  | .tooManyDigits none => longNumeralText ++ "; " ++ longNumeralAdvice
  | .tooDeep activity => Document.Json.depthText ++ activity
  | .value fault => fault.message
  | .foreign _ message => message

/-- How a run can end before its time. -/
inductive Stop
  | failure (f : Failure)
  | breakdown (b : Breakdown)

/-- All that a run sees and changes. -/
structure World where
  files : FileSystem
  /-- The working directory. -/
  directory : Location := []
  now : DateTime
  /-- In which order sets are gone through; it may be another one in another process. -/
  order : Document.SetOrder := .asWritten
  /-- The reading of the clock that times the steps; it stands still during a run. -/
  reading : Binary64 := .zero false
  journal : List Remark := []

abbrev Run := ExceptT Stop (StateM World)

namespace Run

variable {α : Type}

def start (act : Run α) (w : World) : Except Stop α × World := act.run.run w

def fail (f : Failure) : Run α := throw (.failure f)

def breakDown (b : Breakdown) : Run α := throw (.breakdown b)

/-- Adds a remark to the journal. -/
def note (level : Level) (speaker : Speaker) (message : String) : Run Unit :=
  modify fun w => { w with journal := w.journal ++ [⟨level, speaker, message⟩] }

/-- The result of a run, however it ends. -/
def settle (act : Run α) : Run (Except Stop α) := ExceptT.mk (Except.ok <$> act.run)

/-- A run that may fail; a breakdown is passed on. -/
def attempt (act : Run α) : Run (Except Failure α) := do
  match ← settle act with
  | .ok a => return .ok a
  | .error (.failure f) => return .error f
  | .error (.breakdown b) => breakDown b

/-- Changes the files. -/
def change (c : Change α) : Run (Except FileSystem.Fault α) := do
  let w ← get
  let (result, files) := c.run.run w.files
  set { w with files }
  return result

/-- Changes the files, where a refusal is a breakdown. -/
def demand (c : Change α) : Run α := do
  match ← change c with
  | .ok a => return a
  | .error fault => breakDown (.storage fault)

/-- What is known about a path of which a refusal is a breakdown. -/
def inquire (p : Path) (answer : Except Refused α) : Run α :=
  match answer with
  | .ok a => pure a
  | .error reason => breakDown (.storage ⟨reason, p.text, none⟩)

/-- A run and the time that it takes; the journal tells the time even if the run stops. -/
def timed (label : String) (act : Run α) : Run (α × Binary64) := do
  let before ← get
  let result ← settle act
  let after ← get
  let timer := Timer.between label before.reading after.reading
  note .debug .tools timer.remark
  match result with
  | .ok a => return (a, timer.elapsed)
  | .error stop => throw stop

end Run
end Scaffold
