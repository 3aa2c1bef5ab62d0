import Scaffold.Number.Decimal
import Scaffold.Schema.Violation

/-!
# Checking with all problems at once

A checked value is the value itself or the list of everything that is wrong with its source. Parts
are combined so that no problem hides another, and each problem carries the path to its place.
-/
namespace Scaffold

/-- Why a value is refused. -/
inductive Refusal
  | missing
  | unknownKey
  | keyNotText
  | notText
  | unreadableText
  | emptyText
  | notTruth
  | unclearTruth
  | notWhole
  | unclearWhole
  | fractional
  | oversized
  | notFinite
  | notNumber
  | unclearNumber
  | tooSmall (least : Nat)
  | notList
  | notRecord (kind : String)
  | notChoice (choices : List String)
  /-- A whole number stands for its numeral, which is too long to be written. -/
  | longNumeral
  | violation (v : Violation)
deriving DecidableEq, Repr

/-- Alternatives in quotes: `'a', 'b' or 'c'`. -/
def alternatives (choices : List String) : String :=
  match choices.reverse.map fun c => s!"'{c}'" with
  | [] => ""
  | [only] => only
  | last :: before => ", ".intercalate before.reverse ++ " or " ++ last

def Refusal.message : Refusal → String
  | .missing => "Field required"
  | .unknownKey => "Extra inputs are not permitted"
  | .keyNotText => "Keys should be strings"
  | .notText => "Input should be a valid string"
  | .unreadableText =>
    "Input should be a valid string, unable to parse raw data as a unicode string"
  | .emptyText => "String should have at least 1 character"
  | .notTruth => "Input should be a valid boolean"
  | .unclearTruth => "Input should be a valid boolean, unable to interpret input"
  | .notWhole => "Input should be a valid integer"
  | .unclearWhole => "Input should be a valid integer, unable to parse string as an integer"
  | .fractional => "Input should be a valid integer, got a number with a fractional part"
  | .oversized => "Unable to parse input string as an integer, exceeded maximum size"
  | .notFinite => "Input should be a finite number"
  | .notNumber => "Input should be a valid number"
  | .unclearNumber => "Input should be a valid number, unable to parse string as a number"
  | .tooSmall least => s!"Input should be greater than or equal to {least}"
  | .notList => "Input should be a valid tuple"
  | .notRecord kind => s!"Input should be a valid dictionary or instance of {kind}"
  | .notChoice choices => "Input should be " ++ alternatives choices
  | .longNumeral =>
    "Value error, " ++ Number.longNumeralText ++ "; " ++ Number.longNumeralAdvice
  | .violation v => "Value error, " ++ v.message

/-- A refusal and the keys and positions that lead to the refused value. -/
structure Problem where
  path : List String
  refusal : Refusal
deriving DecidableEq, Repr

def Problem.under (step : String) (p : Problem) : Problem := { p with path := step :: p.path }

def Problem.message (p : Problem) : String :=
  let place := ".".intercalate p.path
  if place = "" then p.refusal.message else place ++ ": " ++ p.refusal.message

/-- One line for each problem. -/
def Problem.messages (problems : List Problem) : String :=
  "\n".intercalate (problems.map Problem.message)

inductive Checked (α : Type)
  | valid (value : α)
  | invalid (problems : List Problem)

namespace Checked

variable {α β : Type}

def refuse (r : Refusal) : Checked α := .invalid [⟨[], r⟩]

def problems : Checked α → List Problem
  | .valid _ => []
  | .invalid ps => ps

def value? : Checked α → Option α
  | .valid a => some a
  | .invalid _ => none

def map (f : α → β) : Checked α → Checked β
  | .valid a => .valid (f a)
  | .invalid ps => .invalid ps

/-- The problems of both sides are kept, those of the function first. -/
def ap (f : Checked (α → β)) (a : Checked α) : Checked β :=
  match f, a with
  | .valid f, .valid a => .valid (f a)
  | f, a => .invalid (f.problems ++ a.problems)

/-- A check of a value that has no problems of its own. -/
def thenCheck (a : Checked α) (check : α → Checked β) : Checked β :=
  match a with
  | .valid a => check a
  | .invalid ps => .invalid ps

/-- Further problems of the source, after those of the value. -/
def also (a : Checked α) (more : List Problem) : Checked α :=
  match a, more with
  | .valid a, [] => .valid a
  | a, more => .invalid (a.problems ++ more)

def under (step : String) : Checked α → Checked α
  | .valid a => .valid a
  | .invalid ps => .invalid (ps.map (Problem.under step))

instance : Functor Checked where
  map := map

instance : Applicative Checked where
  pure := valid
  seq f a := ap f (a ())

@[simp] theorem problems_valid (a : α) : (valid a).problems = [] := rfl

@[simp] theorem problems_invalid (ps : List Problem) :
    (invalid ps : Checked α).problems = ps := rfl

@[simp] theorem problems_map (f : α → β) (a : Checked α) : (map f a).problems = a.problems := by
  cases a <;> rfl

@[simp] theorem problems_ap (f : Checked (α → β)) (a : Checked α) :
    (ap f a).problems = f.problems ++ a.problems := by
  cases f <;> cases a <;> rfl

@[simp] theorem problems_under (step : String) (a : Checked α) :
    (under step a).problems = a.problems.map (Problem.under step) := by
  cases a <;> rfl

@[simp] theorem problems_also (a : Checked α) (more : List Problem) :
    (also a more).problems = a.problems ++ more := by
  cases a <;> cases more <;> rfl

/-- Checks every item and marks its problems with its position, counted from `start`. -/
def listFrom (check : β → Checked α) (start : Nat) : List β → Checked (List α)
  | [] => .valid []
  | b :: rest =>
    ap (map List.cons ((check b).under (toString start))) (listFrom check (start + 1) rest)

end Checked
end Scaffold
