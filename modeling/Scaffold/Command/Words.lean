import Scaffold.Command.Grammar
import Scaffold.Text.Digit
import Scaffold.Text.Lines
import Scaffold.Text.Literal

/-!
# Words of the command line

A word is a setting if a grammar knows it or could know it. A long setting may be cut short as long
as only one begins that way, and may have its value after an equals sign; short ones may share a
dash. After two dashes nothing is a setting.
-/
namespace Scaffold.Command

/-- Why the command line says nothing. -/
inductive Misuse
  | ambiguous (word : String) (spellings : List String)
  | valueMissing (s : Setting)
  | valueUnwanted (s : Setting) (value : String)
  | excluded (s other : Setting)
  | unknownCommand (word : String)
  | operandMissing (o : Operand)
  | unrecognized (words : List String)
deriving DecidableEq, Repr

def Misuse.message : Misuse → String
  | .ambiguous word spellings =>
    s!"ambiguous option: {word} could match " ++ ", ".intercalate spellings
  | .valueMissing s => s!"argument {s.name}: expected one argument"
  | .valueUnwanted s value =>
    s!"argument {s.name}: ignored explicit argument {Text.Literal.readable value}"
  | .excluded s other => s!"argument {s.name}: not allowed with argument {other.name}"
  | .unknownCommand word =>
    s!"argument {Operand.command.name}: invalid choice: {Text.Literal.readable word} (choose from "
      ++ ", ".intercalate (Verb.all.map fun v => Text.Literal.readable v.name) ++ ")"
  | .operandMissing o => s!"the following arguments are required: {o.name}"
  | .unrecognized words => "unrecognized arguments: " ++ " ".intercalate words

/-- What is attached to a setting in its word. -/
inductive Attached
  | nothing
  /-- A value after an equals sign. -/
  | value (s : String)
  /-- Letters after the first one behind a single dash. -/
  | letters (cs : List Char)
deriving DecidableEq, Repr

inductive Meaning
  | operand
  /-- Two dashes by themselves. -/
  | separator
  | setting (s : Setting) (attached : Attached)
  | unknown
deriving DecidableEq, Repr

structure Word where
  text : String
  meaning : Meaning
deriving DecidableEq, Repr

/-- The parts of a word before and after its first equals sign. -/
def assignment? (cs : List Char) : Option (List Char × List Char) :=
  match cs.span (· ≠ '=') with
  | (before, _ :: after) => some (before, after)
  | _ => none

/-- A dash and digits of any script, perhaps with a point before the last of them. A line feed at
the end does not count. -/
def isNegativeNumber (cs : List Char) : Bool :=
  let isDigits (cs : List Char) : Bool := !cs.isEmpty && cs.all Text.isDecimal
  match Text.withoutFinalBreak cs with
  | '-' :: body => isDigits body || (match body.span Text.isDecimal with
    | (_, '.' :: rest) => isDigits rest
    | _ => false)
  | _ => false

/-- The settings that a word can be short for. -/
def candidates (g : Grammar) (cs : List Char) : List (String × Setting × Attached) :=
  match cs with
  | '-' :: '-' :: _ =>
    let (stem, attached) := match assignment? cs with
      | some (stem, value) => (stem, Attached.value (String.ofList value))
      | none => (cs, .nothing)
    (g.spellings.filter fun s => stem.isPrefixOf s.1.toList).map fun s => (s.1, s.2, attached)
  | dash :: letter :: rest =>
    (g.spellings.filter fun s => s.1.toList = [dash, letter]).map fun s =>
      (s.1, s.2, .letters rest)
  | _ => []

/-- What a word means that begins with a dash and is more than that. -/
def dashed (g : Grammar) (word : String) : Except Misuse Meaning :=
  let cs := word.toList
  let known (spelling : List Char) : Option Setting := g.spellings.lookup (String.ofList spelling)
  match known cs, (assignment? cs).bind fun (stem, value) => (known stem).map (·, value) with
  | some s, _ => .ok (.setting s .nothing)
  | none, some (s, value) => .ok (.setting s (.value (String.ofList value)))
  | none, none =>
    match candidates g cs with
    | [(_, s, attached)] => .ok (.setting s attached)
    | [] => .ok (if isNegativeNumber cs || cs.contains ' ' then .operand else .unknown)
    | several => .error (.ambiguous word (several.map (·.1)))

def meaning (g : Grammar) (word : String) : Except Misuse Meaning :=
  match word.toList with
  | '-' :: _ :: _ => dashed g word
  | _ => .ok .operand

/-- The words of a command line. -/
def words (g : Grammar) : List String → Except Misuse (List Word)
  | [] => .ok []
  | "--" :: rest => .ok (⟨"--", .separator⟩ :: rest.map (⟨·, .operand⟩))
  | word :: rest => do
    let m ← meaning g word
    return ⟨word, m⟩ :: (← words g rest)

end Scaffold.Command
