import Scaffold.Command.Words
import Scaffold.Journal

/-!
# What the command line asks for

Settings and operands are taken from left to right. The first misuse ends the reading, and so does a
setting that only asks for information; words that nobody wants are told at the end.
-/
namespace Scaffold.Command

/-- The settings as they were given. -/
structure Given where
  verbose : Nat := 0
  quiet : Bool := false
  root : String := "."
  config : Option String := none
  dryRun : Bool := false
deriving DecidableEq, Repr

def Given.hearing (g : Given) : Hearing :=
  if g.quiet then .nothing
  else match g.verbose with
    | 0 => .warnings
    | 1 => .mostly
    | _ => .all

structure Invocation where
  given : Given
  verb : Verb
  schemas : List String
deriving DecidableEq, Repr

/-- Why nothing is to be done. -/
inductive Halt
  | misuse (g : Grammar) (m : Misuse)
  | help (g : Grammar)
  | version
deriving DecidableEq, Repr

/-- Takes a setting; a remark on one of two that exclude each other names the later one first. -/
def Given.take (given : Given) (g : Grammar) (s : Setting) (value : String) :
    Except Halt Given :=
  match s with
  | .help => .error (.help g)
  | .version => .error .version
  | .verbose =>
    if given.quiet then .error (.misuse g (.excluded .verbose .quiet))
    else .ok { given with verbose := given.verbose + 1 }
  | .quiet =>
    if 0 < given.verbose then .error (.misuse g (.excluded .quiet .verbose))
    else .ok { given with quiet := true }
  | .root => .ok { given with root := value }
  | .config => .ok { given with config := some value }
  | .dryRun => .ok { given with dryRun := true }

/-- Settings behind one dash, with the part of the word that is none of them. -/
structure Cluster where
  settings : List Setting
  rest : Option String := none

/-- The settings of the letters after that of `s`. -/
def cluster (g : Grammar) (s : Setting) : List Char → Except Misuse Cluster
  | [] => .ok ⟨[s], none⟩
  | '-' :: rest => .error (.valueUnwanted s (String.ofList ('-' :: rest)))
  | c :: rest =>
    match g.spellings.lookup (String.ofList ['-', c]), rest with
    | none, _ => .ok ⟨[s], some (String.ofList ('-' :: c :: rest))⟩
    | some next, '=' :: value => .error (.valueUnwanted next (String.ofList value))
    | some next, rest => do
      let others ← cluster g next rest
      return { others with settings := s :: others.settings }

/-- What was read. -/
structure Readout where
  given : Given
  operands : Option (List String) := none
  extras : List String := []
deriving DecidableEq, Repr

/-- The operands that begin at a word, and the words after them. -/
def operandsAt (o : Operand) (ws : List Word) : Option (List String × List Word) :=
  let isSeparator (w : Word) : Bool := w.meaning = .separator
  let isPlain (w : Word) : Bool := w.meaning = .operand || isSeparator w
  let marks := ws.takeWhile isSeparator
  match ws.dropWhile isSeparator with
  | w :: rest =>
    if w.meaning ≠ .operand then none
    else
      let (more, rest) := match o with
        | .command => (rest, [])
        | .schema => rest.span isSeparator
        | .schemas => rest.span isPlain
      let texts := (marks ++ w :: more).map (·.text)
      some (if o = .command then texts else texts.erase "--", rest)
  | [] => none

/-- Reads words from left to right; each step takes at least one word. -/
def read (g : Grammar) : Nat → Readout → List Word → Except Halt Readout
  | 0, r, _ => .ok r
  | _, r, [] => .ok r
  | steps + 1, r, w :: rest =>
    let misuse {α : Type} (m : Misuse) : Except Halt α := .error (.misuse g m)
    match w.meaning with
    | .unknown => read g steps { r with extras := r.extras ++ [w.text] } rest
    | .setting s attached =>
      match s.takesValue, attached with
      | true, .value value => do
        read g steps { r with given := ← r.given.take g s value } rest
      | true, _ =>
        match rest with
        | ⟨value, .operand⟩ :: rest => do
          read g steps { r with given := ← r.given.take g s value } rest
        | _ => misuse (.valueMissing s)
      | false, .value value => misuse (.valueUnwanted s value)
      | false, .nothing => do read g steps { r with given := ← r.given.take g s "" } rest
      | false, .letters cs =>
        match cluster g s cs with
        | .error m => misuse m
        | .ok c => do
          let given ← c.settings.foldlM (fun given s => given.take g s "") r.given
          read g steps { r with given, extras := r.extras ++ c.rest.toList } rest
    | _ =>
      match if r.operands.isNone then operandsAt g.operand (w :: rest) else none with
      | some (operands, rest) => read g steps { r with operands := some operands } rest
      | none => read g steps { r with extras := r.extras ++ [w.text] } rest

/-- Reads a command line by one grammar, which wants its operand. -/
def readAll (g : Grammar) (given : Given) (args : List String) :
    Except Halt (Given × List String × List String) := do
  match words g args with
  | .error m => throw (.misuse g m)
  | .ok ws =>
    let r ← read g (ws.length + 1) { given } ws
    match r.operands with
    | some operands => return (r.given, operands, r.extras)
    | none => throw (.misuse g (.operandMissing g.operand))

/-- What the arguments ask for. -/
def invocation (args : List String) : Except Halt Invocation := do
  let (given, operands, extras) ← readAll .whole {} args
  let word := operands.headD ""
  match Verb.ofName? word with
  | none => throw (.misuse .whole (.unknownCommand word))
  | some verb =>
    let (given, schemas, others) ← readAll (.ofVerb verb) given operands.tail
    if (extras ++ others).isEmpty then return { given, verb, schemas }
    else throw (.misuse .whole (.unrecognized (extras ++ others)))

end Scaffold.Command
