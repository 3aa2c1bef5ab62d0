import Scaffold.Text.Pad

/-!
# The journal

What a run says while it works. Each remark has a level and the part of the program that speaks; a
listener hears the remarks from a level on.
-/
namespace Scaffold

inductive Level
  | debug
  | info
  | warning
  | error
deriving DecidableEq, Repr

namespace Level

def rank : Level → Nat
  | .debug => 1
  | .info => 2
  | .warning => 3
  | .error => 4

def name : Level → String
  | .debug => "DEBUG"
  | .info => "INFO"
  | .warning => "WARNING"
  | .error => "ERROR"

end Level

/-- The parts of the program that speak. -/
inductive Speaker
  | command
  | generator
  | loader
  | views
  | templates
  | emitter
  | tools
deriving DecidableEq, Repr

def Speaker.name : Speaker → String
  | .command => "apiforge"
  | .generator => "apiforge.generator"
  | .loader => "apiforge.loader"
  | .views => "apiforge.contexts"
  | .templates => "apiforge.templates"
  | .emitter => "apiforge.exporters"
  | .tools => "apiforge.utils"

structure Remark where
  level : Level
  speaker : Speaker
  message : String
deriving DecidableEq, Repr

/-- A remark as it is shown, with the time of day. -/
def Remark.line (time : String) (r : Remark) : String :=
  let level := Text.padRight 8 ' ' r.level.name
  s!"{time} │ {level} │ {r.speaker.name} │ {r.message}"

/-- From which level on remarks are heard. -/
inductive Hearing
  | all
  | mostly
  | warnings
  | nothing
deriving DecidableEq, Repr

namespace Hearing

def least : Hearing → Nat
  | .all => Level.debug.rank
  | .mostly => Level.info.rank
  | .warnings => Level.warning.rank
  | .nothing => Level.error.rank + 1

def hears (h : Hearing) (r : Remark) : Bool := h.least ≤ r.level.rank

end Hearing
end Scaffold
