import Scaffold.Number.Decimal

/-!
# Timers

A labelled span of time, in seconds.
-/
namespace Scaffold

open Number

structure Timer where
  label : String := "operation"
  elapsed : Binary64
deriving DecidableEq, Repr

namespace Timer

/-- The time between two readings of a clock. -/
def between (label : String) (start stop : Binary64) : Timer := ⟨label, stop.sub start⟩

def text (t : Timer) : String := s!"<Timer {t.label}: {t.elapsed.fixed 4}s>"

/-- What a timer says when it stops. -/
def remark (t : Timer) : String := s!"Timer [{t.label}]: {t.elapsed.fixed 4} seconds"

end Timer
end Scaffold
