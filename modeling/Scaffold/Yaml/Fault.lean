import Scaffold.Calendar.Date
import Scaffold.Document.Json
import Scaffold.Text.Literal

/-!
# Faults of YAML documents

Most faults are of form: the text is no document. The others are values that are written in the form
of their type and yet denote nothing.
-/
namespace Scaffold.Calendar.Fault

def message : Fault → String
  | .year n => s!"year {n} is out of range"
  | .month => "month must be in 1..12"
  | .day => "day is out of range for month"
  | .hour => "hour must be in 0..23"
  | .minute => "minute must be in 0..59"
  | .second => "second must be in 0..59"
  | .offset minutes =>
    "offset must be a timedelta strictly between -timedelta(hours=24) and timedelta(hours=24), not "
      ++ Document.spanText minutes ++ "."

end Scaffold.Calendar.Fault

namespace Scaffold.Yaml

inductive Fault
  | malformed
  | notTruth (text : String)
  | noDigits
  | notInteger (base : Nat) (text : String)
  | tooManyDigits (count : Nat)
  | notNumber (text : String)
  /-- A part that counts for more than any number. -/
  | tooLarge
  | notTime
  /-- A mapping stands where a time should be. -/
  | timeInMapping
  | time (fault : Calendar.Fault)
  /-- An escape for a number that is no code point. -/
  | codePoint (number : Nat)
  /-- A mapping that stands for a text which is the mapping itself. -/
  | endless
  /-- A collection inside too many others. -/
  | tooDeep
deriving DecidableEq, Repr

/-- How many characters of a text that is no whole number a message shows. -/
def shownLimit : Nat := 200

def Fault.message : Fault → String
  | .malformed => "<yaml error>"
  | .notTruth text => Text.Literal.readable text
  | .noDigits => "string index out of range"
  | .notInteger base text =>
    s!"invalid literal for int() with base {base}: "
      ++ String.ofList ((Text.Literal.readableChars text.toList).take shownLimit)
  | .tooManyDigits count => Document.Json.tooManyDigitsText count
  | .notNumber text => s!"could not convert string to float: {Text.Literal.readable text}"
  | .tooLarge => "int too large to convert to float"
  | .notTime => "'NoneType' object has no attribute 'groupdict'"
  | .timeInMapping => "expected string or bytes-like object, got 'list'"
  | .time fault => fault.message
  | .codePoint number =>
    if number < 0x80000000 then "chr() arg not in range(0x110000)"
    else "Python int too large to convert to C int"
  | .endless | .tooDeep => "maximum recursion depth exceeded"

end Scaffold.Yaml
