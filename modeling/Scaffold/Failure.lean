import Scaffold.Document

/-!
# Failures

What can stop the making of the files for one schema. A failure names its place and says why; it is
recorded or reported, and other schemas go on.
-/
namespace Scaffold

inductive Failure
  /-- A document cannot be read. -/
  | unreadable (path reason : String)
  /-- A document does not hold what it should; one that was given directly has no source. -/
  | malformed (source : Option String) (detail : String)
  /-- A template does not give a text. -/
  | unrendered (template reason : String)
  /-- A file cannot be written. -/
  | unwritten (path reason : String)
  /-- Any other failure, with what is known about it. -/
  | other (message : String) (context : List (Document × Document))

def Failure.message : Failure → String
  | .unreadable path reason => s!"Cannot read schema '{path}': {reason}"
  | .malformed source detail =>
    match source.filter (· ≠ "") with
    | some source => s!"{source}: {detail}"
    | none => detail
  | .unrendered template reason => s!"Failed to render template '{template}': {reason}"
  | .unwritten path reason => s!"Failed to write '{path}': {reason}"
  | .other message _ => message

end Scaffold
