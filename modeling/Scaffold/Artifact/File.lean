import Scaffold.Artifact.Kind
import Scaffold.Path
import Scaffold.Text.Lines

/-!
# Artifacts as files

The text of an artifact with the place where it belongs, not written yet. A half of a character that
comes from a schema shows in the text as a stand-in; a text with a half cannot be encoded.
-/
namespace Scaffold

structure Artifact where
  kind : Artifact.Kind
  path : Path
  content : String
  description : String
  /-- Whether a stand-in in the text is half of a character. -/
  half : Bool := false
deriving DecidableEq, Repr

def Artifact.lineCount (a : Artifact) : Nat := Text.countLines a.content

end Scaffold
