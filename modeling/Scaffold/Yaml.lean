import Scaffold.Yaml.Value

/-!
# Reading YAML

A text is cut into tokens, the tokens make a graph of nodes, and the nodes get their values. A text
without a document is null.
-/
namespace Scaffold.Yaml

/-- The document that a text denotes. -/
def parse (s : String) : Except Fault Document :=
  let cs := s.toList
  if cs.all isAllowed then do
    match ← Graph.ofTokens (tokens cs) with
    | some (g, root) => g.value root
    | none => return .null
  else .error .malformed

end Scaffold.Yaml
