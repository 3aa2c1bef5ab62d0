import Scaffold.Yaml.Fault
import Scaffold.Yaml.Node

/-!
# Merge keys

A mapping takes in the entries of the mappings that its merge keys name. Its own entries come after
them and win, and of a list of mappings the first wins. What a merge key has named once is part of
the mapping from then on.
-/
namespace Scaffold.Yaml

abbrev NodeEntries := List (NodeId × NodeId)

namespace Graph

def isMerge (g : Graph) (e : NodeId × NodeId) : Bool := g.tag e.1 = .merge

/-- Takes the first merge key out of a mapping, together with what it names. -/
def takeMerge? (g : Graph) (id : NodeId) : Option (NodeId × Graph) :=
  let entries := g.entries id
  (entries.find? g.isMerge).map fun e =>
    (e.2, g.set id ((g.node id).withEntries (entries.eraseP g.isMerge)))

/-- Puts entries before those of a mapping. -/
def prepend (g : Graph) (id : NodeId) (entries : NodeEntries) : Graph :=
  g.set id ((g.node id).withEntries (entries ++ g.entries id))

/-- A key `=` is a text. -/
def asTextKey (g : Graph) (e : NodeId × NodeId) : Graph :=
  if g.tag e.1 = .value then g.set e.1 ((g.node e.1).withTag .text) else g

/-- The entries of a mapping after a change that merges its own merge keys first. -/
def mergedEntries (merge : Graph → NodeId → Except Fault Graph) (g : Graph) (id : NodeId) :
    Except Fault (NodeEntries × Graph) :=
  match g.node id with
  | .mapping .. => do
    let g ← merge g id
    return (g.entries id, g)
  | _ => .error .malformed

/-- The entries that a merge key stands for. -/
def sourceEntries (merge : Graph → NodeId → Except Fault Graph) (g : Graph) (source : NodeId) :
    Except Fault (NodeEntries × Graph) :=
  match g.node source with
  | .sequence _ items =>
    items.foldlM (fun (later, g) id => do
      let (entries, g) ← mergedEntries merge g id
      return (entries ++ later, g)) ([], g)
  | _ => mergedEntries merge g source

/-- Does away with the merge keys of a mapping. Each step takes one merge key out of the document,
also where a mapping merges itself. -/
def merge : Nat → Graph → NodeId → Except Fault Graph
  | 0, _, _ => .error .malformed
  | steps + 1, g, id =>
    match g.takeMerge? id with
    | none => .ok ((g.entries id).foldl asTextKey g)
    | some (source, g) => do
      let (entries, g) ← sourceEntries (merge steps) g source
      let g ← merge steps g id
      return g.prepend id entries

end Graph
end Scaffold.Yaml
