import Scaffold.Yaml.Tag

/-!
# Nodes

The nodes of a document are numbered, and a collection names its parts by their numbers. So a node
can be part of several others, and a collection can be part of itself.
-/
namespace Scaffold.Yaml

/-- The number of a node in its document. -/
abbrev NodeId := Nat

inductive Node
  | scalar (tag : Tag) (letters : List Letter)
  | sequence (tag : Tag) (items : List NodeId)
  | mapping (tag : Tag) (entries : List (NodeId × NodeId))
deriving DecidableEq, Repr

namespace Node

/-- What is not written down is an empty scalar. -/
def empty : Node := .scalar .null []

instance : Inhabited Node := ⟨empty⟩

def tag : Node → Tag
  | .scalar tag _ => tag
  | .sequence tag _ => tag
  | .mapping tag _ => tag

def withTag (tag : Tag) : Node → Node
  | .scalar _ letters => .scalar tag letters
  | .sequence _ items => .sequence tag items
  | .mapping _ entries => .mapping tag entries

@[simp] theorem tag_withTag (tag : Tag) (n : Node) : (n.withTag tag).tag = tag := by
  cases n <;> rfl

def items : Node → List NodeId
  | .sequence _ items => items
  | _ => []

def entries : Node → List (NodeId × NodeId)
  | .mapping _ entries => entries
  | _ => []

/-- A mapping with other entries. -/
def withEntries (entries : List (NodeId × NodeId)) : Node → Node
  | .mapping tag _ => .mapping tag entries
  | n => n

end Node

/-- The nodes of a document, each at its number. -/
structure Graph where
  nodes : Array Node := #[]

namespace Graph

def size (g : Graph) : Nat := g.nodes.size

def node (g : Graph) (id : NodeId) : Node := g.nodes.getD id .empty

/-- One more node; its number is the size before. -/
def push (g : Graph) (n : Node) : Graph := ⟨g.nodes.push n⟩

def set (g : Graph) (id : NodeId) (n : Node) : Graph := ⟨g.nodes.setIfInBounds id n⟩

@[simp] theorem size_push (g : Graph) (n : Node) : (g.push n).size = g.size + 1 := by
  simp [size, push]

@[simp] theorem size_set (g : Graph) (id : NodeId) (n : Node) : (g.set id n).size = g.size := by
  simp [size, set]

theorem node_push (g : Graph) (n : Node) (id : NodeId) :
    (g.push n).node id = if id = g.size then n else g.node id := by
  simp only [node, push, size, Array.getD_eq_getD_getElem?, Array.getElem?_push]
  split <;> simp

theorem node_set (g : Graph) (id other : NodeId) (n : Node) :
    (g.set id n).node other = if other = id ∧ id < g.size then n else g.node other := by
  simp only [node, set, size, Array.getD_eq_getD_getElem?, Array.getElem?_setIfInBounds]
  grind

def tag (g : Graph) (id : NodeId) : Tag := (g.node id).tag

def entries (g : Graph) (id : NodeId) : List (NodeId × NodeId) := (g.node id).entries

/-- How many entries all mappings have together. -/
def entryCount (g : Graph) : Nat := g.nodes.foldl (fun count n => count + n.entries.length) 0

end Graph
end Scaffold.Yaml
