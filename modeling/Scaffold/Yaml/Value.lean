import Scaffold.Yaml.Graph
import Scaffold.Yaml.Merge
import Scaffold.Yaml.Scalar

/-!
# Values of nodes

A collection is first made empty and filled once everything found before it is made, so of several
faults the one nearest to the root counts, and on one level the first. A node has one value,
wherever it stands. A collection that is part of itself has no end; it is unrolled as far as anyone
looks into it.
-/
namespace Scaffold.Yaml

/-- The value of a node, where the values of its parts are named by their numbers. -/
inductive Content
  /-- A number that is none differs from every other, and is known by the node that it comes
  from. -/
  | scalar (d : Document) (origin : Option NodeId)
  | list (items : List NodeId)
  | pairs (entries : NodeEntries)
  | set (keys : List NodeId)
  | map (entries : NodeEntries)
deriving Inhabited

namespace Content

def parts : Content → List NodeId
  | .scalar .. => []
  | .list items => items
  | .pairs entries => entries.flatMap fun e => [e.1, e.2]
  | .set keys => keys
  | .map entries => entries.flatMap fun e => [e.1, e.2]

/-- What makes two keys the same; a collection cannot be a key. -/
def identity? : Content → Option (Document.Key × Option NodeId)
  | .scalar d origin => d.key?.map fun key => (key, origin)
  | _ => none

/-- The value of a node, given those of its parts. -/
def document (value : NodeId → Document) : Content → Document
  | .scalar d _ => d
  | .list items => .list (items.map value)
  | .pairs entries => .list (entries.map fun e => .list [value e.1, value e.2])
  | .set keys => .set (keys.map value)
  | .map entries => .map (entries.map fun e => (value e.1, value e.2))

/-- The value without any parts. -/
def blank : Content → Document
  | .scalar d _ => d
  | .list _ | .pairs _ => .list []
  | .set _ => .set []
  | .map _ => .map []

theorem document_eq_blank {value : NodeId → Document} {c : Content} (h : c.parts = []) :
    c.document value = c.blank := by
  cases c with
  | scalar => rfl
  | list items => simp_all [parts, document, blank]
  | pairs entries => cases entries <;> simp_all [parts, document, blank]
  | set keys => simp_all [parts, document, blank]
  | map entries => cases entries <;> simp_all [parts, document, blank]

theorem document_congr {f g : NodeId → Document} {c : Content} (h : ∀ id ∈ c.parts, f id = g id) :
    c.document f = c.document g := by
  cases c with
  | scalar => rfl
  | list items => simpa [document, parts] using h
  | pairs entries =>
    simp only [parts, List.mem_flatMap] at h
    simp only [document, Document.list.injEq, List.map_inj_left]
    intro e he
    rw [h e.1 ⟨e, he, by simp⟩, h e.2 ⟨e, he, by simp⟩]
  | set keys => simpa [document, parts] using h
  | map entries =>
    simp only [parts, List.mem_flatMap] at h
    simp only [document, Document.map.injEq, List.map_inj_left]
    intro e he
    rw [h e.1 ⟨e, he, by simp⟩, h e.2 ⟨e, he, by simp⟩]

end Content

/-! ## Making values -/

/-- The nodes, the values that are made, and the collections that are still to be filled, the last
one first. -/
structure Making where
  graph : Graph
  contents : Array (Option Content)
  unfilled : List NodeId := []

abbrev Make := StateT Making (Except Fault)

namespace Making

def content? (m : Making) (id : NodeId) : Option Content := m.contents.getD id none

def put (m : Making) (id : NodeId) (c : Content) : Making :=
  { m with contents := m.contents.setIfInBounds id (some c) }

def start (g : Graph) : Making := { graph := g, contents := Array.replicate g.size none }

end Making

namespace Make

def fault {α : Type} (f : Fault) : Make α := StateT.lift (.error f)

def put (id : NodeId) (c : Content) : Make Unit := modify fun m => m.put id c

/-- The letters of a scalar; a mapping stands for the scalar under its key `=`. As many steps as
there are nodes lead to a scalar or around in a circle. -/
def letters (g : Graph) : Nat → NodeId → Except Fault (List Letter)
  | 0, _ => .error .endless
  | steps + 1, id =>
    match g.node id with
    | .scalar _ letters => .ok letters
    | .sequence .. => .error .malformed
    | .mapping _ entries =>
      match entries.find? fun e => g.tag e.1 = .value with
      | some (_, v) => letters g steps v
      | none => .error .malformed

/-- Whether nodes with a tag have values. -/
def hasValues : Tag → Bool
  | .merge | .value | .unknown => false
  | _ => true

/-- The value of a scalar. The form of a time is looked for in the node itself. -/
def scalar (g : Graph) (id : NodeId) : Except Fault Content := do
  unless hasValues (g.tag id) do throw .malformed
  let letters ← letters g (g.size + 1) id
  match g.node id with
  | .mapping .timestamp _ => throw .timeInMapping
  | n =>
    let d ← Scalar.value n.tag letters
    return .scalar d (if Scalar.isOwnNan d (Letter.text letters) then some id else none)

/-- A collection of the kind that a tag asks for, without parts. -/
def collection? : Tag → Option Content
  | .sequence => some (.list [])
  | .mapping => some (.map [])
  | .set => some (.set [])
  | .orderedMap | .pairs => some (.pairs [])
  | _ => none

/-- Makes the value of a node, unless it is made already; a collection is left empty. -/
def begin (id : NodeId) : Make Unit := do
  let m ← get
  if (m.content? id).isNone then
    match collection? (m.graph.tag id) with
    | some c => set { m.put id c with unfilled := id :: m.unfilled }
    | none => put id (← StateT.lift (scalar m.graph id))

/-- Makes an entry of a mapping, whose key has to be able to be one. -/
def beginEntry (e : NodeId × NodeId) : Make Unit := do
  begin e.1
  let m ← get
  if ((m.content? e.1).bind Content.identity?).isNone then fault .malformed
  begin e.2

/-- The entries of a mapping: of those with the same key the first gives the key and the last the
value. -/
def assigned (m : Making) (entries : NodeEntries) : NodeEntries :=
  let identity (id : NodeId) := (m.content? id).bind Content.identity?
  entries.foldl (fun before e => Document.insertBy identity e.1 e.2 before) []

/-- Makes the entries of a mapping once it has no merge keys. -/
def entries (id : NodeId) : Make NodeEntries := do
  let m ← get
  let g ← StateT.lift (Graph.merge (m.graph.entryCount + 1) m.graph id)
  set { m with graph := g }
  (g.entries id).forM beginEntry
  return assigned (← get) (g.entries id)

/-- Makes an item of a list of pairs, which is a mapping of one entry. -/
def beginPair (id : NodeId) : Make (NodeId × NodeId) := do
  match (← get).graph.node id with
  | .mapping _ [e] => do
    begin e.1
    begin e.2
    return e
  | _ => fault .malformed

/-- Fills a collection, which has to be a node of the form that its tag asks for. -/
def fill (id : NodeId) : Make Unit := do
  match (← get).graph.node id with
  | .sequence .sequence items => do
    items.forM begin
    put id (.list items)
  | .sequence .orderedMap items | .sequence .pairs items => do
    put id (.pairs (← items.mapM beginPair))
  | .mapping .mapping _ => do put id (.map (← entries id))
  | .mapping .set _ => do put id (.set ((← entries id).map (·.1)))
  | _ => fault .malformed

/-- Fills the collections that are found until there are none left. Each round fills at least one
and no collection is found twice. -/
def fillAll : Nat → Make Unit
  | 0 => pure ()
  | rounds + 1 => do
    let found := (← get).unfilled.reverse
    unless found.isEmpty do
      modify fun m => { m with unfilled := [] }
      found.forM fill
      fillAll rounds

end Make

/-! ## Unrolling -/

/-- The value of a node down to some level; below it collections are empty. -/
def unroll (content : NodeId → Content) : Nat → NodeId → Document
  | 0, id => (content id).blank
  | levels + 1, id => (content id).document (unroll content levels)

/-- Whether nothing lies deeper than some level. -/
def endsWithin (content : NodeId → Content) : Nat → NodeId → Bool
  | 0, id => (content id).parts.isEmpty
  | levels + 1, id => (content id).parts.all (endsWithin content levels)

/-- Beyond the deepest level there is nothing to unroll. -/
theorem unroll_add {content : NodeId → Content} {levels : Nat} {id : NodeId}
    (h : endsWithin content levels id) (more : Nat) :
    unroll content (levels + more) id = unroll content levels id := by
  induction levels generalizing id with
  | zero =>
    have h : (content id).parts = [] := by simpa [endsWithin] using h
    cases more with
    | zero => rfl
    | succ more => simp [unroll, Content.document_eq_blank h]
  | succ levels ih =>
    rw [Nat.succ_add_eq_add_succ, Nat.add_succ, unroll, unroll]
    refine Content.document_congr fun part hp => ih ?_
    simp only [endsWithin, List.all_eq_true] at h
    exact h part hp

/-- How many levels of a document have a meaning: the deepest are the rules of a field, which are
in a field, in the list of the fields, in a schema. -/
def readLevels : Nat := 4

/-- The value of the node with a number. As many levels as there are nodes hold every document that
has an end. -/
def Graph.value (g : Graph) (root : NodeId) : Except Fault Document := do
  let make : Make Unit := do
    Make.begin root
    Make.fillAll (g.size + 1)
  let (_, m) ← make.run (.start g)
  let content (id : NodeId) : Content := (m.content? id).getD default
  return unroll content (if endsWithin content g.size root then g.size else readLevels) root

end Scaffold.Yaml
