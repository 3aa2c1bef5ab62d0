import Scaffold.Yaml.Node
import Scaffold.Yaml.Token

/-!
# From tokens to nodes

An alias gives the number of the node that it names. A collection has its number before its parts
are read, so that they can name it too.
-/
namespace Scaffold.Yaml

/-- How many collections can lie in one another. -/
def nestingLimit : Nat := 490

/-- The nodes that were read, and the names that some of them have. -/
structure Sketch where
  graph : Graph := {}
  anchors : List (String × NodeId) := []
  /-- How many more collections can be opened before one is closed. -/
  levels : Nat := nestingLimit

namespace Sketch

def knows (s : Sketch) (anchor : Option String) : Bool :=
  anchor.any fun name => (s.anchors.lookup name).isSome

/-- Adds a node, which gets the next number. -/
def add (s : Sketch) (anchor : Option String) (n : Node) : NodeId × Sketch :=
  let id := s.graph.size
  let anchors := match anchor with
    | some name => (name, id) :: s.anchors
    | none => s.anchors
  (id, { s with graph := s.graph.push n, anchors })

def set (s : Sketch) (id : NodeId) (n : Node) : Sketch := { s with graph := s.graph.set id n }

/-- What tag handles stand for. -/
abbrev Handles := List (String × String)

def standardHandles : Handles := [("!", "!"), ("!!", standardTag "")]

/-- What comes before the content of a node. -/
structure Properties where
  anchor : Option String := none
  tag : Option String := none

def Properties.isEmpty (p : Properties) : Bool := p.anchor.isNone && p.tag.isNone

def Properties.scalarTag (p : Properties) (isPlain : Bool) (letters : List Letter) : Tag :=
  match p.tag with
  | some "!" => .ofPlain (Letter.text letters)
  | some tag => .ofText tag
  | none => if isPlain then .ofPlain (Letter.text letters) else .text

def Properties.collectionTag (p : Properties) (otherwise : Tag) : Tag :=
  match p.tag.filter (· ≠ "!") with
  | some tag => .ofText tag
  | none => otherwise

/-! ## Nodes -/

/-- What was read, with all nodes up to it, and the tokens that follow. -/
abbrev Found (α : Type) := α × Sketch × List Token

/-- The fault of a text that cannot go on with these tokens. -/
def unexpected (ts : List Token) : Fault :=
  match ts with
  | .fault f :: _ => f
  | _ => .malformed

def expect (t : Token) (ts : List Token) : Except Fault (List Token) :=
  match ts with
  | t' :: rest => if t' = t then .ok rest else .error (unexpected ts)
  | [] => .error .malformed

def resolveTag (handles : Handles) (t : TagText) : Except Fault String :=
  match t.handle with
  | none => .ok t.suffix
  | some handle => match handles.lookup handle with
    | some beginning => .ok (beginning ++ t.suffix)
    | none => .error .malformed

/-- Anchor and tag in either order. -/
def properties (handles : Handles) (ts : List Token) : Except Fault (Properties × List Token) :=
  match ts with
  | .anchor name :: .tag t :: rest => do
    let tag ← resolveTag handles t
    return (⟨some name, some tag⟩, rest)
  | .anchor name :: rest => .ok (⟨some name, none⟩, rest)
  | .tag t :: .anchor name :: rest => do
    let tag ← resolveTag handles t
    return (⟨some name, some tag⟩, rest)
  | .tag t :: rest => do
    let tag ← resolveTag handles t
    return (⟨none, some tag⟩, rest)
  | _ => .ok ({}, ts)

/-- Where a node stands: in brackets, in a block, or in a block mapping, where a sequence need not
be indented. -/
inductive Place
  | flow
  | block
  | mappingValue
deriving DecidableEq, Repr

/-- Whether nothing is written where a node is expected. -/
def isOmitted (enders : List Token) (ts : List Token) : Bool :=
  match ts with
  | t :: _ => enders.contains t
  | [] => false

def afterBlockEntry : List Token := [.blockEntry, .blockEnd]

def afterPlainEntry : List Token := [.blockEntry, .key, .value, .blockEnd]

def afterBlockKey : List Token := [.key, .value, .blockEnd]

def afterFlowKey (ending : Token) : List Token := [.value, .flowEntry, ending]

def afterFlowValue (ending : Token) : List Token := [.flowEntry, ending]

/-- A node that is written out at once. -/
def found (s : Sketch) (anchor : Option String) (n : Node) (rest : List Token) : Found NodeId :=
  let (id, s) := s.add anchor n
  (id, s, rest)

/-- Reads the parts of a collection, one level deeper. -/
def inside {α : Type} (s : Sketch) (read : Sketch → Except Fault (Found α)) :
    Except Fault (Found α) :=
  match s.levels with
  | 0 => .error .tooDeep
  | levels + 1 => do
    let (parts, inner, rest) ← read { s with levels }
    return (parts, { inner with levels := s.levels }, rest)

/-- A collection: it gets its number, then its parts are read. -/
def collection {α : Type} (s : Sketch) (p : Properties) (toNode : α → Node)
    (read : Sketch → Except Fault (Found α)) : Except Fault (Found NodeId) := do
  let (id, s) := s.add p.anchor .empty
  let (parts, s, rest) ← s.inside read
  return (id, s.set id (toNode parts), rest)

mutual

/-- One node. Each step spends one of the steps that the number of tokens allows. -/
def node (handles : Handles) (place : Place) :
    Nat → Sketch → List Token → Except Fault (Found NodeId)
  | 0, _, _ => .error .malformed
  | steps + 1, s, ts =>
    match ts with
    | .reference name :: rest =>
      match s.anchors.lookup name with
      | some id => .ok (id, s, rest)
      | none => .error .malformed
    | _ => do
      let (p, ts) ← properties handles ts
      if s.knows p.anchor then throw (unexpected ts)
      let asSequence := s.collection p (Node.sequence (p.collectionTag .sequence))
      let asMapping := s.collection p (Node.mapping (p.collectionTag .mapping))
      let nothing := if p.isEmpty then .error (unexpected ts)
        else .ok (s.found p.anchor (.scalar (p.scalarTag true []) []) ts)
      match place, ts with
      | .mappingValue, .blockEntry :: _ => asSequence fun s => plainEntries handles steps s ts
      | _, .scalar letters isPlain :: rest =>
        return s.found p.anchor (.scalar (p.scalarTag isPlain letters) letters) rest
      | _, .flowSequenceStart :: rest => asSequence fun s => flowItems handles true steps s rest
      | _, .flowMappingStart :: rest => asMapping fun s => flowEntries handles true steps s rest
      | .flow, _ => nothing
      | _, .blockSequenceStart :: rest => asSequence fun s => blockItems handles steps s rest
      | _, .blockMappingStart :: rest => asMapping fun s => blockEntries handles steps s rest
      | _, _ => nothing

/-- A node, or nothing before one of the tokens that end it. -/
def nodeOrEmpty (handles : Handles) (place : Place) (enders : List Token) :
    Nat → Sketch → List Token → Except Fault (Found NodeId)
  | 0, _, _ => .error .malformed
  | steps + 1, s, ts =>
    if isOmitted enders ts then .ok (s.found none .empty ts)
    else node handles place steps s ts

/-- Items of a block sequence. -/
def blockItems (handles : Handles) :
    Nat → Sketch → List Token → Except Fault (Found (List NodeId))
  | 0, _, _ => .error .malformed
  | steps + 1, s, ts =>
    match ts with
    | .blockEntry :: rest => do
      let (id, s, rest) ← nodeOrEmpty handles .block afterBlockEntry steps s rest
      let (others, s, rest) ← blockItems handles steps s rest
      return (id :: others, s, rest)
    | _ => do
      let rest ← expect .blockEnd ts
      return ([], s, rest)

/-- Items of a sequence that is not indented; it ends where no further item begins. -/
def plainEntries (handles : Handles) :
    Nat → Sketch → List Token → Except Fault (Found (List NodeId))
  | 0, _, _ => .error .malformed
  | steps + 1, s, ts =>
    match ts with
    | .blockEntry :: rest => do
      let (id, s, rest) ← nodeOrEmpty handles .block afterPlainEntry steps s rest
      let (others, s, rest) ← plainEntries handles steps s rest
      return (id :: others, s, rest)
    | _ => .ok ([], s, ts)

/-- The value of a block mapping after its key. -/
def blockValue (handles : Handles) : Nat → Sketch → List Token → Except Fault (Found NodeId)
  | 0, _, _ => .error .malformed
  | steps + 1, s, ts =>
    match ts with
    | .value :: rest => nodeOrEmpty handles .mappingValue afterBlockKey steps s rest
    | _ => .ok (s.found none .empty ts)

def blockEntries (handles : Handles) :
    Nat → Sketch → List Token → Except Fault (Found (List (NodeId × NodeId)))
  | 0, _, _ => .error .malformed
  | steps + 1, s, ts =>
    match ts with
    | .key :: rest => do
      let (k, s, rest) ← nodeOrEmpty handles .mappingValue afterBlockKey steps s rest
      let (v, s, rest) ← blockValue handles steps s rest
      let (others, s, rest) ← blockEntries handles steps s rest
      return ((k, v) :: others, s, rest)
    | _ => do
      let rest ← expect .blockEnd ts
      return ([], s, rest)

/-- Key and value in brackets after the mark of a key; either can be left out. -/
def flowPair (handles : Handles) (ending : Token) :
    Nat → Sketch → List Token → Except Fault (Found (NodeId × NodeId))
  | 0, _, _ => .error .malformed
  | steps + 1, s, ts => do
    let (k, s, rest) ← nodeOrEmpty handles .flow (afterFlowKey ending) steps s ts
    match rest with
    | .value :: rest => do
      let (v, s, rest) ← nodeOrEmpty handles .flow (afterFlowValue ending) steps s rest
      return ((k, v), s, rest)
    | rest =>
      let (v, s, rest) := s.found none .empty rest
      return ((k, v), s, rest)

/-- Items in square brackets; one with the mark of a key is a mapping of a single entry. -/
def flowItems (handles : Handles) (isFirst : Bool) :
    Nat → Sketch → List Token → Except Fault (Found (List NodeId))
  | 0, _, _ => .error .malformed
  | steps + 1, s, ts =>
    match ts with
    | .flowSequenceEnd :: rest => .ok ([], s, rest)
    | _ => do
      let ts ← if isFirst then pure ts else expect .flowEntry ts
      match ts with
      | .flowSequenceEnd :: rest => return ([], s, rest)
      | .key :: rest => do
        let (pair, s, rest) ← s.inside fun s => flowPair handles .flowSequenceEnd steps s rest
        let (id, s) := s.add none (.mapping .mapping [pair])
        let (others, s, rest) ← flowItems handles false steps s rest
        return (id :: others, s, rest)
      | _ => do
        let (id, s, rest) ← node handles .flow steps s ts
        let (others, s, rest) ← flowItems handles false steps s rest
        return (id :: others, s, rest)

/-- Entries in braces; one without the mark of a key has no value. -/
def flowEntries (handles : Handles) (isFirst : Bool) :
    Nat → Sketch → List Token → Except Fault (Found (List (NodeId × NodeId)))
  | 0, _, _ => .error .malformed
  | steps + 1, s, ts =>
    match ts with
    | .flowMappingEnd :: rest => .ok ([], s, rest)
    | _ => do
      let ts ← if isFirst then pure ts else expect .flowEntry ts
      match ts with
      | .flowMappingEnd :: rest => return ([], s, rest)
      | .key :: rest => do
        let (pair, s, rest) ← flowPair handles .flowMappingEnd steps s rest
        let (others, s, rest) ← flowEntries handles false steps s rest
        return (pair :: others, s, rest)
      | _ => do
        let (k, s, rest) ← node handles .flow steps s ts
        let (v, s) := s.add none .empty
        let (others, s, rest) ← flowEntries handles false steps s rest
        return ((k, v) :: others, s, rest)

end

/-! ## Documents -/

/-- The handles that the directives before a document declare. -/
def directives (hasVersion : Bool) (declared : Handles) :
    List Token → Except Fault (Handles × List Token)
  | .directive (.version major _) :: rest =>
    if hasVersion ∨ major ≠ 1 then .error .malformed else directives true declared rest
  | .directive (.tag handle beginning) :: rest =>
    if (declared.lookup handle).isSome then .error .malformed
    else directives hasVersion ((handle, beginning) :: declared) rest
  | .directive .other :: rest => directives hasVersion declared rest
  | ts => .ok (declared ++ standardHandles, ts)

/-- After a document only its end and the end of the text can follow. -/
def endOfText (ts : List Token) : Except Fault Unit :=
  match ts.dropWhile (· = .documentEnd) with
  | .streamEnd :: _ => .ok ()
  | ts => do
    let (_, ts) ← directives false [] ts
    throw (unexpected ts)

def isContentless : List Token → Bool
  | .directive _ :: _ | .documentStart :: _ | .documentEnd :: _ | .streamEnd :: _ => true
  | _ => false

/-- A document that is nothing but one node, with the end of its text. -/
def rooted (found : Found NodeId) : Except Fault (Option (Graph × NodeId)) := do
  let (id, s, ts) := found
  endOfText ts
  return some (s.graph, id)

end Sketch

/-- The only document of a text, if there is one: its nodes, and the number of the outermost. -/
def Graph.ofTokens (ts : List Token) : Except Fault (Option (Graph × NodeId)) := do
  let steps := 4 * ts.length + 4
  match ts with
  | .streamEnd :: _ => return none
  | .directive _ :: _ | .documentStart :: _ =>
    let (handles, ts) ← Sketch.directives false [] ts
    let ts ← Sketch.expect .documentStart ts
    if Sketch.isContentless ts then Sketch.rooted (Sketch.found {} none .empty ts)
    else Sketch.rooted (← Sketch.node handles .block steps {} ts)
  | _ => Sketch.rooted (← Sketch.node Sketch.standardHandles .block steps {} ts)

end Scaffold.Yaml
