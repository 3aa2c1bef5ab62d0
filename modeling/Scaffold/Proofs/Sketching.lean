import Scaffold.Proofs.Scanning
import Scaffold.Yaml.Graph

/-!
# The nodes of JSON

The tokens of a value are read as nodes that are numbered on from those before them, where a
collection comes before its parts. If its collections lie too deep in one another, reading stops
over that.
-/
namespace Scaffold.Yaml

open Document.Json (Quoted Atom Name Value Items Members)

/-! ## What is drawn -/

mutual

/-- A value is drawn in a graph from a node on; its parts have higher numbers. -/
def Draws (g : Graph) : Value → Nat → Prop
  | .atom a, id => id < g.size ∧
    g.node id = .scalar (.ofPlain (String.ofList a.text)) (a.text.map .char)
  | .string q, id => id < g.size ∧ g.node id = .scalar .text q.letters
  | .emptyArray _, id => id < g.size ∧ g.node id = .sequence .sequence []
  | .array _ items, id => id < g.size ∧
    ∃ ids, g.node id = .sequence .sequence ids ∧ DrawsItems g items (id + 1) ids
  | .emptyObject _, id => id < g.size ∧ g.node id = .mapping .mapping []
  | .object _ members, id => id < g.size ∧
    ∃ entries, g.node id = .mapping .mapping entries ∧ DrawsMembers g members (id + 1) entries

/-- Items are drawn from a number on. -/
def DrawsItems (g : Graph) : Items → Nat → List Nat → Prop
  | .last v _, least, ids => ∃ id, ids = [id] ∧ least ≤ id ∧ Draws g v id
  | .more v _ _ others, least, ids =>
    ∃ id rest, ids = id :: rest ∧ least ≤ id ∧ Draws g v id ∧ DrawsItems g others least rest

def DrawsMembers (g : Graph) : Members → Nat → List (Nat × Nat) → Prop
  | .last name v _, least, entries => ∃ e, entries = [e] ∧ least ≤ e.1 ∧ e.1 < g.size ∧
    g.node e.1 = .scalar .text name.quoted.letters ∧ least ≤ e.2 ∧ Draws g v e.2
  | .more name v _ _ others, least, entries => ∃ e rest, entries = e :: rest ∧ least ≤ e.1 ∧
    e.1 < g.size ∧ g.node e.1 = .scalar .text name.quoted.letters ∧ least ≤ e.2 ∧ Draws g v e.2 ∧
    DrawsMembers g others least rest

end

/-- A graph has the nodes of another one from a number on. -/
structure Keeps (least : Nat) (g g' : Graph) : Prop where
  size : g.size ≤ g'.size
  node : ∀ id, least ≤ id → id < g.size → g'.node id = g.node id

variable {g g' : Graph}

mutual

theorem Draws.keep {least : Nat} (h : Keeps least g g') (v : Value) {id : Nat}
    (hid : least ≤ id) (hv : Draws g v id) : Draws g' v id := by
  cases v with
  | atom | string | emptyArray | emptyObject =>
    exact ⟨Nat.lt_of_lt_of_le hv.1 h.size, (h.node id hid hv.1).trans hv.2⟩
  | array _ items =>
    obtain ⟨hlt, ids, hnode, hitems⟩ := hv
    exact ⟨Nat.lt_of_lt_of_le hlt h.size, ids, (h.node id hid hlt).trans hnode,
      DrawsItems.keep h items (by omega) hitems⟩
  | object _ members =>
    obtain ⟨hlt, entries, hnode, hmembers⟩ := hv
    exact ⟨Nat.lt_of_lt_of_le hlt h.size, entries, (h.node id hid hlt).trans hnode,
      DrawsMembers.keep h members (by omega) hmembers⟩

theorem DrawsItems.keep {least : Nat} (h : Keeps least g g') (items : Items) {start : Nat}
    {ids : List Nat} (hfrom : least ≤ start) (hitems : DrawsItems g items start ids) :
    DrawsItems g' items start ids := by
  cases items with
  | last v _ =>
    obtain ⟨id, rfl, hid, hv⟩ := hitems
    exact ⟨id, rfl, hid, Draws.keep h v (by omega) hv⟩
  | more v _ _ others =>
    obtain ⟨id, rest, rfl, hid, hv, hothers⟩ := hitems
    exact ⟨id, rest, rfl, hid, Draws.keep h v (by omega) hv,
      DrawsItems.keep h others hfrom hothers⟩

theorem DrawsMembers.keep {least : Nat} (h : Keeps least g g') (members : Members)
    {start : Nat} {entries : List (Nat × Nat)} (hfrom : least ≤ start)
    (hmembers : DrawsMembers g members start entries) : DrawsMembers g' members start entries := by
  cases members with
  | last name v _ =>
    obtain ⟨e, rfl, hk, hlt, hnode, hid, hv⟩ := hmembers
    exact ⟨e, rfl, hk, Nat.lt_of_lt_of_le hlt h.size, (h.node e.1 (by omega) hlt).trans hnode, hid,
      Draws.keep h v (by omega) hv⟩
  | more name v _ _ others =>
    obtain ⟨e, rest, rfl, hk, hlt, hnode, hid, hv, hothers⟩ := hmembers
    exact ⟨e, rest, rfl, hk, Nat.lt_of_lt_of_le hlt h.size,
      (h.node e.1 (by omega) hlt).trans hnode, hid, Draws.keep h v (by omega) hv,
      DrawsMembers.keep h others hfrom hothers⟩

end

theorem Keeps.refl (least : Nat) (g : Graph) : Keeps least g g := ⟨Nat.le_refl _, fun _ _ _ => rfl⟩

theorem Keeps.trans {least : Nat} {g'' : Graph} (h : Keeps least g g') (h' : Keeps least g' g'') :
    Keeps least g g'' :=
  ⟨Nat.le_trans h.size h'.size, fun id hleast hid =>
    (h'.node id hleast (Nat.lt_of_lt_of_le hid h.size)).trans (h.node id hleast hid)⟩

theorem keeps_push (g : Graph) (n : Node) : Keeps 0 g (g.push n) := by
  refine ⟨by simp, fun id _ hid => ?_⟩
  rw [Graph.node_push, if_neg (Nat.ne_of_lt hid)]

theorem keeps_set (g : Graph) (id : Nat) (n : Node) : Keeps (id + 1) g (g.set id n) := by
  refine ⟨by simp, fun other hother _ => ?_⟩
  rw [Graph.node_set, if_neg fun h => absurd h.1 (Nat.ne_of_gt hother)]

namespace Sketch

/-! ## Reading -/

/-- Reading adds nodes and says what it found, or finds collections that lie too deep. -/
structure Gives {α : Type} (fits : Prop) (result : Except Fault (Found α)) (s : Sketch)
    (rest : List Token) (good : α → Sketch → Prop) : Prop where
  fit : fits → ∃ a t, result = .ok (a, t, rest) ∧ Keeps 0 s.graph t.graph ∧
    t.levels = s.levels ∧ good a t
  deep : ¬ fits → result = .error .tooDeep

variable {α β : Type} {fits fits' : Prop} {s : Sketch} {rest rest' : List Token}

theorem Gives.pure {a : α} {good : α → Sketch → Prop} (hgood : good a s) :
    Gives True (.ok (a, s, rest)) s rest good :=
  ⟨fun _ => ⟨a, s, rfl, .refl 0 s.graph, rfl, hgood⟩, fun h => absurd trivial h⟩

theorem Gives.bind {result : Except Fault (Found α)} {next : Found α → Except Fault (Found β)}
    {good : α → Sketch → Prop} {good' : β → Sketch → Prop} (h : Gives fits result s rest good)
    (hnext : ∀ a t, Keeps 0 s.graph t.graph → t.levels = s.levels → good a t →
      Gives fits' (next (a, t, rest)) t rest' good') :
    Gives (fits ∧ fits') (result >>= next) s rest' good' := by
  by_cases hfits : fits
  · obtain ⟨a, t, rfl, hkeeps, hlevels, hgood⟩ := h.fit hfits
    have h' := hnext a t hkeeps hlevels hgood
    refine ⟨fun hboth => ?_, fun hnot => h'.deep fun hfits' => hnot ⟨hfits, hfits'⟩⟩
    obtain ⟨b, u, hresult, hkeeps', hlevels', hgood'⟩ := h'.fit hboth.2
    exact ⟨b, u, hresult, hkeeps.trans hkeeps', hlevels'.trans hlevels, hgood'⟩
  · refine ⟨fun hboth => absurd hboth.1 hfits, fun _ => ?_⟩
    rw [h.deep hfits]
    rfl

theorem Gives.iff {result : Except Fault (Found α)} {good : α → Sketch → Prop}
    (h : Gives fits result s rest good) (hiff : fits' ↔ fits) : Gives fits' result s rest good :=
  ⟨fun hfits => h.fit (hiff.1 hfits), fun hnot => h.deep fun hfits => hnot (hiff.2 hfits)⟩

/-- What is found can be put together without a further fault. -/
theorem Gives.andThen {result : Except Fault (Found α)} {next : Found α → Except Fault (Found β)}
    {good : α → Sketch → Prop} {good' : β → Sketch → Prop} (h : Gives fits result s rest good)
    (hnext : ∀ a t, Keeps 0 s.graph t.graph → t.levels = s.levels → good a t →
      Gives True (next (a, t, rest)) t rest' good') : Gives fits (result >>= next) s rest' good' :=
  (h.bind hnext).iff (and_iff_left trivial).symm

theorem Gives.mono {result : Except Fault (Found α)} {good good' : α → Sketch → Prop}
    (h : Gives fits result s rest good)
    (hgood : ∀ a t, Keeps 0 s.graph t.graph → good a t → good' a t) :
    Gives fits result s rest good' := by
  refine ⟨fun hfits => ?_, h.deep⟩
  obtain ⟨a, t, hresult, hkeeps, hlevels, ht⟩ := h.fit hfits
  exact ⟨a, t, hresult, hkeeps, hlevels, hgood a t hkeeps ht⟩

/-- A scalar is one more node. -/
theorem gives_found (n : Node) :
    Gives True (.ok (s.found none n rest)) s rest fun id t =>
      id = s.graph.size ∧ t.graph = s.graph.push n :=
  ⟨fun _ => ⟨_, _, rfl, keeps_push s.graph n, rfl, rfl, rfl⟩, fun h => absurd trivial h⟩

/-- A collection takes its number first, and one level for its parts. -/
theorem gives_collection {toNode : α → Node} {read : Sketch → Except Fault (Found α)} {depth : Nat}
    {good : α → Sketch → Prop}
    (hread : ∀ inner : Sketch, inner.graph = s.graph.push .empty →
      Gives (depth ≤ inner.levels) (read inner) inner rest good) :
    Gives (depth + 1 ≤ s.levels) (s.collection {} toNode read) s rest fun id t =>
      id = s.graph.size ∧ ∃ parts u, good parts u ∧ id < u.graph.size ∧
        t.graph = u.graph.set id (toNode parts) := by
  have hinside : s.collection {} toNode read =
      ({ s with graph := s.graph.push .empty } : Sketch).inside read >>= fun found =>
        pure (s.graph.size, found.2.1.set s.graph.size (toNode found.1), found.2.2) := rfl
  rw [hinside, inside]
  cases hlevels : s.levels with
  | zero => exact ⟨fun h => absurd h (by omega), fun _ => rfl⟩
  | succ levels =>
    dsimp only
    have hparts := hread { s with graph := s.graph.push .empty, levels } rfl
    refine ⟨fun hfits => ?_, fun hnot => ?_⟩
    · obtain ⟨parts, u, hresult, hkeeps, -, hgood⟩ := hparts.fit (by simpa using hfits)
      have hsize : s.graph.size + 1 ≤ u.graph.size := by simpa using hkeeps.size
      rw [hresult]
      refine ⟨_, _, rfl, ?_, hlevels.symm, rfl, parts, u, hgood, hsize, rfl⟩
      have hbefore := (keeps_push s.graph .empty).trans hkeeps
      refine ⟨by simpa [Sketch.set] using hbefore.size, fun id hid hlt => ?_⟩
      have hset : ((u.graph.set s.graph.size (toNode parts)).node id) = u.graph.node id := by
        rw [Graph.node_set, if_neg fun h => absurd h.1 (Nat.ne_of_lt hlt)]
      exact hset.trans (hbefore.node id hid hlt)
    · rw [hparts.deep (by simpa using hnot)]
      rfl

/-! ## Nodes -/

variable {handles : Handles} {place : Place} {steps : Nat}

theorem node_scalar (letters : List Letter) (isPlain : Bool) (rest : List Token) :
    node handles place (steps + 1) s (.scalar letters isPlain :: rest) =
      .ok (s.found none (.scalar (Properties.scalarTag {} isPlain letters) letters) rest) := by
  cases place <;> rfl

theorem node_sequence (rest : List Token) :
    node handles place (steps + 1) s (.flowSequenceStart :: rest) =
      s.collection {} (Node.sequence .sequence) fun s => flowItems handles true steps s rest := by
  cases place <;> rfl

theorem node_mapping (rest : List Token) :
    node handles place (steps + 1) s (.flowMappingStart :: rest) =
      s.collection {} (Node.mapping .mapping) fun s => flowEntries handles true steps s rest := by
  cases place <;> rfl

/-- The first token of a value. -/
def BeginsValue (t : Token) : Prop :=
  (∃ letters isPlain, t = .scalar letters isPlain) ∨ t = .flowSequenceStart ∨ t = .flowMappingStart

theorem exists_tokens_eq (v : Value) : ∃ t ts, v.tokens = t :: ts ∧ BeginsValue t := by
  cases v with
  | atom a => exact ⟨_, _, rfl, .inl ⟨_, _, rfl⟩⟩
  | string q => exact ⟨_, _, rfl, .inl ⟨_, _, rfl⟩⟩
  | emptyArray | array => exact ⟨_, _, rfl, .inr (.inl rfl)⟩
  | emptyObject | object => exact ⟨_, _, rfl, .inr (.inr rfl)⟩

/-- An item, the first one or after a comma. -/
theorem flowItems_value (v : Value) (isFirst : Bool) (rest : List Token) :
    flowItems handles isFirst (steps + 1) s
        ((if isFirst then [] else [.flowEntry]) ++ (v.tokens ++ rest)) = (do
      let (id, s, rest) ← node handles .flow steps s (v.tokens ++ rest)
      let (others, s, rest) ← flowItems handles false steps s rest
      return (id :: others, s, rest)) := by
  obtain ⟨t, ts, htokens, ht⟩ := exists_tokens_eq v
  rw [htokens]
  rcases ht with ⟨letters, isPlain, rfl⟩ | rfl | rfl <;> cases isFirst <;> rfl

theorem flowEntries_key (isFirst : Bool) (rest : List Token) :
    flowEntries handles isFirst (steps + 1) s
        ((if isFirst then [] else [.flowEntry]) ++ .key :: rest) = (do
      let (pair, s, rest) ← flowPair handles .flowMappingEnd steps s rest
      let (others, s, rest) ← flowEntries handles false steps s rest
      return (pair :: others, s, rest)) := by
  cases isFirst <;> rfl

theorem flowPair_value (letters : List Letter) (v : Value) (rest : List Token) :
    flowPair handles .flowMappingEnd (steps + 3) s
        (.scalar letters false :: .value :: (v.tokens ++ rest)) = (do
      let (k, s, _) := s.found none (.scalar .text letters) rest
      let (v, s, rest) ← node handles .flow (steps + 1) s (v.tokens ++ rest)
      return ((k, v), s, rest)) := by
  obtain ⟨t, ts, htokens, ht⟩ := exists_tokens_eq v
  rw [htokens]
  rcases ht with ⟨letters, isPlain, rfl⟩ | rfl | rfl <;> rfl

/-- A member, as soon as its value is read. -/
theorem gives_pair {v : Value} (letters : List Letter) {rest : List Token}
    (hv : ∀ t : Sketch, Gives (v.depth ≤ t.levels)
      (node handles .flow (steps + 1) t (v.tokens ++ rest)) t rest fun id u =>
        id = t.graph.size ∧ Draws u.graph v id) :
    Gives (v.depth ≤ s.levels) (flowPair handles .flowMappingEnd (steps + 3) s
      (.scalar letters false :: .value :: (v.tokens ++ rest))) s rest fun e t =>
        s.graph.size ≤ e.1 ∧ e.1 < t.graph.size ∧ t.graph.node e.1 = .scalar .text letters ∧
          s.graph.size ≤ e.2 ∧ Draws t.graph v e.2 := by
  rw [flowPair_value]
  let t := (s.add none (.scalar .text letters)).2
  have hname : t.graph.node s.graph.size = .scalar .text letters := by
    rw [show t.graph = s.graph.push (.scalar .text letters) from rfl, Graph.node_push, if_pos rfl]
  have hlt : s.graph.size < t.graph.size := by
    rw [show t.graph.size = s.graph.size + 1 from Graph.size_push ..]
    exact Nat.lt_succ_self _
  refine ⟨fun hfits => ?_, fun hnot => ?_⟩
  · obtain ⟨id, u, hresult, hkeeps, hlevels, rfl, hdraws⟩ := (hv t).fit hfits
    refine ⟨(s.graph.size, t.graph.size), u, ?_, (keeps_push ..).trans hkeeps, hlevels,
      Nat.le_refl _, ?_, ?_, ?_, hdraws⟩
    · change (node handles .flow (steps + 1) t (v.tokens ++ rest) >>= _) = _
      rw [hresult]
      rfl
    · exact Nat.lt_of_lt_of_le hlt hkeeps.size
    · rw [hkeeps.node _ (Nat.zero_le _) hlt, hname]
    · exact Nat.le_of_lt hlt
  · change (node handles .flow (steps + 1) t (v.tokens ++ rest) >>= _) = _
    rw [(hv t).deep hnot]
    rfl

mutual

/-- A value becomes the next node and those after it. -/
theorem gives_value (v : Value) {place : Place} {steps : Nat} {s : Sketch} {rest : List Token}
    (hsteps : 4 * v.tokens.length ≤ steps) :
    Gives (v.depth ≤ s.levels) (node handles place steps s (v.tokens ++ rest)) s rest fun id t =>
      id = s.graph.size ∧ Draws t.graph v id := by
  obtain ⟨steps, rfl⟩ : ∃ m, steps = m + 1 := by
    obtain ⟨t, ts, htokens, -⟩ := exists_tokens_eq v
    rw [htokens, List.length_cons] at hsteps
    exact ⟨steps - 1, by omega⟩
  have hempty {α : Type} {a : α} {inner : Sketch} :
      Gives (0 ≤ inner.levels) (.ok (a, inner, rest)) inner rest fun parts _ => parts = a :=
    ⟨fun _ => ⟨a, inner, rfl, .refl 0 _, rfl, rfl⟩, fun h => absurd (Nat.zero_le _) h⟩
  cases v with
  | atom | string =>
    rw [Value.tokens, List.singleton_append, node_scalar]
    refine ((gives_found _).mono fun id t _ h => ⟨h.1, ?_⟩).iff (by simp [Value.depth])
    rw [Draws, h.1, h.2, Graph.node_push, if_pos rfl]
    exact ⟨by simp, by simp [Properties.scalarTag]⟩
  | emptyArray gap =>
    obtain ⟨steps, rfl⟩ : ∃ m, steps = m + 1 := ⟨steps - 1, by simp [Value.tokens] at hsteps; omega⟩
    rw [Value.tokens, List.cons_append, node_sequence]
    refine (gives_collection fun inner _ => hempty).mono fun id t _ h => ?_
    obtain ⟨rfl, ids, u, rfl, hlt, hset⟩ := h
    rw [Draws, hset, Graph.node_set, if_pos ⟨rfl, hlt⟩]
    exact ⟨rfl, by simpa using hlt, rfl⟩
  | emptyObject gap =>
    obtain ⟨steps, rfl⟩ : ∃ m, steps = m + 1 := ⟨steps - 1, by simp [Value.tokens] at hsteps; omega⟩
    rw [Value.tokens, List.cons_append, node_mapping]
    refine (gives_collection fun inner _ => hempty).mono fun id t _ h => ?_
    obtain ⟨rfl, entries, u, rfl, hlt, hset⟩ := h
    rw [Draws, hset, Graph.node_set, if_pos ⟨rfl, hlt⟩]
    exact ⟨rfl, by simpa using hlt, rfl⟩
  | array gap items =>
    rw [Value.tokens, List.cons_append, node_sequence]
    simp only [Value.tokens, List.length_cons] at hsteps
    refine (gives_collection fun inner hinner => gives_items items true (s.graph.size + 1)
      (by simp [hinner]) (by omega)).mono fun id t _ h => ?_
    obtain ⟨rfl, ids, u, hitems, hlt, hset⟩ := h
    refine ⟨rfl, ?_⟩
    rw [Draws, hset, Graph.node_set, if_pos ⟨rfl, hlt⟩]
    exact ⟨by simpa using hlt, ids, rfl, hitems.keep (keeps_set ..) items (Nat.le_refl _)⟩
  | object gap members =>
    rw [Value.tokens, List.cons_append, node_mapping]
    simp only [Value.tokens, List.length_cons] at hsteps
    refine (gives_collection fun inner hinner => gives_members members true (s.graph.size + 1)
      (by simp [hinner]) (by omega)).mono fun id t _ h => ?_
    obtain ⟨rfl, entries, u, hmembers, hlt, hset⟩ := h
    refine ⟨rfl, ?_⟩
    rw [Draws, hset, Graph.node_set, if_pos ⟨rfl, hlt⟩]
    exact ⟨by simpa using hlt, entries, rfl, hmembers.keep (keeps_set ..) members (Nat.le_refl _)⟩

theorem gives_items (items : Items) (isFirst : Bool) (least : Nat) {steps : Nat} {s : Sketch}
    {rest : List Token} (hleast : least ≤ s.graph.size)
    (hsteps : 4 * items.tokens.length ≤ steps) :
    Gives (items.depth ≤ s.levels)
      (flowItems handles isFirst steps s
        ((if isFirst then [] else [.flowEntry]) ++ (items.tokens ++ rest))) s rest
      fun ids t => DrawsItems t.graph items least ids := by
  obtain ⟨steps, rfl⟩ : ∃ m, steps = m + 1 := by
    cases items <;> simp only [Items.tokens, List.length_append, List.length_cons] at hsteps <;>
      exact ⟨steps - 1, by omega⟩
  cases items with
  | last v _ =>
    simp only [Items.tokens, List.length_append, List.length_singleton] at hsteps
    obtain ⟨steps, rfl⟩ : ∃ m, steps = m + 1 := ⟨steps - 1, by omega⟩
    rw [Items.tokens, List.append_assoc, flowItems_value]
    refine (gives_value v (by omega)).andThen fun id t hkeeps hlevels h => ?_
    exact .pure ⟨id, rfl, h.1 ▸ hleast, h.2⟩
  | more v _ _ others =>
    simp only [Items.tokens, List.length_append, List.length_cons] at hsteps
    rw [Items.tokens, List.append_assoc, flowItems_value]
    refine ((gives_value v (by omega)).bind fun id t hkeeps hlevels h => ?_).iff Nat.max_le
    rw [← hlevels]
    refine (gives_items others false least (Nat.le_trans hleast hkeeps.size)
      (show 4 * others.tokens.length ≤ steps by omega)).andThen fun ids u hkeeps' _ hids => ?_
    exact .pure ⟨id, ids, rfl, h.1 ▸ hleast, h.2.keep hkeeps' v (Nat.zero_le _), hids⟩

theorem gives_members (members : Members) (isFirst : Bool) (least : Nat) {steps : Nat} {s : Sketch}
    {rest : List Token} (hleast : least ≤ s.graph.size)
    (hsteps : 4 * members.tokens.length ≤ steps) :
    Gives (members.depth ≤ s.levels)
      (flowEntries handles isFirst steps s
        ((if isFirst then [] else [.flowEntry]) ++ (members.tokens ++ rest))) s rest
      fun entries t => DrawsMembers t.graph members least entries := by
  cases members with
  | last name v after =>
    simp only [Members.tokens, Name.tokens, List.length_append, List.length_cons,
      List.length_nil] at hsteps
    obtain ⟨steps, rfl⟩ : ∃ m, steps = m + 4 := ⟨steps - 4, by omega⟩
    have htokens : (Members.last name v after).tokens ++ rest = .key ::
        .scalar name.quoted.letters false :: .value :: (v.tokens ++ .flowMappingEnd :: rest) := by
      simp [Members.tokens, Name.tokens]
    rw [htokens, flowEntries_key]
    refine (gives_pair _ fun t => gives_value v (by omega)).andThen fun e t hkeeps hlevels h => ?_
    obtain ⟨hk, hlt, hnode, hid, hv⟩ := h
    exact .pure ⟨e, rfl, by omega, hlt, hnode, by omega, hv⟩
  | more name v after before others =>
    simp only [Members.tokens, Name.tokens, List.length_append, List.length_cons,
      List.length_nil] at hsteps
    obtain ⟨steps, rfl⟩ : ∃ m, steps = m + 4 := ⟨steps - 4, by omega⟩
    have htokens : (Members.more name v after before others).tokens ++ rest = .key ::
        .scalar name.quoted.letters false :: .value ::
          (v.tokens ++ .flowEntry :: (others.tokens ++ rest)) := by
      simp [Members.tokens, Name.tokens]
    rw [htokens, flowEntries_key]
    refine ((gives_pair _ fun t => gives_value v (by omega)).bind
      fun e t hkeeps hlevels h => ?_).iff Nat.max_le
    obtain ⟨hk, hlt, hnode, hid, hv⟩ := h
    rw [← hlevels]
    refine (gives_members others false least (Nat.le_trans hleast hkeeps.size)
      (show 4 * others.tokens.length ≤ steps + 3 by omega)).andThen
        fun entries u hkeeps' _ hentries => ?_
    refine .pure ⟨e, entries, rfl, by omega, Nat.lt_of_lt_of_le hlt hkeeps'.size, ?_, by omega,
      hv.keep hkeeps' v (Nat.zero_le _), hentries⟩
    rw [hkeeps'.node _ (Nat.zero_le _) hlt, hnode]

end

end Sketch

/-- The nodes of an object that is a whole text. -/
theorem ofTokens_object {v : Value} (hobject : v.isObject = true) :
    (v.depth ≤ nestingLimit → ∃ g : Graph, ∃ root,
      Graph.ofTokens (v.tokens ++ [.streamEnd]) = .ok (some (g, root)) ∧ Draws g v root) ∧
    (¬ v.depth ≤ nestingLimit → Graph.ofTokens (v.tokens ++ [.streamEnd]) = .error .tooDeep) := by
  obtain ⟨ts, hts⟩ : ∃ ts, v.tokens ++ [Token.streamEnd] = .flowMappingStart :: ts := by
    cases v with
    | atom | string | emptyArray | array => cases hobject
    | emptyObject | object => exact ⟨_, rfl⟩
  let steps := 4 * (v.tokens ++ [Token.streamEnd]).length + 4
  have hnode : Graph.ofTokens (v.tokens ++ [.streamEnd]) =
      (Sketch.node Sketch.standardHandles .block steps {} (v.tokens ++ [.streamEnd])
        >>= Sketch.rooted) := by
    simp only [steps]
    rw [hts]
    unfold Graph.ofTokens
    rfl
  have hsteps : 4 * v.tokens.length ≤ steps := by
    simp only [steps, List.length_append]
    omega
  let start : Sketch := {}
  have hgives : Sketch.Gives (v.depth ≤ start.levels) (Sketch.node Sketch.standardHandles .block
      steps start (v.tokens ++ [.streamEnd])) start [.streamEnd] fun id t =>
        id = start.graph.size ∧ Draws t.graph v id := Sketch.gives_value v hsteps
  rw [hnode]
  refine ⟨fun hfits => ?_, fun hdeep => ?_⟩
  · obtain ⟨root, t, hresult, -, -, -, hdraws⟩ := hgives.fit hfits
    rw [hresult]
    exact ⟨t.graph, root, rfl, hdraws⟩
  · rw [hgives.deep hdeep]
    rfl

end Scaffold.Yaml
