import Mathlib.Data.Finset.Card
import Mathlib.Data.Finset.Range
import Scaffold.Proofs.Sketching
import Scaffold.Yaml.Value

/-!
# The values of plain nodes

Where every node is a scalar with a value, a list, or a mapping from texts, making its value never
fails. A round fills the collections that the round before it found, and finds another node that was
not made or leaves none to fill, so there are rounds enough.
-/
namespace Scaffold.Yaml

/-! ## Assigning -/

section

variable {α β γ δ ι κ : Type} [DecidableEq ι] [DecidableEq κ] {identity : α → ι}
  {identity' : γ → κ} {f : α → γ} {h : β → δ}

/-- What a list of entries assigns, one after the other. -/
def assignedBy (identity : α → ι) (entries : List (α × β)) : List (α × β) :=
  entries.foldl (fun before e => Document.insertBy identity e.1 e.2 before) []

theorem forall_mem_insertBy {P : α → Prop} {Q : β → Prop} {key : α} {value : β}
    {entries : List (α × β)} (hkey : P key) (hvalue : Q value)
    (hentries : ∀ e ∈ entries, P e.1 ∧ Q e.2) :
    ∀ e ∈ Document.insertBy identity key value entries, P e.1 ∧ Q e.2 := by
  induction entries with
  | nil => simpa [Document.insertBy] using ⟨hkey, hvalue⟩
  | cons first entries ih =>
    obtain ⟨hfirst, hrest⟩ := List.forall_mem_cons.1 hentries
    rw [Document.insertBy]
    split
    · exact List.forall_mem_cons.2 ⟨⟨hfirst.1, hvalue⟩, hrest⟩
    · exact List.forall_mem_cons.2 ⟨hfirst, ih hrest⟩

/-- Entries stay as they are put if keys are told apart as before. -/
theorem map_insertBy {key : α} {value : β} {entries : List (α × β)}
    (hsame : ∀ e ∈ entries, identity e.1 = identity key ↔ identity' (f e.1) = identity' (f key)) :
    (Document.insertBy identity key value entries).map (Prod.map f h) =
      Document.insertBy identity' (f key) (h value) (entries.map (Prod.map f h)) := by
  induction entries with
  | nil => rfl
  | cons e entries ih =>
    have he := hsame e (List.mem_cons_self ..)
    simp only [Document.insertBy, List.map_cons, Prod.map]
    by_cases hkey : identity e.1 = identity key
    · rw [if_pos hkey, if_pos (he.1 hkey)]
      rfl
    · rw [if_neg hkey, if_neg fun h => hkey (he.2 h)]
      simp only [List.map_cons, Prod.map, ih fun e he => hsame e (List.mem_cons_of_mem _ he)]

/-- Nothing is assigned but keys and values that some entry has. -/
theorem forall_mem_assignedBy {P : α → Prop} {Q : β → Prop} {entries : List (α × β)}
    (hentries : ∀ e ∈ entries, P e.1 ∧ Q e.2) :
    ∀ e ∈ assignedBy identity entries, P e.1 ∧ Q e.2 := by
  refine List.foldlRecOn (motive := fun before : List (α × β) => ∀ e ∈ before, P e.1 ∧ Q e.2)
    entries _ (List.forall_mem_nil _) ?_
  intro before hbefore e he
  exact forall_mem_insertBy (hentries e he).1 (hentries e he).2 hbefore

theorem map_assignedBy {entries : List (α × β)}
    (hsame : ∀ e ∈ entries, ∀ e' ∈ entries,
      identity e.1 = identity e'.1 ↔ identity' (f e.1) = identity' (f e'.1)) :
    (assignedBy identity entries).map (Prod.map f h) =
      assignedBy identity' (entries.map (Prod.map f h)) := by
  -- The entries so far have keys of the list, which are told apart as the list says.
  let IsKey (key : α) : Prop := ∃ e ∈ entries, e.1 = key
  suffices hfold : ∀ (rest : List (α × β)) (before : List (α × β)), rest ⊆ entries →
      (∀ e ∈ before, IsKey e.1 ∧ True) →
      (rest.foldl (fun before e => Document.insertBy identity e.1 e.2 before) before).map
        (Prod.map f h) = (rest.map (Prod.map f h)).foldl
          (fun before e => Document.insertBy identity' e.1 e.2 before)
          (before.map (Prod.map f h)) from hfold entries [] (List.Subset.refl _)
      (List.forall_mem_nil _)
  intro rest
  induction rest with
  | nil => exact fun _ _ _ => rfl
  | cons e rest ih =>
    intro before hrest hbefore
    obtain ⟨he, hrest⟩ := List.cons_subset.1 hrest
    have hnext : ∀ e' ∈ Document.insertBy identity e.1 e.2 before, IsKey e'.1 ∧ True :=
      forall_mem_insertBy (Q := fun _ => True) ⟨e, he, rfl⟩ trivial hbefore
    have hput : (Document.insertBy identity e.1 e.2 before).map (Prod.map f h) =
        Document.insertBy identity' (f e.1) (h e.2) (before.map (Prod.map f h)) := by
      refine map_insertBy fun old hold => ?_
      obtain ⟨⟨e', he', hkey⟩, -⟩ := hbefore old hold
      rw [← hkey]
      exact hsame e' he' e he
    rw [List.foldl_cons, ih _ hrest hnext, hput]
    rfl

end

/-! ## Nodes that have values -/

/-- What the text of a node is as a key. -/
def Node.name? : Node → Option Document.Key
  | .scalar _ letters => (Document.ofLetters letters).key?
  | _ => none

def Node.parts : Node → List NodeId
  | .scalar .. => []
  | .sequence _ items => items
  | .mapping _ entries => entries.flatMap fun e => [e.1, e.2]

/-- The value of a node, once it is filled. -/
def Graph.content (g : Graph) (id : NodeId) : Content :=
  match g.node id with
  | .scalar tag letters => .scalar ((Scalar.value tag letters).toOption.getD .null) none
  | .sequence _ items => .list items
  | .mapping _ entries => .map (assignedBy (fun key => (g.node key).name?) entries)

section

variable {g : Graph} {id : NodeId}

theorem content_scalar {tag : Tag} {letters : List Letter} {d : Document}
    (hnode : g.node id = .scalar tag letters) (hvalue : Scalar.value tag letters = .ok d) :
    g.content id = .scalar d none := by
  rw [Graph.content, hnode]
  simp only [hvalue]
  rfl

theorem content_sequence {tag : Tag} {items : List NodeId}
    (hnode : g.node id = .sequence tag items) : g.content id = .list items := by
  rw [Graph.content, hnode]

theorem content_mapping {tag : Tag} {entries : List (NodeId × NodeId)}
    (hnode : g.node id = .mapping tag entries) :
    g.content id = .map (assignedBy (fun key => (g.node key).name?) entries) := by
  rw [Graph.content, hnode]

end

/-- A text is no number. -/
theorem isOwnNan_ofLetters (letters : List Letter) (s : String) :
    Scalar.isOwnNan (.ofLetters letters) s = false := by
  rcases Document.ofLetters_cases letters with ⟨_, h⟩ | ⟨_, _, _, h⟩ <;> rw [h] <;> rfl

/-- A text can be a key. -/
theorem isNone_identity?_ofLetters (letters : List Letter) :
    (Content.scalar (.ofLetters letters) none).identity?.isNone = false := by
  rcases Document.ofLetters_cases letters with ⟨_, h⟩ | ⟨_, _, _, h⟩ <;> rw [h] <;> rfl

/-- A node that is a text, as the keys of mappings are. -/
def IsName (g : Graph) (id : NodeId) : Prop := ∃ letters, g.node id = .scalar .text letters

/-- A scalar with a value, or a list or mapping whose parts are among some nodes. -/
inductive HasValue (g : Graph) (among : Nat → Prop) : Node → Prop
  | scalar {tag : Tag} {letters : List Letter} {d : Document}
      (hvalue : Scalar.value tag letters = .ok d)
      (hnan : Scalar.isOwnNan d (Letter.text letters) = false) :
      HasValue g among (.scalar tag letters)
  | sequence {items : List NodeId} (hitems : ∀ part ∈ items, among part) :
      HasValue g among (.sequence .sequence items)
  | mapping {entries : List (NodeId × NodeId)}
      (hentries : ∀ e ∈ entries, (among e.1 ∧ IsName g e.1) ∧ among e.2) :
      HasValue g among (.mapping .mapping entries)

/-- Nodes that have values, with all their parts. -/
structure Sound (g : Graph) (among : Nat → Prop) : Prop where
  lt : ∀ id, among id → id < g.size
  hasValue : ∀ id, among id → HasValue g among (g.node id)

/-- A tag that gives a text a value is not that of a collection. -/
theorem tag_of_value {tag : Tag} {letters : List Letter} {d : Document}
    (h : Scalar.value tag letters = .ok d) :
    Make.hasValues tag = true ∧ Make.collection? tag = none := by
  cases tag <;> first | exact ⟨rfl, rfl⟩ | cases h

theorem scalar_eq {g : Graph} {id : NodeId} {tag : Tag} {letters : List Letter} {d : Document}
    (hnode : g.node id = .scalar tag letters) (hvalue : Scalar.value tag letters = .ok d)
    (hnan : Scalar.isOwnNan d (Letter.text letters) = false) :
    Make.scalar g id = .ok (g.content id) := by
  have htag : g.tag id = tag := by rw [Graph.tag, hnode, Node.tag]
  have hletters : Make.letters g (g.size + 1) id = .ok letters := by rw [Make.letters, hnode]
  unfold Make.scalar
  simp only [htag, (tag_of_value hvalue).1, hletters, hnode, Node.tag, content_scalar hnode hvalue]
  change (Scalar.value tag letters >>= fun d =>
    pure (Content.scalar d (if Scalar.isOwnNan d (Letter.text letters) then some id else none))) = _
  rw [hvalue]
  change Except.ok (Content.scalar d
    (if Scalar.isOwnNan d (Letter.text letters) then some id else none)) = _
  rw [hnan]
  rfl

theorem scalar_of_hasValue {g : Graph} {among : Nat → Prop} {id : NodeId}
    (h : HasValue g among (g.node id)) (htag : Make.collection? (g.tag id) = none) :
    Make.scalar g id = .ok (g.content id) ∧ (g.node id).parts = [] := by
  rw [Graph.tag] at htag
  generalize hnode : g.node id = n at h htag
  cases h with
  | scalar hvalue hnan =>
    exact ⟨scalar_eq hnode hvalue hnan, rfl⟩
  | sequence | mapping => cases htag

/-- A mapping whose keys are texts has nothing to merge. -/
theorem merge_eq {g : Graph} {id : NodeId} (steps : Nat)
    (hkeys : ∀ e ∈ g.entries id, g.tag e.1 = .text) : Graph.merge (steps + 1) g id = .ok g := by
  have hfind : (g.entries id).find? g.isMerge = none :=
    List.find?_eq_none.2 fun e he => by simp [Graph.isMerge, hkeys e he]
  have hfold : ∀ entries : NodeEntries, (∀ e ∈ entries, g.tag e.1 = .text) →
      entries.foldl Graph.asTextKey g = g := by
    intro entries
    induction entries with
    | nil => exact fun _ => rfl
    | cons e entries ih =>
      intro h
      obtain ⟨he, hrest⟩ := List.forall_mem_cons.1 h
      have htext : g.asTextKey e = g := if_neg (by rw [he]; nofun)
      rw [List.foldl_cons, htext, ih hrest]
  rw [Graph.merge, Graph.takeMerge?, hfind]
  exact congrArg Except.ok (hfold _ hkeys)

/-! ## Steps that succeed -/

/-- Making goes on to values of some kind and a later state. -/
def Does {α : Type} (act : Make α) (m : Making) (good : α → Making → Prop) : Prop :=
  ∃ a m', act.run m = .ok (a, m') ∧ good a m'

section

variable {α β : Type} {m : Making} {good mid : α → Making → Prop}

theorem Does.pure {a : α} (h : good a m) : Does (pure a) m good := ⟨a, m, rfl, h⟩

theorem Does.of_run_eq {act act' : Make α} (h : Does act' m good) (hrun : act.run m = act'.run m) :
    Does act m good := by
  rw [Does, hrun]
  exact h

theorem Does.step {act : Make α} {next : α → Make β} {a : α} {m' : Making}
    {good : β → Making → Prop} (hact : act.run m = .ok (a, m')) (h : Does (next a) m' good) :
    Does (act >>= next) m good := by
  obtain ⟨b, m'', hrest, hgood⟩ := h
  refine ⟨b, m'', ?_, hgood⟩
  rw [StateT.run_bind, hact]
  exact hrest

theorem Does.bind {act : Make α} {next : α → Make β} {good : β → Making → Prop}
    (h : Does act m mid) (hnext : ∀ a m', mid a m' → Does (next a) m' good) :
    Does (act >>= next) m good := by
  obtain ⟨a, m', hact, hmid⟩ := h
  exact .step hact (hnext a m' hmid)

theorem Does.mono {act : Make α} (h : Does act m mid) (hgood : ∀ a m', mid a m' → good a m') :
    Does act m good := by
  obtain ⟨a, m', hact, hmid⟩ := h
  exact ⟨a, m', hact, hgood a m' hmid⟩

end

/-! ## What is made and what is still to be filled -/

namespace Making

theorem content?_put {m : Making} {id : NodeId} {c : Content} (hid : id < m.contents.size)
    (other : NodeId) :
    (m.put id c).content? other = if other = id then some c else m.content? other := by
  simp only [content?, put, Array.getD_eq_getD_getElem?, Array.getElem?_setIfInBounds]
  grind

def IsMade (m : Making) (id : Nat) : Prop := m.content? id ≠ none

instance (m : Making) (id : Nat) : Decidable (m.IsMade id) :=
  decidable_of_iff ((m.content? id).isSome = true) Option.isSome_iff_ne_none

/-- The nodes that are not made yet. -/
def unmade (m : Making) : Finset Nat :=
  (Finset.range m.contents.size).filter fun id => ¬ m.IsMade id

/-- How many collections can still be filled. -/
def potential (m : Making) : Nat := m.unmade.card + m.unfilled.length

end Making

/-- Every node that is made has its value and all its parts are made, but for collections that are
still to be filled: those that were found and the others of this round. -/
structure Progress (g : Graph) (among : Nat → Prop) (pending : List NodeId) (m : Making) :
    Prop where
  graph : m.graph = g
  size : m.contents.size = g.size
  found : ∀ id ∈ m.unfilled ++ pending, among id ∧ (Make.collection? (g.tag id)).isSome
  filled : ∀ id c, m.content? id = some c → id ∈ m.unfilled ++ pending ∨
    c = g.content id ∧ ∀ part ∈ (g.node id).parts, m.IsMade part

/-- Nothing that is made is lost, and no more is left to be filled. -/
structure Grows (m m' : Making) : Prop where
  made : ∀ id, m.IsMade id → m'.IsMade id
  potential : m'.potential ≤ m.potential

theorem Grows.refl (m : Making) : Grows m m := ⟨fun _ h => h, Nat.le_refl _⟩

theorem Grows.trans {m m' m'' : Making} (h : Grows m m') (h' : Grows m' m'') : Grows m m'' :=
  ⟨fun id hid => h'.made id (h.made id hid), Nat.le_trans h'.potential h.potential⟩

section

variable {g : Graph} {among : Nat → Prop} {pending : List NodeId} {m : Making}

theorem unmade_put {id : NodeId} {c : Content} (hid : id < m.contents.size) :
    (m.put id c).unmade = m.unmade.erase id := by
  ext other
  have hsize : (m.put id c).contents.size = m.contents.size := by simp [Making.put]
  simp only [Making.unmade, Finset.mem_filter, Finset.mem_range, Finset.mem_erase, hsize,
    Making.IsMade, Making.content?_put hid]
  by_cases h : other = id <;> simp [h]

/-- A node is made for the first time. -/
theorem card_unmade_put {id : NodeId} {c : Content} (hid : id < m.contents.size)
    (hnone : m.content? id = none) : (m.put id c).unmade.card + 1 = m.unmade.card := by
  have hmem : id ∈ m.unmade := by
    simp [Making.unmade, Making.IsMade, hid, hnone]
  rw [unmade_put hid]
  exact Finset.card_erase_add_one hmem

theorem isMade_put {id other : NodeId} {c : Content} (hid : id < m.contents.size)
    (h : m.IsMade other) : (m.put id c).IsMade other := by
  rw [Making.IsMade, Making.content?_put hid]
  split
  · nofun
  · exact h

theorem Progress.content_key (h : Progress g among pending m) {id : NodeId}
    {letters : List Letter} (hnode : g.node id = .scalar .text letters) (hmade : m.IsMade id) :
    m.content? id = some (.scalar (.ofLetters letters) none) := by
  obtain ⟨c, hc⟩ := Option.ne_none_iff_exists'.1 hmade
  have hcontent : g.content id = .scalar (.ofLetters letters) none := content_scalar hnode rfl
  have htag : g.tag id = .text := by rw [Graph.tag, hnode]; rfl
  rcases h.filled id c hc with hopen | ⟨rfl, -⟩
  · have hcollection := (h.found id hopen).2
    rw [htag] at hcollection
    cases hcollection
  · rw [hc, hcontent]

/-- A node gets its value, or is put among those to fill. -/
theorem Progress.put (h : Progress g among pending m) {id : Nat} (hid : id < g.size) {c : Content}
    {unfilled others : List NodeId}
    (hfound : ∀ other ∈ unfilled ++ others, among other ∧ (Make.collection? (g.tag other)).isSome)
    (hopen : ∀ other ∈ m.unfilled ++ pending, other = id ∨ other ∈ unfilled ++ others)
    (hnew : id ∈ unfilled ++ others ∨
      c = g.content id ∧ ∀ part ∈ (g.node id).parts, m.IsMade part) :
    Progress g among others { m.put id c with unfilled } := by
  have hlt : id < m.contents.size := h.size ▸ hid
  refine ⟨h.graph, by simpa [Making.put] using h.size, hfound, fun other c' hc' => ?_⟩
  change (m.put id c).content? other = some c' at hc'
  rw [Making.content?_put hlt] at hc'
  by_cases heq : other = id
  · rw [if_pos heq] at hc'
    cases hc'
    rw [heq]
    exact hnew.imp_right fun hc => ⟨hc.1, fun part hpart => isMade_put hlt (hc.2 part hpart)⟩
  · rw [if_neg heq] at hc'
    rcases h.filled other c' hc' with hwaiting | ⟨hcontent, hparts⟩
    · exact .inl ((hopen other hwaiting).resolve_left heq)
    · exact .inr ⟨hcontent, fun part hpart => isMade_put hlt (hparts part hpart)⟩

/-! ## Making a node -/

theorem run_begin (id : Nat) (m : Making) :
    (Make.begin id).run m = if m.content? id = none then
      match Make.collection? (m.graph.tag id) with
      | some c => .ok ((), { m.put id c with unfilled := id :: m.unfilled })
      | none => (Make.scalar m.graph id).map fun c => ((), m.put id c)
    else .ok ((), m) := by
  have hrun : (Make.begin id).run m = (if (m.content? id).isNone then
      match Make.collection? (m.graph.tag id) with
      | some c => set { m.put id c with unfilled := id :: m.unfilled }
      | none => do Make.put id (← StateT.lift (Make.scalar m.graph id))
    else pure () : Make Unit).run m := rfl
  rw [hrun]
  rcases m.content? id with _ | c
  · rcases Make.collection? (m.graph.tag id) with _ | c
    · rcases Make.scalar m.graph id with f | c <;> rfl
    · rfl
  · rfl

theorem does_begin (hsound : Sound g among) {id : Nat} (hid : among id)
    (h : Progress g among pending m) :
    Does (Make.begin id) m fun _ m' => Progress g among pending m' ∧ Grows m m' ∧ m'.IsMade id := by
  have hlt := hsound.lt id hid
  have hlt' : id < m.contents.size := h.size ▸ hlt
  have hmadeNow (c : Content) : (m.put id c).IsMade id := by
    rw [Making.IsMade, Making.content?_put hlt', if_pos rfl]
    nofun
  by_cases hnone : m.content? id = none
  · have hcard (c : Content) := card_unmade_put (c := c) hlt' hnone
    rcases hcollection : Make.collection? (g.tag id) with _ | c
    · have hscalar := scalar_of_hasValue (hsound.hasValue id hid) hcollection
      refine ⟨(), m.put id (g.content id), ?_, ?_, ⟨fun _ => isMade_put hlt', ?_⟩, hmadeNow _⟩
      · rw [run_begin, if_pos hnone, h.graph, hcollection, hscalar.1]
        rfl
      · exact h.put hlt h.found (fun _ => .inr) (.inr ⟨rfl, by simp [hscalar.2]⟩)
      · have := hcard (g.content id)
        change (m.put id (g.content id)).unmade.card + m.unfilled.length ≤ m.potential
        rw [Making.potential]
        omega
    · refine ⟨(), { m.put id c with unfilled := id :: m.unfilled }, ?_, ?_,
        ⟨fun _ => isMade_put hlt', ?_⟩, hmadeNow _⟩
      · rw [run_begin, if_pos hnone, h.graph, hcollection]
      · refine h.put hlt ?_ (fun _ => .inr ∘ List.mem_cons_of_mem _) (.inl (List.mem_cons_self ..))
        exact List.forall_mem_cons.2 ⟨⟨hid, by rw [hcollection]; rfl⟩, h.found⟩
      · have := hcard c
        change (m.put id c).unmade.card + (m.unfilled.length + 1) ≤ m.potential
        rw [Making.potential]
        omega
  · refine ⟨(), m, ?_, h, .refl m, hnone⟩
    rw [run_begin, if_neg hnone]

theorem does_forM {α : Type} {act : α → Make Unit} {inv : Making → Prop}
    {good : α → Making → Prop} {items : List α}
    (hkeep : ∀ a m m', Grows m m' → good a m → good a m')
    (hact : ∀ a ∈ items, ∀ m, inv m → Does (act a) m fun _ m' => inv m' ∧ Grows m m' ∧ good a m')
    (h : inv m) :
    Does (items.forM act) m fun _ m' => inv m' ∧ Grows m m' ∧ ∀ a ∈ items, good a m' := by
  induction items generalizing m with
  | nil => exact .pure ⟨h, .refl m, List.forall_mem_nil _⟩
  | cons a items ih =>
    obtain ⟨hfirst, hrest⟩ := List.forall_mem_cons.1 hact
    change Does (act a >>= fun _ => items.forM act) m _
    refine (hfirst m h).bind fun _ m' ⟨hinv, hgrows, hgood⟩ => ?_
    refine (ih hrest hinv).mono fun _ m'' ⟨hinv, hgrows', hothers⟩ => ?_
    exact ⟨hinv, hgrows.trans hgrows', List.forall_mem_cons.2 ⟨hkeep a _ _ hgrows' hgood, hothers⟩⟩

/-! ## Filling -/

theorem does_beginEntry (hsound : Sound g among) {e : Nat × Nat} {letters : List Letter}
    (hkey : among e.1) (hnode : g.node e.1 = .scalar .text letters) (hvalue : among e.2)
    (h : Progress g among pending m) :
    Does (Make.beginEntry e) m fun _ m' =>
      Progress g among pending m' ∧ Grows m m' ∧ m'.IsMade e.1 ∧ m'.IsMade e.2 := by
  refine (does_begin hsound hkey h).bind fun _ m' ⟨hprogress, hgrows, hmade⟩ => ?_
  refine .step (show StateT.run get m' = Except.ok (m', m') from rfl) ?_
  rw [hprogress.content_key hnode hmade, Option.bind_some,
    if_neg (Bool.eq_false_iff.1 (isNone_identity?_ofLetters letters))]
  refine (does_begin hsound hvalue hprogress).mono fun _ m'' ⟨hprogress, hgrows', hmade'⟩ => ?_
  exact ⟨hprogress, hgrows.trans hgrows', hgrows'.made _ hmade, hmade'⟩

theorem assigned_eq (h : Progress g among pending m) {entries : List (Nat × Nat)}
    (hkeys : ∀ e ∈ entries, m.IsMade e.1 ∧ IsName g e.1) :
    Make.assigned m entries = assignedBy (fun key => (g.node key).name?) entries := by
  have hsame : ∀ e ∈ entries, ∀ e' ∈ entries,
      (m.content? e.1).bind Content.identity? = (m.content? e'.1).bind Content.identity? ↔
        (g.node e.1).name? = (g.node e'.1).name? := by
    intro e he e' he'
    obtain ⟨hmade, letters, hnode⟩ := hkeys e he
    obtain ⟨hmade', letters', hnode'⟩ := hkeys e' he'
    rw [h.content_key hnode hmade, h.content_key hnode' hmade', hnode, hnode']
    exact (Option.map_injective fun _ _ hkeys => (Prod.mk.inj hkeys).1).eq_iff
  have hmap : (Make.assigned m entries).map (Prod.map id id) =
      assignedBy (fun key => (g.node key).name?) (entries.map (Prod.map id id)) :=
    map_assignedBy hsame
  simpa using hmap

theorem does_entries (hsound : Sound g among) {id : Nat} {entries : List (Nat × Nat)}
    (hnode : g.node id = .mapping .mapping entries)
    (hentries : ∀ e ∈ entries, (among e.1 ∧ IsName g e.1) ∧ among e.2)
    (h : Progress g among pending m) :
    Does (Make.entries id) m fun found m' => Progress g among pending m' ∧ Grows m m' ∧
      g.content id = .map found ∧ ∀ part ∈ (g.node id).parts, m'.IsMade part := by
  have hown : g.entries id = entries := by rw [Graph.entries, hnode]; rfl
  have hmerge : Graph.merge (m.graph.entryCount + 1) m.graph id = .ok g := by
    rw [h.graph]
    refine merge_eq _ fun e he => ?_
    rw [hown] at he
    obtain ⟨⟨-, letters, hkey⟩, -⟩ := hentries e he
    rw [Graph.tag, hkey]
    rfl
  have hrun : (Make.entries id).run m = (do
      entries.forM Make.beginEntry
      return Make.assigned (← get) entries : Make NodeEntries).run m := by
    have hunfold : (Make.entries id).run m = (do
        let g ← StateT.lift (Graph.merge (m.graph.entryCount + 1) m.graph id)
        set { m with graph := g }
        (g.entries id).forM Make.beginEntry
        return Make.assigned (← get) (g.entries id) : Make NodeEntries).run m := rfl
    have hsame : { m with graph := g } = m := by rw [← h.graph]
    rw [hunfold, hmerge, ← hown, ← hsame]
    rfl
  have hbegun : Does (entries.forM Make.beginEntry) m fun _ m' =>
      Progress g among pending m' ∧ Grows m m' ∧ ∀ e ∈ entries, m'.IsMade e.1 ∧ m'.IsMade e.2 :=
    does_forM (fun _ _ _ hgrows hmade => ⟨hgrows.made _ hmade.1, hgrows.made _ hmade.2⟩)
      (fun e he m h => by
        obtain ⟨⟨hkey, s, hname⟩, hvalue⟩ := hentries e he
        exact does_beginEntry hsound hkey hname hvalue h) h
  obtain ⟨_, m', hbegun, hprogress, hgrows, hmade⟩ := hbegun
  have hassigned := assigned_eq hprogress fun e he => ⟨(hmade e he).1, (hentries e he).1.2⟩
  refine ⟨Make.assigned m' entries, m', ?_, hprogress, hgrows, ?_, ?_⟩
  · rw [hrun, StateT.run_bind, hbegun]
    rfl
  · rw [content_mapping hnode, hassigned]
  · rw [hnode, Node.parts]
    intro part hpart
    obtain ⟨e, he, hpart⟩ := List.mem_flatMap.1 hpart
    have hparts := hmade e he
    rcases List.mem_cons.1 hpart with rfl | hpart
    · exact hparts.1
    · rw [List.mem_singleton.1 hpart]
      exact hparts.2

/-- A filled collection is done with. -/
theorem Progress.fill (h : Progress g among pending m) {id : Nat} {others : List NodeId}
    (hpending : pending = id :: others) (hlt : id < g.size)
    (hparts : ∀ part ∈ (g.node id).parts, m.IsMade part) :
    Progress g among others (m.put id (g.content id)) ∧ Grows m (m.put id (g.content id)) := by
  have hlt' : id < m.contents.size := h.size ▸ hlt
  have hmem (other : Nat) : other ∈ m.unfilled ++ pending ↔
      other = id ∨ other ∈ m.unfilled ++ others := by
    simp [hpending, or_left_comm]
  refine ⟨h.put hlt (fun other hother => h.found other ((hmem other).2 (.inr hother)))
    (fun other => (hmem other).1) (.inr ⟨rfl, hparts⟩), fun _ => isMade_put hlt', ?_⟩
  refine Nat.add_le_add_right ?_ _
  rw [unmade_put hlt']
  exact Finset.card_erase_le

theorem does_fill (hsound : Sound g among) {id : Nat} {others : List NodeId}
    (h : Progress g among (id :: others) m) :
    Does (Make.fill id) m fun _ m' => Progress g among others m' ∧ Grows m m' := by
  obtain ⟨hid, hcollection⟩ := h.found id (List.mem_append_right _ (List.mem_cons_self ..))
  have hlt := hsound.lt id hid
  have hvalue := hsound.hasValue id hid
  rw [Graph.tag] at hcollection
  generalize hnode : g.node id = n at hvalue hcollection
  have hnode' : m.graph.node id = n := by rw [h.graph, hnode]
  have hput {m' : Making} (hprogress : Progress g among (id :: others) m') (hgrows : Grows m m')
      (hparts : ∀ part ∈ (g.node id).parts, m'.IsMade part) :
      Does (Make.put id (g.content id)) m' fun _ m'' =>
        Progress g among others m'' ∧ Grows m m'' := by
    obtain ⟨hprogress', hgrows'⟩ := hprogress.fill rfl hlt hparts
    exact ⟨(), _, rfl, hprogress', hgrows.trans hgrows'⟩
  cases hvalue with
  | scalar hvalue =>
    rw [Node.tag, (tag_of_value hvalue).2] at hcollection
    cases hcollection
  | @sequence items hitems =>
    have hcontent := content_sequence hnode
    have hrun : (Make.fill id).run m = (do
        items.forM Make.begin
        Make.put id (.list items) : Make Unit).run m := by
      simp only [Make.fill, StateT.run_bind, StateT.run_get, pure_bind, hnode']
    have hbegun : Does (items.forM Make.begin) m fun _ m' =>
        Progress g among (id :: others) m' ∧ Grows m m' ∧ ∀ item ∈ items, m'.IsMade item :=
      does_forM (fun _ _ _ hgrows => hgrows.made _)
        (fun item hitem m h => does_begin hsound (hitems item hitem) h) h
    refine .of_run_eq ?_ hrun
    refine hbegun.bind fun _ m' ⟨hprogress, hgrows, hmade⟩ => ?_
    rw [← hcontent]
    exact hput hprogress hgrows (by rw [hnode]; exact hmade)
  | @mapping entries hentries =>
    have hrun : (Make.fill id).run m = (do
        Make.put id (.map (← Make.entries id)) : Make Unit).run m := by
      simp only [Make.fill, StateT.run_bind, StateT.run_get, pure_bind, hnode']
    refine .of_run_eq ?_ hrun
    refine (does_entries hsound hnode hentries h).bind
      fun found m' ⟨hprogress, hgrows, hcontent, hmade⟩ => ?_
    rw [← hcontent]
    exact hput hprogress hgrows hmade

theorem does_fills (hsound : Sound g among) (h : Progress g among pending m) :
    Does (pending.forM Make.fill) m fun _ m' => Progress g among [] m' ∧ Grows m m' := by
  induction pending generalizing m with
  | nil => exact .pure ⟨h, .refl m⟩
  | cons id others ih =>
    change Does (Make.fill id >>= fun _ => others.forM Make.fill) m _
    refine (does_fill hsound h).bind fun _ m' ⟨hprogress, hgrows⟩ => ?_
    exact (ih hprogress).mono fun _ m'' ⟨hprogress, hgrows'⟩ => ⟨hprogress, hgrows.trans hgrows'⟩

/-- Each round that leaves something to fill made another node. -/
theorem does_fillAll (hsound : Sound g among) {rounds : Nat} (h : Progress g among [] m)
    (hrounds : m.unfilled = [] ∨ m.unmade.card < rounds) :
    Does (Make.fillAll rounds) m fun _ m' => Progress g among [] m' ∧ m'.unfilled = [] ∧
      ∀ id, m.IsMade id → m'.IsMade id := by
  induction rounds generalizing m with
  | zero => exact .pure ⟨h, hrounds.resolve_right (Nat.not_lt_zero _), fun _ => id⟩
  | succ rounds ih =>
    have hrun : (Make.fillAll (rounds + 1)).run m = (
        if m.unfilled.reverse.isEmpty then pure () else do
        modify fun m => { m with unfilled := [] }
        m.unfilled.reverse.forM Make.fill
        Make.fillAll rounds : Make Unit).run m := by
      simp only [Make.fillAll, StateT.run_bind, StateT.run_get, pure_bind]
    refine .of_run_eq ?_ hrun
    by_cases hempty : m.unfilled = []
    · rw [if_pos (by simp [hempty])]
      exact .pure ⟨h, hempty, fun _ => id⟩
    · rw [if_neg (by simp [hempty])]
      let start : Making := { m with unfilled := [] }
      have hstart : Progress g among m.unfilled.reverse start :=
        ⟨h.graph, h.size, fun id hid => h.found id (by simpa [start] using hid),
          fun id c hc => (h.filled id c hc).imp_left (by simp [start])⟩
      refine .step (show StateT.run _ m = Except.ok ((), start) from rfl) ?_
      refine (does_fills hsound hstart).bind fun _ m' ⟨hprogress, hgrows⟩ => ?_
      have hcard : m.unmade.card < rounds + 1 := hrounds.resolve_left hempty
      have hpotential : m'.unmade.card + m'.unfilled.length ≤ m.unmade.card := hgrows.potential
      have hrounds' : m'.unfilled = [] ∨ m'.unmade.card < rounds := by
        rw [← List.length_eq_zero_iff]
        omega
      refine (ih hprogress hrounds').mono fun _ m'' ⟨hprogress, hnone, hmade⟩ => ?_
      exact ⟨hprogress, hnone, fun id hid => hmade id (hgrows.made id hid)⟩

/-- Before anything is made. -/
theorem progress_start (g : Graph) (among : Nat → Prop) : Progress g among [] (.start g) := by
  refine ⟨rfl, by simp [Making.start], nofun, fun id c hc => ?_⟩
  have hnone : (Making.start g).content? id = none := by
    simp only [Making.content?, Making.start, Array.getD_eq_getD_getElem?,
      Array.getElem?_replicate]
    split <;> rfl
  rw [hnone] at hc
  cases hc

end

/-- Contents that give every node that is made its value, where all parts are made as well. -/
structure Settled (g : Graph) (content : NodeId → Content) (made : Nat → Prop) : Prop where
  eq : ∀ id, made id → content id = g.content id
  parts : ∀ id, made id → ∀ part ∈ (g.node id).parts, made part

/-- Among sound nodes making a value never fails and leaves nothing to be filled. -/
theorem exists_settled {g : Graph} {among : Nat → Prop} (hsound : Sound g among) {root : Nat}
    (hroot : among root) : ∃ content made, Settled g content made ∧ made root ∧
      g.value root = .ok
        (unroll content (if endsWithin content g.size root then g.size else readLevels) root) := by
  have hmake : Does (do Make.begin root; Make.fillAll (g.size + 1)) (.start g) fun _ m =>
      Progress g among [] m ∧ m.unfilled = [] ∧ m.IsMade root := by
    refine (does_begin hsound hroot (progress_start g among)).bind
      fun _ m ⟨hprogress, _, hmade⟩ => ?_
    have hcard : m.unmade.card < g.size + 1 := by
      refine Nat.lt_succ_of_le (Nat.le_trans (Finset.card_filter_le ..) ?_)
      rw [Finset.card_range, hprogress.size]
    refine (does_fillAll hsound hprogress (.inr hcard)).mono fun _ m' ⟨hprogress, hnone, hall⟩ => ?_
    exact ⟨hprogress, hnone, hall root hmade⟩
  obtain ⟨_, m, hrun, hprogress, hnone, hroot⟩ := hmake
  refine ⟨fun id => (m.content? id).getD default, m.IsMade, ⟨?_, ?_⟩, hroot, ?_⟩
  · intro id hid
    obtain ⟨c, hc⟩ := Option.ne_none_iff_exists'.1 hid
    rcases hprogress.filled id c hc with hopen | ⟨hcontent, -⟩
    · simp [hnone] at hopen
    · simp [hc, hcontent]
  · intro id hid
    obtain ⟨c, hc⟩ := Option.ne_none_iff_exists'.1 hid
    rcases hprogress.filled id c hc with hopen | ⟨hcontent, hparts⟩
    · simp [hnone] at hopen
    · exact hparts
  · unfold Graph.value
    dsimp only
    rw [hrun]
    rfl

end Scaffold.Yaml
