import Scaffold.Proofs.Making
import Scaffold.Proofs.Numerals
import Scaffold.Yaml

/-!
# JSON read as YAML

The nodes of a portable notation have the values that they have in JSON. A part has a higher number
than what it is part of, so nothing lies deeper than there are nodes. Hence a portable object is
read alike in both notations, unless it is too deep for the one.
-/
namespace Scaffold.Yaml

open Document.Json (Gap Piece Quoted Atom Name Value Items Members Notation)

variable {g : Graph}

/-! ## Nodes with values -/

/-- The nodes of portable values, and those of names. -/
def Represents (g : Graph) (id : Nat) : Prop :=
  (∃ v : Value, v.isPortable = true ∧ Draws g v id) ∨
    id < g.size ∧ IsName g id

theorem Draws.lt {v : Value} {id : Nat} (h : Draws g v id) : id < g.size := by
  cases v <;> exact h.1

theorem represents_items (items : Items) {least : Nat} {ids : List Nat}
    (hportable : items.isPortable = true) (h : DrawsItems g items least ids) :
    ∀ id ∈ ids, Represents g id := by
  cases items with
  | last v _ =>
    simp only [Items.isPortable, Bool.and_eq_true] at hportable
    obtain ⟨id, rfl, -, hv⟩ := h
    simpa using .inl ⟨v, hportable.1, hv⟩
  | more v _ _ others =>
    simp only [Items.isPortable, Bool.and_eq_true] at hportable
    obtain ⟨id, rest, rfl, -, hv, hothers⟩ := h
    exact List.forall_mem_cons.2
      ⟨.inl ⟨v, hportable.1.1.1, hv⟩, represents_items others hportable.2 hothers⟩

theorem represents_members (members : Members) {least : Nat} {entries : List (Nat × Nat)}
    (hportable : members.isPortable = true) (h : DrawsMembers g members least entries) :
    ∀ e ∈ entries, (Represents g e.1 ∧ IsName g e.1) ∧ Represents g e.2 := by
  have hentry {name : Name} {v : Value} {e : Nat × Nat} (hlt : e.1 < g.size)
      (hname : g.node e.1 = .scalar .text name.quoted.letters) (hv : v.isPortable = true)
      (hdraws : Draws g v e.2) :
      (Represents g e.1 ∧ IsName g e.1) ∧ Represents g e.2 :=
    ⟨⟨.inr ⟨hlt, _, hname⟩, _, hname⟩, .inl ⟨v, hv, hdraws⟩⟩
  cases members with
  | last name v _ =>
    simp only [Members.isPortable, Bool.and_eq_true] at hportable
    obtain ⟨e, rfl, -, hlt, hname, -, hv⟩ := h
    exact List.forall_mem_singleton.2 (hentry hlt hname hportable.1.2 hv)
  | more name v _ _ others =>
    simp only [Members.isPortable, Bool.and_eq_true] at hportable
    obtain ⟨e, rest, rfl, -, hlt, hname, -, hv, hothers⟩ := h
    exact List.forall_mem_cons.2 ⟨hentry hlt hname hportable.1.1.1.2 hv,
      represents_members others hportable.2 hothers⟩

theorem sound_represents (g : Graph) : Sound g (Represents g) := by
  refine ⟨fun id hid => ?_, fun id hid => ?_⟩
  · obtain ⟨v, -, hv⟩ | ⟨hlt, -⟩ := hid
    · exact hv.lt
    · exact hlt
  · obtain ⟨v, hportable, hv⟩ | ⟨-, letters, hnode⟩ := hid
    · cases v with
      | atom a =>
        rw [hv.2]
        refine .scalar (value_atom hportable).1 ?_
        rw [Letter.text_map_char]
        exact (value_atom hportable).2
      | string q =>
        rw [hv.2]
        exact .scalar rfl (isOwnNan_ofLetters ..)
      | emptyArray =>
        rw [hv.2]
        exact .sequence nofun
      | emptyObject =>
        rw [hv.2]
        exact .mapping nofun
      | array gap items =>
        obtain ⟨-, ids, hnode, hitems⟩ := hv
        simp only [Value.isPortable, Bool.and_eq_true] at hportable
        rw [hnode]
        exact .sequence (represents_items items hportable.2 hitems)
      | object gap members =>
        obtain ⟨-, entries, hnode, hmembers⟩ := hv
        simp only [Value.isPortable, Bool.and_eq_true] at hportable
        rw [hnode]
        exact .mapping (represents_members members hportable.2 hmembers)
    · rw [hnode]
      exact .scalar rfl (isOwnNan_ofLetters ..)

/-! ## Their values -/

section

variable {content : NodeId → Content} {made : Nat → Prop}

theorem unroll_name (hsettled : Settled g content made) {id : Nat} {letters : List Letter}
    (hmade : made id) (hnode : g.node id = .scalar .text letters) (levels : Nat) :
    unroll content levels id = .ofLetters letters ∧ endsWithin content levels id = true := by
  have hcontent : content id = .scalar (.ofLetters letters) none :=
    (hsettled.eq id hmade).trans (content_scalar hnode rfl)
  cases levels <;>
    simp [unroll, endsWithin, hcontent, Content.blank, Content.document, Content.parts]

/-- Keys are the same where they are nodes just if they are when unrolled, so the entries that stay
are the same before and after. -/
theorem map_assignedBy_unroll (hsettled : Settled g content made)
    {entries : List (NodeId × NodeId)}
    (hnames : ∀ e ∈ entries, made e.1 ∧ IsName g e.1) (levels : Nat) :
    (assignedBy (fun key => (g.node key).name?) entries).map
        (Prod.map (unroll content levels) (unroll content levels)) =
      assignedBy Document.key?
        (entries.map (Prod.map (unroll content levels) (unroll content levels))) := by
  apply map_assignedBy
  intro e he e' he'
  obtain ⟨hmade, letters, hs⟩ := hnames e he
  obtain ⟨hmade', letters', hs'⟩ := hnames e' he'
  rw [(unroll_name hsettled hmade hs levels).1, (unroll_name hsettled hmade' hs' levels).1, hs, hs']
  exact Iff.rfl

mutual

theorem unroll_value (hsettled : Settled g content made) (v : Value) {id levels : Nat}
    (hportable : v.isPortable = true) (h : Draws g v id) (hmade : made id)
    (hlevels : g.size ≤ id + levels) :
    unroll content levels id = v.document ∧ endsWithin content levels id = true := by
  obtain ⟨levels, rfl⟩ : ∃ k, levels = k + 1 := ⟨levels - 1, by have := h.lt; omega⟩
  have hcontent := hsettled.eq id hmade
  have hparts := hsettled.parts id hmade
  simp only [unroll, endsWithin]
  cases v with
  | atom a =>
    rw [hcontent, content_scalar h.2 (value_atom hportable).1]
    exact ⟨rfl, rfl⟩
  | string q =>
    rw [hcontent, content_scalar h.2 rfl]
    exact ⟨rfl, rfl⟩
  | emptyArray =>
    rw [hcontent, content_sequence h.2]
    exact ⟨rfl, rfl⟩
  | emptyObject =>
    rw [hcontent, content_mapping h.2]
    exact ⟨rfl, rfl⟩
  | array gap items =>
    obtain ⟨-, ids, hnode, hitems⟩ := h
    simp only [Value.isPortable, Bool.and_eq_true] at hportable
    rw [hnode] at hparts
    obtain ⟨hdocuments, hends⟩ := unroll_items hsettled items hportable.2 hitems hparts
      (show g.size ≤ id + 1 + levels by omega)
    rw [hcontent, content_sequence hnode, Content.document, hdocuments]
    exact ⟨rfl, hends⟩
  | object gap members =>
    obtain ⟨-, entries, hnode, hmembers⟩ := h
    simp only [Value.isPortable, Bool.and_eq_true] at hportable
    rw [hnode] at hparts
    have hmade : ∀ e ∈ entries, made e.1 ∧ made e.2 := fun e he =>
      ⟨hparts _ (List.mem_flatMap.2 ⟨e, he, by simp⟩),
        hparts _ (List.mem_flatMap.2 ⟨e, he, by simp⟩)⟩
    obtain ⟨hassignments, hends⟩ := unroll_members hsettled members hportable.2 hmembers hmade
      (show g.size ≤ id + 1 + levels by omega)
    rw [hcontent, content_mapping hnode]
    refine ⟨?_, ?_⟩
    · have hnames : ∀ e ∈ entries, made e.1 ∧ IsName g e.1 := fun e he =>
        ⟨(hmade e he).1, (represents_members members hportable.2 hmembers e he).1.2⟩
      have hmap := map_assignedBy_unroll hsettled hnames levels
      rw [hassignments] at hmap
      rw [Value.document]
      exact congrArg Document.map hmap
    · simp only [Content.parts, List.all_flatMap, List.all_cons, List.all_nil, Bool.and_true,
        List.all_eq_true, Bool.and_eq_true]
      exact forall_mem_assignedBy (P := fun key => endsWithin content levels key = true)
        (Q := fun value => endsWithin content levels value = true) hends

theorem unroll_items (hsettled : Settled g content made) (items : Items) {least levels : Nat}
    {ids : List Nat} (hportable : items.isPortable = true) (h : DrawsItems g items least ids)
    (hmade : ∀ id ∈ ids, made id) (hlevels : g.size ≤ least + levels) :
    ids.map (unroll content levels) = items.documents ∧
      ids.all (endsWithin content levels) = true := by
  cases items with
  | last v _ =>
    simp only [Items.isPortable, Bool.and_eq_true] at hportable
    obtain ⟨id, rfl, hleast, hv⟩ := h
    have hid := List.forall_mem_singleton.1 hmade
    obtain ⟨hdocument, hends⟩ := unroll_value hsettled v hportable.1 hv hid
      (show g.size ≤ id + levels by omega)
    simp [Items.documents, hdocument, hends]
  | more v _ _ others =>
    simp only [Items.isPortable, Bool.and_eq_true] at hportable
    obtain ⟨id, rest, rfl, hleast, hv, hothers⟩ := h
    obtain ⟨hid, hrest⟩ := List.forall_mem_cons.1 hmade
    obtain ⟨hdocument, hends⟩ := unroll_value hsettled v hportable.1.1.1 hv hid
      (show g.size ≤ id + levels by omega)
    obtain ⟨hdocuments, hall⟩ := unroll_items hsettled others hportable.2 hothers hrest hlevels
    simp [Items.documents, hdocument, hends, hdocuments, hall]

theorem unroll_members (hsettled : Settled g content made) (members : Members) {least levels : Nat}
    {entries : List (Nat × Nat)} (hportable : members.isPortable = true)
    (h : DrawsMembers g members least entries) (hmade : ∀ e ∈ entries, made e.1 ∧ made e.2)
    (hlevels : g.size ≤ least + levels) :
    entries.map (Prod.map (unroll content levels) (unroll content levels)) = members.assignments ∧
      ∀ e ∈ entries,
        endsWithin content levels e.1 = true ∧ endsWithin content levels e.2 = true := by
  cases members with
  | last name v _ =>
    simp only [Members.isPortable, Bool.and_eq_true] at hportable
    obtain ⟨e, rfl, -, -, hname, hleast, hv⟩ := h
    obtain ⟨hkey, hvalue⟩ := List.forall_mem_singleton.1 hmade
    obtain ⟨hdocument, hends⟩ := unroll_value hsettled v hportable.1.2 hv hvalue
      (show g.size ≤ e.2 + levels by omega)
    obtain ⟨htext, hends'⟩ := unroll_name hsettled hkey hname levels
    simp [Members.assignments, Quoted.document, Prod.map, hdocument, hends, htext, hends']
  | more name v _ _ others =>
    simp only [Members.isPortable, Bool.and_eq_true] at hportable
    obtain ⟨e, rest, rfl, -, -, hname, hleast, hv, hothers⟩ := h
    obtain ⟨⟨hkey, hvalue⟩, hrest⟩ := List.forall_mem_cons.1 hmade
    obtain ⟨hdocument, hends⟩ := unroll_value hsettled v hportable.1.1.1.2 hv hvalue
      (show g.size ≤ e.2 + levels by omega)
    obtain ⟨htext, hends'⟩ := unroll_name hsettled hkey hname levels
    obtain ⟨hassignments, hall⟩ :=
      unroll_members hsettled others hportable.2 hothers hrest hlevels
    refine ⟨?_, List.forall_mem_cons.2 ⟨⟨hends', hends⟩, hall⟩⟩
    rw [List.map_cons, hassignments, Members.assignments, Prod.map, htext, hdocument,
      Quoted.document]

end

end

theorem value_of_draws {v : Value} {root : Nat} (hportable : v.isPortable = true)
    (h : Draws g v root) : g.value root = .ok v.document := by
  obtain ⟨content, made, hsettled, hmade, hvalue⟩ :=
    exists_settled (sound_represents g) (.inl ⟨v, hportable, h⟩)
  obtain ⟨hdocument, hends⟩ := unroll_value hsettled v hportable h hmade (Nat.le_add_left ..)
  rw [hvalue, if_pos hends, hdocument]

/-! ## Its characters -/

theorem isAllowed_of_ascii {ch : Char} (hleast : 0x20 ≤ ch.toNat) (hmost : ch.toNat < 0x7F) :
    isAllowed ch = true := by
  have hin : 0x20 ≤ ch.toNat ∧ ch.toNat ≤ 0x7E := ⟨hleast, Nat.le_of_lt_succ hmost⟩
  simp [isAllowed, hin]

theorem isAllowed_gap {gap : Gap} (h : gap.isPortable = true) : gap.chars.all isAllowed = true := by
  refine List.all_eq_true.2 fun ch hch => ?_
  rcases isSpacing_of_isPortable h ch hch with rfl | rfl <;> rfl

theorem isAllowed_hexDigit {ch : Char} {n : Nat} (h : Document.Json.hexValue? ch = some n) :
    isAllowed ch = true := by
  have hbetween {low high : Char} (hlow : 0x20 ≤ low.toNat) (hhigh : high.toNat < 0x7F)
      (hin : low ≤ ch ∧ ch ≤ high) : isAllowed ch = true :=
    isAllowed_of_ascii (Nat.le_trans hlow hin.1) (Nat.lt_of_le_of_lt hin.2 hhigh)
  unfold Document.Json.hexValue? at h
  split at h
  · next hin => exact hbetween (by decide) (by decide) hin
  · split at h
    · next hin => exact hbetween (by decide) (by decide) hin
    · split at h
      · next hin => exact hbetween (by decide) (by decide) hin
      · cases h

theorem isAllowed_piece {p : Piece} (h : p.isPortable = true) : p.text.all isAllowed = true := by
  cases p with
  | plain c _ =>
    simp only [Piece.isPortable, Bool.and_eq_true] at h
    rw [Piece.text, List.all_cons, h.1]
    rfl
  | short mark c hmark =>
    have hallowed : isAllowed mark = true := by
      unfold Document.Json.escaped? at hmark
      split at hmark <;> first | rfl | cases hmark
    rw [Piece.text, List.all_cons, List.all_cons, hallowed]
    rfl
  | unit digits =>
    obtain ⟨i, j, k, l, ha, hb, hc, hd, -⟩ := exists_values digits
    simp only [Piece.text, Piece.escape, List.all_cons, isAllowed_hexDigit ha,
      isAllowed_hexDigit hb, isAllowed_hexDigit hc, isAllowed_hexDigit hd]
    rfl
  | pair => cases h

theorem isAllowed_quoted {q : Quoted} (h : q.isPortable = true) : q.text.all isAllowed = true := by
  induction q with
  | nil => rfl
  | cons p q ih =>
    simp only [Quoted.isPortable, List.all_cons, Bool.and_eq_true] at h
    rw [Quoted.text, List.all_append, isAllowed_piece h.1, ih h.2]
    rfl

theorem isAllowed_atom (a : Atom) : a.text.all isAllowed = true := by
  refine List.all_eq_true.2 fun ch hch => ?_
  obtain ⟨hleast, hmost⟩ := toNat_of_inWord (inWord_of_atom a ch hch)
  exact isAllowed_of_ascii (Nat.le_of_lt hleast) hmost

theorem isAllowed_name {name : Name} (h : name.isPortable = true) :
    name.text.all isAllowed = true := by
  simp only [Name.isPortable, Bool.and_eq_true] at h
  obtain ⟨⟨⟨hquoted, hbefore⟩, hafter⟩, -⟩ := h
  have hinline : name.before.chars.all isAllowed = true := by
    refine List.all_eq_true.2 fun ch hch => ?_
    have heq : ch = ' ' := by simpa using List.all_eq_true.1 hbefore ch hch
    rw [heq]
    rfl
  simp only [Name.text, List.all_append, List.all_cons, isAllowed_quoted hquoted, hinline,
    isAllowed_gap hafter]
  rfl

mutual

theorem isAllowed_value (v : Value) (h : v.isPortable = true) : v.text.all isAllowed = true := by
  cases v with
  | atom a => exact isAllowed_atom a
  | string q => rw [Value.text, List.all_cons, isAllowed_quoted h]; rfl
  | emptyArray gap =>
    rw [Value.text, List.all_append, List.all_cons, isAllowed_gap h]
    rfl
  | emptyObject gap =>
    rw [Value.text, List.all_append, List.all_cons, isAllowed_gap h]
    rfl
  | array gap items =>
    simp only [Value.isPortable, Bool.and_eq_true] at h
    rw [Value.text, List.all_append, List.all_cons, isAllowed_gap h.1, isAllowed_items items h.2]
    rfl
  | object gap members =>
    simp only [Value.isPortable, Bool.and_eq_true] at h
    rw [Value.text, List.all_append, List.all_cons, isAllowed_gap h.1,
      isAllowed_members members h.2]
    rfl

theorem isAllowed_items (items : Items) (h : items.isPortable = true) :
    items.text.all isAllowed = true := by
  cases items with
  | last v after =>
    simp only [Items.isPortable, Bool.and_eq_true] at h
    rw [Items.text, List.all_append, List.all_append, isAllowed_value v h.1, isAllowed_gap h.2]
    rfl
  | more v after before others =>
    simp only [Items.isPortable, Bool.and_eq_true] at h
    rw [Items.text, List.all_append, List.all_append, List.all_append, List.all_cons,
      isAllowed_value v h.1.1.1, isAllowed_gap h.1.1.2, isAllowed_gap h.1.2,
      isAllowed_items others h.2]
    rfl

theorem isAllowed_members (members : Members) (h : members.isPortable = true) :
    members.text.all isAllowed = true := by
  cases members with
  | last name v after =>
    simp only [Members.isPortable, Bool.and_eq_true] at h
    rw [Members.text, List.all_append, List.all_append, List.all_append, isAllowed_name h.1.1,
      isAllowed_value v h.1.2, isAllowed_gap h.2]
    rfl
  | more name v after before others =>
    simp only [Members.isPortable, Bool.and_eq_true] at h
    rw [Members.text]
    simp only [List.all_append, List.all_cons, isAllowed_name h.1.1.1.1,
      isAllowed_value v h.1.1.1.2, isAllowed_gap h.1.1.2, isAllowed_gap h.1.2,
      isAllowed_members others h.2]
    rfl

end

theorem isAllowed_text {n : Notation} (h : n.isPortable = true) : n.text.all isAllowed = true := by
  simp only [Notation.isPortable, Bool.and_eq_true] at h
  rw [Notation.text, List.all_append, List.all_append, isAllowed_gap h.1.1,
    isAllowed_value n.value h.1.2, isAllowed_gap h.2]
  rfl

/-! ## The same document -/

/-- A portable object is the same document in both notations, unless its collections lie too deep in
one another. -/
theorem parse_text {n : Notation} (hobject : n.value.isObject = true) (h : n.isPortable = true) :
    parse (String.ofList n.text) =
      if n.value.depth ≤ nestingLimit then .ok n.document else .error .tooDeep := by
  have hvalue : n.value.isPortable = true := by
    simp only [Notation.isPortable, Bool.and_eq_true] at h
    exact h.1.2
  obtain ⟨hfits, hdeep⟩ := ofTokens_object hobject
  unfold parse
  simp only [String.toList_ofList, isAllowed_text h, tokens_text hobject h, if_true]
  by_cases hdepth : n.value.depth ≤ nestingLimit
  · obtain ⟨g, root, htokens, hdraws⟩ := hfits hdepth
    rw [htokens, if_pos hdepth]
    exact value_of_draws hvalue hdraws
  · rw [hdeep hdepth, if_neg hdepth]
    rfl

end Scaffold.Yaml
