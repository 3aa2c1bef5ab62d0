import Mathlib.Data.List.Nodup
import Scaffold.Proofs.Acceptance

/-!
# Fields that do not collide

Reading a schema looks at its fields one after the other, each beside those before it. Here the loop
is measured against rules that mention no loop: a schema is accepted exactly when no field claims
what belongs to a standard field, none is a primary key, and names and columns are each different.
A refusal is about the first field that breaks a rule, and the rules have an order among them.
-/
namespace Scaffold

namespace Field

/-- Whether a word is the name or the column of a standard field. -/
def Owns (standard : Field) (word : String) : Prop :=
  standard.name = word ∨ standard.column = word

def Reserved (word : String) : Prop := ∃ t ∈ standard, Owns t word

/-- The rules for the declared fields of a schema. -/
structure CollisionFree (fields : List Field) : Prop where
  unreserved : ∀ f ∈ fields, ¬ Reserved f.name ∧ ¬ Reserved f.column
  noPrimaryKey : ∀ f ∈ fields, f.primaryKey = false
  names : (fields.map (·.name)).Nodup
  columns : (fields.map (·.column)).Nodup

/-- What a field gets wrong beside the fields before it. A rule is only looked at where the rules
above it are kept. -/
inductive Breaks (before : List Field) (f : Field) : Violation → Prop
  | reservedName {t : Field} (ht : t ∈ standard) (h : Owns t f.name) :
    Breaks before f (.reserved f.name t.name)
  | reservedColumn {t : Field} (hname : ¬ Reserved f.name) (ht : t ∈ standard)
    (h : Owns t f.column) : Breaks before f (.reserved f.name t.name)
  | primaryKey (hname : ¬ Reserved f.name) (hcolumn : ¬ Reserved f.column)
    (h : f.primaryKey = true) : Breaks before f (.primaryKey f.name id.name)
  | repeatedName (hname : ¬ Reserved f.name) (hcolumn : ¬ Reserved f.column)
    (hkey : f.primaryKey = false) (h : f.name ∈ before.map (·.name)) :
    Breaks before f (.repeatedName f.name)
  | repeatedColumn (hname : ¬ Reserved f.name) (hcolumn : ¬ Reserved f.column)
    (hkey : f.primaryKey = false) (hnew : f.name ∉ before.map (·.name))
    (h : f.column ∈ before.map (·.column)) : Breaks before f (.repeatedColumn f.column)

/-- The violation of the first field that breaks a rule. -/
def FirstBreak (fields : List Field) (v : Violation) : Prop :=
  ∃ before f after, fields = before ++ f :: after ∧ CollisionFree before ∧ Breaks before f v

/-! ## One field -/

theorem ownerOf?_eq_none_iff (word : String) : ownerOf? word = none ↔ ¬ Reserved word := by
  simp only [ownerOf?, Option.map_eq_none_iff, List.find?_eq_none, Reserved, Owns]
  constructor
  · rintro h ⟨t, ht, hword⟩
    exact h t ht (by simpa using hword)
  · rintro h t ht hword
    exact h ⟨t, ht, by simpa using hword⟩

/-- No two standard fields have a word in common, so the owner of a word is the only one. -/
theorem ownerOf?_eq_some_iff (word owner : String) :
    ownerOf? word = some owner ↔ ∃ t ∈ standard, Owns t word ∧ t.name = owner := by
  constructor
  · intro h
    obtain ⟨t, hfind, rfl⟩ := Option.map_eq_some_iff.1 h
    refine ⟨t, List.mem_of_find?_eq_some hfind, ?_, rfl⟩
    simpa [Owns] using List.find?_some hfind
  · rintro ⟨t, ht, hword, rfl⟩
    simp only [standard, leading, trailing, List.cons_append, List.nil_append, List.mem_cons,
      List.not_mem_nil, or_false] at ht
    rcases ht with rfl | rfl | rfl | rfl <;> rcases hword with rfl | rfl <;> rfl

theorem breaks_of_collision? {earlier : List Field} {f : Field} {v : Violation}
    (h : collision? earlier f = some v) : Breaks earlier f v := by
  unfold collision? at h
  cases hname : ownerOf? f.name with
  | some owner =>
    obtain ⟨t, ht, howns, rfl⟩ := (ownerOf?_eq_some_iff _ _).1 hname
    simp only [hname, Option.orElse_some, Option.some.injEq] at h
    exact h ▸ .reservedName ht howns
  | none =>
    have hfree := (ownerOf?_eq_none_iff _).1 hname
    cases hcolumn : ownerOf? f.column with
    | some owner =>
      obtain ⟨t, ht, howns, rfl⟩ := (ownerOf?_eq_some_iff _ _).1 hcolumn
      simp only [hname, hcolumn, Option.orElse_none, Option.some.injEq] at h
      exact h ▸ .reservedColumn hfree ht howns
    | none =>
      have hfree' := (ownerOf?_eq_none_iff _).1 hcolumn
      simp only [hname, hcolumn, Option.orElse_none, List.any_eq_true, decide_eq_true_eq] at h
      split_ifs at h with hkey hnames hcolumns
      · exact Option.some.inj h ▸ .primaryKey hfree hfree' hkey
      · exact Option.some.inj h ▸ .repeatedName hfree hfree' (by simpa using hkey)
          (List.mem_map.2 hnames)
      · exact Option.some.inj h ▸ .repeatedColumn hfree hfree' (by simpa using hkey)
          (fun hmem => hnames (List.mem_map.1 hmem)) (List.mem_map.2 hcolumns)

theorem collision?_of_breaks {earlier : List Field} {f : Field} {v : Violation}
    (h : Breaks earlier f v) : collision? earlier f = some v := by
  cases h with
  | reservedName ht howns =>
    simp [collision?, (ownerOf?_eq_some_iff _ _).2 ⟨_, ht, howns, rfl⟩]
  | reservedColumn hname ht howns =>
    simp [collision?, (ownerOf?_eq_none_iff _).2 hname,
      (ownerOf?_eq_some_iff _ _).2 ⟨_, ht, howns, rfl⟩]
  | primaryKey hname hcolumn hkey =>
    simp [collision?, (ownerOf?_eq_none_iff _).2 hname, (ownerOf?_eq_none_iff _).2 hcolumn, hkey]
  | repeatedName hname hcolumn hkey hold =>
    simp_all [collision?, (ownerOf?_eq_none_iff _).2 hname, (ownerOf?_eq_none_iff _).2 hcolumn]
  | repeatedColumn hname hcolumn hkey hnew hold =>
    simp_all [collision?, (ownerOf?_eq_none_iff _).2 hname, (ownerOf?_eq_none_iff _).2 hcolumn]

theorem collision?_eq_none_iff (earlier : List Field) (f : Field) :
    collision? earlier f = none ↔ ¬ Reserved f.name ∧ ¬ Reserved f.column ∧ f.primaryKey = false ∧
      f.name ∉ earlier.map (·.name) ∧ f.column ∉ earlier.map (·.column) := by
  constructor
  · intro h
    have hkeeps {v : Violation} (hbreaks : Breaks earlier f v) : False := by
      rw [collision?_of_breaks hbreaks] at h
      cases h
    have hname : ¬ Reserved f.name := fun ⟨_, ht, howns⟩ => hkeeps (.reservedName ht howns)
    have hcolumn : ¬ Reserved f.column :=
      fun ⟨_, ht, howns⟩ => hkeeps (.reservedColumn hname ht howns)
    have hkey : f.primaryKey = false := by
      by_contra hkey
      exact hkeeps (.primaryKey hname hcolumn (by simpa using hkey))
    have hnew : f.name ∉ earlier.map (·.name) :=
      fun hold => hkeeps (.repeatedName hname hcolumn hkey hold)
    exact ⟨hname, hcolumn, hkey, hnew,
      fun hold => hkeeps (.repeatedColumn hname hcolumn hkey hnew hold)⟩
  · rintro ⟨hname, hcolumn, hkey, hnames, hcolumns⟩
    rw [List.mem_map] at hnames hcolumns
    simp [collision?, (ownerOf?_eq_none_iff _).2 hname, (ownerOf?_eq_none_iff _).2 hcolumn, hkey,
      hnames, hcolumns]

@[simp] theorem collision?_reverse (earlier : List Field) (f : Field) :
    collision? earlier.reverse f = collision? earlier f := by
  simp [collision?]

/-! ## The loop -/

theorem collisionFree_nil : CollisionFree [] := ⟨by simp, by simp, by simp, by simp⟩

theorem CollisionFree.of_append {before after : List Field} (h : CollisionFree (before ++ after)) :
    CollisionFree before where
  unreserved f hf := h.unreserved f (List.mem_append_left _ hf)
  noPrimaryKey f hf := h.noPrimaryKey f (List.mem_append_left _ hf)
  names := (List.map_append ▸ h.names).of_append_left
  columns := (List.map_append ▸ h.columns).of_append_left

/-- One turn of the loop: a field can follow others exactly when it breaks no rule beside them. -/
theorem collisionFree_concat_iff {before : List Field} (h : CollisionFree before) (f : Field) :
    CollisionFree (before ++ [f]) ↔ collision? before f = none := by
  rw [collision?_eq_none_iff]
  constructor
  · intro hall
    have hmem : f ∈ before ++ [f] := by simp
    have hnames := hall.names
    have hcolumns := hall.columns
    simp only [List.map_append, List.map_cons, List.map_nil, List.nodup_append, List.mem_singleton]
      at hnames hcolumns
    exact ⟨(hall.unreserved f hmem).1, (hall.unreserved f hmem).2, hall.noPrimaryKey f hmem,
      fun hold => hnames.2.2 _ hold _ rfl rfl, fun hold => hcolumns.2.2 _ hold _ rfl rfl⟩
  · rintro ⟨hname, hcolumn, hkey, hnames, hcolumns⟩
    constructor
    · intro g hg
      rcases List.mem_append.1 hg with hold | hnew
      · exact h.unreserved g hold
      · exact List.mem_singleton.1 hnew ▸ ⟨hname, hcolumn⟩
    · intro g hg
      rcases List.mem_append.1 hg with hold | hnew
      · exact h.noPrimaryKey g hold
      · exact List.mem_singleton.1 hnew ▸ hkey
    · simpa [List.nodup_append] using ⟨h.names, by simpa using hnames⟩
    · simpa [List.nodup_append] using ⟨h.columns, by simpa using hcolumns⟩

/-- The invariant of the loop: the fields passed so far, kept in reverse, do not collide. -/
theorem firstCollision?_eq_none_iff {before : List Field} (h : CollisionFree before)
    (rest : List Field) :
    firstCollision? before.reverse rest = none ↔ CollisionFree (before ++ rest) := by
  induction rest generalizing before with
  | nil => simp [firstCollision?, h]
  | cons f rest ih =>
    have hnext := collisionFree_concat_iff h f
    cases hf : collision? before f with
    | none =>
      have hrest := ih (hnext.2 hf)
      simpa [firstCollision?, hf] using hrest
    | some v =>
      have hbad : ¬ CollisionFree (before ++ f :: rest) := by
        intro hall
        rw [List.append_cons] at hall
        simp [hnext.1 hall.of_append] at hf
      simp [firstCollision?, hf, hbad]

/-- The first break among fields that follow others: the first field breaks a rule, or is passed. -/
theorem exists_break_cons_iff {before : List Field} (h : CollisionFree before) (g : Field)
    (rest : List Field) (v : Violation) :
    (∃ passed f after, g :: rest = passed ++ f :: after ∧ CollisionFree (before ++ passed) ∧
        Breaks (before ++ passed) f v) ↔
      Breaks before g v ∨ ∃ passed f after, rest = passed ++ f :: after ∧
        CollisionFree (before ++ [g] ++ passed) ∧ Breaks (before ++ [g] ++ passed) f v := by
  constructor
  · rintro ⟨passed, f, after, hsplit, hfree, hbreaks⟩
    cases passed with
    | nil =>
      obtain ⟨rfl, rfl⟩ := List.cons.inj hsplit
      exact .inl (by simpa using hbreaks)
    | cons g' passed =>
      obtain ⟨rfl, rfl⟩ := List.cons.inj hsplit
      rw [List.append_cons] at hfree hbreaks
      exact .inr ⟨passed, f, after, rfl, hfree, hbreaks⟩
  · rintro (hbreaks | ⟨passed, f, after, rfl, hfree, hbreaks⟩)
    · exact ⟨[], g, rest, rfl, by simpa using h, by simpa using hbreaks⟩
    · rw [← List.append_cons] at hfree hbreaks
      exact ⟨g :: passed, f, after, rfl, hfree, hbreaks⟩

theorem firstCollision?_eq_some_iff {before : List Field} (h : CollisionFree before)
    (rest : List Field) (v : Violation) :
    firstCollision? before.reverse rest = some v ↔ ∃ passed f after, rest = passed ++ f :: after ∧
      CollisionFree (before ++ passed) ∧ Breaks (before ++ passed) f v := by
  induction rest generalizing before with
  | nil => simp [firstCollision?]
  | cons g rest ih =>
    have hnext := collisionFree_concat_iff h g
    rw [exists_break_cons_iff h]
    cases hg : collision? before g with
    | none =>
      have hkeeps : ¬ Breaks before g v := by
        intro hbreaks
        rw [collision?_of_breaks hbreaks] at hg
        cases hg
      simp only [firstCollision?, collision?_reverse, hg, Option.orElse_none]
      rw [← List.reverse_concat, ih (hnext.2 hg), or_iff_right hkeeps]
    | some u =>
      have hlast : ¬ ∃ passed f after, rest = passed ++ f :: after ∧
          CollisionFree (before ++ [g] ++ passed) ∧ Breaks (before ++ [g] ++ passed) f v := by
        rintro ⟨passed, f, after, -, hfree, -⟩
        rw [hnext.1 hfree.of_append] at hg
        cases hg
      simp only [firstCollision?, collision?_reverse, hg, Option.orElse_some, Option.some.injEq]
      rw [or_iff_left hlast]
      constructor
      · rintro rfl
        exact breaks_of_collision? hg
      · intro hbreaks
        exact Option.some.inj (hg.symm.trans (collision?_of_breaks hbreaks))

theorem firstCollision?_nil_eq_none_iff (fields : List Field) :
    firstCollision? [] fields = none ↔ CollisionFree fields :=
  firstCollision?_eq_none_iff collisionFree_nil fields

theorem firstCollision?_nil_eq_some_iff (fields : List Field) (v : Violation) :
    firstCollision? [] fields = some v ↔ FirstBreak fields v :=
  firstCollision?_eq_some_iff collisionFree_nil fields v

end Field

/-! ## Schemas -/

namespace Schema

theorem Accepted.collisionFree {s : Schema} (h : s.Accepted) : Field.CollisionFree s.fields := by
  obtain ⟨_, _, hfirst⟩ := h.parts
  exact (Field.firstCollision?_nil_eq_none_iff s.fields).1 hfirst

/-- Standard and declared fields differ in a property in which they all differ among themselves. -/
theorem nodup_map_columns {s : Schema} {property : Field → String}
    (hstandard : (Field.standard.map property).Nodup) (hfields : (s.fields.map property).Nodup)
    (hapart : ∀ f ∈ s.fields, ∀ t ∈ Field.standard, property t ≠ property f) :
    (s.columns.map property).Nodup := by
  have hperm : s.columns.Perm (Field.standard ++ s.fields) := by
    simp only [columns, Field.standard, List.append_assoc]
    exact List.Perm.append_left _ List.perm_append_comm
  rw [(hperm.map property).nodup_iff, List.map_append, List.nodup_append]
  refine ⟨hstandard, hfields, fun word hword other hother => ?_⟩
  obtain ⟨t, ht, rfl⟩ := List.mem_map.1 hword
  obtain ⟨f, hf, rfl⟩ := List.mem_map.1 hother
  exact hapart f hf t ht

theorem nodup_columnNames {s : Schema} (h : Field.CollisionFree s.fields) :
    (s.columns.map (·.name)).Nodup :=
  nodup_map_columns (by decide) h.names
    fun f hf t ht howns => (h.unreserved f hf).1 ⟨t, ht, .inl howns⟩

theorem nodup_columnColumns {s : Schema} (h : Field.CollisionFree s.fields) :
    (s.columns.map (·.column)).Nodup :=
  nodup_map_columns (by decide) h.columns
    fun f hf t ht howns => (h.unreserved f hf).2 ⟨t, ht, .inr howns⟩

/-- Where no two fields have one name, each is found by its own. -/
theorem field?_eq_some_iff {s : Schema} (h : Field.CollisionFree s.fields) {name : String}
    {c : Field} : s.field? name = some c ↔ c ∈ s.columns ∧ c.name = name := by
  constructor
  · intro hfind
    exact ⟨List.mem_of_find?_eq_some hfind, by simpa using List.find?_some hfind⟩
  · rintro ⟨hc, rfl⟩
    cases hfind : s.field? c.name with
    | none =>
      have habsent := List.find?_eq_none.1 hfind c hc
      simp at habsent
    | some found =>
      have hname : found.name = c.name := by simpa using List.find?_some hfind
      have hmem := List.mem_of_find?_eq_some hfind
      rw [List.inj_on_of_nodup_map (nodup_columnNames h) hmem hc hname]

theorem field?_eq_none_iff {s : Schema} {name : String} :
    s.field? name = none ↔ ∀ c ∈ s.columns, c.name ≠ name := by
  simp [field?]

/-! ## What is accepted -/

/-- Sound parts make a schema exactly when the fields do not collide, and else the first field that
breaks a rule is the only complaint. In a schema that was accepted, whatever its source, no name and
no column is there twice, so every field is found by its name. -/
theorem loads_iff_collisionFree {entries : Entries} {s : Schema} (hparts : SoundParts entries s)
    (w : World) :
    ((Loading.schema (.entries entries)).start w = (.ok s, w) ↔ Field.CollisionFree s.fields) ∧
    (¬ Field.CollisionFree s.fields → ∃ v, Field.FirstBreak s.fields v) ∧
    (∀ v, read (.map entries) = .invalid [⟨[], .violation v⟩] ↔ Field.FirstBreak s.fields v) ∧
    (∀ v, Field.FirstBreak s.fields v → (Loading.schema (.entries entries)).start w =
      (.error (.failure (.malformed none ("Value error, " ++ v.message))), w)) ∧
    (∀ t : Schema, t.Accepted →
      (t.columns.map (·.name)).Nodup ∧ (t.columns.map (·.column)).Nodup ∧
        ∀ c ∈ t.columns, t.field? c.name = some c) := by
  have hnone := Field.firstCollision?_nil_eq_none_iff s.fields
  have hsome := Field.firstCollision?_nil_eq_some_iff s.fields
  have hread := read_of_soundParts hparts
  refine ⟨?_, ?_, ?_, ?_, ?_⟩
  · rw [← hnone]
    cases hfirst : Field.firstCollision? [] s.fields <;>
      simp [Loading.schema, Loading.start_checked, hread, hasNoCollision, hfirst, Checked.refuse]
  · intro hcollide
    obtain ⟨v, hv⟩ := Option.ne_none_iff_exists'.1 (hcollide ∘ hnone.1)
    exact ⟨v, (hsome v).1 hv⟩
  · intro v
    rw [← hsome, hread]
    cases hfirst : Field.firstCollision? [] s.fields <;>
      simp [hasNoCollision, hfirst, Checked.refuse]
  · intro v hv
    simp only [Loading.schema, Loading.start_checked, hread, hasNoCollision, (hsome v).2 hv,
      Checked.refuse]
    rfl
  · intro t ht
    have hfree := ht.collisionFree
    exact ⟨nodup_columnNames hfree, nodup_columnColumns hfree,
      fun c hc => (field?_eq_some_iff hfree).2 ⟨hc, rfl⟩⟩

/-- A page whose title and heading are kept in one column. -/
def page : Schema where
  name := "Page"
  table := "pages"
  fields := [
    { name := "title", column := "title", type := .string },
    { name := "heading", column := "title", type := .integer }]
  operations := []
  policies := []

def pageEntries : Entries := [
  (.text "name", .text "Page"),
  (.text "tableName", .text "pages"),
  (.text "fields", .list [
    .map [(.text "name", .text "title"), (.text "dbName", .text "title"),
      (.text "type", .text "string")],
    .map [(.text "name", .text "heading"), (.text "dbName", .text "title"),
      (.text "type", .text "integer")]]),
  (.text "operations", .list []),
  (.text "rls", .list [])]

theorem page_refused :
    SoundParts pageEntries page ∧ (Loading.schema (.entries pageEntries)).start Run.bareWorld =
      (.error (.failure (.malformed none "Value error, Duplicate field dbName 'title'.")),
        Run.bareWorld) ∧
    (article.columns.map (·.column)).Nodup := by
  have hparts : SoundParts pageEntries page := ⟨rfl, rfl, rfl, rfl, rfl, rfl, rfl⟩
  have hbreak : Field.FirstBreak page.fields (.repeatedColumn "title") :=
    (Field.firstCollision?_nil_eq_some_iff page.fields _).1 rfl
  have hall := loads_iff_collisionFree hparts Run.bareWorld
  exact ⟨hparts, hall.2.2.2.1 _ hbreak, (hall.2.2.2.2 article article_accepted).2.1⟩

end Schema
end Scaffold
