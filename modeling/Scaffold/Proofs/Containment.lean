import Scaffold.Proofs.Spelling
import Scaffold.Proofs.Stages

/-!
# Which artifacts stay below the root

A path that is relative and never steps back leads below every root. In the standard layout this
depends on the names of the entity and of its table only, and for each kind of artifact it is said
here which names do it: a name is part of a longer text, so that what stands before and after it in
this text may keep it from stepping back.
-/
namespace Scaffold

open Artifact FileSystem

/-! ## Paths that lead downward -/

namespace Path

/-- A relative path without a step back. -/
structure Descends (p : Path) : Prop where
  relative : p.anchor = .relative
  forward : ".." ∉ p.names

instance (p : Path) : Decidable p.Descends :=
  decidable_of_iff (p.anchor = .relative ∧ ".." ∉ p.names)
    ⟨fun h => ⟨h.1, h.2⟩, fun h => ⟨h.relative, h.forward⟩⟩

theorem descends_child {p : Path} {s : String} :
    (p.child s).Descends ↔ p.Descends ∧ (ofString s).Descends := by
  rw [child, join]
  constructor
  · intro h
    split at h
    · next hs =>
      have hforward := h.forward
      rw [List.mem_append, not_or] at hforward
      exact ⟨⟨h.relative, hforward.1⟩, hs, hforward.2⟩
    · next hs => exact absurd h.relative hs
  · rintro ⟨hp, hs⟩
    rw [if_pos hs.relative]
    refine ⟨hp.relative, ?_⟩
    rw [List.mem_append, not_or]
    exact ⟨hp.forward, hs.forward⟩

theorem Descends.names_child_ne_nil {p : Path} {s : String} (h : (p.child s).Descends)
    (hp : p.names ≠ []) : (p.child s).names ≠ [] := by
  rw [child, join, if_pos (descends_child.1 h).2.relative]
  exact List.append_ne_nil_of_left_ne_nil hp _

theorem Descends.location_join {p : Path} (h : p.Descends) (root : Path) :
    (root.join p).location = root.location ++ p.names := by
  rw [join, if_pos h.relative]
  exact located_append_of_notMem root.names p.names h.forward

/-! ## Texts within a name -/

/-- What can stand at the beginning of a name: it is not absolute and takes no step back. -/
structure Opens (s : String) : Prop where
  relative : s.toList.head? ≠ some '/'
  forward : ¬ back <:+: '/' :: s.toList

/-- What can stand in the middle of a name. -/
def Continues (s : String) : Prop := ¬ back <:+: s.toList

/-- A piece of a name that is not of dots alone, so that no step back reaches over it. -/
def Separates (s : String) : Prop := '/' ∉ s.toList ∧ ∃ c ∈ s.toList, c ≠ '.'

instance (s : String) : Decidable (Opens s) :=
  decidable_of_iff (s.toList.head? ≠ some '/' ∧ ¬ back <:+: '/' :: s.toList)
    ⟨fun h => ⟨h.1, h.2⟩, fun h => ⟨h.relative, h.forward⟩⟩

instance (s : String) : Decidable (Continues s) := inferInstanceAs (Decidable (¬ _))

instance (s : String) : Decidable (Separates s) :=
  decidable_of_iff ('/' ∉ s.toList ∧ s.toList.any (· ≠ '.') = true) (by simp [Separates])

theorem descends_ofString_iff (s : String) :
    (ofString s).Descends ↔
      s.toList.head? ≠ some '/' ∧ ¬ back <:+: '/' :: (s.toList ++ ['/']) := by
  rw [← dotdot_mem_names_iff, ← anchorOf_eq_relative_iff]
  exact ⟨fun h => ⟨h.relative, h.forward⟩, fun h => ⟨h.1, h.2⟩⟩

/-- A separating piece splits a text for a step back. -/
theorem Separates.back_infix_iff {z : String} (hz : Separates z) (xs ys : List Char) :
    back <:+: xs ++ z.toList ++ ys ↔ back <:+: xs ∨ back <:+: ys := by
  obtain ⟨hslash, c, hc, hdot⟩ := hz
  obtain ⟨before, after, hsplit⟩ := List.append_of_mem hc
  rw [hsplit, List.mem_append, List.mem_cons, not_or, not_or] at hslash
  have hback : c ∉ back := by
    simp [back, hdot, Ne.symm hslash.2.1]
  have hleft : back <:+: xs ++ before ↔ back <:+: xs :=
    Text.infix_append_iff_of_notMem_right hslash.1 ['/', '.', '.'] xs
  have hright : back <:+: after ++ ys ↔ back <:+: ys :=
    Text.infix_append_iff_of_notMem hslash.2.2 ['.', '.', '/'] ys
  have htext : xs ++ z.toList ++ ys = xs ++ before ++ c :: (after ++ ys) := by
    simp [hsplit]
  rw [htext, Text.infix_append_cons_iff hback, hleft, hright]

theorem Separates.head?_append {z : String} (hz : Separates z) (s : String) (ys : List Char) :
    (s.toList ++ z.toList ++ ys).head? ≠ some '/' ↔ s.toList.head? ≠ some '/' := by
  obtain ⟨hslash, c, hc, _⟩ := hz
  cases hs : s.toList with
  | nil =>
    cases hzs : z.toList with
    | nil => rw [hzs] at hc; cases hc
    | cons d rest =>
      rw [hzs, List.mem_cons, not_or] at hslash
      simp [Ne.symm hslash.1]
  | cons d rest => simp

variable {s t z : String}

/-- Behind a separating piece a name ends without a step back. -/
theorem descends_append_iff (hz : Separates z) : (ofString (s ++ z)).Descends ↔ Opens s := by
  have hend : ¬ back <:+: ['/'] := by decide
  have htext : '/' :: ((s ++ z).toList ++ ['/']) = '/' :: s.toList ++ z.toList ++ ['/'] := by
    simp
  have hhead := hz.head?_append s []
  rw [List.append_nil, ← String.toList_append] at hhead
  rw [descends_ofString_iff, htext, hz.back_infix_iff, or_iff_left hend, hhead]
  exact ⟨fun h => ⟨h.1, h.2⟩, fun h => ⟨h.relative, h.forward⟩⟩

theorem opens_append_iff (hz : Separates z) : Opens (s ++ z ++ t) ↔ Opens s ∧ Continues t := by
  have htext : '/' :: (s ++ z ++ t).toList = '/' :: s.toList ++ z.toList ++ t.toList := by
    simp
  have hhead := hz.head?_append s t.toList
  rw [← String.toList_append, ← String.toList_append] at hhead
  constructor
  · rintro ⟨hrelative, hforward⟩
    rw [htext, hz.back_infix_iff, not_or] at hforward
    exact ⟨⟨hhead.1 hrelative, hforward.1⟩, hforward.2⟩
  · rintro ⟨hs, ht⟩
    refine ⟨hhead.2 hs.relative, ?_⟩
    rw [htext, hz.back_infix_iff, not_or]
    exact ⟨hs.forward, ht⟩

theorem opens_prepend_iff (hz : Separates z) : Opens (z ++ t) ↔ Continues t := by
  have hempty : Opens "" := by decide
  have hiff := opens_append_iff (s := "") (t := t) hz
  rw [String.empty_append] at hiff
  rw [hiff, and_iff_right hempty]

theorem Opens.continues (h : Opens s) : Continues s :=
  fun hback => h.forward (hback.trans (List.suffix_cons _ _).isInfix)

theorem Descends.opens (h : (ofString s).Descends) : Opens s := by
  rw [descends_ofString_iff] at h
  exact ⟨h.1, fun hback => h.2 (hback.trans (List.prefix_append ('/' :: s.toList) ['/']).isInfix)⟩

/-- A text without a slash opens a name. -/
theorem opens_of_notMem (h : '/' ∉ s.toList) : Opens s := by
  refine ⟨fun hhead => h (List.mem_of_head? hhead), fun hback => ?_⟩
  have hcount := hback.sublist.count_le '/'
  rw [List.count_cons_self, List.count_eq_zero.2 h] at hcount
  exact absurd hcount (by decide)

theorem descends_of_notMem (h : '/' ∉ s.toList) (hdots : s ≠ "..") : (ofString s).Descends := by
  refine ⟨(anchorOf_eq_relative_iff _).2 (opens_of_notMem h).relative, fun hmem => hdots ?_⟩
  obtain ⟨hparts, _⟩ := List.mem_filter.1 hmem
  rw [Text.parts_of_notMem h, List.map_singleton, String.ofList_toList] at hparts
  exact (List.mem_singleton.1 hparts).symm

end Path

/-! ## The standard layout -/

open Scaffold.Path

/-- The names for which the standard path of an artifact leads downward. -/
def Artifact.Kind.Downward (timestamp entity table : String) : Kind → Prop
  | .migration => Opens timestamp ∧ Continues table
  | .validation | .endpoint => Opens table
  | .repository | .model | .service | .adminPage | .client => Opens entity
  | .hook => Continues entity
  | .demo => (Path.ofString table).Descends ∧ Opens entity

namespace Layout

theorem descends_file_iff {p : Path} (h : p.Descends) (name : String) {piece ending : String}
    (hpiece : Separates (piece ++ ending)) :
    (p.child (name ++ piece ++ ending)).Descends ↔ Opens name := by
  rw [descends_child, and_iff_right h, String.append_assoc, descends_append_iff hpiece]

theorem descends_crud_iff (table : String) {file : String} (h : (Path.ofString file).Descends) :
    (((Path.ofString standard.functions).child (table ++ "-crud")).child file).Descends ↔
      Opens table := by
  have hfunctions : (Path.ofString standard.functions).Descends := by decide
  rw [descends_child, and_iff_left h, descends_child, and_iff_right hfunctions,
    descends_append_iff (by decide)]

theorem descends_standard_iff (timestamp entity table : String) (kind : Kind) :
    (standard.path timestamp entity table kind).Descends ↔
      kind.Downward timestamp entity table := by
  cases kind with
  | migration =>
    exact (descends_file_iff (by decide) (timestamp ++ "_create_" ++ table) (by decide)).trans
      (opens_append_iff (by decide))
  | validation | endpoint => exact descends_crud_iff table (by decide)
  | repository | model | service | adminPage | client =>
    exact descends_file_iff (by decide) entity (by decide)
  | hook =>
    exact (descends_file_iff (by decide) ("use" ++ entity) (by decide)).trans
      (opens_prepend_iff (by decide))
  | demo =>
    have hfeatures : (Path.ofString standard.features).Descends := by decide
    have hfile : (Path.ofString (entity ++ "sDemo." ++ "tsx")).Descends ↔ Opens entity := by
      rw [String.append_assoc, descends_append_iff (by decide)]
    change (((Path.ofString standard.features).child table).child
      (entity ++ "sDemo." ++ "tsx")).Descends ↔ _
    rw [descends_child, descends_child, and_iff_right hfeatures, hfile]
    rfl

/-- All paths lead downward just if those of the migration, of the demo and of a file that begins
with the name of the entity do. -/
theorem forall_descends_standard_iff (timestamp entity table : String) :
    (∀ kind, (standard.path timestamp entity table kind).Descends) ↔
      Opens timestamp ∧ Opens entity ∧ (Path.ofString table).Descends := by
  simp only [descends_standard_iff]
  constructor
  · intro h
    exact ⟨(h .migration).1, h .model, (h .demo).1⟩
  · rintro ⟨htimestamp, hentity, htable⟩ kind
    have hopens := Descends.opens htable
    cases kind with
    | migration => exact ⟨htimestamp, hopens.continues⟩
    | validation | endpoint => exact hopens
    | repository | model | service | adminPage | client => exact hentity
    | hook => exact hentity.continues
    | demo => exact ⟨htable, hentity⟩

theorem names_standard_ne_nil {timestamp entity table : String} {kind : Kind}
    (h : (standard.path timestamp entity table kind).Descends) :
    (standard.path timestamp entity table kind).names ≠ [] := by
  cases kind with
  | migration | repository | model | service | hook | adminPage | client =>
    exact Descends.names_child_ne_nil h (by decide)
  | validation | endpoint | demo =>
    have hdirectory := (descends_child.1 h).1
    exact Descends.names_child_ne_nil h (Descends.names_child_ne_nil hdirectory (by decide))

end Layout

/-- The standard time stamp has digits only. -/
theorem Calendar.opens_format (t : DateTime) :
    Opens (t.format Config.standard.timestampFormat) := by
  refine opens_of_notMem fun hslash => ?_
  cases isDigit_of_mem_format hslash

/-! ## All artifacts -/

/-- Where the artifacts of a schema go in the standard layout. -/
structure Contained (s : Schema) : Prop where
  descends_iff : ∀ timestamp kind,
    (Layout.standard.path timestamp s.name s.table kind).Descends ↔
      kind.Downward timestamp s.name s.table
  all_iff : ∀ timestamp,
    (∀ kind, (Layout.standard.path timestamp s.name s.table kind).Descends) ↔
      Opens timestamp ∧ Opens s.name ∧ (Path.ofString s.table).Descends
  stamped_iff : ∀ t : Calendar.DateTime,
    (∀ kind, (Layout.standard.path (t.format Config.standard.timestampFormat) s.name s.table
      kind).Descends) ↔ Opens s.name ∧ (Path.ofString s.table).Descends
  plain : '/' ∉ s.name.toList → '/' ∉ s.table.toList → s.table ≠ ".." →
    Opens s.name ∧ (Path.ofString s.table).Descends
  below : ∀ timestamp (e : Emitter) (a : Artifact),
    a.path = Layout.standard.path timestamp s.name s.table a.kind → a.path.Descends →
      ∃ names, names ≠ [] ∧ (e.target a).location = e.root.location ++ names

/-- In the standard layout an artifact goes below the root if neither the name of the entity nor
that of its table is absolute or steps back, as far as they are parts of its path. -/
theorem artifacts_contained (s : Schema) : Contained s where
  descends_iff timestamp kind := Layout.descends_standard_iff timestamp s.name s.table kind
  all_iff timestamp := Layout.forall_descends_standard_iff timestamp s.name s.table
  stamped_iff t := by
    rw [Layout.forall_descends_standard_iff, and_iff_right (Calendar.opens_format t)]
  plain hname htable hdots := ⟨opens_of_notMem hname, descends_of_notMem htable hdots⟩
  below timestamp e a hpath hdescends := by
    refine ⟨a.path.names, ?_, hdescends.location_join e.root⟩
    rw [hpath] at hdescends ⊢
    exact Layout.names_standard_ne_nil hdescends

/-! ## Names that lead astray -/

namespace Schema

/-- A schema whose entity is named like a file in the root directory, and whose table lies above. -/
def stray : Schema where
  name := "/N"
  table := "../../../t"
  fields := []
  operations := []
  policies := []

def strayEntries : Entries := [
  (.text "name", .text "/N"),
  (.text "tableName", .text "../../../t"),
  (.text "fields", .list []),
  (.text "operations", .list []),
  (.text "rls", .list [])]

theorem stray_accepted : stray.Accepted := (accepted_iff stray).2 ⟨strayEntries, rfl⟩

end Schema

/-- Such names are accepted: the model is absolute, and the endpoint steps back until it is beside
the root. -/
theorem stray_not_contained : Schema.stray.Accepted ∧
    (Layout.standard.path "1" Schema.stray.name Schema.stray.table .model).anchor = .absolute ∧
    ".." ∈ (Layout.standard.path "1" Schema.stray.name Schema.stray.table .endpoint).names ∧
    ((Path.mk .absolute ["work"]).join (Layout.standard.path "1" Schema.stray.name
      Schema.stray.table .endpoint)).location = ["t-crud", "index.ts"] :=
  ⟨Schema.stray_accepted, by decide, by decide, by decide⟩

end Scaffold
