import Mathlib.Data.List.TakeWhile
import Scaffold.Proofs.Rereading
import Scaffold.Proofs.Spelling

/-!
# What the names of files end in

A layout gives the endings of migrations, of sources and of components. One that is given must have
a character, and then its leading dots are taken off, so that nothing is left of dots alone. The
name of a file ends in a dot and the ending of its kind as long as something is left and no slash is
in it; and a layout can be written and read again just if something is left of all three.
-/
namespace Scaffold

open Artifact Checked

/-- The endings that a layout gives. -/
inductive Ending
  | migration
  | source
  | component
deriving DecidableEq, Repr

namespace Ending

def all : List Ending := [.migration, .source, .component]

def key : Ending → Label
  | .migration => Layout.migrationEndingKey
  | .source => Layout.sourceEndingKey
  | .component => Layout.componentEndingKey

theorem mem_all (e : Ending) : e ∈ all := by
  cases e <;> decide

end Ending

def Layout.ending (l : Layout) : Ending → String
  | .migration => l.migrationEnding
  | .source => l.sourceEnding
  | .component => l.componentEnding

def Artifact.Kind.ending : Kind → Ending
  | .migration => .migration
  | .adminPage | .demo => .component
  | .validation | .repository | .endpoint | .model | .service | .hook | .client => .source

/-! ## Texts without leading dots -/

namespace Layout

theorem head?_withoutDots (s : String) : (withoutDots s).toList.head? ≠ some '.' := by
  rw [withoutDots, String.toList_ofList]
  intro hhead
  have hnot := List.head?_dropWhile_not (· = '.') s.toList
  rw [hhead] at hnot
  simp at hnot

theorem withoutDots_eq_empty_iff (s : String) :
    withoutDots s = "" ↔ ∀ c ∈ s.toList, c = '.' := by
  rw [← String.toList_inj, withoutDots, String.toList_ofList, String.toList_empty,
    List.dropWhile_eq_nil_iff]
  simp only [decide_eq_true_eq]

theorem withoutDots_eq_self {s : String} (h : s.toList.head? ≠ some '.') : withoutDots s = s := by
  rw [← String.toList_inj, withoutDots, String.toList_ofList]
  cases hs : s.toList with
  | nil => rfl
  | cons c rest =>
    rw [hs, List.head?_cons, ne_eq, Option.some.injEq] at h
    rw [List.dropWhile_cons, if_neg (by simpa using h)]

/-! ## Endings that are read -/

/-- The ending is the text that was given, or else the standard one, without its leading dots. -/
theorem exists_given {key : Label} {default ending : String} {es : Entries}
    (hdefault : withoutDots default = default)
    (h : key.orElse default readEnding es = .valid ending) :
    ∃ s, key.orElse default Reading.nonEmptyText es = .valid s ∧ ending = withoutDots s := by
  unfold Label.orElse at h ⊢
  split at h
  · next spelling v hfind =>
    obtain ⟨s, hs, rfl⟩ := map_eq_valid_iff.1 (under_eq_valid_iff.1 h)
    exact ⟨s, under_eq_valid_iff.2 hs, rfl⟩
  · next hfind =>
    cases h
    exact ⟨default, rfl, hdefault.symm⟩

theorem orElse_of_read {es : Entries} {l : Layout} (h : read (.map es) = .valid l) (e : Ending) :
    e.key.orElse (standard.ending e) readEnding es = .valid (l.ending e) := by
  obtain ⟨hfields, _⟩ := also_eq_valid_iff.1 h
  simp only [functor_map_eq, seq_eq_ap, ap_eq_valid_iff, map_eq_valid_iff] at hfields
  obtain ⟨_, _, ⟨_, _, ⟨_, _, ⟨_, _, ⟨_, _, ⟨_, _, ⟨_, _, ⟨_, _, ⟨_, _, ⟨_, _, ⟨_, _, ⟨_, _, rfl⟩,
    _, rfl⟩, _, rfl⟩, _, rfl⟩, _, rfl⟩, _, rfl⟩, _, rfl⟩, _, rfl⟩, _, rfl⟩, hmigration, rfl⟩,
    hsource, rfl⟩, hcomponent, rfl⟩ := hfields
  cases e with
  | migration => exact hmigration
  | source => exact hsource
  | component => exact hcomponent

end Layout

/-! ## Endings that are read again -/

namespace Checked

variable {α β : Type}

theorem valid_ap (f : α → β) (a : Checked α) : ap (valid f) a = map f a := by
  cases a <;> rfl

theorem also_nil (a : Checked α) : also a [] = a := by
  cases a with
  | valid a => rfl
  | invalid ps => exact congrArg invalid (List.append_nil ps)

end Checked

namespace Layout

def withEndings (l : Layout) (migration source component : String) : Layout :=
  { l with migrationEnding := migration, sourceEnding := source, componentEnding := component }

/-- What comes of an ending where the layout is read as it is written. -/
def again (l : Layout) (e : Ending) : Checked String :=
  (readEnding (.text (l.ending e))).under e.key.name

theorem again_of_eq_empty {l : Layout} {e : Ending} (h : l.ending e = "") :
    l.again e = .invalid [⟨[e.key.name], .emptyText⟩] := by
  rw [again, h]
  rfl

theorem again_of_ne_empty {l : Layout} {e : Ending} (h : l.ending e ≠ "") :
    l.again e = .valid (withoutDots (l.ending e)) := by
  have hread : Reading.nonEmptyText (.text (l.ending e)) = .valid (l.ending e) := if_neg h
  rw [again, readEnding, hread]
  rfl

/-- All but the endings are texts that may be anything. -/
theorem read_toDocument (l : Layout) : read l.toDocument =
    ap (ap (map l.withEndings (l.again .migration)) (l.again .source)) (l.again .component) := by
  have hread : read l.toDocument = also (ap (ap (ap (valid l.withEndings) (l.again .migration))
      (l.again .source)) (l.again .component)) [] := rfl
  rw [hread, also_nil, valid_ap]

/-- An ending of which nothing is left is refused, and nothing else is. -/
theorem problems_read_toDocument (l : Layout) : (read l.toDocument).problems =
    (Ending.all.filter (l.ending · = "")).map fun e => ⟨[e.key.name], .emptyText⟩ := by
  have hagain (e : Ending) : (l.again e).problems =
      if l.ending e = "" then [⟨[e.key.name], .emptyText⟩] else [] := by
    split
    · next hempty => rw [again_of_eq_empty hempty, problems_invalid]
    · next hempty => rw [again_of_ne_empty hempty, problems_valid]
  rw [read_toDocument, problems_ap, problems_ap, problems_map, hagain, hagain, hagain]
  simp only [Ending.all, List.filter_cons, List.filter_nil, decide_eq_true_eq]
  split_ifs <;> rfl

theorem read_toDocument_eq_valid_iff {l : Layout}
    (hundotted : ∀ e, (l.ending e).toList.head? ≠ some '.') :
    read l.toDocument = .valid l ↔ ∀ e, l.ending e ≠ "" := by
  constructor
  · intro hread e hempty
    have hproblems := problems_read_toDocument l
    rw [hread, problems_valid, eq_comm, List.map_eq_nil_iff, List.filter_eq_nil_iff] at hproblems
    exact hproblems e e.mem_all (decide_eq_true hempty)
  · intro h
    have hagain (e : Ending) : l.again e = .valid (l.ending e) := by
      rw [again_of_ne_empty (h e), withoutDots_eq_self (hundotted e)]
    rw [read_toDocument, hagain, hagain, hagain]
    rfl

end Layout

/-! ## Names of files -/

namespace Text

theorem notMem_of_mem_parts {mark : Char} {cs part : List Char} (h : part ∈ parts mark cs) :
    mark ∉ part := by
  induction cs using parts_induction mark with
  | single cs hcs =>
    rw [parts_of_notMem hcs, List.mem_singleton] at h
    rwa [h]
  | cons first rest hfirst ih =>
    rw [parts_append_cons hfirst, List.mem_cons] at h
    rcases h with rfl | h
    · exact hfirst
    · exact ih h

end Text

namespace Path

/-- A name that ends in a dot and some ending. -/
def Ends (name ending : String) : Prop := ending ≠ "" ∧ '.' :: ending.toList <:+ name.toList

instance (name ending : String) : Decidable (Ends name ending) :=
  inferInstanceAs (Decidable (_ ∧ _))

/-- No name has a slash in it. -/
def Slashless (p : Path) : Prop := ∀ name ∈ p.names, '/' ∉ name.toList

variable {p : Path} {s : String}

theorem slashless_ofString (s : String) : (ofString s).Slashless := by
  intro name hname
  obtain ⟨hparts, _⟩ := List.mem_filter.1 hname
  obtain ⟨part, hpart, rfl⟩ := List.mem_map.1 hparts
  rw [String.toList_ofList]
  exact Text.notMem_of_mem_parts hpart

theorem Slashless.child (hp : p.Slashless) (s : String) : (p.child s).Slashless := by
  rw [Path.child, join]
  split
  · intro name hname
    rcases List.mem_append.1 hname with hname | hname
    · exact hp name hname
    · exact slashless_ofString s name hname
  · exact slashless_ofString s

theorem Slashless.name (hp : p.Slashless) : '/' ∉ p.name.toList := by
  rw [Path.name, List.getLastD_eq_getLast?]
  cases hlast : p.names.getLast? with
  | none => exact List.not_mem_nil
  | some last => exact hp last (List.mem_of_getLast? hlast)

/-- What is a name by itself stays at the end of the last name. -/
theorem exists_namesOf_append {t : String} (ht : IsName t) (cs : List Char) :
    ∃ names first, namesOf (cs ++ t.toList) = names ++ [first ++ t] := by
  induction cs using Text.parts_induction '/' with
  | single cs hslash =>
    have hname : IsName (String.ofList cs ++ t) :=
      ht.prepend (by rwa [String.toList_ofList])
    have hnames := congrArg Path.names (ofString_of_isName hname)
    refine ⟨[], String.ofList cs, ?_⟩
    rwa [ofString, String.toList_append, String.toList_ofList] at hnames
  | cons first rest hslash ih =>
    obtain ⟨names, last, hrest⟩ := ih
    refine ⟨namesOf first ++ names, last, ?_⟩
    rw [List.append_assoc, List.cons_append, namesOf_append, hrest, List.append_assoc]

theorem exists_name_child {t : String} (ht : IsName t) (p : Path) (s : String) :
    ∃ first, (p.child (s ++ t)).name = first ++ t := by
  obtain ⟨names, first, hnames⟩ := exists_namesOf_append ht s.toList
  have hspelled : (ofString (s ++ t)).names = names ++ [first ++ t] := by
    rw [ofString, String.toList_append, hnames]
  refine ⟨first, ?_⟩
  rw [child, join]
  split
  · rw [name, hspelled, ← List.append_assoc, List.getLastD_concat]
  · rw [name, hspelled, List.getLastD_concat]

theorem isName_dot_append {ending : String} (hundotted : ending.toList.head? ≠ some '.')
    (hne : ending ≠ "") (hslash : '/' ∉ ending.toList) : IsName ("." ++ ending) := by
  refine ⟨by simpa using hslash, ?_, ?_, ?_⟩
  all_goals
    intro heq
    have hchars := congrArg String.toList heq
    rw [String.toList_append] at hchars
  · cases hchars
  · exact hne (String.toList_inj.1 (List.cons.inj hchars).2)
  · exact hundotted (congrArg List.head? (List.cons.inj hchars).2)

/-- The last name ends in what was written behind a dot, if a name can. -/
theorem ends_name_child_iff (hp : p.Slashless) (s : String) {ending : String}
    (hundotted : ending.toList.head? ≠ some '.') :
    Ends (p.child (s ++ ("." ++ ending))).name ending ↔ ending ≠ "" ∧ '/' ∉ ending.toList := by
  constructor
  · rintro ⟨hne, hends⟩
    refine ⟨hne, fun hslash => (hp.child _).name (hends.subset ?_)⟩
    exact List.mem_cons_of_mem '.' hslash
  · rintro ⟨hne, hslash⟩
    obtain ⟨first, hfirst⟩ := exists_name_child (isName_dot_append hundotted hne hslash) p s
    rw [hfirst]
    refine ⟨hne, ?_⟩
    rw [String.toList_append, String.toList_append]
    exact List.suffix_append first.toList _

end Path

/-- What stands before the dot in the name of a file. -/
def Artifact.Kind.stem (timestamp entity table : String) : Kind → String
  | .migration => timestamp ++ "_create_" ++ table ++ "_table"
  | .validation => "schema"
  | .repository => entity ++ "Repository"
  | .endpoint => "index"
  | .model => entity
  | .service => entity ++ "Service"
  | .hook => "use" ++ entity ++ "s"
  | .adminPage => entity ++ "AdminPage"
  | .demo => entity ++ "sDemo"
  | .client => entity ++ "sClient"

namespace Layout

/-- Where a file stands. -/
def directory (l : Layout) (table : String) : Kind → Path
  | .migration => Path.ofString l.migrations
  | .validation | .endpoint => (Path.ofString l.functions).child (table ++ "-crud")
  | .repository => Path.ofString l.repositories
  | .model => Path.ofString l.models
  | .service => Path.ofString l.services
  | .hook => Path.ofString l.hooks
  | .adminPage => Path.ofString l.adminPages
  | .demo => (Path.ofString l.features).child table
  | .client => Path.ofString l.clients

theorem slashless_directory (l : Layout) (table : String) (kind : Kind) :
    (l.directory table kind).Slashless := by
  cases kind with
  | migration | repository | model | service | hook | adminPage | client =>
    exact Path.slashless_ofString _
  | validation | endpoint | demo => exact (Path.slashless_ofString _).child _

theorem path_eq_child (l : Layout) (timestamp entity table : String) (kind : Kind) :
    l.path timestamp entity table kind = (l.directory table kind).child
      (kind.stem timestamp entity table ++ ("." ++ l.ending kind.ending)) := by
  cases kind
  all_goals
    refine congrArg (Path.child _) ?_
    rw [← String.toList_inj]
    simp [Kind.stem, Kind.ending, ending, toString]

/-! ## All endings -/

/-- What the endings of a layout are like that was read. -/
structure EndingsRead (es : Entries) (l : Layout) : Prop where
  given : ∀ e : Ending, ∃ s,
    e.key.orElse (standard.ending e) Reading.nonEmptyText es = .valid s ∧
      l.ending e = withoutDots s ∧ (l.ending e = "" ↔ ∀ c ∈ s.toList, c = '.')
  undotted : ∀ e, (l.ending e).toList.head? ≠ some '.'
  ends_iff : ∀ timestamp entity table kind,
    Path.Ends (l.path timestamp entity table kind).name (l.ending kind.ending) ↔
      l.ending kind.ending ≠ "" ∧ '/' ∉ (l.ending kind.ending).toList
  again_iff : read l.toDocument = .valid l ↔ ∀ e, l.ending e ≠ ""
  refused : (read l.toDocument).problems =
    (Ending.all.filter (l.ending · = "")).map fun e => ⟨[e.key.name], .emptyText⟩

/-- No ending of a layout that was read begins with a dot; something is left of it unless it was
given as dots alone. The files of its kind end in a dot and in it just if something is left and no
slash is in it, and the layout is accepted again, as it is, just if something is left of each. -/
theorem endings_read {d : Document} {l : Layout} (h : read d = .valid l) :
    ∃ es, d = .map es ∧ EndingsRead es l := by
  obtain ⟨es, rfl⟩ : ∃ es, d = .map es := by
    cases d with
    | map es => exact ⟨es, rfl⟩
    | _ => cases h
  have hgiven (e : Ending) : ∃ s,
      e.key.orElse (standard.ending e) Reading.nonEmptyText es = .valid s ∧
        l.ending e = withoutDots s := by
    refine exists_given ?_ (orElse_of_read h e)
    cases e <;> decide
  have hundotted (e : Ending) : (l.ending e).toList.head? ≠ some '.' := by
    obtain ⟨s, _, hs⟩ := hgiven e
    rw [hs]
    exact head?_withoutDots s
  refine ⟨es, rfl, ?_⟩
  constructor
  case given =>
    intro e
    obtain ⟨s, hread, hs⟩ := hgiven e
    refine ⟨s, hread, hs, ?_⟩
    rw [hs, withoutDots_eq_empty_iff]
  case undotted => exact hundotted
  case ends_iff =>
    intro timestamp entity table kind
    rw [path_eq_child]
    exact Path.ends_name_child_iff (l.slashless_directory table kind) _ (hundotted kind.ending)
  case again_iff => exact read_toDocument_eq_valid_iff hundotted
  case refused => exact problems_read_toDocument l

/-! ## An ending of a dot -/

/-- A layout in which the endings of sources are given with a dot. -/
def dotted : Layout where
  sourceEnding := "mts"

theorem dotted_endings_read :
    read (.map [(.text "source_ext", .text ".mts")]) = .valid dotted ∧
    (∃ es, Document.map [(.text "source_ext", .text ".mts")] = .map es ∧
      EndingsRead es dotted) ∧
    Path.Ends (dotted.path "1" "Article" "articles" .model).name "mts" := by
  have hread : read (.map [(.text "source_ext", .text ".mts")]) = .valid dotted := rfl
  obtain ⟨es, hes, hendings⟩ := endings_read hread
  exact ⟨hread, ⟨es, hes, hendings⟩,
    (hendings.ends_iff "1" "Article" "articles" .model).2 (by decide)⟩

/-- A layout whose sources have no ending. -/
def bare : Layout where
  sourceEnding := ""

/-- A dot alone is accepted and taken off, and the layout is then refused. -/
theorem bare_not_read_again :
    read (.map [(.text "source_ext", .text ".")]) = .valid bare ∧
    bare.ending .source = "" ∧
    (bare.path "1" "Article" "articles" .model).name = "Article." ∧
    (read bare.toDocument).problems = [⟨["source_ext"], .emptyText⟩] :=
  ⟨rfl, rfl, by decide, rfl⟩

end Layout
end Scaffold
