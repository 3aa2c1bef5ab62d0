import Mathlib.Data.List.Basic
import Scaffold.Artifact.Paths
import Scaffold.Calendar.Format
import Scaffold.Proofs.Breakdowns

/-!
# Targets

The target of an artifact is made of the root, the layout and three texts: a time stamp and the
names of the entity and of its table. In the standard layout it has a null character only if one of
them has, and is only as deep as their slashes make it.
-/
namespace Scaffold

open Loading (hasNull)

/-! ## Texts -/

namespace Loading

theorem hasNull_eq_false_iff {s : String} : hasNull s = false ↔ '\x00' ∉ s.toList := by
  rw [hasNull, List.contains_eq_mem, decide_eq_false_iff_not]

theorem hasNull_append (s t : String) : hasNull (s ++ t) = (hasNull s || hasNull t) := by
  rw [hasNull, String.toList_append, List.contains_append]
  rfl

end Loading

/-- Where a text steps from one name to the next. -/
def slashes (s : String) : Nat := s.toList.count '/'

theorem slashes_append (s t : String) : slashes (s ++ t) = slashes s + slashes t := by
  rw [slashes, String.toList_append, List.count_append]
  rfl

namespace Text

theorem length_parts (mark : Char) (cs : List Char) :
    (parts mark cs).length = cs.count mark + 1 := by
  induction cs with
  | nil => rfl
  | cons c rest ih =>
    rw [parts, List.count_cons]
    by_cases hc : c = mark
    · rw [if_pos hc, List.length_cons, ih, if_pos (beq_iff_eq.2 hc)]
    · rw [if_neg hc, if_neg (mt beq_iff_eq.1 hc)]
      cases hparts : parts mark rest with
      | nil =>
        rw [hparts] at ih
        cases ih
      | cons part others =>
        rw [hparts] at ih
        exact ih

theorem subset_of_mem_parts {mark : Char} {cs part : List Char} (h : part ∈ parts mark cs) :
    part ⊆ cs := by
  induction cs generalizing part with
  | nil =>
    rw [parts, List.mem_singleton] at h
    rw [h]
    exact List.Subset.refl []
  | cons c rest ih =>
    rw [parts] at h
    split at h
    · rcases List.mem_cons.1 h with rfl | h
      · exact List.nil_subset _
      · exact List.Subset.trans (ih h) (List.subset_cons_self c rest)
    · split at h
      · rw [List.mem_singleton] at h
        rw [h]
        exact List.cons_subset_cons c (List.nil_subset rest)
      · next first others hparts =>
        rw [hparts] at ih
        rcases List.mem_cons.1 h with rfl | h
        · exact List.cons_subset_cons c (ih List.mem_cons_self)
        · have hrest := ih (List.mem_cons_of_mem first h)
          exact List.Subset.trans hrest (List.subset_cons_self c rest)

end Text

/-! ## Paths -/

namespace Path

/-- No name in a path has a null character. -/
def Clean (p : Path) : Prop := ∀ name ∈ p.names, hasNull name = false

theorem clean_ofString {s : String} (h : hasNull s = false) : (ofString s).Clean := by
  intro name hname
  obtain ⟨hparts, _⟩ := List.mem_filter.1 hname
  obtain ⟨part, hpart, rfl⟩ := List.mem_map.1 hparts
  rw [Loading.hasNull_eq_false_iff] at h ⊢
  rw [String.toList_ofList]
  exact fun hnull => h (Text.subset_of_mem_parts hpart hnull)

theorem length_names_ofString_le (s : String) : (ofString s).names.length ≤ slashes s + 1 := by
  have hfilter := List.length_filter_le (fun n : String => decide (n ≠ "" ∧ n ≠ "."))
    ((Text.parts '/' s.toList).map String.ofList)
  rw [List.length_map, Text.length_parts] at hfilter
  exact hfilter

variable {p q : Path}

theorem Clean.join (hp : p.Clean) (hq : q.Clean) : (p.join q).Clean := by
  rw [Path.join]
  split
  · intro name hname
    rcases List.mem_append.1 hname with hname | hname
    · exact hp name hname
    · exact hq name hname
  · exact hq

theorem length_names_join_le (p q : Path) :
    (p.join q).names.length ≤ p.names.length + q.names.length := by
  rw [Path.join]
  split
  · rw [List.length_append]
  · exact Nat.le_add_left ..

theorem Clean.child (hp : p.Clean) {s : String} (hs : hasNull s = false) : (p.child s).Clean :=
  hp.join (clean_ofString hs)

theorem length_names_child_le (p : Path) (s : String) :
    (p.child s).names.length ≤ p.names.length + slashes s + 1 := by
  have hjoin := length_names_join_le p (ofString s)
  have hnames := length_names_ofString_le s
  rw [Path.child]
  omega

theorem Clean.parent (hp : p.Clean) : p.parent.Clean :=
  fun name hname => hp name (List.dropLast_subset _ hname)

theorem Clean.hasNull_name (hp : p.Clean) : hasNull p.name = false := by
  rw [name, List.getLastD_eq_getLast?]
  cases hlast : p.names.getLast? with
  | none => rfl
  | some last => exact hp last (List.mem_of_getLast? hlast)

theorem Clean.hasNull_text (hp : p.Clean) : hasNull p.text = false := by
  have hnames : hasNull ("/".intercalate p.names) = false := by
    obtain ⟨anchor, names⟩ := p
    induction names with
    | nil => rfl
    | cons first rest ih =>
      have hfirst := hp first List.mem_cons_self
      have hrest := ih fun name hname => hp name (List.mem_cons_of_mem first hname)
      cases rest with
      | nil => rwa [String.intercalate_singleton]
      | cons second rest =>
        rw [String.intercalate_cons_cons, Loading.hasNull_append, Loading.hasNull_append, hfirst,
          hrest]
        rfl
  have hanchor : hasNull p.anchor.text = false := by
    cases p.anchor <;> rfl
  unfold text
  dsimp only
  split
  · rfl
  · rw [Loading.hasNull_append, hanchor, hnames]
    rfl

/-- A clean path fits if it is not too deep. -/
theorem Clean.fits (hp : p.Clean) (hdepth : p.names.length ≤ FileSystem.depthLimit + 1) :
    p.Fits where
  directory := hp.parent.hasNull_text
  name := hp.hasNull_name
  depth := by
    rw [Path.parent, List.length_dropLast]
    omega

end Path

/-- What is taken from a clean directory by a clean path has clean names. -/
theorem FileSystem.clean_absolute {cwd : Location} (hcwd : ∀ name ∈ cwd, hasNull name = false)
    {p : Path} (hp : p.Clean) : (absolute cwd p).Clean := by
  have hfrom : ∀ name ∈ FileSystem.start cwd p ++ p.names, hasNull name = false := by
    intro name hname
    rcases List.mem_append.1 hname with hname | hname
    · rw [FileSystem.start] at hname
      split at hname
      · exact hcwd name hname
      · cases hname
    · exact hp name hname
  change ∀ name ∈ located (FileSystem.start cwd p ++ p.names), hasNull name = false
  generalize FileSystem.start cwd p ++ p.names = names at hfrom
  induction names using List.reverseRecOn with
  | nil =>
    intro name hname
    cases hname
  | append_singleton names last ih =>
    rw [List.forall_mem_append] at hfrom
    have hbefore := ih hfrom.1
    rw [located_concat, onward]
    split
    · exact fun name hname => hbefore name (List.dropLast_subset _ hname)
    · rw [List.forall_mem_append]
      exact ⟨hbefore, hfrom.2⟩

/-! ## Time stamps -/

namespace Calendar

theorem chars_number (width n : Nat) :
    (Directive.start.number .zeros width n).chars = (Text.zeroPadded width n).toList := by
  have hchars : (Directive.start.number .zeros width n).chars =
      List.replicate (max width 0 - (toString n).toList.length) '0' ++ (toString n).toList := rfl
  rw [hchars, Nat.max_eq_left (Nat.zero_le width), String.length_toList, Text.zeroPadded,
    Text.padLeft, String.toList_ofList]

/-- The standard time stamp has digits only. -/
theorem isDigit_of_mem_format {t : DateTime} {c : Char}
    (h : c ∈ (t.format Config.standard.timestampFormat).toList) : c.isDigit = true := by
  have hpieces : t.pieces none (t.settled
      (Config.standard.timestampFormat.toList.takeWhile (· ≠ '\x00'))) =
      [(1, t.date.year), (2, t.date.month), (2, t.date.day), (2, t.hour), (2, t.minute),
        (2, t.second)].map fun part => Directive.start.number .zeros part.1 part.2 := rfl
  simp only [DateTime.format, hpieces] at h
  split at h
  · rw [String.toList_ofList, List.flatMap_map] at h
    obtain ⟨part, _, hpart⟩ := List.mem_flatMap.1 h
    rw [chars_number] at hpart
    exact Text.isDigit_of_mem_zeroPadded hpart
  · cases h

theorem hasNull_format (t : DateTime) :
    hasNull (t.format Config.standard.timestampFormat) = false := by
  rw [Loading.hasNull_eq_false_iff]
  intro hnull
  cases isDigit_of_mem_format hnull

theorem slashes_format (t : DateTime) :
    slashes (t.format Config.standard.timestampFormat) = 0 := by
  rw [slashes, List.count_eq_zero]
  intro hslash
  cases isDigit_of_mem_format hslash

end Calendar

/-! ## The standard layout -/

/-- A text that gives clean names, with at most so many slashes between them. -/
structure Spells (s : String) (count : Nat) : Prop where
  clean : hasNull s = false
  slashes : slashes s ≤ count

theorem Spells.append {s t : String} {m n : Nat} (hs : Spells s m) (ht : Spells t n) :
    Spells (s ++ t) (m + n) := by
  constructor
  · rw [Loading.hasNull_append, hs.clean, ht.clean]
    rfl
  · rw [slashes_append]
    exact Nat.add_le_add hs.slashes ht.slashes

/-- A clean path of at most so many names. -/
structure Path.Within (p : Path) (depth : Nat) : Prop where
  clean : p.Clean
  length : p.names.length ≤ depth

namespace Path.Within

variable {p : Path} {depth : Nat}

theorem child (hp : p.Within depth) {s : String} {count : Nat} (hs : Spells s count) :
    (p.child s).Within (depth + count + 1) := by
  refine ⟨hp.clean.child hs.clean, ?_⟩
  have hchild := length_names_child_le p s
  have hlength := hp.length
  have hslashes := hs.slashes
  omega

theorem mono (hp : p.Within depth) {more : Nat} (h : depth ≤ more) : p.Within more :=
  ⟨hp.clean, hp.length.trans h⟩

end Path.Within

theorem Spells.literal {s : String} (h : hasNull s = false ∧ Scaffold.slashes s ≤ 0) : Spells s 0 :=
  ⟨h.1, h.2⟩

theorem Path.within_ofString {s : String} {depth : Nat}
    (h : hasNull s = false ∧ (Path.ofString s).names.length ≤ depth) :
    (Path.ofString s).Within depth :=
  ⟨Path.clean_ofString h.1, h.2⟩

/-- A file in a directory of its own kind, which is named after the entity. -/
theorem Path.within_entityFile (depth : Nat) {directory entity ending extension : String}
    {m : Nat}
    (hdirectory : hasNull directory = false ∧ (Path.ofString directory).names.length ≤ depth)
    (hentity : Spells entity m) (hending : hasNull ending = false ∧ slashes ending ≤ 0)
    (hextension : hasNull extension = false ∧ slashes extension ≤ 0) :
    ((Path.ofString directory).child (entity ++ ending ++ extension)).Within (depth + m + 1) :=
  (Path.within_ofString hdirectory).child
    ((hentity.append (.literal hending)).append (.literal hextension))

/-- A target of the standard layout has its directory, at most two names of its own, and one more
for each slash in them. -/
theorem Layout.within_path {timestamp entity table : String} {m n : Nat} (kind : Artifact.Kind)
    (htimestamp : Spells timestamp 0) (hentity : Spells entity m) (htable : Spells table n) :
    (standard.path timestamp entity table kind).Within (m + n + 7) := by
  have hfunctions : (Path.ofString "supabase/functions").Within 2 :=
    Path.within_ofString (by decide)
  have hcrud : Spells (table ++ "-crud") n := htable.append (.literal (by decide))
  cases kind with
  | migration =>
    have hdirectory : (Path.ofString "supabase/migrations").Within 2 :=
      Path.within_ofString (by decide)
    have hname : Spells (timestamp ++ "_create_" ++ table ++ "_table." ++ "sql") (0 + n) :=
      (((htimestamp.append (.literal (by decide))).append htable).append
        (.literal (by decide))).append (.literal (by decide))
    exact (hdirectory.child hname).mono (by omega)
  | validation =>
    have hname : Spells ("schema." ++ "ts") 0 := .literal (by decide)
    exact ((hfunctions.child hcrud).child hname).mono (by omega)
  | endpoint =>
    have hname : Spells ("index." ++ "ts") 0 := .literal (by decide)
    exact ((hfunctions.child hcrud).child hname).mono (by omega)
  | hook =>
    have hdirectory : (Path.ofString "packages/app-frontend/src/hooks").Within 4 :=
      Path.within_ofString (by decide)
    have hname : Spells ("use" ++ entity ++ "s." ++ "ts") (0 + m) :=
      (((Spells.literal (by decide)).append hentity).append (.literal (by decide))).append
        (.literal (by decide))
    exact (hdirectory.child hname).mono (by omega)
  | demo =>
    have hdirectory : (Path.ofString "packages/app-frontend/src/components/features").Within 5 :=
      Path.within_ofString (by decide)
    have hname : Spells (entity ++ "sDemo." ++ "tsx") m :=
      (hentity.append (.literal (by decide))).append (.literal (by decide))
    exact ((hdirectory.child htable).child hname).mono (by omega)
  | repository | model | service | adminPage | client =>
    exact (Path.within_entityFile 5 (by decide) hentity (by decide) (by decide)).mono (by omega)

end Scaffold
