import Mathlib.Data.List.Infix
import Scaffold.Proofs.Targets

/-!
# How paths are spelled

A path is spelled by a text with slashes. A text without a slash is one name, unless it is empty or
made of one or two dots; what is spelled after a slash is followed from where the text before it
leads. A spelling steps back just if two dots stand between slashes in it, its ends counting as
slashes.
-/
namespace Scaffold

open FileSystem (onward located_concat)

/-! ## The parts of a text -/

namespace Text

theorem parts_of_notMem {mark : Char} {cs : List Char} (h : mark ∉ cs) : parts mark cs = [cs] := by
  induction cs with
  | nil => rfl
  | cons c rest ih =>
    rw [List.mem_cons, not_or] at h
    rw [parts, if_neg (Ne.symm h.1), ih h.2]

theorem parts_append_cons {mark : Char} {xs : List Char} (h : mark ∉ xs) (ys : List Char) :
    parts mark (xs ++ mark :: ys) = xs :: parts mark ys := by
  induction xs with
  | nil => simp [parts]
  | cons x xs ih =>
    rw [List.mem_cons, not_or] at h
    rw [List.cons_append, parts, if_neg (Ne.symm h.1), ih h.2]

/-- A text is one part, or a first part, a mark and a text. -/
@[elab_as_elim]
theorem parts_induction (mark : Char) {motive : List Char → Prop}
    (single : ∀ cs, mark ∉ cs → motive cs)
    (cons : ∀ first rest, mark ∉ first → motive rest → motive (first ++ mark :: rest))
    (cs : List Char) : motive cs := by
  suffices h : ∀ first, mark ∉ first → motive (first ++ cs) from h [] List.not_mem_nil
  induction cs with
  | nil =>
    intro first hfirst
    rw [List.append_nil]
    exact single first hfirst
  | cons c rest ih =>
    intro first hfirst
    by_cases hc : c = mark
    · subst hc
      exact cons first rest hfirst (ih [] List.not_mem_nil)
    · have hmore : mark ∉ first ++ [c] := by
        rw [List.mem_append, List.mem_singleton]
        exact not_or_intro hfirst (Ne.symm hc)
      simpa only [List.append_assoc, List.singleton_append] using ih (first ++ [c]) hmore

theorem parts_append (mark : Char) (xs ys : List Char) :
    parts mark (xs ++ mark :: ys) = parts mark xs ++ parts mark ys := by
  induction xs using parts_induction mark with
  | single cs h => rw [parts_append_cons h, parts_of_notMem h, List.singleton_append]
  | cons first rest h ih =>
    rw [List.append_assoc, List.cons_append, parts_append_cons h, parts_append_cons h, ih,
      List.cons_append]

/-! ## Pieces of a text -/

theorem prefix_concat_iff {mark : Char} {w xs : List Char} (hw : mark ∉ w) (hxs : mark ∉ xs)
    (ys : List Char) : w ++ [mark] <+: xs ++ mark :: ys ↔ w = xs := by
  induction w generalizing xs with
  | nil =>
    cases xs with
    | nil => simp
    | cons x xs =>
      rw [List.mem_cons, not_or] at hxs
      simp [List.cons_prefix_cons, hxs.1]
  | cons c w ih =>
    rw [List.mem_cons, not_or] at hw
    cases xs with
    | nil => simp [List.cons_prefix_cons, Ne.symm hw.1]
    | cons x xs =>
      rw [List.mem_cons, not_or] at hxs
      simp only [List.cons_append, List.cons_prefix_cons, ih hw.2 hxs.2, List.cons.injEq]

theorem infix_append_iff_of_notMem {mark : Char} {xs : List Char} (h : mark ∉ xs)
    (w ys : List Char) : mark :: w <:+: xs ++ ys ↔ mark :: w <:+: ys := by
  induction xs with
  | nil => rw [List.nil_append]
  | cons x xs ih =>
    rw [List.mem_cons, not_or] at h
    rw [List.cons_append, List.infix_cons_iff, ih h.2, List.cons_prefix_cons]
    exact or_iff_right fun hstart => h.1 hstart.1

theorem infix_append_iff_of_notMem_right {mark : Char} {ys : List Char} (h : mark ∉ ys)
    (w xs : List Char) : w ++ [mark] <:+: xs ++ ys ↔ w ++ [mark] <:+: xs := by
  have hreversed : mark ∉ ys.reverse := mt List.mem_reverse.1 h
  rw [← List.reverse_infix, List.reverse_concat, List.reverse_append,
    infix_append_iff_of_notMem hreversed, ← List.reverse_concat, List.reverse_infix]

/-- A text is a part of another just if it stands there between two marks, the ends counting as
such. -/
theorem mem_parts_iff {mark : Char} {w : List Char} (hw : mark ∉ w) (cs : List Char) :
    w ∈ parts mark cs ↔ mark :: (w ++ [mark]) <:+: mark :: (cs ++ [mark]) := by
  have hfirst {xs : List Char} (hxs : mark ∉ xs) (ys : List Char) :
      mark :: (w ++ [mark]) <:+: mark :: (xs ++ mark :: ys) ↔
        w = xs ∨ mark :: (w ++ [mark]) <:+: mark :: ys := by
    rw [List.infix_cons_iff, List.cons_prefix_cons, prefix_concat_iff hw hxs,
      infix_append_iff_of_notMem hxs]
    simp only [true_and]
  induction cs using parts_induction mark with
  | single cs h =>
    have hlong : ¬ mark :: (w ++ [mark]) <:+: [mark] := fun hshort => by
      simpa using hshort.length_le
    rw [parts_of_notMem h, List.mem_singleton, hfirst h, or_iff_left hlong]
  | cons first rest h ih =>
    rw [parts_append_cons h, List.mem_cons, List.append_assoc, List.cons_append, hfirst h]
    exact or_congr_right ih

/-- A character that a piece does not have splits a text for it. -/
theorem infix_append_cons_iff {c : Char} {w : List Char} (h : c ∉ w) (xs ys : List Char) :
    w <:+: xs ++ c :: ys ↔ w <:+: xs ∨ w <:+: ys := by
  constructor
  · intro hwithin
    rcases List.infix_append_iff.1 hwithin with hxs | hcys | ⟨l₁, l₂, rfl, hsuffix, hstart⟩
    · exact .inl hxs
    · rcases List.infix_cons_iff.1 hcys with hstart | hys
      · cases w with
        | nil => exact .inr List.nil_infix
        | cons d w =>
          rw [List.cons_prefix_cons] at hstart
          exact absurd List.mem_cons_self (hstart.1 ▸ h)
      · exact .inr hys
    · cases l₂ with
      | nil => exact .inl (by simpa using hsuffix.isInfix)
      | cons d l₂ =>
        rw [List.cons_prefix_cons] at hstart
        refine absurd (List.mem_append_right l₁ ?_) h
        rw [hstart.1]
        exact List.mem_cons_self
  · rintro (hxs | hys)
    · exact hxs.trans (List.prefix_append xs _).isInfix
    · exact hys.trans ((List.suffix_cons c ys).trans (List.suffix_append xs _)).isInfix

end Text

/-! ## Names -/

namespace Path

/-- A text that is one name of a path and does not step back. -/
structure IsName (s : String) : Prop where
  slash : '/' ∉ s.toList
  nonempty : s ≠ ""
  dot : s ≠ "."
  dotdot : s ≠ ".."

/-- What is not a name, without a slash, is a piece of two dots. -/
theorem isName_iff {s : String} :
    IsName s ↔ '/' ∉ s.toList ∧ ¬ s.toList <:+: ['.', '.'] := by
  have hpieces : s.toList <:+: ['.', '.'] ↔ s = "" ∨ s = "." ∨ s = ".." := by
    simp only [← String.toList_inj, List.infix_cons_iff, List.infix_nil, List.prefix_cons_iff,
      List.prefix_nil]
    constructor
    · rintro (hboth | hone | hnone)
      · rcases hboth with h | ⟨t, h, rfl | ⟨_, rfl, rfl⟩⟩
        · exact .inl h
        · exact .inr (.inl h)
        · exact .inr (.inr h)
      · rcases hone with h | ⟨t, h, rfl⟩
        · exact .inl h
        · exact .inr (.inl h)
      · exact .inl hnone
    · rintro (h | h | h)
      · exact .inr (.inr h)
      · exact .inr (.inl (.inr ⟨[], h, rfl⟩))
      · exact .inl (.inr ⟨['.'], h, .inr ⟨[], rfl, rfl⟩⟩)
  rw [hpieces, not_or, not_or]
  exact ⟨fun h => ⟨h.slash, h.nonempty, h.dot, h.dotdot⟩,
    fun ⟨slash, nonempty, dot, dotdot⟩ => ⟨slash, nonempty, dot, dotdot⟩⟩

instance (s : String) : Decidable (IsName s) := decidable_of_iff _ isName_iff.symm

theorem IsName.append {s t : String} (h : IsName s) (ht : '/' ∉ t.toList) : IsName (s ++ t) := by
  rw [isName_iff] at h ⊢
  rw [String.toList_append, List.mem_append]
  exact ⟨not_or_intro h.1 ht, mt (List.prefix_append _ _).isInfix.trans h.2⟩

theorem IsName.prepend {s t : String} (h : IsName t) (hs : '/' ∉ s.toList) : IsName (s ++ t) := by
  rw [isName_iff] at h ⊢
  rw [String.toList_append, List.mem_append]
  exact ⟨not_or_intro hs h.1, mt (List.suffix_append _ _).isInfix.trans h.2⟩

theorem anchorOf_eq_relative_iff (cs : List Char) :
    anchorOf cs = .relative ↔ cs.head? ≠ some '/' := by
  cases cs with
  | nil => simp [anchorOf]
  | cons c rest =>
    by_cases hc : c = '/'
    · subst hc
      simp only [anchorOf, List.takeWhile_cons, decide_true, if_true, List.length_cons,
        List.head?_cons, ne_eq, not_true_eq_false, iff_false]
      split <;> simp_all
    · simp [anchorOf, hc]

theorem namesOf_append (xs ys : List Char) :
    namesOf (xs ++ '/' :: ys) = namesOf xs ++ namesOf ys := by
  rw [namesOf, Text.parts_append, List.map_append, List.filter_append]
  rfl

theorem ofString_of_isName {s : String} (h : IsName s) : ofString s = ⟨.relative, [s]⟩ := by
  have hanchor : anchorOf s.toList = .relative := by
    rw [anchorOf_eq_relative_iff]
    exact fun hhead => h.slash (List.mem_of_head? hhead)
  have hnames : namesOf s.toList = [s] := by
    simp [namesOf, Text.parts_of_notMem h.slash, h.nonempty, h.dot]
  rw [ofString, hanchor, hnames]

/-- What is not a name leads nowhere or one step back. -/
theorem ofString_of_not_isName {s : String} (hslash : '/' ∉ s.toList) (h : ¬ IsName s) :
    ∃ names, (names = [] ∨ names = [".."]) ∧ ofString s = ⟨.relative, names⟩ := by
  have hshort : s = "" ∨ s = "." ∨ s = ".." := by
    by_contra hne
    simp only [not_or] at hne
    exact h ⟨hslash, hne.1, hne.2.1, hne.2.2⟩
  rcases hshort with rfl | rfl | rfl
  · exact ⟨[], .inl rfl, rfl⟩
  · exact ⟨[], .inl rfl, rfl⟩
  · exact ⟨[".."], .inr rfl, rfl⟩

variable (p q : Path)

theorem join_join (r : Path) : (p.join q).join r = p.join (q.join r) := by
  by_cases hr : r.anchor = .relative
  · by_cases hq : q.anchor = .relative
    · simp [join, hr, hq]
    · simp [join, hr, hq]
  · simp [join, hr]

theorem join_child (s : String) : p.join (q.child s) = (p.join q).child s :=
  (join_join p q (ofString s)).symm

variable {s : String}

theorem child_of_isName (h : IsName s) : p.child s = ⟨p.anchor, p.names ++ [s]⟩ := by
  rw [child, ofString_of_isName h, join, if_pos rfl]

theorem parent_child (h : IsName s) : (p.child s).parent = p := by
  rw [child_of_isName p h, parent, List.dropLast_concat]

theorem location_child (h : IsName s) : (p.child s).location = p.location ++ [s] := by
  rw [child_of_isName p h, location, located_concat, onward, if_neg h.dotdot, location]

theorem ofString_append_slash {first : String} (hfirst : first.toList.head? ≠ some '/')
    (hne : first ≠ "") (s : String) : ofString (first ++ "/" ++ s) =
      ⟨.relative, (ofString first).names ++ (ofString s).names⟩ := by
  have htext : (first ++ "/" ++ s).toList = first.toList ++ '/' :: s.toList := by
    simp
  have hwhole : anchorOf (first.toList ++ '/' :: s.toList) = .relative := by
    rw [anchorOf_eq_relative_iff, List.head?_append_of_ne_nil _ (by simpa using hne)]
    exact hfirst
  rw [ofString, htext, hwhole, namesOf_append]
  rfl

theorem child_append_slash {first : String} (hfirst : first.toList.head? ≠ some '/')
    (hne : first ≠ "") (h : IsName s) : p.child (first ++ "/" ++ s) = (p.child first).child s := by
  have hrelative : (ofString first).anchor = .relative := (anchorOf_eq_relative_iff _).2 hfirst
  rw [child_of_isName _ h, child, child, ofString_append_slash hfirst hne, ofString_of_isName h,
    join, if_pos rfl, join, if_pos hrelative, List.append_assoc]

/-- What a relative spelling says is followed from the place of the path. -/
theorem location_child_of_relative (names : List String) (h : ofString s = ⟨.relative, names⟩) :
    (p.child s).location = names.foldl onward p.location := by
  rw [child, h, join, if_pos rfl]
  exact List.foldl_append

/-! ## Steps back -/

/-- What a spelling has just where it steps back. -/
def back : List Char := ['/', '.', '.', '/']

theorem dotdot_mem_names_iff (s : String) :
    ".." ∈ (ofString s).names ↔ back <:+: '/' :: (s.toList ++ ['/']) := by
  have hback : back = '/' :: (['.', '.'] ++ ['/']) := rfl
  rw [hback, ← Text.mem_parts_iff (by decide)]
  have hnames : (ofString s).names =
      ((Text.parts '/' s.toList).map String.ofList).filter fun n => n ≠ "" ∧ n ≠ "." := rfl
  have hdots : ".." = String.ofList ['.', '.'] := rfl
  rw [hnames, List.mem_filter, hdots,
    List.mem_map_of_injective fun _ _ heq => String.ofList_injective heq]
  exact and_iff_left (by decide)

end Path
end Scaffold
