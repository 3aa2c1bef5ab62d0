import Mathlib.Data.List.Forall2
import Mathlib.Data.List.Pairwise
import Scaffold.Proofs.Reading

/-!
# Keys in their other spelling

A record is read label by label, so it says the same whenever each label finds the same in it. This
is so if keys are put under the names of their labels, in a mapping that holds no key in both
spellings. What stands under a key may then be respelled itself, in the way of its label.
-/
namespace Scaffold

namespace Checked

variable {α β γ : Type} {a b : Checked α}

/-- What the first is valid as, the second is valid as too. -/
def Entails (a b : Checked α) : Prop := ∀ x, a = .valid x → b = .valid x

namespace Entails

theorem refl (a : Checked α) : a.Entails a := fun _ h => h

theorem map (h : a.Entails b) (f : α → β) : (a.map f).Entails (b.map f) := by
  intro y hy
  obtain ⟨x, hx, rfl⟩ := map_eq_valid_iff.1 hy
  exact map_eq_valid_iff.2 ⟨x, h x hx, rfl⟩

theorem ap {f g : Checked (α → β)} (hf : f.Entails g) (h : a.Entails b) :
    (ap f a).Entails (ap g b) := by
  intro y hy
  obtain ⟨k, x, hk, hx, rfl⟩ := ap_eq_valid_iff.1 hy
  exact ap_eq_valid_iff.2 ⟨k, x, hf k hk, h x hx, rfl⟩

theorem thenCheck (h : a.Entails b) (check : α → Checked β) :
    (a.thenCheck check).Entails (b.thenCheck check) := by
  intro y hy
  obtain ⟨x, hx, hcheck⟩ := thenCheck_eq_valid_iff.1 hy
  exact thenCheck_eq_valid_iff.2 ⟨x, h x hx, hcheck⟩

theorem also {more more' : List Problem} (h : a.Entails b) (hmore : more = [] → more' = []) :
    (a.also more).Entails (b.also more') := by
  intro x hx
  obtain ⟨hvalid, hnone⟩ := also_eq_valid_iff.1 hx
  exact also_eq_valid_iff.2 ⟨h x hvalid, hmore hnone⟩

theorem under (h : a.Entails b) (step step' : String) :
    (a.under step).Entails (b.under step') := by
  intro x hx
  exact under_eq_valid_iff.2 (h x (under_eq_valid_iff.1 hx))

end Entails

/-- Lists are read item by item. -/
theorem entails_listFrom {check : γ → Checked α} {R : γ → γ → Prop}
    (hcheck : ∀ c c', R c c' → (check c).Entails (check c')) {items items' : List γ}
    (h : List.Forall₂ R items items') (start : Nat) :
    (listFrom check start items).Entails (listFrom check start items') := by
  induction h generalizing start with
  | nil => exact .refl _
  | cons hfirst _ ih =>
    exact .ap (((hcheck _ _ hfirst).under _ _).map _) (ih (start + 1))

end Checked

/-- How a document may stand for another. -/
abbrev Standing := Document → Document → Prop

/-- A list whose items stand for those of another. -/
inductive Standing.Each (R : Standing) : Standing
  | same (d : Document) : Each R d d
  | list {items items' : List Document} (h : List.Forall₂ R items items') :
    Each R (.list items) (.list items')

namespace Reading

variable {α : Type} {R : Standing}

/-- A reading that takes one document for what the other is. -/
def Respects (read : Reading α) (R : Standing) : Prop :=
  ∀ d d', R d d' → (read d).Entails (read d')

theorem respects_eq (read : Reading α) : Respects read Eq := by
  rintro d _ rfl
  exact .refl _

theorem Respects.list {read : Reading α} (h : Respects read R) :
    Respects (Reading.list read) R.Each := by
  rintro d d' (_ | hitems)
  · exact .refl _
  · exact Checked.entails_listFrom h hitems 0

theorem nullable_of_ne_null (read : Reading α) {d : Document} (h : d ≠ .null) :
    nullable read d = (read d).map some := by
  cases d with
  | null => exact absurd rfl h
  | _ => rfl

theorem Respects.nullable {read : Reading α} (h : Respects read R)
    (hnull : ∀ d d', R d d' → (d = .null ↔ d' = .null)) : Respects (Reading.nullable read) R := by
  intro d d' hd
  by_cases hnone : d = .null
  · rw [hnone, (hnull d d' hd).1 hnone]
    exact .refl _
  · rw [nullable_of_ne_null read hnone, nullable_of_ne_null read (mt (hnull d d' hd).2 hnone)]
    exact (h d d' hd).map some

end Reading

/-! ## What labels find -/

namespace Document

theorem find?_eq_none_iff {name : String} {es : Entries} :
    find? name es = none ↔ ∀ e ∈ es, e.1 ≠ .text name := by
  induction es with
  | nil => simp [find?]
  | cons e rest ih =>
    obtain ⟨key, v⟩ := e
    rw [List.forall_mem_cons, ← ih]
    cases key with
    | text s =>
      by_cases hs : s = name
      · simp [find?, hs]
      · simp [find?, hs]
    | _ => simp [find?]

theorem exists_of_find? {name : String} {es : Entries} {v : Document}
    (h : find? name es = some v) : ∃ e ∈ es, e.1 = .text name := by
  by_contra hnone
  rw [find?_eq_none_iff.2 fun e he hkey => hnone ⟨e, he, hkey⟩] at h
  cases h

end Document

namespace Label

variable {α : Type} {l l' : Label} {es es' : Entries} {s : String} {v : Document} {R : Standing}

/-- A label finds nothing in two mappings, or what it finds in the second stands for what it finds
in the first. -/
inductive Finds (R : Standing) (l : Label) (es es' : Entries) : Prop
  | nothing (h : l.find? es = none) (h' : l.find? es' = none)
  | value {s s' : String} {v v' : Document} (h : l.find? es = some (s, v))
    (h' : l.find? es' = some (s', v')) (hv : R v v')

theorem Finds.flip (h : l.Finds R es es') : l.Finds (fun d d' => R d' d) es' es := by
  cases h with
  | nothing h h' => exact .nothing h' h
  | value h h' hv => exact .value h' h hv

theorem Finds.and (h : l.Finds R es es') {P : Document → Prop}
    (hP : ∀ s v, l.find? es' = some (s, v) → P v) :
    l.Finds (fun d d' => R d d' ∧ P d') es es' := by
  cases h with
  | nothing h h' => exact .nothing h h'
  | value h h' hv => exact .value h h' ⟨hv, hP _ _ h'⟩

theorem Finds.symm (h : l.Finds Eq es es') : l.Finds Eq es' es := by
  cases h with
  | nothing h h' => exact .nothing h' h
  | value h h' hv => exact .value h' h hv.symm

theorem Finds.required {read : Reading α} (h : l.Finds R es es') (hread : read.Respects R) :
    (l.required read es).Entails (l.required read es') := by
  unfold Label.required
  cases h with
  | nothing h h' =>
    rw [h, h']
    exact .refl _
  | value h h' hv =>
    rw [h, h']
    exact (hread _ _ hv).under _ _

theorem Finds.orElse {read : Reading α} (h : l.Finds R es es') (default : α)
    (hread : read.Respects R) :
    (l.orElse default read es).Entails (l.orElse default read es') := by
  unfold Label.orElse
  cases h with
  | nothing h h' =>
    rw [h, h']
    exact .refl _
  | value h h' hv =>
    rw [h, h']
    exact (hread _ _ hv).under _ _

/-- One of the two spellings. -/
def Claims (l : Label) (s : String) : Prop := s = l.spelling ∨ s = l.name

/-- Two labels that have no spelling in common. -/
def Apart (l l' : Label) : Prop := ∀ s, l.Claims s → ¬ l'.Claims s

theorem apart_iff : l.Apart l' ↔
    ¬ l'.Claims l.spelling ∧ ¬ l'.Claims l.name := by
  constructor
  · exact fun h => ⟨h _ (.inl rfl), h _ (.inr rfl)⟩
  · rintro ⟨hspelling, hname⟩ s (rfl | rfl)
    · exact hspelling
    · exact hname

instance (l : Label) (s : String) : Decidable (l.Claims s) := inferInstanceAs (Decidable (_ ∨ _))

instance (l l' : Label) : Decidable (l.Apart l') := decidable_of_iff _ apart_iff.symm

theorem claims_of_find? (h : l.find? es = some (s, v)) :
    l.Claims s ∧ Document.find? s es = some v := by
  unfold find? at h
  split at h
  · next hspelling =>
    cases h
    exact ⟨.inl rfl, hspelling⟩
  · obtain ⟨w, hname, heq⟩ := Option.map_eq_some_iff.1 h
    cases heq
    exact ⟨.inr rfl, hname⟩

/-! ### One spelling in a mapping -/

/-- Some key is a text, or can be read as one. -/
def Held (s : String) (es : Entries) : Prop :=
  ∃ e ∈ es, Reading.readable? e.1 = some (some s)

/-- Not both spellings are held. -/
def Once (l : Label) (es : Entries) : Prop :=
  Held l.spelling es → Held l.name es → l.spelling = l.name

instance (s : String) (es : Entries) : Decidable (Held s es) :=
  inferInstanceAs (Decidable (∃ e ∈ es, Reading.readable? e.1 = some (some s)))

instance (l : Label) (es : Entries) : Decidable (l.Once es) :=
  inferInstanceAs (Decidable (_ → _ → _))

theorem Claims.respelled (h : l.Claims s) {s' : String} (hs' : s' = s ∨ s' = l.name) :
    l.Claims s' := by
  rcases hs' with rfl | rfl
  · exact h
  · exact .inr rfl

theorem held_of_find? (h : Document.find? s es = some v) : Held s es := by
  obtain ⟨e, he, hkey⟩ := Document.exists_of_find? h
  refine ⟨e, he, ?_⟩
  rw [hkey]
  rfl

/-- The spelling under which a label finds something is the only one that is held. -/
theorem Once.eq_of_held (h : l.Once es) (hfind : l.find? es = some (s, v)) {t : String}
    (ht : Held t es) (hclaims : l.Claims t) : t = s := by
  obtain ⟨hs, hfound⟩ := claims_of_find? hfind
  have hheld := held_of_find? hfound
  rcases hs with rfl | rfl
  · rcases hclaims with rfl | rfl
    · rfl
    · exact (h hheld ht).symm
  · rcases hclaims with rfl | rfl
    · exact h ht hheld
    · rfl

theorem Once.find?_name_eq_none (h : l.Once es) (hne : l.spelling ≠ l.name)
    (hspelling : Document.find? l.spelling es = some v) : Document.find? l.name es = none := by
  by_contra hsome
  obtain ⟨w, hw⟩ := Option.ne_none_iff_exists'.1 hsome
  exact hne (h (held_of_find? hspelling) (held_of_find? hw))

theorem eq_name_of_find? (hnone : Document.find? l.spelling es = none)
    (hfind : l.find? es = some (s, v)) : s = l.name := by
  rcases claims_of_find? hfind with ⟨rfl | rfl, hfound⟩
  · rw [hnone] at hfound
    cases hfound
  · rfl

/-- The first value under either spelling. -/
def pick? (l : Label) : Entries → Option Document
  | [] => none
  | (.text s, v) :: rest => if l.Claims s then some v else pick? l rest
  | _ :: rest => pick? l rest

theorem pick?_of_spelling_none (h : Document.find? l.spelling es = none) :
    l.pick? es = Document.find? l.name es := by
  induction es with
  | nil => rfl
  | cons e rest ih =>
    obtain ⟨key, v⟩ := e
    cases key with
    | text s =>
      rw [Document.find?] at h
      split at h
      · cases h
      · next hs =>
        have hclaims : l.Claims s ↔ s = l.name := or_iff_right hs
        simp only [pick?, Document.find?, hclaims, ih h]
    | _ => exact ih h

theorem pick?_of_name_none (h : Document.find? l.name es = none) :
    l.pick? es = Document.find? l.spelling es := by
  induction es with
  | nil => rfl
  | cons e rest ih =>
    obtain ⟨key, v⟩ := e
    cases key with
    | text s =>
      rw [Document.find?] at h
      split at h
      · cases h
      · next hs =>
        have hclaims : l.Claims s ↔ s = l.spelling := or_iff_left hs
        simp only [pick?, Document.find?, hclaims, ih h]
    | _ => exact ih h

theorem pick?_of_same (h : l.spelling = l.name) : l.pick? es = Document.find? l.spelling es := by
  induction es with
  | nil => rfl
  | cons e rest ih =>
    obtain ⟨key, v⟩ := e
    cases key with
    | text s =>
      have hclaims : l.Claims s ↔ s = l.spelling := by
        rw [Claims, ← h, or_self]
      simp only [pick?, Document.find?, hclaims, ih]
    | _ => exact ih

/-- Where only one spelling is held, it does not matter that the other one is looked for. -/
theorem map_find?_eq_pick? (h : l.Once es ∨ Document.find? l.spelling es = none) :
    (l.find? es).map (·.2) = l.pick? es := by
  unfold find?
  cases hspelling : Document.find? l.spelling es with
  | none =>
    rw [pick?_of_spelling_none hspelling]
    cases Document.find? l.name es <;> rfl
  | some v =>
    have honce := h.resolve_right (by simp [hspelling])
    by_cases hsame : l.spelling = l.name
    · rw [pick?_of_same hsame, hspelling]
      rfl
    · rw [pick?_of_name_none (honce.find?_name_eq_none hsame hspelling), hspelling]
      rfl

end Label

theorem Label.finds_of_rel {l : Label} {R : Standing} {es es' : Entries}
    (h : Option.Rel R ((l.find? es).map (·.2)) ((l.find? es').map (·.2))) : l.Finds R es es' := by
  rcases hfind : l.find? es with _ | ⟨s, v⟩ <;> rcases hfind' : l.find? es' with _ | ⟨s', v'⟩ <;>
    rw [hfind, hfind'] at h <;> cases h
  · exact .nothing hfind hfind'
  · next hv => exact .value hfind hfind' hv

/-! ## Records -/

theorem exists_of_mem_right {α β : Type} {R : α → β → Prop} {as : List α} {bs : List β}
    (h : List.Forall₂ R as bs) {b : β} (hb : b ∈ bs) : ∃ a ∈ as, R a b := by
  induction h with
  | nil => cases hb
  | cons hfirst _ ih =>
    rcases List.mem_cons.1 hb with rfl | hb
    · exact ⟨_, List.mem_cons_self, hfirst⟩
    · obtain ⟨a, ha, hab⟩ := ih hb
      exact ⟨a, List.mem_cons_of_mem _ ha, hab⟩

theorem exists_of_mem_left {α β : Type} {R : α → β → Prop} {as : List α} {bs : List β}
    (h : List.Forall₂ R as bs) {a : α} (ha : a ∈ as) : ∃ b ∈ bs, R a b :=
  exists_of_mem_right (R := fun b a => R a b) h.flip ha

/-- A key is known if it reads as the spelling under which some label finds its value. -/
def Known (labels : List Label) (es : Entries) (key : Document) : Prop :=
  ∃ s, Reading.readable? key = some (some s) ∧ ∃ l ∈ labels, ∃ v, l.find? es = some (s, v)

theorem strangers_eq_nil_iff {labels : List Label} {es : Entries} :
    strangers labels es = [] ↔ ∀ e ∈ es, Known labels es e.1 := by
  unfold strangers
  dsimp only
  rw [List.filterMap_eq_nil_iff]
  refine forall₂_congr fun e _ => ?_
  unfold strangeKey? Known
  split
  · next s hs => simp [hs, List.mem_filterMap]
  · next hs =>
    refine iff_of_false (by simp) ?_
    rintro ⟨s, hreads, _⟩
    exact hs s hreads

/-- The labels of a record find the same in two mappings, each in its way, and there are other keys
in one of them only if there are in the other. -/
structure FindsAlike (parts : List (Label × Standing)) (es es' : Entries) : Prop where
  finds : ∀ p ∈ parts, p.1.Finds p.2 es es'
  strangers : strangers (parts.map (·.1)) es = [] ↔ strangers (parts.map (·.1)) es' = []

theorem FindsAlike.flip {parts : List (Label × Standing)} {es es' : Entries}
    (h : FindsAlike parts es es') :
    FindsAlike (parts.map fun p => (p.1, fun d d' => p.2 d' d)) es' es := by
  constructor
  · intro p hp
    obtain ⟨q, hq, rfl⟩ := List.mem_map.1 hp
    exact (h.finds q hq).flip
  · rw [List.map_map]
    exact h.strangers.symm

theorem FindsAlike.entails_record {α : Type} {parts : List (Label × Standing)} {es es' : Entries}
    (h : FindsAlike parts es es') (kind : String) {fields : Entries → Checked α}
    (hfields : (fields es).Entails (fields es')) :
    (Reading.record kind (parts.map (·.1)) fields (.map es)).Entails
      (Reading.record kind (parts.map (·.1)) fields (.map es')) :=
  hfields.also h.strangers.1

/-- The labels of a record, each with the way in which what stands under it can be respelled. -/
structure Form where
  parts : List (Label × Standing)
  apart : parts.Pairwise fun p q => p.1.Apart q.1
  reflexive : ∀ p ∈ parts, ∀ d, p.2 d d

namespace Form

/-- An entry that stays as it is, or one of a label: what stands under its key can be respelled, and
its key be put under the name of the label. -/
inductive Entry (F : Form) : Document × Document → Document × Document → Prop
  | same (e : Document × Document) : Entry F e e
  | under {p : Label × Standing} (hp : p ∈ F.parts) {s s' : String} (hs : p.1.Claims s)
    (hs' : s' = s ∨ s' = p.1.name) {v v' : Document} (hv : p.2 v v') :
    Entry F (.text s, v) (.text s', v')

/-- A mapping that is respelled entry by entry, with no key in both spellings before or after. -/
inductive Respelled (F : Form) : Standing
  | same (d : Document) : Respelled F d d
  | map {es es' : Entries} (once : ∀ p ∈ F.parts, p.1.Once es) (once' : ∀ p ∈ F.parts, p.1.Once es')
    (entries : List.Forall₂ F.Entry es es') : Respelled F (.map es) (.map es')

variable {F : Form} {p q : Label × Standing} {s : String} {es es' : Entries}

theorem eq_of_claims (hp : p ∈ F.parts) (hq : q ∈ F.parts) (hs : p.1.Claims s)
    (hs' : q.1.Claims s) : p = q := by
  have hsymm : Std.Symm fun p q : Label × Standing => p.1.Apart q.1 :=
    ⟨fun _ _ h s hs hs' => h s hs' hs⟩
  by_contra hne
  exact F.apart.forall hp hq hne s hs hs'

namespace Entry

variable {e e' : Document × Document}

/-- A key is of a label before just if it is afterwards. -/
theorem claims_iff {s s' : String} {v v' : Document} (h : F.Entry (.text s, v) (.text s', v'))
    (hp : p ∈ F.parts) : p.1.Claims s ↔ p.1.Claims s' := by
  cases h with
  | same => exact Iff.rfl
  | under hq hs hs' hv =>
    constructor
    · intro hclaims
      obtain rfl := eq_of_claims hp hq hclaims hs
      exact hs.respelled hs'
    · intro hclaims
      obtain rfl := eq_of_claims hp hq hclaims (hs.respelled hs')
      exact hs

/-- A key that is not in its spelling is a name just if it is afterwards. -/
theorem name_iff (h : F.Entry e e') (hp : p ∈ F.parts) (hne : e.1 ≠ .text p.1.spelling) :
    e.1 = .text p.1.name ↔ e'.1 = .text p.1.name := by
  cases h with
  | same => exact Iff.rfl
  | under hq hs hs' hv =>
    simp only [ne_eq, Document.text.injEq] at hne ⊢
    constructor
    · rintro rfl
      obtain rfl := eq_of_claims hp hq (.inr rfl) hs
      exact hs'.elim id id
    · rintro rfl
      obtain rfl := eq_of_claims hp hq (.inr rfl) (hs.respelled hs')
      exact hs.resolve_left hne

theorem ne_spelling (h : F.Entry e e') (hp : p ∈ F.parts) (hne : e.1 ≠ .text p.1.spelling) :
    e'.1 ≠ .text p.1.spelling := by
  cases h with
  | same => exact hne
  | under hq hs hs' hv =>
    simp only [ne_eq, Document.text.injEq] at hne ⊢
    rintro rfl
    obtain rfl := eq_of_claims hp hq (.inl rfl) (hs.respelled hs')
    rcases hs' with hs' | hs'
    · exact hne hs'.symm
    · exact hne ((hs.resolve_left hne).trans hs'.symm)

end Entry

theorem rel_pick? (hp : p ∈ F.parts) (h : List.Forall₂ F.Entry es es') :
    Option.Rel p.2 (p.1.pick? es) (p.1.pick? es') := by
  induction h with
  | nil => exact .none
  | @cons e _ _ _ hfirst _ ih =>
    cases hfirst with
    | same =>
      obtain ⟨key, v⟩ := e
      cases key with
      | text s =>
        unfold Label.pick?
        split
        · exact .some (F.reflexive p hp v)
        · exact ih
      | _ => exact ih
    | @under q hq s s' hs hs' v v' hv =>
      have hiff := (Entry.under hq hs hs' hv).claims_iff hp
      unfold Label.pick?
      by_cases hclaims : p.1.Claims s
      · obtain rfl := eq_of_claims hp hq hclaims hs
        rw [if_pos hclaims, if_pos (hiff.1 hclaims)]
        exact .some hv
      · rw [if_neg hclaims, if_neg (mt hiff.2 hclaims)]
        exact ih

theorem find?_spelling_eq_none (hp : p ∈ F.parts) (h : List.Forall₂ F.Entry es es')
    (hnone : Document.find? p.1.spelling es = none) : Document.find? p.1.spelling es' = none := by
  rw [Document.find?_eq_none_iff] at hnone ⊢
  intro e' he'
  obtain ⟨e, he, hentry⟩ := exists_of_mem_right h he'
  exact hentry.ne_spelling hp (hnone e he)

/-- A label of which no key is in both spellings, before or after, or none is in its spelling. -/
def Settled (p : Label × Standing) (es es' : Entries) : Prop :=
  (p.1.Once es ∧ p.1.Once es') ∨ Document.find? p.1.spelling es = none

theorem finds_of_settled (hp : p ∈ F.parts) (hsettled : Settled p es es')
    (h : List.Forall₂ F.Entry es es') : p.1.Finds p.2 es es' := by
  refine Label.finds_of_rel ?_
  have hspelling := find?_spelling_eq_none hp h
  rw [Label.map_find?_eq_pick? (hsettled.imp And.left id),
    Label.map_find?_eq_pick? (hsettled.imp And.right hspelling)]
  exact rel_pick? hp h

section Known

variable (hsettled : ∀ p ∈ F.parts, Settled p es es') (hentries : List.Forall₂ F.Entry es es')
  {e e' : Document × Document} (hentry : F.Entry e e') (he : e ∈ es) (he' : e' ∈ es')
include hsettled hentries hentry he he'

theorem known_of_known (h : Known (F.parts.map (·.1)) es e.1) :
    Known (F.parts.map (·.1)) es' e'.1 := by
  obtain ⟨s, hreads, l, hl, v, hfind⟩ := h
  obtain ⟨p, hp, rfl⟩ := List.mem_map.1 hl
  have hclaims := (Label.claims_of_find? hfind).1
  obtain ⟨s', v', hfind'⟩ : ∃ s' v', p.1.find? es' = some (s', v') := by
    cases finds_of_settled hp (hsettled p hp) hentries with
    | nothing hnone => cases hfind.symm.trans hnone
    | value _ hvalue => exact ⟨_, _, hvalue⟩
  obtain ⟨t, ht, hts⟩ : ∃ t, Reading.readable? e'.1 = some (some t) ∧
      (t = s ∨ t = p.1.name) := by
    cases hentry with
    | same => exact ⟨s, hreads, .inl rfl⟩
    | under hq hs hs' hv =>
      cases hreads
      obtain rfl := eq_of_claims hp hq hclaims hs
      exact ⟨_, rfl, hs'⟩
  -- The label cannot have found its value under the other spelling, which is not held.
  have hsame : t = s' := by
    rcases hsettled p hp with ⟨_, honce⟩ | hnone
    · exact honce.eq_of_held hfind' ⟨e', he', ht⟩ (hclaims.respelled hts)
    · have hnone' := find?_spelling_eq_none hp hentries hnone
      rw [Label.eq_name_of_find? hnone' hfind']
      exact hts.elim (fun hs => hs.trans (Label.eq_name_of_find? hnone hfind)) id
  exact ⟨s', hsame ▸ ht, p.1, hl, v', hfind'⟩

theorem known_of_known_respelled (h : Known (F.parts.map (·.1)) es' e'.1) :
    Known (F.parts.map (·.1)) es e.1 := by
  obtain ⟨s', hreads', l, hl, v', hfind'⟩ := h
  obtain ⟨p, hp, rfl⟩ := List.mem_map.1 hl
  have hclaims := (Label.claims_of_find? hfind').1
  obtain ⟨s, v, hfind⟩ : ∃ s v, p.1.find? es = some (s, v) := by
    cases finds_of_settled hp (hsettled p hp) hentries with
    | nothing _ hnone => cases hfind'.symm.trans hnone
    | value hvalue => exact ⟨_, _, hvalue⟩
  obtain ⟨t, ht, htclaims, hts⟩ : ∃ t, Reading.readable? e.1 = some (some t) ∧ p.1.Claims t ∧
      (t = s' ∨ e.1 = .text t) := by
    cases hentry with
    | same => exact ⟨s', hreads', hclaims, .inl rfl⟩
    | under hq hs hs' hv =>
      cases hreads'
      obtain rfl := eq_of_claims hp hq hclaims (hs.respelled hs')
      exact ⟨_, rfl, hs, .inr rfl⟩
  have hsame : t = s := by
    rcases hsettled p hp with ⟨honce, _⟩ | hnone
    · exact honce.eq_of_held hfind ⟨e, he, ht⟩ htclaims
    · rw [Label.eq_name_of_find? hnone hfind]
      rcases hts with rfl | hkey
      · exact Label.eq_name_of_find? (find?_spelling_eq_none hp hentries hnone) hfind'
      · refine htclaims.resolve_left ?_
        rintro rfl
        exact Document.find?_eq_none_iff.1 hnone e he hkey
  exact ⟨s, hsame ▸ ht, p.1, hl, v, hfind⟩

end Known

/-- Respelling the entries of a mapping makes no difference to what the labels find. -/
theorem findsAlike_of_settled (hsettled : ∀ p ∈ F.parts, Settled p es es')
    (hentries : List.Forall₂ F.Entry es es') : FindsAlike F.parts es es' := by
  refine ⟨fun p hp => finds_of_settled hp (hsettled p hp) hentries, ?_⟩
  rw [strangers_eq_nil_iff, strangers_eq_nil_iff]
  constructor
  · intro h e' he'
    obtain ⟨e, he, hentry⟩ := exists_of_mem_right hentries he'
    exact known_of_known hsettled hentries hentry he he' (h e he)
  · intro h e he
    obtain ⟨e', he', hentry⟩ := exists_of_mem_left hentries he
    exact known_of_known_respelled hsettled hentries hentry he he' (h e' he')

theorem findsAlike_self (F : Form) (es : Entries) : FindsAlike F.parts es es := by
  refine ⟨fun p hp => ?_, Iff.rfl⟩
  rcases hfind : p.1.find? es with _ | ⟨s, v⟩
  · exact .nothing hfind hfind
  · exact .value hfind hfind (F.reflexive p hp v)

theorem Respelled.findsAlike (h : F.Respelled (.map es) (.map es')) :
    FindsAlike F.parts es es' := by
  cases h with
  | same => exact F.findsAlike_self es
  | map once once' entries =>
    exact findsAlike_of_settled (fun p hp => .inl ⟨once p hp, once' p hp⟩) entries

end Form

/-! ## An entry that is put in -/

namespace Document

theorem key?_eq_text_iff {d : Document} {s : String} : d.key? = some (.text s) ↔ d = .text s := by
  cases d with
  | text t => simp [key?]
  | float x =>
    simp only [key?, reduceCtorEq, iff_false]
    split
    · simp
    · simp
    · split <;> simp [Key.ofRatio]
  | dateTime t =>
    simp only [key?, reduceCtorEq, iff_false]
    split <;> simp
  | _ => simp [key?, Key.ofRatio]

variable {name : String} {v : Document} {es : Entries}

theorem insert_cons_of_eq {e : Document × Document} (h : e.1 = .text name) (rest : Entries) :
    insert (.text name) v (e :: rest) = (.text name, v) :: rest := by
  obtain ⟨key, w⟩ := e
  cases h
  exact if_pos rfl

theorem insert_cons_of_ne {e : Document × Document} (h : e.1 ≠ .text name) (rest : Entries) :
    insert (.text name) v (e :: rest) = e :: insert (.text name) v rest := by
  obtain ⟨key, w⟩ := e
  exact if_neg (mt key?_eq_text_iff.1 h)

theorem mem_insert {e : Document × Document} (h : e ∈ insert (.text name) v es) :
    e = (.text name, v) ∨ e ∈ es := by
  induction es with
  | nil => exact .inl (List.mem_singleton.1 h)
  | cons first rest ih =>
    by_cases hfirst : first.1 = .text name
    · rw [insert_cons_of_eq hfirst] at h
      exact (List.mem_cons.1 h).imp_right (List.mem_cons_of_mem _)
    · rw [insert_cons_of_ne hfirst] at h
      rcases List.mem_cons.1 h with rfl | hrest
      · exact .inr List.mem_cons_self
      · exact (ih hrest).imp_right (List.mem_cons_of_mem _)

theorem mem_insert_self (name : String) (v : Document) (es : Entries) :
    (.text name, v) ∈ insert (.text name) v es := by
  induction es with
  | nil => exact List.mem_cons_self
  | cons first rest ih =>
    by_cases hfirst : first.1 = .text name
    · rw [insert_cons_of_eq hfirst]
      exact List.mem_cons_self
    · rw [insert_cons_of_ne hfirst]
      exact List.mem_cons_of_mem _ ih

theorem find?_insert_self (name : String) (v : Document) (es : Entries) :
    find? name (insert (.text name) v es) = some v := by
  induction es with
  | nil => simp [insert, insertBy, find?]
  | cons first rest ih =>
    obtain ⟨key, w⟩ := first
    by_cases hfirst : key = .text name
    · rw [insert_cons_of_eq hfirst, find?, if_pos rfl]
    · rw [insert_cons_of_ne hfirst]
      cases key with
      | text s => rw [find?, if_neg (by simpa using hfirst), ih]
      | _ => exact ih

theorem find?_insert_of_ne {other : String} (h : other ≠ name) :
    find? other (insert (.text name) v es) = find? other es := by
  induction es with
  | nil => simp [insert, insertBy, find?, Ne.symm h]
  | cons first rest ih =>
    by_cases hfirst : first.1 = .text name
    · obtain ⟨key, w⟩ := first
      cases hfirst
      rw [insert_cons_of_eq rfl, find?, find?, if_neg h.symm, if_neg h.symm]
    · obtain ⟨key, w⟩ := first
      rw [insert_cons_of_ne hfirst]
      cases key with
      | text s => rw [find?, find?, ih]
      | _ => exact ih

end Document

theorem Label.Once.insert {l : Label} {es : Entries} {name : String} (h : l.Once es)
    (hname : ¬ l.Claims name) (v : Document) : l.Once (Document.insert (.text name) v es) := by
  have hheld (s : String) (hs : l.Claims s) (hmore : Held s (Document.insert (.text name) v es)) :
      Held s es := by
    obtain ⟨e, he, hreads⟩ := hmore
    rcases Document.mem_insert he with rfl | he
    · cases hreads
      exact absurd hs hname
    · exact ⟨e, he, hreads⟩
  exact fun hspelling hother => h (hheld _ (.inl rfl) hspelling) (hheld _ (.inr rfl) hother)

/-- The same entry can be put in before and after, under a name whose spelling is not there. -/
theorem Form.entries_insert {F : Form} {p : Label × Standing} {es es' : Entries}
    (hp : p ∈ F.parts) (hnone : Document.find? p.1.spelling es = none) (v : Document)
    (h : List.Forall₂ F.Entry es es') :
    List.Forall₂ F.Entry (Document.insert (.text p.1.name) v es)
      (Document.insert (.text p.1.name) v es') := by
  rw [Document.find?_eq_none_iff] at hnone
  induction h with
  | nil => exact .cons (.same _) .nil
  | @cons e _ _ _ hfirst hrest ih =>
    rw [List.forall_mem_cons] at hnone
    have hiff := hfirst.name_iff hp hnone.1
    by_cases hname : e.1 = .text p.1.name
    · rw [Document.insert_cons_of_eq hname, Document.insert_cons_of_eq (hiff.1 hname)]
      exact .cons (.same _) hrest
    · rw [Document.insert_cons_of_ne hname, Document.insert_cons_of_ne (mt hiff.2 hname)]
      exact .cons hfirst (ih hnone.2)

end Scaffold
