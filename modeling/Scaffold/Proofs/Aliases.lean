import Scaffold.Proofs.Acceptance
import Scaffold.Proofs.Respelling

/-!
# Schemas in their other spelling

Keys in the spelling of documents and keys under the names of fields say the same in all parts of a
schema, with one exception. An array with null under the spelling for the type of its elements is
refused: the type that is filled in goes under the name, and the null that is found first is in its
way. Under the name the null is replaced.
-/
namespace Scaffold

open Checked

/-! ## Records whose values stay -/

namespace Form

/-- A form in which all values stay as they are. -/
def plain (labels : List Label) (apart : labels.Pairwise Label.Apart) : Form where
  parts := labels.map fun l => (l, Eq)
  apart := List.pairwise_map.2 apart
  reflexive := by
    intro p hp d
    obtain ⟨l, _, rfl⟩ := List.mem_map.1 hp
    rfl

end Form

namespace Reading

variable {α β : Type} {R : Standing}

theorem Respects.thenCheck {read : Reading α} (h : Respects read R) (check : α → Checked β) :
    Respects (fun d => (read d).thenCheck check) R :=
  fun d d' hd => (h d d' hd).thenCheck check

/-- A reading that takes a document for what it is in another spelling, and the other way round. -/
structure Interchanges (read : Reading α) (R : Standing) : Prop where
  forward : Respects read R
  backward : Respects read fun d d' => R d' d

theorem Interchanges.thenCheck {read : Reading α} (h : Interchanges read R)
    (check : α → Checked β) : Interchanges (fun d => (read d).thenCheck check) R :=
  ⟨h.forward.thenCheck check, h.backward.thenCheck check⟩

theorem interchanges_plain {labels : List Label} (apart : labels.Pairwise Label.Apart)
    (kind : String) {fields : Entries → Checked α}
    (hfields : ∀ es es', (∀ l ∈ labels, l.Finds Eq es es') → (fields es).Entails (fields es')) :
    Interchanges (record kind labels fields) (Form.plain labels apart).Respelled := by
  have hlabels : (Form.plain labels apart).parts.map (·.1) = labels := by
    rw [Form.plain, List.map_map]
    exact List.map_id labels
  have hfinds {es es' : Entries} (h : FindsAlike (Form.plain labels apart).parts es es') :
      ∀ l ∈ labels, l.Finds Eq es es' :=
    fun l hl => h.finds (l, Eq) (List.mem_map_of_mem hl)
  constructor
  · rintro d d' (_ | ⟨once, once', entries⟩)
    · exact .refl _
    · have halike := Form.Respelled.findsAlike (.map once once' entries)
      have hrecord := halike.entails_record kind (hfields _ _ (hfinds halike))
      rwa [hlabels] at hrecord
  · rintro d d' (_ | ⟨once, once', entries⟩)
    · exact .refl _
    · have halike := Form.Respelled.findsAlike (.map once once' entries)
      have hback := hfields _ _ fun l hl => (hfinds halike l hl).symm
      exact hback.also (hlabels ▸ halike.strangers.2)

end Reading

/-! ## The parts of a schema -/

theorem Rules.apart_keys : Rules.keys.Pairwise Label.Apart := by decide +kernel

theorem Operation.apart_keys : Operation.keys.Pairwise Label.Apart := by decide +kernel

theorem Policy.apart_keys : Policy.keys.Pairwise Label.Apart := by decide +kernel

def Rules.form : Form := .plain Rules.keys Rules.apart_keys

def Operation.form : Form := .plain Operation.keys Operation.apart_keys

def Policy.form : Form := .plain Policy.keys Policy.apart_keys

theorem Rules.interchanges : Rules.read.Interchanges Rules.form.Respelled := by
  refine Reading.interchanges_plain Rules.apart_keys _ fun es es' h => ?_
  simp only [keys, List.forall_mem_cons] at h
  obtain ⟨hminLength, hmaxLength, hmin, hmax, hemail, hurl, hpattern, _⟩ := h
  have heq {α : Type} (read : Reading α) : read.Respects Eq := Reading.respects_eq read
  simp only [functor_map_eq, seq_eq_ap]
  refine .ap ?_ (hpattern.orElse none (heq _))
  refine .ap ?_ (hurl.orElse false (heq _))
  refine .ap ?_ (hemail.orElse false (heq _))
  refine .ap ?_ (hmax.orElse none (heq _))
  refine .ap ?_ (hmin.orElse none (heq _))
  refine .ap ?_ (hmaxLength.orElse none (heq _))
  exact (hminLength.orElse none (heq _)).map _

theorem Operation.interchanges : Operation.read.Interchanges Operation.form.Respelled := by
  refine Reading.Interchanges.thenCheck (Reading.interchanges_plain Operation.apart_keys _
    fun es es' h => ?_) hasItsName
  simp only [keys, List.forall_mem_cons] at h
  obtain ⟨htype, hname, hdescription, hfilters, hlimit, _⟩ := h
  have heq {α : Type} (read : Reading α) : read.Respects Eq := Reading.respects_eq read
  simp only [readEntries, functor_map_eq, seq_eq_ap]
  refine .ap ?_ (hlimit.orElse none (heq _))
  refine .ap ?_ (hfilters.orElse [] (heq _))
  refine .ap ?_ (hdescription.orElse none (heq _))
  refine .ap ?_ (hname.orElse none (heq _))
  exact (htype.required (heq _)).map _

theorem Policy.interchanges : Policy.read.Interchanges Policy.form.Respelled := by
  refine Reading.interchanges_plain Policy.apart_keys _ fun es es' h => ?_
  simp only [keys, List.forall_mem_cons] at h
  obtain ⟨haction, hname, hcondition, hcheck, _⟩ := h
  have heq {α : Type} (read : Reading α) : read.Respects Eq := Reading.respects_eq read
  simp only [functor_map_eq, seq_eq_ap]
  refine .ap ?_ (hcheck.orElse none (heq _))
  refine .ap ?_ (hcondition.orElse none (heq _))
  refine .ap ?_ (hname.required (heq _))
  exact (haction.required (heq _)).map _

/-! ## Fields -/

namespace Field

/-- The labels of a field, if its rules can be respelled in some way. -/
def parts (rules : Standing) : List (Label × Standing) := [
  (nameKey, Eq), (columnKey, Eq), (typeKey, Eq), (requiredKey, Eq), (defaultKey, Eq),
  (primaryKeyKey, Eq), (uniqueKey, Eq), (referencesKey, Eq), (onDeleteKey, Eq), (indexKey, Eq),
  (indexMethodKey, Eq), (enumValuesKey, Eq), (elementKey, Eq), (rulesKey, rules),
  (autoUpdateKey, Eq)]

theorem apart_keys : keys.Pairwise Label.Apart := by decide +kernel

def form : Form where
  parts := parts Rules.form.Respelled
  apart := List.pairwise_map.1 apart_keys
  reflexive := by
    simp [parts, Form.Respelled.same]

variable {es es' : Entries} {rules : Standing}

theorem findsAlike_flip (h : FindsAlike (parts rules) es es') :
    FindsAlike (parts fun d d' => rules d' d) es' es := by
  have hflip : (fun d d' : Document => d' = d) = Eq := funext₂ fun _ _ => propext eq_comm
  simpa only [parts, List.map_cons, List.map_nil, hflip] using h.flip

theorem entails_readEntries (hrules : (Reading.nullable Rules.read).Respects rules)
    (h : FindsAlike (parts rules) es es') : (readEntries es).Entails (readEntries es') := by
  have hfinds := h.finds
  simp only [parts, List.forall_mem_cons] at hfinds
  obtain ⟨hname, hcolumn, htype, hrequired, hdefault, hprimary, hunique, hreferences, honDelete,
    hindex, hmethod, hvalues, helement, hrules', hauto, _⟩ := hfinds
  have heq {α : Type} (read : Reading α) : read.Respects Eq := Reading.respects_eq read
  simp only [readEntries, functor_map_eq, seq_eq_ap]
  refine .ap ?_ (hauto.orElse false (heq _))
  refine .ap ?_ (hrules'.orElse none hrules)
  refine .ap ?_ (helement.orElse none (heq _))
  refine .ap ?_ (hvalues.orElse none (heq _))
  refine .ap ?_ (hmethod.orElse none (heq _))
  refine .ap ?_ (hindex.orElse false (heq _))
  refine .ap ?_ (honDelete.orElse none (heq _))
  refine .ap ?_ (hreferences.orElse none (heq _))
  refine .ap ?_ (hunique.orElse false (heq _))
  refine .ap ?_ (hprimary.orElse false (heq _))
  refine .ap ?_ (hdefault.orElse none (heq _))
  refine .ap ?_ (hrequired.orElse false (heq _))
  refine .ap ?_ (htype.required (heq _))
  refine .ap ?_ (hcolumn.required (heq _))
  exact (hname.required (heq _)).map _

/-! ### The type of elements -/

/-- What a field has under its type. -/
def IsArray (es : Entries) : Prop := (typeKey.find? es).map (·.2) = some (.text "array")

theorem isNullOrAbsent_iff {found : Option Document} :
    isNullOrAbsent found = true ↔ found = none ∨ found = some .null := by
  rcases found with _ | d
  · simp [isNullOrAbsent]
  · cases d <;> simp [isNullOrAbsent]

/-- An array for whose elements no type is given, or null. -/
structure Fills (es : Entries) : Prop where
  array : IsArray es
  spelling : isNullOrAbsent (Document.find? elementKey.spelling es) = true
  name : isNullOrAbsent (Document.find? elementKey.name es) = true

/-- A mapping with the type of its elements filled in. -/
def filled (es : Entries) : Entries :=
  Document.insert (.text elementKey.name) (.text ElementType.string.name) es

theorem isArray_of_find? {s : String} (h : typeKey.find? es = some (s, .text "array")) :
    IsArray es := by
  rw [IsArray, h]
  rfl

theorem withElementType_of_fills (h : Fills es) : withElementType es = filled es := by
  obtain ⟨⟨s, v⟩, hfind, hv⟩ := Option.map_eq_some_iff.1 h.array
  cases hv
  unfold withElementType
  rw [hfind, h.spelling, h.name]
  rfl

theorem withElementType_of_not_fills (h : ¬ Fills es) : withElementType es = es := by
  unfold withElementType
  split
  · next hfind =>
    refine if_neg fun hboth => h ?_
    rw [Bool.and_eq_true_iff] at hboth
    exact ⟨isArray_of_find? hfind, hboth.1, hboth.2⟩
  · rfl

/-- An array with null under the spelling for the type of its elements. -/
structure Mutes (es : Entries) : Prop where
  array : IsArray es
  null : Document.find? elementKey.spelling es = some .null

theorem Fills.spelling_eq_none (h : Fills es) (hmutes : ¬ Mutes es) :
    Document.find? elementKey.spelling es = none :=
  (isNullOrAbsent_iff.1 h.spelling).resolve_right fun hnull => hmutes ⟨h.array, hnull⟩

/-- The name, under which the type is or is filled in, is a stranger beside the spelling. -/
theorem not_known_name (h : Document.find? elementKey.spelling es = some .null) :
    ¬ Known keys es (.text elementKey.name) := by
  rintro ⟨s, hreads, l, hl, v, hfind⟩
  cases hreads
  obtain ⟨p, hp, rfl⟩ := List.mem_map.1 (show l ∈ form.parts.map (·.1) from hl)
  have hclaims := (Label.claims_of_find? hfind).1
  have hp' : (elementKey, (Eq : Standing)) ∈ form.parts := by
    simp [form, parts]
  obtain rfl := Form.eq_of_claims hp hp' hclaims (.inr rfl)
  have hspelling : elementKey.find? es = some (elementKey.spelling, .null) := by
    unfold Label.find?
    rw [h]
  have hname := (Prod.mk.inj (Option.some.inj (hfind.symm.trans hspelling))).1
  exact absurd hname (by decide)

/-- Such an array is refused. -/
theorem read_ne_valid_of_mutes (h : Mutes es) (f : Field) : read (.map es) ≠ .valid f := by
  intro hread
  obtain ⟨g, hrecord, _⟩ := thenCheck_eq_valid_iff.1 hread
  obtain ⟨_, hnone⟩ := also_eq_valid_iff.1 hrecord
  have hknown := strangers_eq_nil_iff.1 hnone
  by_cases hfills : Fills es
  · rw [withElementType_of_fills hfills] at hknown
    refine not_known_name ?_ (hknown _ (Document.mem_insert_self _ _ es))
    rw [filled, Document.find?_insert_of_ne (by decide)]
    exact h.null
  · rw [withElementType_of_not_fills hfills] at hknown
    have hname : isNullOrAbsent (Document.find? elementKey.name es) ≠ true :=
      fun habsent => hfills ⟨h.array, isNullOrAbsent_iff.2 (.inr h.null), habsent⟩
    rw [ne_eq, isNullOrAbsent_iff, not_or] at hname
    obtain ⟨v, hfind⟩ := Option.ne_none_iff_exists'.1 hname.1
    obtain ⟨e, he, hkey⟩ := Document.exists_of_find? hfind
    exact not_known_name h.null (hkey ▸ hknown e he)

/-! ### Two spellings of a field -/

theorem isArray_iff (h : typeKey.Finds Eq es es') : IsArray es ↔ IsArray es' := by
  unfold IsArray
  cases h with
  | nothing h h' => rw [h, h']
  | value h h' hv => rw [h, h', Option.map_some, Option.map_some, hv]

/-- Where only one spelling is held, one look tells whether the type of the elements is given. -/
theorem lacks_iff (h : elementKey.Once es) :
    (isNullOrAbsent (Document.find? elementKey.spelling es) = true ∧
      isNullOrAbsent (Document.find? elementKey.name es) = true) ↔
      isNullOrAbsent ((elementKey.find? es).map (·.2)) = true := by
  unfold Label.find?
  cases hspelling : Document.find? elementKey.spelling es with
  | none =>
    rw [Option.map_map]
    exact (and_iff_right rfl).trans (by cases Document.find? elementKey.name es <;> rfl)
  | some v =>
    rw [h.find?_name_eq_none (by decide) hspelling]
    exact and_iff_left rfl

theorem fills_iff (h : FindsAlike (parts rules) es es') (honce : elementKey.Once es)
    (honce' : elementKey.Once es') : Fills es ↔ Fills es' := by
  have hfinds := h.finds
  simp only [parts, List.forall_mem_cons] at hfinds
  obtain ⟨_, _, htype, _, _, _, _, _, _, _, _, _, helement, _⟩ := hfinds
  have hlacks : isNullOrAbsent ((elementKey.find? es).map (·.2)) = true ↔
      isNullOrAbsent ((elementKey.find? es').map (·.2)) = true := by
    cases helement with
    | nothing h h' => rw [h, h']
    | value h h' hv => rw [h, h', Option.map_some, Option.map_some, hv]
  have hparts (es : Entries) : Fills es ↔ IsArray es ∧
      isNullOrAbsent (Document.find? elementKey.spelling es) = true ∧
        isNullOrAbsent (Document.find? elementKey.name es) = true :=
    ⟨fun h => ⟨h.array, h.spelling, h.name⟩, fun ⟨array, spelling, name⟩ => ⟨array, spelling, name⟩⟩
  rw [hparts, hparts, isArray_iff htype, lacks_iff honce, lacks_iff honce', hlacks]

theorem mem_parts_element : (elementKey, (Eq : Standing)) ∈ form.parts := by
  simp [form, parts]

/-- Filling in the type of elements does not tell the spellings apart, unless there is a null in its
way. -/
theorem findsAlike_withElementType (honce : ∀ p ∈ form.parts, p.1.Once es)
    (honce' : ∀ p ∈ form.parts, p.1.Once es') (hentries : List.Forall₂ form.Entry es es')
    (hmutes : ¬ Mutes es) :
    FindsAlike form.parts (withElementType es) (withElementType es') := by
  have halike := Form.Respelled.findsAlike (.map honce honce' hentries)
  have hfills : Fills es ↔ Fills es' :=
    fills_iff halike (honce _ mem_parts_element) (honce' _ mem_parts_element)
  by_cases hes : Fills es
  · have hnone := hes.spelling_eq_none hmutes
    rw [withElementType_of_fills hes, withElementType_of_fills (hfills.1 hes)]
    refine Form.findsAlike_of_settled (fun p hp => ?_)
      (Form.entries_insert mem_parts_element hnone _ hentries)
    -- The name that is put in is of one label only, whose spelling is not there.
    by_cases hclaims : p.1.Claims elementKey.name
    · obtain rfl := Form.eq_of_claims hp mem_parts_element hclaims (.inr rfl)
      exact .inr ((Document.find?_insert_of_ne (by decide)).trans hnone)
    · exact .inl ⟨(honce p hp).insert hclaims _, (honce' p hp).insert hclaims _⟩
  · rw [withElementType_of_not_fills hes, withElementType_of_not_fills (mt hfills.2 hes)]
    exact halike

theorem entails_read {es es' : Entries} (hrules : (Reading.nullable Rules.read).Respects rules)
    (h : FindsAlike (parts rules) (withElementType es) (withElementType es')) :
    (read (.map es)).Entails (read (.map es')) :=
  (h.entails_record _ (entails_readEntries hrules h)).thenCheck hasItsValues

theorem null_iff_of_respelled {F : Form} {d d' : Document} (h : F.Respelled d d') :
    d = .null ↔ d' = .null := by
  cases h with
  | same => exact Iff.rfl
  | map => exact iff_of_false nofun nofun

theorem respects_forward : read.Respects form.Respelled := by
  rintro d d' (_ | ⟨honce, honce', hentries⟩)
  · exact .refl _
  · intro f hread
    have hmutes : ¬ Mutes _ := fun hmutes => read_ne_valid_of_mutes hmutes f hread
    refine entails_read ?_ (findsAlike_withElementType honce honce' hentries hmutes) f hread
    exact Rules.interchanges.forward.nullable fun _ _ => null_iff_of_respelled

/-- A field whose array is not refused for a null can be read back from its other spelling. -/
theorem respects_backward : read.Respects fun d d' =>
    form.Respelled d' d ∧ ∀ es, d' = .map es → ¬ Mutes es := by
  rintro d d' ⟨_ | ⟨honce, honce', hentries⟩, hmutes⟩
  · exact .refl _
  · have halike := findsAlike_withElementType honce honce' hentries (hmutes _ rfl)
    refine entails_read ?_ (findsAlike_flip halike)
    exact Rules.interchanges.backward.nullable fun _ _ h => (null_iff_of_respelled h).symm

end Field

/-! ## Schemas -/

namespace Reading

variable {α : Type} {R : Standing}

theorem Respects.list_backward {read : Reading α} {P : Document → Prop}
    (h : Respects read fun d d' => R d' d ∧ P d') :
    Respects (Reading.list read) fun d d' =>
      R.Each d' d ∧ ∀ items, d' = .list items → ∀ d ∈ items, P d := by
  rintro d d' ⟨_ | hitems, hall⟩
  · exact .refl _
  · have hboth := (List.forall₂_and_left _ _).2 ⟨hall _ rfl, hitems⟩
    refine entails_listFrom h (List.Forall₂.flip (hboth.imp ?_)) 0
    exact fun _ _ hpair => ⟨hpair.2, hpair.1⟩

theorem Interchanges.list {read : Reading α} (h : Interchanges read R) :
    Interchanges (Reading.list read) R.Each := by
  refine ⟨h.forward.list, ?_⟩
  rintro d d' (_ | hitems)
  · exact .refl _
  · exact entails_listFrom h.backward hitems.flip 0

end Reading

namespace Schema

/-- The labels of a schema, if its fields, operations and policies can be respelled in some way. -/
def parts (fields operations policies : Standing) : List (Label × Standing) := [
  (nameKey, Eq), (tableKey, Eq), (fieldsKey, fields), (operationsKey, operations),
  (policiesKey, policies), (documentationKey, Eq)]

theorem apart_keys : keys.Pairwise Label.Apart := by decide +kernel

/-- In a schema, keys can be put under their names at every level. -/
def form : Form where
  parts := parts Field.form.Respelled.Each Operation.form.Respelled.Each Policy.form.Respelled.Each
  apart := List.pairwise_map.1 apart_keys
  reflexive := by
    simp [parts, Standing.Each.same]

variable {es es' : Entries} {fields operations policies : Standing}

theorem entails_read (hfields : (Reading.list Field.read).Respects fields)
    (hoperations : (Reading.list Operation.read).Respects operations)
    (hpolicies : (Reading.list Policy.read).Respects policies)
    (h : FindsAlike (parts fields operations policies) es es') :
    (read (.map es)).Entails (read (.map es')) := by
  have hfinds := h.finds
  simp only [parts, List.forall_mem_cons] at hfinds
  obtain ⟨hname, htable, hfields', hoperations', hpolicies', hdocumentation, _⟩ := hfinds
  have heq {α : Type} (read : Reading α) : read.Respects Eq := Reading.respects_eq read
  refine Entails.thenCheck (h.entails_record _ ?_) hasNoCollision
  simp only [readEntries, functor_map_eq, seq_eq_ap]
  refine .ap ?_ (hdocumentation.orElse none (heq _))
  refine .ap ?_ (hpolicies'.required hpolicies)
  refine .ap ?_ (hoperations'.required hoperations)
  refine .ap ?_ (hfields'.required hfields)
  refine .ap ?_ (htable.required (heq _))
  exact (hname.required (heq _)).map _

/-- A schema in which an array has null under the spelling for the type of its elements. -/
def Mutes (es : Entries) : Prop :=
  ∃ s items field, fieldsKey.find? es = some (s, .list items) ∧ .map field ∈ items ∧
    Field.Mutes field

theorem read_ne_valid_of_mutes (h : Mutes es) (s : Schema) : read (.map es) ≠ .valid s := by
  intro hread
  obtain ⟨_, items, field, hfind, hfield, hmutes⟩ := h
  have hfields := (read_eq_valid_iff.1 hread).1.fields
  unfold Label.required at hfields
  rw [hfind] at hfields
  obtain ⟨f, hf⟩ := exists_of_listFrom (under_eq_valid_iff.1 hfields) hfield
  exact Field.read_ne_valid_of_mutes hmutes f hf

theorem findsAlike_flip (h : FindsAlike (parts fields operations policies) es es') :
    FindsAlike (parts (fun d d' => fields d' d) (fun d d' => operations d' d)
      fun d d' => policies d' d) es' es := by
  have hflip : (fun d d' : Document => d' = d) = Eq := funext₂ fun _ _ => propext eq_comm
  simpa only [parts, List.map_cons, List.map_nil, hflip] using h.flip

theorem entails_of_respelled (h : form.Respelled (.map es) (.map es')) :
    (read (.map es)).Entails (read (.map es')) :=
  entails_read (Reading.Respects.list Field.respects_forward)
    Operation.interchanges.list.forward Policy.interchanges.list.forward h.findsAlike

theorem entails_of_respelled_back (h : form.Respelled (.map es) (.map es')) (hmutes : ¬ Mutes es) :
    (read (.map es')).Entails (read (.map es)) := by
  have hback := findsAlike_flip h.findsAlike
  have hfinds := hback.finds
  simp only [parts, List.forall_mem_cons] at hfinds
  obtain ⟨hname, htable, hfields, hoperations, hpolicies, hdocumentation, hend⟩ := hfinds
  have hsound := hfields.and fun s v hfind => show ∀ items, v = .list items → ∀ d ∈ items,
      ∀ field, d = .map field → ¬ Field.Mutes field by
    rintro items rfl _ hitem field rfl hmuted
    exact hmutes ⟨s, items, field, hfind, hitem, hmuted⟩
  refine entails_read (Reading.Respects.list_backward Field.respects_backward)
    Operation.interchanges.list.backward Policy.interchanges.list.backward
    ⟨?_, hback.strangers⟩
  simp only [parts, List.forall_mem_cons]
  exact ⟨hname, htable, hsound, hoperations, hpolicies, hdocumentation, hend⟩

/-- A source that is a mapping loads to a schema. -/
def Loads (es : Entries) (w : World) (s : Schema) : Prop :=
  ((Loading.schema (.entries es)).start w).1 = .ok s

theorem loads_iff {w : World} {s : Schema} : Loads es w s ↔ read (.map es) = .valid s := by
  unfold Loads Loading.schema
  rw [Loading.start_checked]
  cases read (.map es) with
  | valid t => simp
  | invalid problems => simp

/-- Keys can be put under their names at every level: a schema that loads then loads to the same.
Taken back, it loads to the same as well, unless there is an array with null under the spelling for
the type of its elements, which is refused. -/
theorem loads_respelled {es es' : Entries} (h : form.Respelled (.map es) (.map es')) (w : World)
    (s : Schema) : Loads es w s ↔ Loads es' w s ∧ ¬ Mutes es := by
  rw [loads_iff, loads_iff]
  constructor
  · intro hread
    exact ⟨entails_of_respelled h s hread, fun hmutes => read_ne_valid_of_mutes hmutes s hread⟩
  · rintro ⟨hread, hmutes⟩
    exact entails_of_respelled_back h hmutes s hread

/-! ## Tags -/

/-- An array of tags, with null for the type of its elements. -/
def tagsEntries (table column element : String) : Entries := [
  (.text "name", .text "N"),
  (.text table, .text "t"),
  (.text "fields", .list [.map [
    (.text "name", .text "tags"),
    (.text column, .text "tags"),
    (.text "type", .text "array"),
    (.text element, .null)]]),
  (.text "operations", .list []),
  (.text "rls", .list [])]

def tagged : Schema where
  name := "N"
  table := "t"
  fields := [{ name := "tags", column := "tags", type := .array, element := some .string }]
  operations := []
  policies := []

theorem respelled_tags {element : String} (h : Field.elementKey.Claims element) :
    form.Respelled (.map (tagsEntries "tableName" "dbName" element))
      (.map (tagsEntries "table_name" "db_name" "array_element_type")) := by
  have htable : (tableKey, (Eq : Standing)) ∈ form.parts := by
    simp [form, parts]
  have hfields : (fieldsKey, Field.form.Respelled.Each) ∈ form.parts := by
    simp [form, parts]
  have hcolumn : (Field.columnKey, (Eq : Standing)) ∈ Field.form.parts := by
    simp [Field.form, Field.parts]
  refine .map ?_ (by decide +kernel) (.cons (.same _) (.cons ?_ (.cons ?_ (List.forall₂_same.2
    fun e _ => .same e))))
  · rcases h with rfl | rfl <;> decide +kernel
  · exact .under htable (.inl rfl) (.inr rfl) rfl
  · refine .under hfields (.inl rfl) (.inl rfl) (.list (.cons (.map ?_ (by decide +kernel)
      (.cons (.same _) (.cons ?_ (.cons (.same _) (.cons ?_ .nil))))) .nil))
    · rcases h with rfl | rfl <;> decide +kernel
    · exact .under hcolumn (.inl rfl) (.inr rfl) rfl
    · exact .under Field.mem_parts_element h (.inr rfl) rfl

theorem tags_loads_respelled :
    form.Respelled (.map (tagsEntries "tableName" "dbName" "array_element_type"))
      (.map (tagsEntries "table_name" "db_name" "array_element_type")) ∧
    Loads (tagsEntries "tableName" "dbName" "array_element_type") Run.bareWorld tagged ∧
    Loads (tagsEntries "table_name" "db_name" "array_element_type") Run.bareWorld tagged := by
  have hrespelled : form.Respelled
      (.map (tagsEntries "tableName" "dbName" "array_element_type"))
      (.map (tagsEntries "table_name" "db_name" "array_element_type")) := respelled_tags (.inr rfl)
  have hloads : Loads (tagsEntries "tableName" "dbName" "array_element_type") Run.bareWorld
      tagged := rfl
  exact ⟨hrespelled, hloads, ((loads_respelled hrespelled Run.bareWorld tagged).1 hloads).1⟩

/-- With the null under the other spelling the schema is refused. -/
theorem tags_refused :
    form.Respelled (.map (tagsEntries "tableName" "dbName" "arrayType"))
      (.map (tagsEntries "table_name" "db_name" "array_element_type")) ∧
    Loads (tagsEntries "table_name" "db_name" "array_element_type") Run.bareWorld tagged ∧
    ¬ ∃ s, Loads (tagsEntries "tableName" "dbName" "arrayType") Run.bareWorld s := by
  refine ⟨respelled_tags (.inl rfl), rfl, ?_⟩
  rintro ⟨s, hs⟩
  refine read_ne_valid_of_mutes ⟨_, _, _, rfl, List.mem_cons_self, ?_⟩ s (loads_iff.1 hs)
  exact ⟨rfl, rfl⟩

end Schema
end Scaffold
