import Scaffold.Proofs.Aliases
import Scaffold.Schema.Writing

/-!
# Schemas that are written and read again

What was read can be written so that it reads as the same. For single values this is checked form by
form; a record is written under the names of its labels, so that each label finds the value that was
read under it before, and nothing else is there.
-/
namespace Scaffold

open Checked

namespace Checked

variable {α β : Type}

theorem map_valid {a : Checked α} {x : α} (f : α → β) (h : a = .valid x) :
    map f a = .valid (f x) := by
  rw [h]
  rfl

theorem ap_valid {f : Checked (α → β)} {g : α → β} {a : Checked α} {x : α} (hf : f = .valid g)
    (h : a = .valid x) : ap f a = .valid (g x) := by
  rw [hf, h]
  rfl

end Checked

namespace Reading

variable {α β : Type}

/-- A value that was read somewhere is read again where it is written, which is not as null. -/
structure Restores (read : Reading α) (write : α → Document) : Prop where
  again : ∀ d a, read d = .valid a → read (write a) = .valid a
  ne_null : ∀ a, write a ≠ .null

theorem restores_text : Restores text .text :=
  ⟨fun _ _ _ => rfl, fun _ => Document.noConfusion⟩

theorem restores_truth : Restores truth .bool :=
  ⟨fun _ _ _ => rfl, fun _ => Document.noConfusion⟩

theorem restores_number : Restores number .float :=
  ⟨fun _ _ _ => rfl, fun _ => Document.noConfusion⟩

theorem restores_nonEmptyText : Restores nonEmptyText .text := by
  refine ⟨fun d s h => ?_, fun _ => Document.noConfusion⟩
  obtain ⟨t, _, hcheck⟩ := thenCheck_eq_valid_iff.1 h
  refine thenCheck_eq_valid_iff.2 ⟨s, rfl, ?_⟩
  split at hcheck
  · cases hcheck
  · next hne =>
    cases hcheck
    exact if_neg hne

theorem restores_atLeast (least : Nat) : Restores (atLeast least) Document.ofNat := by
  refine ⟨fun d n h => ?_, fun _ => Document.noConfusion⟩
  obtain ⟨i, _, hcheck⟩ := thenCheck_eq_valid_iff.1 h
  refine thenCheck_eq_valid_iff.2 ⟨Int.ofNat n, rfl, ?_⟩
  split at hcheck
  · next hleast =>
    cases hcheck
    rw [Int.ofNat_eq_natCast] at hleast
    have hbound : Int.ofNat least ≤ Int.ofNat i.toNat := by
      rw [Int.ofNat_eq_natCast, Int.ofNat_eq_natCast]
      omega
    exact if_pos hbound
  · cases hcheck

theorem choice_eq_valid_iff {choices : List (String × α)} {d : Document} {a : α} :
    choice choices d = .valid a ↔ ∃ s, d = .text s ∧ choices.lookup s = some a := by
  cases d with
  | text s =>
    cases hlookup : choices.lookup s <;> simp [choice, hlookup, refuse]
  | _ => simp [choice, refuse]

theorem restores_choice {choices : List (String × α)} {name : α → String}
    (h : ∀ a, choices.lookup (name a) = some a) :
    Restores (choice choices) fun a => .text (name a) :=
  ⟨fun _ a _ => choice_eq_valid_iff.2 ⟨_, rfl, h a⟩, fun _ => Document.noConfusion⟩

theorem Restores.nullable_again {read : Reading α} {write : α → Document}
    (h : Restores read write) {d : Document} {o : Option α} (ho : nullable read d = .valid o) :
    nullable read (Document.ofOption write o) = .valid o := by
  cases o with
  | none => rfl
  | some a =>
    have hd : d ≠ .null := by
      rintro rfl
      cases ho
    rw [nullable_of_ne_null read hd] at ho
    obtain ⟨b, hb, heq⟩ := map_eq_valid_iff.1 ho
    cases heq
    change nullable read (write a) = _
    rw [nullable_of_ne_null read (h.ne_null a), h.again d a hb]
    rfl

theorem Restores.thenCheck {read : Reading α} {write : α → Document} (h : Restores read write)
    {check : α → Checked α} (hcheck : ∀ a b, check a = .valid b → a = b) :
    Restores (fun d => (read d).thenCheck check) write := by
  refine ⟨fun d b hb => ?_, h.ne_null⟩
  obtain ⟨a, ha, hchecked⟩ := thenCheck_eq_valid_iff.1 hb
  obtain rfl := hcheck a b hchecked
  exact thenCheck_eq_valid_iff.2 ⟨a, h.again d a ha, hchecked⟩

/-- A list is written item by item. -/
theorem listFrom_map {read : Reading α} {write : α → Document} {values : List α}
    (h : ∀ a ∈ values, read (write a) = .valid a) (start : Nat) :
    listFrom read start (values.map write) = .valid values := by
  induction values generalizing start with
  | nil => rfl
  | cons a rest ih =>
    rw [List.forall_mem_cons] at h
    rw [List.map_cons, listFrom, h.1, ih h.2]
    rfl

theorem Restores.list {read : Reading α} {write : α → Document} (h : Restores read write) :
    Restores (Reading.list read) fun values => .list (values.map write) := by
  refine ⟨fun d values hvalues => listFrom_map (fun a ha => ?_) 0, fun _ => Document.noConfusion⟩
  obtain ⟨d', hd'⟩ := exists_of_mem_list hvalues ha
  exact h.again d' a hd'

end Reading

/-! ## Records -/

namespace Label

variable {α : Type} {l : Label} {read : Reading α} {write : α → Document} {es es' : Entries}
  {a default : α} {s : String}

theorem required_again (hrequired : l.required read es = .valid a) (h : read.Restores write)
    (hfind : l.find? es' = some (s, write a)) : l.required read es' = .valid a := by
  obtain ⟨d, hd⟩ := exists_of_required hrequired
  unfold required
  rw [hfind]
  exact under_eq_valid_iff.2 (h.again d a hd)

/-- What is written reads as the value, whether that was read or stands for what is absent. -/
theorem orElse_of_written (horElse : l.orElse default read es = .valid a) {written : Document}
    (hread : ∀ d, read d = .valid a → read written = .valid a)
    (hdefault : a = default → read written = .valid a) (hfind : l.find? es' = some (s, written)) :
    l.orElse default read es' = .valid a := by
  unfold orElse at horElse ⊢
  rw [hfind]
  refine under_eq_valid_iff.2 ?_
  split at horElse
  · exact hread _ (under_eq_valid_iff.1 horElse)
  · cases horElse
    exact hdefault rfl

theorem orElse_again (horElse : l.orElse default read es = .valid a) (h : read.Restores write)
    (hdefault : read (write default) = .valid default)
    (hfind : l.find? es' = some (s, write a)) : l.orElse default read es' = .valid a := by
  refine orElse_of_written horElse (fun d => h.again d a) ?_ hfind
  rintro rfl
  exact hdefault

theorem optional_again {value : Option α} (hoptional : l.optional read es = .valid value)
    (h : read.Restores write) (hfind : l.find? es' = some (s, Document.ofOption write value)) :
    l.optional read es' = .valid value := by
  refine orElse_of_written hoptional (fun _ => h.nullable_again) ?_ hfind
  rintro rfl
  rfl

end Label

/-- A record is read again if its parts are, and if all that is written is known. -/
theorem Reading.restores_record {α : Type} {kind : String} {labels : List Label}
    {fields : Entries → Checked α} {write : α → Entries}
    (hlabels : ∀ a, strangers labels (write a) = [])
    (hfields : ∀ es a, fields es = .valid a → fields (write a) = .valid a) :
    Restores (record kind labels fields) fun a => .map (write a) := by
  refine ⟨fun d a h => ?_, fun _ => Document.noConfusion⟩
  cases d with
  | map es =>
    obtain ⟨ha, _⟩ := also_eq_valid_iff.1 h
    exact also_eq_valid_iff.2 ⟨hfields es a ha, hlabels a⟩
  | _ => cases h

/-! ## The parts of a schema -/

theorem Rules.restores : Rules.read.Restores Rules.toDocument := by
  refine Reading.restores_record (fun _ => rfl) fun es r h => ?_
  simp only [functor_map_eq, seq_eq_ap] at h ⊢
  simp only [ap_eq_valid_iff, map_eq_valid_iff] at h
  obtain ⟨_, _, ⟨_, _, ⟨_, _, ⟨_, _, ⟨_, _, ⟨_, _, ⟨_, hminLength, rfl⟩, hmaxLength, rfl⟩, hmin,
    rfl⟩, hmax, rfl⟩, hemail, rfl⟩, hurl, rfl⟩, hpattern, rfl⟩ := h
  refine ap_valid ?_ (Label.optional_again hpattern Reading.restores_text rfl)
  refine ap_valid ?_ (Label.orElse_again hurl Reading.restores_truth rfl rfl)
  refine ap_valid ?_ (Label.orElse_again hemail Reading.restores_truth rfl rfl)
  refine ap_valid ?_ (Label.optional_again hmax Reading.restores_number rfl)
  refine ap_valid ?_ (Label.optional_again hmin Reading.restores_number rfl)
  refine ap_valid ?_ (Label.optional_again hmaxLength (Reading.restores_atLeast 0) rfl)
  exact map_valid _ (Label.optional_again hminLength (Reading.restores_atLeast 0) rfl)

theorem Example.restores : Example.read.Restores Example.toDocument := by
  refine Reading.restores_record (fun _ => rfl) fun es e h => ?_
  simp only [functor_map_eq, seq_eq_ap] at h ⊢
  simp only [ap_eq_valid_iff, map_eq_valid_iff] at h
  obtain ⟨_, _, ⟨_, htitle, rfl⟩, hcode, rfl⟩ := h
  refine ap_valid ?_ (Label.required_again hcode Reading.restores_text rfl)
  exact map_valid _ (Label.required_again htitle Reading.restores_text rfl)

theorem Documentation.restores : Documentation.read.Restores Documentation.toDocument := by
  refine Reading.restores_record (fun _ => rfl) fun es d h => ?_
  simp only [functor_map_eq, seq_eq_ap] at h ⊢
  simp only [ap_eq_valid_iff, map_eq_valid_iff] at h
  obtain ⟨_, _, ⟨_, hdescription, rfl⟩, hexamples, rfl⟩ := h
  refine ap_valid ?_ (Label.orElse_again hexamples Example.restores.list rfl rfl)
  exact map_valid _ (Label.optional_again hdescription Reading.restores_text rfl)

theorem Policy.restores : Policy.read.Restores Policy.toDocument := by
  refine Reading.restores_record (fun _ => rfl) fun es p h => ?_
  simp only [functor_map_eq, seq_eq_ap] at h ⊢
  simp only [ap_eq_valid_iff, map_eq_valid_iff] at h
  obtain ⟨_, _, ⟨_, _, ⟨_, _, ⟨_, haction, rfl⟩, hname, rfl⟩, hcondition, rfl⟩, hcheck, rfl⟩ := h
  refine ap_valid ?_ (Label.optional_again hcheck Reading.restores_text rfl)
  refine ap_valid ?_ (Label.optional_again hcondition Reading.restores_text rfl)
  refine ap_valid ?_ (Label.required_again hname Reading.restores_nonEmptyText rfl)
  exact map_valid _ (Label.required_again haction Reading.restores_nonEmptyText rfl)

theorem Operation.lookup_choices (t : OperationType) :
    Operation.choices.lookup t.name = some t := by
  cases t <;> rfl

theorem Operation.restores : Operation.read.Restores Operation.toDocument := by
  refine Reading.Restores.thenCheck (Reading.restores_record (fun _ => rfl) fun es op h => ?_)
    fun _ _ hchecked => (hasItsName_eq_valid_iff.1 hchecked).1
  simp only [readEntries, functor_map_eq, seq_eq_ap] at h ⊢
  simp only [ap_eq_valid_iff, map_eq_valid_iff] at h
  obtain ⟨_, _, ⟨_, _, ⟨_, _, ⟨_, _, ⟨_, htype, rfl⟩, hname, rfl⟩, hdescription, rfl⟩, hfilters,
    rfl⟩, hlimit, rfl⟩ := h
  refine ap_valid ?_ (Label.optional_again hlimit (Reading.restores_atLeast 1) rfl)
  refine ap_valid ?_ (Label.orElse_again hfilters Reading.restores_text.list rfl rfl)
  refine ap_valid ?_ (Label.optional_again hdescription Reading.restores_text rfl)
  refine ap_valid ?_ (Label.optional_again hname Reading.restores_nonEmptyText rfl)
  exact map_valid _ (Label.required_again htype (Reading.restores_choice lookup_choices) rfl)

/-! ## Fields -/

namespace Field

variable {es : Entries} {f : Field}

theorem lookup_choices (t : FieldType) : choices.lookup t.name = some t := by
  cases t <;> rfl

theorem lookup_elementChoices (t : ElementType) : elementChoices.lookup t.name = some t := by
  cases t <;> rfl

theorem readDefault_written (value : Option String) :
    readDefault (Document.ofOption .text value) = .valid value := by
  cases value <;> rfl

/-- The entries of a field that is written. -/
def entries (f : Field) : Entries :=
  match f.toDocument with
  | .map es => es
  | _ => []

/-- Every part of a field reads by itself. -/
structure ReadsAs (es : Entries) (f : Field) : Prop where
  name : nameKey.required Reading.nonEmptyText es = .valid f.name
  column : columnKey.required Reading.nonEmptyText es = .valid f.column
  type : typeKey.required (Reading.choice choices) es = .valid f.type
  required : requiredKey.orElse false Reading.truth es = .valid f.required
  defaultValue : defaultKey.orElse none readDefault es = .valid f.defaultValue
  primaryKey : primaryKeyKey.orElse false Reading.truth es = .valid f.primaryKey
  unique : uniqueKey.orElse false Reading.truth es = .valid f.unique
  references : referencesKey.optional Reading.text es = .valid f.references
  onDelete : onDeleteKey.optional Reading.text es = .valid f.onDelete
  indexed : indexKey.orElse false Reading.truth es = .valid f.indexed
  indexMethod : indexMethodKey.optional Reading.text es = .valid f.indexMethod
  enumValues : enumValuesKey.optional (Reading.list Reading.text) es = .valid f.enumValues
  element : elementKey.optional (Reading.choice elementChoices) es = .valid f.element
  rules : rulesKey.optional Rules.read es = .valid f.rules
  autoUpdate : autoUpdateKey.orElse false Reading.truth es = .valid f.autoUpdate

theorem readEntries_eq_valid_iff : readEntries es = .valid f ↔ ReadsAs es f := by
  simp only [readEntries, functor_map_eq, seq_eq_ap]
  constructor
  · intro h
    simp only [ap_eq_valid_iff, map_eq_valid_iff] at h
    obtain ⟨_, _, ⟨_, _, ⟨_, _, ⟨_, _, ⟨_, _, ⟨_, _, ⟨_, _, ⟨_, _, ⟨_, _, ⟨_, _, ⟨_, _, ⟨_, _,
      ⟨_, _, ⟨_, _, ⟨_, hname, rfl⟩, hcolumn, rfl⟩, htype, rfl⟩, hrequired, rfl⟩, hdefault, rfl⟩,
      hprimary, rfl⟩, hunique, rfl⟩, hreferences, rfl⟩, honDelete, rfl⟩, hindex, rfl⟩, hmethod,
      rfl⟩, hvalues, rfl⟩, helement, rfl⟩, hrules, rfl⟩, hauto, rfl⟩ := h
    exact ⟨hname, hcolumn, htype, hrequired, hdefault, hprimary, hunique, hreferences, honDelete,
      hindex, hmethod, hvalues, helement, hrules, hauto⟩
  · rintro ⟨hname, hcolumn, htype, hrequired, hdefault, hprimary, hunique, hreferences, honDelete,
      hindex, hmethod, hvalues, helement, hrules, hauto⟩
    rw [hname, hcolumn, htype, hrequired, hdefault, hprimary, hunique, hreferences, honDelete,
      hindex, hmethod, hvalues, helement, hrules, hauto]
    rfl

theorem ReadsAs.again (h : ReadsAs es f) : ReadsAs f.entries f where
  name := Label.required_again h.name Reading.restores_nonEmptyText rfl
  column := Label.required_again h.column Reading.restores_nonEmptyText rfl
  type := Label.required_again h.type (Reading.restores_choice lookup_choices) rfl
  required := Label.orElse_again h.required Reading.restores_truth rfl rfl
  defaultValue := Label.orElse_of_written h.defaultValue (fun _ _ => readDefault_written _)
    (fun _ => readDefault_written _) rfl
  primaryKey := Label.orElse_again h.primaryKey Reading.restores_truth rfl rfl
  unique := Label.orElse_again h.unique Reading.restores_truth rfl rfl
  references := Label.optional_again h.references Reading.restores_text rfl
  onDelete := Label.optional_again h.onDelete Reading.restores_text rfl
  indexed := Label.orElse_again h.indexed Reading.restores_truth rfl rfl
  indexMethod := Label.optional_again h.indexMethod Reading.restores_text rfl
  enumValues := Label.optional_again h.enumValues Reading.restores_text.list rfl
  element := Label.optional_again h.element (Reading.restores_choice lookup_elementChoices) rfl
  rules := Label.optional_again h.rules Rules.restores rfl
  autoUpdate := Label.orElse_again h.autoUpdate Reading.restores_truth rfl rfl

/-! ### The type of elements -/

theorem isArray_of_required (h : typeKey.required (Reading.choice choices) es = .valid .array) :
    IsArray es := by
  unfold Label.required at h
  split at h
  · next s v hfind =>
    obtain ⟨t, rfl, hlookup⟩ := Reading.choice_eq_valid_iff.1 (under_eq_valid_iff.1 h)
    obtain ⟨before, after, hchoices, _⟩ := List.lookup_eq_some_iff.1 hlookup
    have hmem : (t, FieldType.array) ∈ choices := by
      rw [hchoices]
      exact List.mem_append_right before List.mem_cons_self
    obtain ⟨type, _, heq⟩ := List.mem_map.1 hmem
    cases heq
    exact isArray_of_find? hfind
  · cases h

theorem hasItsValues_eq_valid {g : Field} (h : hasItsValues g = .valid f) : g = f := by
  unfold hasItsValues at h
  split at h
  · cases h
  · exact Checked.valid.inj h

/-- Where the type is filled in, the element's type is found; else it was given. -/
theorem exists_element_of_isArray (harray : IsArray es) (hmutes : ¬ Mutes es) :
    ∃ s v, elementKey.find? (withElementType es) = some (s, v) ∧ v ≠ .null := by
  cases hspelling : Document.find? elementKey.spelling es with
  | some v =>
    have hv : v ≠ .null := by
      rintro rfl
      exact hmutes ⟨harray, hspelling⟩
    have hfills : ¬ Fills es :=
      fun hfills => nomatch hspelling.symm.trans (hfills.spelling_eq_none hmutes)
    rw [withElementType_of_not_fills hfills, Label.find?, hspelling]
    exact ⟨_, v, rfl, hv⟩
  | none =>
    by_cases hfills : Fills es
    · have hnone : Document.find? elementKey.spelling (filled es) = none :=
        (Document.find?_insert_of_ne (by decide)).trans hspelling
      have hname : Document.find? elementKey.name (filled es) = some (.text "string") :=
        Document.find?_insert_self ..
      rw [withElementType_of_fills hfills, Label.find?, hnone, hname]
      exact ⟨_, _, rfl, Document.noConfusion⟩
    · have hname : isNullOrAbsent (Document.find? elementKey.name es) ≠ true :=
        fun habsent => hfills ⟨harray, isNullOrAbsent_iff.2 (.inl hspelling), habsent⟩
      rw [ne_eq, isNullOrAbsent_iff, not_or] at hname
      obtain ⟨v, hv⟩ := Option.ne_none_iff_exists'.1 hname.1
      rw [withElementType_of_not_fills hfills, Label.find?, hspelling, hv]
      refine ⟨_, v, rfl, ?_⟩
      rintro rfl
      exact hname.2 hv

/-- An array that was read has a type for its elements. -/
theorem element_ne_none (h : read (.map es) = .valid f) (harray : f.type = .array) :
    f.element ≠ none := by
  obtain ⟨g, hrecord, hchecked⟩ := thenCheck_eq_valid_iff.1 h
  obtain rfl := hasItsValues_eq_valid hchecked
  have hparts := readEntries_eq_valid_iff.1 (also_eq_valid_iff.1 hrecord).1
  have hmutes : ¬ Mutes es := fun hmutes => read_ne_valid_of_mutes hmutes g h
  have hes : IsArray es := by
    have htype := hparts.type
    rw [harray] at htype
    by_cases hfills : Fills es
    · exact hfills.array
    · -- Nothing was filled in, so the type is the one that was read.
      rw [withElementType_of_not_fills hfills] at htype
      exact isArray_of_required htype
  obtain ⟨s, v, hfind, hv⟩ := exists_element_of_isArray hes hmutes
  have helement := hparts.element
  unfold Label.optional Label.orElse at helement
  rw [hfind] at helement
  have hread := under_eq_valid_iff.1 helement
  rw [Reading.nullable_of_ne_null _ hv] at hread
  obtain ⟨e, _, he⟩ := map_eq_valid_iff.1 hread
  rw [← he]
  exact Option.some_ne_none e

theorem not_fills_entries (h : f.type = .array → f.element ≠ none) : ¬ Fills f.entries := by
  intro hfills
  have hname : (Document.text f.type.name) = .text "array" := Option.some.inj hfills.array
  have harray : f.type = .array := by
    cases htype : f.type with
    | array => rfl
    | _ =>
      rw [htype] at hname
      exact absurd (Document.text.inj hname) (by decide)
  obtain ⟨e, he⟩ := Option.ne_none_iff_exists'.1 (h harray)
  have hnull : isNullOrAbsent (some (Document.ofOption (fun e : ElementType => .text e.name)
      f.element)) = true := hfills.name
  rw [he] at hnull
  cases hnull

theorem restores : read.Restores toDocument := by
  refine ⟨fun d f h => ?_, fun _ => Document.noConfusion⟩
  cases d with
  | map es =>
    -- What is written has a type for the elements of an array, so nothing is filled in again.
    have hfills := not_fills_entries fun harray => element_ne_none h harray
    obtain ⟨g, hrecord, hchecked⟩ := thenCheck_eq_valid_iff.1 h
    obtain rfl := hasItsValues_eq_valid hchecked
    have hparts := readEntries_eq_valid_iff.1 (also_eq_valid_iff.1 hrecord).1
    refine thenCheck_eq_valid_iff.2 ⟨g, ?_, hchecked⟩
    change Reading.record "EntityField" keys readEntries (.map (withElementType g.entries)) = _
    rw [withElementType_of_not_fills hfills]
    exact also_eq_valid_iff.2 ⟨readEntries_eq_valid_iff.2 hparts.again, rfl⟩
  | _ => cases h

end Field

/-! ## Schemas -/

namespace Schema

theorem restores : read.Restores toDocument := by
  refine Reading.Restores.thenCheck (Reading.restores_record (fun _ => rfl) fun es s h => ?_)
    fun _ _ hchecked => (hasNoCollision_eq_valid_iff.1 hchecked).2
  obtain ⟨hname, htable, hfields, hoperations, hpolicies, hdocumentation⟩ :=
    readEntries_eq_valid_iff.1 h
  refine readEntries_eq_valid_iff.2 ⟨?_, ?_, ?_, ?_, ?_, ?_⟩
  · exact Label.required_again hname Reading.restores_nonEmptyText rfl
  · exact Label.required_again htable Reading.restores_nonEmptyText rfl
  · exact Label.required_again hfields Field.restores.list rfl
  · exact Label.required_again hoperations Operation.restores.list rfl
  · exact Label.required_again hpolicies Policy.restores.list rfl
  · exact Label.optional_again hdocumentation Documentation.restores rfl

/-- A schema that was loaded can be written with all its values, each under the name of its field,
and given back: it loads to itself, and nothing else happens. -/
theorem loads_again {source : Source} {w : World} {s : Schema}
    (h : ((Loading.schema source).start w).1 = .ok s) :
    ∃ es, s.toDocument = .map es ∧
      ∀ v, (Loading.schema (.entries es)).start v = (.ok s, v) := by
  obtain ⟨es, hread⟩ := (accepted_iff s).1 ⟨source, w, h⟩
  obtain ⟨written, hwritten⟩ : ∃ written, s.toDocument = .map written := ⟨_, rfl⟩
  have hagain : read (.map written) = .valid s := hwritten ▸ restores.again (.map es) s hread
  refine ⟨written, hwritten, fun v => ?_⟩
  unfold Loading.schema
  rw [Loading.start_checked, hagain]

/-- The type of the tags is filled in when they are read, and is there when they are written. -/
theorem tags_load_again :
    ((Loading.schema (.entries (tagsEntries "tableName" "dbName" "array_element_type"))).start
      Run.bareWorld).1 = .ok tagged ∧
    ∃ es, tagged.toDocument = .map es ∧
      ∀ v, (Loading.schema (.entries es)).start v = (.ok tagged, v) := by
  have hloads : ((Loading.schema (.entries (tagsEntries "tableName" "dbName"
      "array_element_type"))).start Run.bareWorld).1 = .ok tagged := rfl
  exact ⟨hloads, loads_again hloads⟩

end Schema
end Scaffold
