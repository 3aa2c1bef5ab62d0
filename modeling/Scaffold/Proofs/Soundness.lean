import Scaffold.Proofs.Parameters
import Scaffold.Proofs.Rereading
import Scaffold.Proofs.Restrictions
import Scaffold.Proofs.Switch

/-!
# What a loaded schema always has

The layers are written for fields that have what their type needs. Each reading sees to a part of
this: an enumeration without values and a custom operation without a name are refused, the type of
an array's elements is filled in where it is missing, and bounds are compared with their least value
when they are read. Whatever a schema is loaded from, no projection of it falls back on a default,
and no layer prints a union or a list of values with nothing in it.
-/
namespace Scaffold

open Artifact Checked Script Text

/-! ## Single values -/

namespace Reading

theorem ne_empty_of_nonEmptyText {d : Document} {s : String} (h : nonEmptyText d = .valid s) :
    s ≠ "" := by
  obtain ⟨t, _, hcheck⟩ := thenCheck_eq_valid_iff.1 h
  split at hcheck
  · cases hcheck
  · next hne =>
    cases hcheck
    exact hne

theorem atLeast_eq_valid_iff {least n : Nat} {d : Document} :
    atLeast least d = .valid n ↔ int d = .valid (Int.ofNat n) ∧ least ≤ n := by
  constructor
  · intro h
    obtain ⟨i, hread, hcheck⟩ := thenCheck_eq_valid_iff.1 h
    split at hcheck
    · next hleast =>
      cases hcheck
      rw [Int.ofNat_eq_natCast] at hleast
      have hi : Int.ofNat i.toNat = i := by
        rw [Int.ofNat_eq_natCast]
        omega
      exact ⟨hi.symm ▸ hread, by omega⟩
    · cases hcheck
  · rintro ⟨hread, hleast⟩
    refine thenCheck_eq_valid_iff.2 ⟨_, hread, ?_⟩
    rw [if_pos (by simpa using hleast)]
    rfl

/-- A document that stands for no bound, or for one from `least` on. -/
def Bound (least : Nat) (d : Document) : Prop :=
  d = .null ∨ ∃ n, least ≤ n ∧ int d = .valid (Int.ofNat n)

theorem bound_of_nullable {least : Nat} {d : Document} {o : Option Nat}
    (h : nullable (atLeast least) d = .valid o) : Bound least d := by
  by_cases hnull : d = .null
  · exact .inl hnull
  · rw [nullable_of_ne_null _ hnull] at h
    obtain ⟨n, hread, _⟩ := map_eq_valid_iff.1 h
    obtain ⟨hint, hleast⟩ := atLeast_eq_valid_iff.1 hread
    exact .inr ⟨n, hleast, hint⟩

theorem exists_entries_of_record {α : Type} {kind : String} {labels : List Label}
    {fields : Entries → Checked α} {d : Document} {a : α}
    (h : record kind labels fields d = .valid a) : ∃ es, d = .map es ∧ fields es = .valid a := by
  cases d with
  | map es => exact ⟨es, rfl, (also_eq_valid_iff.1 h).1⟩
  | _ => cases h

end Reading

namespace Label

/-- A mapping holds an item, in the list under a key. -/
def Holds (l : Label) (es : Entries) (item : Document) : Prop :=
  ∃ spelling items, (l.find? es = some (spelling, .list items) ∨
    l.find? es = some (spelling, .set items)) ∧ item ∈ items

variable {α : Type} {l : Label} {read : Reading α} {es : Entries} {spelling : String} {d : Document}

theorem exists_of_holds {values : List α} {item : Document}
    (h : l.required (Reading.list read) es = .valid values) (hitem : l.Holds es item) :
    ∃ a, read item = .valid a := by
  obtain ⟨spelling, items, hfound, hmem⟩ := hitem
  unfold required at h
  rcases hfound with hfind | hfind
  · rw [hfind] at h
    exact exists_of_listFrom (under_eq_valid_iff.1 h) hmem
  · rw [hfind] at h
    exact exists_of_listFrom (under_eq_valid_iff.1 h) hmem

theorem read_of_optional {o : Option α} (h : l.optional read es = .valid o)
    (hfind : l.find? es = some (spelling, d)) : Reading.nullable read d = .valid o := by
  unfold optional orElse at h
  rw [hfind] at h
  exact under_eq_valid_iff.1 h

/-- A value that is there was read from what is found. -/
theorem exists_of_optional {a : α} (h : l.optional read es = .valid (some a)) :
    ∃ d, read d = .valid a := by
  unfold optional orElse at h
  split at h
  · next spelling d _ =>
    have hread := under_eq_valid_iff.1 h
    have hnull : d ≠ .null := by
      rintro rfl
      cases hread
    rw [Reading.nullable_of_ne_null _ hnull] at hread
    obtain ⟨b, hb, heq⟩ := map_eq_valid_iff.1 hread
    cases heq
    exact ⟨d, hb⟩
  · cases h

end Label

/-! ## Unions -/

namespace Script

theorem literalUnion_ne_empty {values : List String} (h : values ≠ []) :
    literalUnion values ≠ "" := by
  obtain ⟨first, rest, rfl⟩ := List.exists_cons_of_ne_nil h
  rw [literalUnion, List.map_cons]
  cases rest with
  | nil => simp [Literal.script]
  | cons second rest =>
    rw [List.map_cons, String.intercalate_cons_cons]
    simp

theorem keyUnion_ne_empty (keys : List String) : keyUnion keys ≠ "" := by
  cases keys with
  | nil => simp [keyUnion]
  | cons first rest =>
    cases rest with
    | nil => simp [keyUnion, quoted]
    | cons second rest =>
      simp only [keyUnion, List.isEmpty_cons, Bool.false_eq_true, if_false, List.map_cons]
      rw [String.intercalate_cons_cons]
      simp

end Script

/-! ## The parts of a schema -/

namespace Rules

def lengthKeys : List Label := [minLengthKey, maxLengthKey]

theorem bound_of_read {es : Entries} {r : Rules} (h : read (.map es) = .valid r) {key : Label}
    (hkey : key ∈ lengthKeys) {spelling : String} {d : Document}
    (hfind : key.find? es = some (spelling, d)) : Reading.Bound 0 d := by
  obtain ⟨_, hmap, hparts⟩ := Reading.exists_entries_of_record h
  cases hmap
  simp only [functor_map_eq, seq_eq_ap, ap_eq_valid_iff, map_eq_valid_iff] at hparts
  obtain ⟨_, _, ⟨_, _, ⟨_, _, ⟨_, _, ⟨_, _, ⟨_, _, ⟨_, hminLength, rfl⟩, hmaxLength, rfl⟩, _, _⟩,
    _, _⟩, _, _⟩, _, _⟩, _, _⟩ := hparts
  rcases List.mem_cons.1 hkey with rfl | hkey
  · exact Reading.bound_of_nullable (Label.read_of_optional hminLength hfind)
  · obtain rfl := List.mem_singleton.1 hkey
    exact Reading.bound_of_nullable (Label.read_of_optional hmaxLength hfind)

end Rules

namespace Operation

theorem limit_of_read {d : Document} {op : Operation} (h : read d = .valid op) :
    ∃ es, d = .map es ∧ limitKey.optional (Reading.atLeast 1) es = .valid op.limit := by
  obtain ⟨raw, hrecord, hchecked⟩ := thenCheck_eq_valid_iff.1 h
  obtain rfl := (hasItsName_eq_valid_iff.1 hchecked).1
  obtain ⟨es, rfl, hparts⟩ := Reading.exists_entries_of_record hrecord
  simp only [readEntries, functor_map_eq, seq_eq_ap, ap_eq_valid_iff, map_eq_valid_iff] at hparts
  obtain ⟨_, _, ⟨_, _, ⟨_, _, ⟨_, _, ⟨_, _, rfl⟩, _, rfl⟩, _, rfl⟩, _, rfl⟩, hlimit, rfl⟩ := hparts
  exact ⟨es, rfl, hlimit⟩

end Operation

namespace Field

/-- The type of the elements is all that is filled in. -/
theorem find?_rules_withElementType (es : Entries) :
    rulesKey.find? (withElementType es) = rulesKey.find? es := by
  by_cases hfills : Fills es
  · rw [withElementType_of_fills hfills, filled, Label.find?, Label.find?,
      Document.find?_insert_of_ne (by decide), Document.find?_insert_of_ne (by decide)]
  · rw [withElementType_of_not_fills hfills]

theorem parts_of_read {d : Document} {f : Field} (h : read d = .valid f) :
    ∃ es, d = .map es ∧ ReadsAs (withElementType es) f := by
  obtain ⟨raw, hrecord, hchecked⟩ := thenCheck_eq_valid_iff.1 h
  obtain rfl := hasItsValues_eq_valid hchecked
  cases d with
  | map es => exact ⟨es, rfl, readEntries_eq_valid_iff.1 (also_eq_valid_iff.1 hrecord).1⟩
  | _ => cases hrecord

/-- A field has what its type needs. -/
structure WellFormed (f : Field) : Prop where
  name : f.name ≠ ""
  column : f.column ≠ ""
  values : f.type = .enum → f.values ≠ []
  element : f.type = .array → f.element ≠ none

theorem wellFormed_of_read {d : Document} {f : Field} (h : read d = .valid f) : f.WellFormed := by
  obtain ⟨es, rfl, hparts⟩ := parts_of_read h
  obtain ⟨_, hname⟩ := Label.exists_of_required hparts.name
  obtain ⟨_, hcolumn⟩ := Label.exists_of_required hparts.column
  exact ⟨Reading.ne_empty_of_nonEmptyText hname, Reading.ne_empty_of_nonEmptyText hcolumn,
    values_of_read h, element_ne_none h⟩

theorem wellFormed_of_mem_standard {f : Field} (h : f ∈ standard) : f.WellFormed := by
  have hall : ∀ f ∈ standard, f.name ≠ "" ∧ f.column ≠ "" ∧ f.type ≠ .enum ∧ f.type ≠ .array := by
    decide
  obtain ⟨hname, hcolumn, henum, harray⟩ := hall f h
  exact ⟨hname, hcolumn, fun htype => absurd htype henum, fun htype => absurd htype harray⟩

/-! ### Projections without a default -/

/-- The projections of a field are made of what was declared: for an array of the type of its
elements, for an enumeration of its values. -/
structure Projects (f : Field) : Prop where
  array : f.type = .array → ∃ e, f.element = some e ∧
    f.sqlType = e.toFieldType.sqlType ++ "[]" ∧ f.scriptType = e.toFieldType.scriptType ++ "[]" ∧
    f.validator = "z.array(" ++ e.toFieldType.validator ++ ")"
  enum : f.type = .enum → ∃ first rest, f.enumValues = some (first :: rest) ∧
    f.scriptType = literalUnion (first :: rest) ∧
    f.validator = "z.enum([" ++ literalList (first :: rest) ++ "])" ∧
    (f.required = true → f.scriptDefault = Literal.script first)

theorem WellFormed.projects {f : Field} (h : f.WellFormed) : f.Projects where
  array htype := by
    obtain ⟨e, he⟩ := Option.ne_none_iff_exists'.1 (h.element htype)
    have helement : f.elementType = e := by rw [elementType, he, Option.getD_some]
    refine ⟨e, he, ?_, ?_, ?_⟩
    · rw [sqlType, if_pos htype, helement]
    · rw [scriptType, htype, helement]
    · rw [validator, htype, helement]
  enum htype := by
    obtain ⟨first, rest, hvalues⟩ := List.exists_cons_of_ne_nil (h.values htype)
    have hdeclared : f.enumValues = some (first :: rest) := by
      rw [← hvalues]
      exact enumValues_of_values_ne_nil (h.values htype)
    have henum : f.isEnum = true := by simpa [isEnum] using htype
    refine ⟨first, rest, hdeclared, ?_, ?_, fun hrequired => ?_⟩
    · rw [scriptType_of_isEnum henum, hvalues]
    · rw [validator_of_isEnum henum, hvalues]
    · simp [scriptDefault, hrequired, htype, hvalues]

/-- The type of a field is an empty union only for an enumeration without values. -/
theorem WellFormed.scriptType_ne_empty {f : Field} (h : f.WellFormed) : f.scriptType ≠ "" := by
  cases htype : f.type with
  | enum =>
    rw [scriptType_of_isEnum (by simpa [isEnum] using htype)]
    exact literalUnion_ne_empty (h.values htype)
  | array => simp [scriptType, htype]
  | _ => simp [scriptType, htype, FieldType.scriptType]

/-- No validator asks for one of no values. -/
theorem WellFormed.validator_ne {f : Field} (h : f.WellFormed) : f.validator ≠ "z.enum([])" := by
  intro hempty
  obtain ⟨henum, hvalues⟩ := (validatesFor_iff f []).1 hempty
  exact h.values henum hvalues

end Field

/-! ## Schemas -/

namespace Schema

/-- A schema has names wherever the layers use one, fields with what their types need, and limits
that let something through. -/
structure WellFormed (s : Schema) : Prop where
  name : s.name ≠ ""
  table : s.table ≠ ""
  columns : ∀ f ∈ s.columns, f.WellFormed
  custom : ∀ op ∈ s.operations, op.type = .custom → op.name = some op.label ∧ op.label ≠ ""
  limits : ∀ op ∈ s.operations, ∀ n, op.limit = some n → 1 ≤ n

/-- What a mapping says about bounds: a limit is a whole number from one on, and so is each bound on
the length of a text from zero on, wherever there are any. -/
structure BoundsRead (es : Entries) : Prop where
  limits : ∀ op, operationsKey.Holds es (.map op) → ∀ spelling d,
    Operation.limitKey.find? op = some (spelling, d) → Reading.Bound 1 d
  lengths : ∀ f, fieldsKey.Holds es (.map f) → ∀ spelling rules,
    Field.rulesKey.find? f = some (spelling, .map rules) → ∀ key ∈ Rules.lengthKeys,
      ∀ spelling d, key.find? rules = some (spelling, d) → Reading.Bound 0 d

variable {es : Entries} {s : Schema}

theorem SoundParts.wellFormed (h : SoundParts es s) : s.WellFormed where
  name := by
    obtain ⟨_, hname⟩ := Label.exists_of_required h.name
    exact Reading.ne_empty_of_nonEmptyText hname
  table := by
    obtain ⟨_, htable⟩ := Label.exists_of_required h.table
    exact Reading.ne_empty_of_nonEmptyText htable
  columns := by
    obtain ⟨_, hlist⟩ := Label.exists_of_required h.fields
    have hdeclared : ∀ f ∈ s.fields, f.WellFormed := by
      intro f hf
      obtain ⟨_, hread⟩ := Reading.exists_of_mem_list hlist hf
      exact Field.wellFormed_of_read hread
    rw [columns, List.forall_mem_append, List.forall_mem_append]
    exact ⟨⟨fun f hf => Field.wellFormed_of_mem_standard (List.mem_append_left _ hf), hdeclared⟩,
      fun f hf => Field.wellFormed_of_mem_standard (List.mem_append_right _ hf)⟩
  custom op hop hcustom := by
    obtain ⟨_, hlist⟩ := Label.exists_of_required h.operations
    obtain ⟨_, hread⟩ := Reading.exists_of_mem_list hlist hop
    exact Operation.name_of_read hread hcustom
  limits op hop n hn := by
    obtain ⟨_, hlist⟩ := Label.exists_of_required h.operations
    obtain ⟨_, hread⟩ := Reading.exists_of_mem_list hlist hop
    obtain ⟨_, _, hlimit⟩ := Operation.limit_of_read hread
    rw [hn] at hlimit
    obtain ⟨_, hbound⟩ := Label.exists_of_optional hlimit
    exact (Reading.atLeast_eq_valid_iff.1 hbound).2

theorem SoundParts.boundsRead (h : SoundParts es s) : BoundsRead es where
  limits op hop spelling d hfind := by
    obtain ⟨_, hread⟩ := Label.exists_of_holds h.operations hop
    obtain ⟨_, hmap, hlimit⟩ := Operation.limit_of_read hread
    cases hmap
    exact Reading.bound_of_nullable (Label.read_of_optional hlimit hfind)
  lengths f hf spelling rules hrules key hkey spelling' d hfind := by
    obtain ⟨g, hread⟩ := Label.exists_of_holds h.fields hf
    obtain ⟨_, hmap, hparts⟩ := Field.parts_of_read hread
    cases hmap
    rw [← Field.find?_rules_withElementType] at hrules
    have hnullable := Label.read_of_optional hparts.rules hrules
    rw [Reading.nullable_of_ne_null _ Document.noConfusion] at hnullable
    obtain ⟨r, hr, _⟩ := map_eq_valid_iff.1 hnullable
    exact Rules.bound_of_read hr hkey hfind

end Schema

/-! ## The layers -/

namespace Artifact

/-- The interfaces that the files declare. -/
def interfaces (s : Schema) : List (Kind × Interface) :=
  [Repository.recordInterface s, Repository.inputInterface s, Repository.filtersInterface s].map
      (Prod.mk .repository)
    ++ [Model.rowInterface s, Model.dataInterface s, Model.createType s, Model.updateType s].map
      (Prod.mk .model)
    ++ [Client.recordInterface s, Client.createInterface s, Client.updateInterface s,
      Client.filtersInterface s].map (Prod.mk .client)
    ++ [(.service, Service.pageOptions), (.hook, Hook.filtersInterface s),
      (.adminPage, AdminPage.rowInterface s)]

theorem declares_interfaces (s : Schema) : ∀ p ∈ interfaces s, Declares (p.1.text s) p.2 := by
  simp only [interfaces, List.forall_mem_append, List.forall_mem_map]
  refine ⟨⟨⟨Repository.declares s, Model.declares s⟩, Client.declares s⟩, ?_⟩
  rw [List.forall_mem_cons, List.forall_mem_cons, List.forall_mem_singleton]
  exact ⟨Service.declares_pageOptions s, Hook.declares s, AdminPage.declares s⟩

/-- Members whose types say something. -/
def Typed (members : List Member) : Prop := ∀ m ∈ members, m.type ≠ ""

theorem typed_append_iff {members more : List Member} :
    Typed (members ++ more) ↔ Typed members ∧ Typed more :=
  List.forall_mem_append

theorem typed_map_of_wellFormed {fields : List Field} (h : ∀ f ∈ fields, f.WellFormed)
    (make : Field → Member) (hmake : ∀ f, (make f).type = f.scriptType) :
    Typed (fields.map make) := by
  unfold Typed
  rw [List.forall_mem_map]
  intro f hf
  rw [hmake]
  exact (h f hf).scriptType_ne_empty

section

variable {s : Schema} (h : s.WellFormed)

include h

theorem wellFormed_of_mem_writableFields : ∀ f ∈ s.writableFields, f.WellFormed :=
  fun f hf => h.columns f (List.mem_of_mem_filter hf)

theorem wellFormed_of_mem_updatableFields : ∀ f ∈ s.updatableFields, f.WellFormed :=
  fun f hf => wellFormed_of_mem_writableFields h f (List.mem_of_mem_filter hf)

theorem typed_declaredFilters (names : List String) :
    Typed ((s.declaredFilters names).map Filter.member) := by
  unfold Typed Schema.declaredFilters
  rw [List.forall_mem_map, List.forall_mem_map]
  intro name _
  change (s.filter name).scriptType ≠ ""
  unfold Schema.filter
  cases hfield : s.field? name with
  | none => simp
  | some f => exact (h.columns f (List.mem_of_find?_eq_some hfield)).scriptType_ne_empty

theorem typed_filterMembers (fields : List Field) :
    Typed (fields.map (Field.filterMember s.name)) := by
  unfold Typed
  rw [List.forall_mem_map]
  intro f _
  simp [Field.filterMember, Field.typeName, h.name]

theorem typed_interfaces : ∀ p ∈ interfaces s, Typed p.2.members := by
  have hcolumns := typed_map_of_wellFormed h.columns
  have hwritable := typed_map_of_wellFormed (wellFormed_of_mem_writableFields h)
  have hupdatable := typed_map_of_wellFormed (wellFormed_of_mem_updatableFields h)
  have hpage : Typed pageMembers := by
    unfold Typed
    decide
  have hkept : Typed Client.keptMembers := by
    unfold Typed
    decide
  have hfilters := typed_declaredFilters h
  have henums := typed_filterMembers h
  simp only [interfaces, List.forall_mem_append, List.forall_mem_map, List.forall_mem_cons,
    List.not_mem_nil, IsEmpty.forall_iff, implies_true, and_true]
  refine ⟨⟨⟨?repository, ?model⟩, ?client⟩, hpage, ?hook, ?adminPage⟩
  case repository =>
    exact ⟨hcolumns _ fun _ => rfl, hwritable _ fun _ => rfl,
      typed_append_iff.2 ⟨hfilters _, hpage⟩⟩
  case model =>
    exact ⟨hcolumns _ fun _ => rfl, hcolumns _ fun _ => rfl, hwritable _ fun _ => rfl,
      hupdatable _ fun _ => rfl⟩
  case client =>
    exact ⟨typed_append_iff.2 ⟨hwritable _ fun _ => rfl, hkept⟩, hupdatable _ fun _ => rfl,
      hupdatable _ fun _ => rfl,
      typed_append_iff.2 ⟨typed_append_iff.2 ⟨henums _, hfilters _⟩, hpage⟩⟩
  case hook => exact typed_append_iff.2 ⟨typed_append_iff.2 ⟨henums _, hfilters _⟩, hpage⟩
  case adminPage =>
    refine typed_append_iff.2 ⟨typed_append_iff.2 ⟨?_, hwritable _ fun _ => rfl⟩, ?_⟩
    all_goals
      unfold Typed
      decide

end

theorem Model.rest_ne {s : Schema} (h : s.WellFormed) :
    ∀ d ∈ declarations s, d.rest ≠ " = " := by
  rw [declarations, List.forall_mem_append]
  constructor
  · intro d hd
    obtain ⟨f, hf, hd⟩ := List.mem_flatMap.1 hd
    have hvalues := (h.columns f (List.mem_of_mem_filter hf)).values
      (by simpa [Field.isEnum] using (List.mem_filter.1 hf).2)
    rcases List.mem_cons.1 hd with rfl | hd
    · simpa using literalUnion_ne_empty hvalues
    · obtain rfl := List.mem_singleton.1 hd
      intro hempty
      have hhead := congrArg (fun rest => rest.toList.head?) hempty
      simp at hhead
  · simp [fixedDeclarations]

theorem Validation.rest_ne {s : Schema} (h : s.WellFormed) :
    ∀ d ∈ declarations s, d.rest ≠ " = z.enum([])" := by
  rw [declarations, List.forall_mem_append, List.forall_mem_map]
  constructor
  · intro f hf hempty
    have hvalues := (h.columns f (List.mem_of_mem_filter hf)).values
      (by simpa [Field.isEnum] using (List.mem_filter.1 hf).2)
    have hnone : " = z.enum([])" = " = z.enum([" ++ literalList [] ++ "])" := rfl
    rw [hnone] at hempty
    have hlist : literalList f.values = literalList [] :=
      String.append_right_inj _ |>.1 (String.append_left_inj _ |>.1 hempty)
    exact hvalues (Literal.literalList_injective hlist)
  · have hinfer (constant : String) :
        " = z.infer<typeof " ++ constant ++ ">" ≠ " = z.enum([])" := by
      intro hempty
      have hthere := congrArg (fun rest => rest.toList[5]?) hempty
      simp at hthere
    simp [hinfer]

theorem Validation.exists_entries (s : Schema) : ∀ entries ∈ [createEntries s, updateEntries s],
    ∃ lines, text s = unlines lines ∧ entries.map Entry.line <:+: lines := by
  have htext : text s = unlines [headerLines s, s.enumFields.flatMap (enumLines s),
      objectLines (createConstant s) (createEntries s),
      objectLines (updateConstant s) (updateEntries s), typeLines s].flatten := by
    simp only [text, lines, List.flatten_cons, List.flatten_nil, List.append_nil, List.append_assoc]
  have hobject (constant : String) (entries : List Entry) :
      entries.map Entry.line <:+: objectLines constant entries := List.infix_append _ _ _
  rw [List.forall_mem_cons, List.forall_mem_singleton]
  exact ⟨⟨_, htext, (hobject (createConstant s) _).trans (List.infix_of_mem_flatten (by simp))⟩,
    ⟨_, htext, (hobject (updateConstant s) _).trans (List.infix_of_mem_flatten (by simp))⟩⟩

theorem Validation.validator_ne {s : Schema} (h : s.WellFormed) :
    ∀ e ∈ createEntries s ++ updateEntries s, e.validator ≠ "z.enum([])" := by
  rw [List.forall_mem_append, createEntries, updateEntries, List.forall_mem_map,
    List.forall_mem_map]
  exact ⟨fun f hf => (wellFormed_of_mem_writableFields h f hf).validator_ne,
    fun f hf => (wellFormed_of_mem_updatableFields h f hf).validator_ne⟩

theorem Model.exists_classMembers (s : Schema) :
    ∃ lines, text s = unlines lines ∧ (s.columns.map Field.member).map Member.line <:+: lines := by
  have hclass : (s.columns.map Field.member).map Member.line <:+: classLines s := by
    unfold classLines
    simp only [List.append_assoc]
    exact List.infix_append' _ _ _
  exact ⟨_, rfl, List.infix_append_of_infix_right hclass⟩

/-- The types of the enumerations, from the name of the endpoint to the comment on the record. -/
theorem Client.prints_enums (s : Schema) : Prints (text s) (lines s)
    ["", "const FUNCTION_NAME = '" ++ s.table ++ "-crud'"] (enumFields s) (enumLines s)
    ("" :: comment "" [s.name ++ " type"]) fun f =>
      ["export type " ++ f.typeName s.name ++ " = " ++ literalUnion f.values] where
  written := rfl
  enclosed := by
    obtain ⟨before, hheader⟩ : nameLines s <:+ headerLines s := List.suffix_append _ _
    refine ⟨before, (recordInterface s).lines
      ++ titled (s.name ++ " create input") (createInterface s).lines
      ++ titled (s.name ++ " update input") (updateInterface s).lines
      ++ titled (s.name ++ " list filters") (filtersInterface s).lines
      ++ titled (s.name ++ " API Client") (classLines s), ?_⟩
    rw [lines, ← hheader]
    simp only [nameLines, titled, List.append_assoc, List.cons_append, List.nil_append]
    rfl
  mentioned f _ := by
    rw [List.forall_mem_singleton]
    exact .of_mem (List.mem_cons_of_mem _ List.mem_cons_self)

end Artifact

/-! ## Loading -/

namespace Schema

/-- No union in the files is empty, and no list of values for a validator. -/
structure NothingEmpty (s : Schema) : Prop where
  columns : ∀ f ∈ s.columns, f.scriptType ≠ "" ∧ f.validator ≠ "z.enum([])"
  interfacesShown : ∀ p ∈ interfaces s, Declares (p.1.text s) p.2
  interfaces : ∀ p ∈ interfaces s, Typed p.2.members
  classShown : ∃ lines, Kind.model.text s = unlines lines ∧
    (s.columns.map Field.member).map Member.line <:+: lines
  modelShown : Exports (Kind.model.text s) (Model.lines s) (Model.declarations s)
  model : ∀ d ∈ Model.declarations s, d.rest ≠ " = "
  clientShown : Prints (Kind.client.text s) (Client.lines s)
    ["", "const FUNCTION_NAME = '" ++ s.table ++ "-crud'"] (Client.enumFields s)
    (Client.enumLines s) ("" :: comment "" [s.name ++ " type"]) fun f =>
      ["export type " ++ f.typeName s.name ++ " = " ++ literalUnion f.values]
  client : ∀ f ∈ Client.enumFields s, literalUnion f.values ≠ ""
  validationShown : Exports (Kind.validation.text s) (Validation.lines s)
    (Validation.declarations s)
  validation : ∀ d ∈ Validation.declarations s, d.rest ≠ " = z.enum([])"
  entriesShown : ∀ entries ∈ [Validation.createEntries s, Validation.updateEntries s],
    ∃ lines, Kind.validation.text s = unlines lines ∧ entries.map Validation.Entry.line <:+: lines
  entries : ∀ e ∈ Validation.createEntries s ++ Validation.updateEntries s,
    e.validator ≠ "z.enum([])"
  actionsShown : Kind.endpoint.text s = unlines (Endpoint.lines s) ∧
    (Endpoint.lines s).filterMap Endpoint.union? = [keyUnion (Endpoint.actions s)]
  actions : keyUnion (Endpoint.actions s) ≠ ""
  keysShown : ∀ op ∈ s.operations, op.type = .list ∨ op.type = .custom →
    ∃ lines, Kind.service.text s = unlines lines ∧
      Mentions lines ("(" ++ ("filters: Partial<Pick<" ++ s.name ++ "Data, " ++
        keyUnion op.filters ++ ">> & PageOptions = \x7b\x7d") ++ ")")
  keys : ∀ op ∈ s.operations, keyUnion op.filters ≠ ""

theorem WellFormed.nothingEmpty {s : Schema} (h : s.WellFormed) : s.NothingEmpty where
  columns f hf := ⟨(h.columns f hf).scriptType_ne_empty, (h.columns f hf).validator_ne⟩
  interfacesShown := declares_interfaces s
  interfaces := typed_interfaces h
  classShown := Model.exists_classMembers s
  modelShown := Model.exports_text s
  model := Model.rest_ne h
  clientShown := Client.prints_enums s
  client f hf := by
    obtain ⟨hcolumn, henum⟩ := List.mem_filter.1 ((Client.enumFields_sublist s).subset hf)
    exact literalUnion_ne_empty ((h.columns f hcolumn).values (by simpa [Field.isEnum] using henum))
  validationShown := Validation.exports_text s
  validation := Validation.rest_ne h
  entriesShown := Validation.exists_entries s
  entries := Validation.validator_ne h
  actionsShown := ⟨rfl, Endpoint.filterMap_union?_lines s⟩
  actions := keyUnion_ne_empty _
  keysShown op hop htype := Service.parameters_call s htype ▸ Service.mentions_parameters s hop
  keys _ _ := keyUnion_ne_empty _

end Schema

namespace Loading

/-- The mapping that a source holds. -/
def mapping : Source → Run Entries
  | .entries es => pure es
  | .file path => document (Path.ofString path)

/-- A schema comes from the mapping that its source holds. -/
theorem exists_mapping_of_schema {source : Source} {w : World} {s : Schema}
    (h : ((schema source).start w).1 = .ok s) :
    ∃ es, ((mapping source).start w).1 = .ok es ∧ Schema.read (.map es) = .valid s := by
  cases source with
  | entries es => exact ⟨es, rfl, read_of_checked h⟩
  | file path =>
    unfold schema at h
    rcases hdocument : (document (Path.ofString path)).start w with ⟨stop | es, mid⟩
    · rw [Run.start_bind_of_error hdocument] at h
      cases h
    · rw [Run.start_bind_of_ok hdocument] at h
      refine ⟨es, congrArg Prod.fst hdocument, ?_⟩
      rcases hchecked : (checked (some (Path.ofString path).text) Schema.read es).start mid
        with ⟨stop | t, after⟩
      · rw [Run.start_bind_of_error hchecked] at h
        cases h
      · rw [Run.start_bind_of_ok hchecked] at h
        cases h
        exact read_of_checked (congrArg Prod.fst hchecked)

/-- What is known of a schema that was loaded from a source. -/
structure Sound (source : Source) (w : World) (s : Schema) : Prop where
  read : ∃ es, ((mapping source).start w).1 = .ok es ∧ Schema.read (.map es) = .valid s ∧
    Schema.BoundsRead es
  wellFormed : s.WellFormed
  projects : ∀ f ∈ s.columns, f.Projects
  nothingEmpty : s.NothingEmpty

/-- Whatever a source holds, a schema that is loaded from it has what the layers rely on. -/
theorem schema_sound {source : Source} {w : World} {s : Schema}
    (h : ((schema source).start w).1 = .ok s) : Sound source w s := by
  obtain ⟨es, hmapping, hread⟩ := exists_mapping_of_schema h
  have hparts := (Schema.read_eq_valid_iff.1 hread).1
  have hformed := hparts.wellFormed
  exact ⟨⟨es, hmapping, hread, hparts.boundsRead⟩, hformed,
    fun f hf => (hformed.columns f hf).projects, hformed.nothingEmpty⟩

theorem article_schema_sound : Sound (.entries Schema.articleEntries) Run.bareWorld .article :=
  schema_sound (Schema.loads_iff.2 rfl)

end Loading
end Scaffold
