import Scaffold.Schema.Reading

/-!
# What a valid reading says about its parts

A value is read without problems exactly when each of its parts is. So a schema that was read is
made of fields and operations that were read themselves, and every rule that a part is checked for
holds of all parts of the schema.
-/
namespace Scaffold

namespace Checked

variable {α β : Type}

@[simp] theorem functor_map_eq (f : α → β) (a : Checked α) : f <$> a = map f a := rfl

@[simp] theorem seq_eq_ap (f : Checked (α → β)) (a : Checked α) : f <*> a = ap f a := rfl

theorem map_eq_valid_iff {f : α → β} {a : Checked α} {b : β} :
    map f a = .valid b ↔ ∃ x, a = .valid x ∧ f x = b := by
  cases a <;> simp [map]

theorem ap_eq_valid_iff {f : Checked (α → β)} {a : Checked α} {b : β} :
    ap f a = .valid b ↔ ∃ g x, f = .valid g ∧ a = .valid x ∧ g x = b := by
  cases f <;> cases a <;> simp [ap]

theorem also_eq_valid_iff {a : Checked α} {more : List Problem} {x : α} :
    also a more = .valid x ↔ a = .valid x ∧ more = [] := by
  cases a <;> cases more <;> simp [also]

theorem under_eq_valid_iff {step : String} {a : Checked α} {x : α} :
    under step a = .valid x ↔ a = .valid x := by
  cases a <;> simp [under]

theorem thenCheck_eq_valid_iff {a : Checked α} {check : α → Checked β} {b : β} :
    thenCheck a check = .valid b ↔ ∃ x, a = .valid x ∧ check x = .valid b := by
  cases a <;> simp [thenCheck]

/-- Each item of a list that was read comes from some item of the source. -/
theorem exists_of_mem_listFrom {check : β → Checked α} {start : Nat} {items : List β}
    {values : List α} (h : listFrom check start items = .valid values) {a : α} (ha : a ∈ values) :
    ∃ b ∈ items, check b = .valid a := by
  induction items generalizing start values with
  | nil =>
    cases h
    cases ha
  | cons b rest ih =>
    obtain ⟨_, tail, hhead, htail, rfl⟩ := ap_eq_valid_iff.1 h
    obtain ⟨first, hfirst, rfl⟩ := map_eq_valid_iff.1 hhead
    rcases List.mem_cons.1 ha with rfl | hrest
    · exact ⟨b, List.mem_cons_self, under_eq_valid_iff.1 hfirst⟩
    · obtain ⟨c, hc, hread⟩ := ih htail hrest
      exact ⟨c, List.mem_cons_of_mem b hc, hread⟩

/-- Every item of a list that can be read can be read itself. -/
theorem exists_of_listFrom {check : β → Checked α} {start : Nat} {items : List β}
    {values : List α} (h : listFrom check start items = .valid values) {b : β} (hb : b ∈ items) :
    ∃ a, check b = .valid a := by
  induction items generalizing start values with
  | nil => cases hb
  | cons first rest ih =>
    obtain ⟨_, tail, hhead, htail, _⟩ := ap_eq_valid_iff.1 h
    obtain ⟨a, hfirst, _⟩ := map_eq_valid_iff.1 hhead
    rcases List.mem_cons.1 hb with rfl | hrest
    · exact ⟨a, under_eq_valid_iff.1 hfirst⟩
    · exact ih htail hrest

end Checked

namespace Reading

variable {α : Type}

theorem exists_of_mem_list {read : Reading α} {d : Document} {values : List α}
    (h : list read d = .valid values) {a : α} (ha : a ∈ values) : ∃ d, read d = .valid a := by
  cases d with
  | list items =>
    obtain ⟨item, _, hitem⟩ := Checked.exists_of_mem_listFrom h ha
    exact ⟨item, hitem⟩
  | set items =>
    obtain ⟨item, _, hitem⟩ := Checked.exists_of_mem_listFrom h ha
    exact ⟨item, hitem⟩
  | _ => cases h

end Reading

namespace Label

variable {α : Type}

theorem exists_of_required {l : Label} {read : Reading α} {entries : Entries} {a : α}
    (h : l.required read entries = .valid a) : ∃ d, read d = .valid a := by
  unfold required at h
  split at h
  · next spelling d _ => exact ⟨d, Checked.under_eq_valid_iff.1 h⟩
  · cases h

end Label

/-! ## Schemas -/

namespace Schema

/-- Every part of a mapping reads by itself: each known key holds what belongs there, and there are
no other keys. -/
structure SoundParts (entries : Entries) (s : Schema) : Prop where
  name : nameKey.required Reading.nonEmptyText entries = .valid s.name
  table : tableKey.required Reading.nonEmptyText entries = .valid s.table
  fields : fieldsKey.required (Reading.list Field.read) entries = .valid s.fields
  operations : operationsKey.required (Reading.list Operation.read) entries = .valid s.operations
  policies : policiesKey.required (Reading.list Policy.read) entries = .valid s.policies
  documentation : documentationKey.optional Documentation.read entries = .valid s.documentation
  keys : strangers keys entries = []

theorem readEntries_eq_valid_iff {entries : Entries} {s : Schema} :
    readEntries entries = .valid s ↔
      nameKey.required Reading.nonEmptyText entries = .valid s.name ∧
      tableKey.required Reading.nonEmptyText entries = .valid s.table ∧
      fieldsKey.required (Reading.list Field.read) entries = .valid s.fields ∧
      operationsKey.required (Reading.list Operation.read) entries = .valid s.operations ∧
      policiesKey.required (Reading.list Policy.read) entries = .valid s.policies ∧
      documentationKey.optional Documentation.read entries = .valid s.documentation := by
  simp only [readEntries, Checked.functor_map_eq, Checked.seq_eq_ap, Checked.ap_eq_valid_iff,
    Checked.map_eq_valid_iff]
  constructor
  · rintro ⟨_, _, ⟨_, _, ⟨_, _, ⟨_, _, ⟨_, _, ⟨_, hname, rfl⟩, htable, rfl⟩, hfields, rfl⟩,
      hops, rfl⟩, hpolicies, rfl⟩, hdocumentation, rfl⟩
    exact ⟨hname, htable, hfields, hops, hpolicies, hdocumentation⟩
  · rintro ⟨hname, htable, hfields, hops, hpolicies, hdocumentation⟩
    exact ⟨_, _, ⟨_, _, ⟨_, _, ⟨_, _, ⟨_, _, ⟨_, hname, rfl⟩, htable, rfl⟩, hfields, rfl⟩,
      hops, rfl⟩, hpolicies, rfl⟩, hdocumentation, rfl⟩

theorem record_eq_valid_iff {entries : Entries} {s : Schema} :
    Reading.record "EntitySchema" keys readEntries (.map entries) = .valid s ↔
      SoundParts entries s := by
  simp only [Reading.record, Checked.also_eq_valid_iff, readEntries_eq_valid_iff]
  constructor
  · rintro ⟨⟨hname, htable, hfields, hops, hpolicies, hdocumentation⟩, hkeys⟩
    exact ⟨hname, htable, hfields, hops, hpolicies, hdocumentation, hkeys⟩
  · rintro ⟨hname, htable, hfields, hops, hpolicies, hdocumentation, hkeys⟩
    exact ⟨⟨hname, htable, hfields, hops, hpolicies, hdocumentation⟩, hkeys⟩

/-- Where the parts are sound, only collisions between the fields are left to be found. -/
theorem read_of_soundParts {entries : Entries} {s : Schema} (h : SoundParts entries s) :
    read (.map entries) = hasNoCollision s := by
  simp only [read, record_eq_valid_iff.2 h, Checked.thenCheck]

theorem hasNoCollision_eq_valid_iff {s t : Schema} :
    hasNoCollision s = .valid t ↔ Field.firstCollision? [] s.fields = none ∧ s = t := by
  unfold hasNoCollision
  split <;> simp_all [Checked.refuse]

theorem read_eq_valid_iff {entries : Entries} {s : Schema} :
    read (.map entries) = .valid s ↔
      SoundParts entries s ∧ Field.firstCollision? [] s.fields = none := by
  simp only [read, Checked.thenCheck_eq_valid_iff, record_eq_valid_iff, hasNoCollision_eq_valid_iff]
  constructor
  · rintro ⟨t, hparts, hfree, rfl⟩
    exact ⟨hparts, hfree⟩
  · rintro ⟨hparts, hfree⟩
    exact ⟨s, hparts, hfree, rfl⟩

end Schema

namespace Operation

theorem hasItsName_eq_valid_iff {op op' : Operation} :
    hasItsName op = .valid op' ↔ op = op' ∧ (op.type = .custom → op.name.getD "" ≠ "") := by
  unfold hasItsName
  split <;> simp_all [Checked.refuse]

/-- A custom operation that was read has a name, and is asked for under it. -/
theorem name_of_read {d : Document} {op : Operation} (h : read d = .valid op)
    (hcustom : op.type = .custom) : op.name = some op.label ∧ op.label ≠ "" := by
  obtain ⟨raw, _, hchecked⟩ := Checked.thenCheck_eq_valid_iff.1 h
  obtain ⟨hraw, hname⟩ := hasItsName_eq_valid_iff.1 hchecked
  subst hraw
  have hnonempty := hname hcustom
  cases hn : raw.name with
  | none => simp [hn] at hnonempty
  | some name => simp_all [label]

end Operation
end Scaffold
