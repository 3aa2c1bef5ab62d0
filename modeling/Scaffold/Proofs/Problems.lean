import Scaffold.Proofs.Collision
import Scaffold.Proofs.Reasons
import Scaffold.Proofs.Respelling

/-!
# Every problem has its place

What is wrong with a part of a mapping is found under the key that the part was read from, and in a
list under the position of the item. So the problems of an item are told apart from all others by
where they are, and they are those that the item has by itself, whatever stands around it.
Collisions are looked for once nothing else is wrong, so that a complaint about one stands alone.
-/
namespace Scaffold

/-! ## Places -/

namespace Problem

/-- Whether a problem lies at the end of some steps or further in. -/
def isWithin (steps : List String) (p : Problem) : Bool := steps.isPrefixOf p.path

/-- Whether a problem lies in an item of the list of fields, and not at the list itself. -/
def isInFields (p : Problem) : Bool :=
  p.path.head? == some Schema.fieldsKey.spelling && 1 < p.path.length

/-- A problem of a field, as one of the schema that has the field at a position. -/
def atField (position : Nat) (p : Problem) : Problem :=
  (p.under (toString position)).under Schema.fieldsKey.spelling

theorem path_atField (position : Nat) (p : Problem) :
    (p.atField position).path = "fields" :: toString position :: p.path := rfl

/-- The line of a problem names the place in the schema. -/
theorem message_atField (position : Nat) (p : Problem) : (p.atField position).message =
    ".".intercalate ("fields" :: toString position :: p.path) ++ ": " ++ p.refusal.message := by
  have hplace : ".".intercalate (p.atField position).path ≠ "" := by
    intro hempty
    rw [path_atField, String.intercalate_cons_cons] at hempty
    have hlength := congrArg String.length hempty
    simp at hlength
  rw [message, if_neg hplace]
  rfl

theorem isInFields_atField (position : Nat) (p : Problem) :
    (p.atField position).isInFields = true := by
  simp [isInFields, path_atField, Schema.fieldsKey, Label.same]

theorem numeral_injective : Function.Injective (toString : Nat → String) := by
  intro m n h
  rw [Nat.toString_eq_ofList_toDigits, Nat.toString_eq_ofList_toDigits, String.ofList_inj] at h
  rw [← Nat.ofDigitChars_ten_toDigits (n := m), h, Nat.ofDigitChars_ten_toDigits]

theorem isWithin_atField (i position : Nat) (p : Problem) :
    (p.atField position).isWithin ["fields", toString i] = decide (i = position) := by
  rw [isWithin, path_atField, List.isPrefixOf_cons_cons_self, List.isPrefixOf_cons_cons,
    List.isPrefixOf_nil_left, Bool.and_true, Bool.eq_iff_iff, beq_iff_eq, decide_eq_true_eq]
  exact numeral_injective.eq_iff

theorem filter_isWithin_map_atField (i position : Nat) (problems : List Problem) :
    (problems.map (atField position)).filter (·.isWithin ["fields", toString i]) =
      if i = position then problems.map (atField i) else [] := by
  split
  · next heq =>
    subst heq
    apply List.filter_eq_self.2
    intro p hp
    obtain ⟨q, _, rfl⟩ := List.mem_map.1 hp
    rw [isWithin_atField, decide_eq_true rfl]
  · next hne =>
    apply List.filter_eq_nil_iff.2
    intro p hp
    obtain ⟨q, _, rfl⟩ := List.mem_map.1 hp
    rw [isWithin_atField]
    simpa using hne

theorem isInFields_of_isWithin {i : Nat} {p : Problem}
    (h : p.isWithin ["fields", toString i] = true) : p.isInFields = true := by
  obtain ⟨rest, hpath⟩ := List.isPrefixOf_iff_prefix.1 h
  simp [isInFields, ← hpath, Schema.fieldsKey, Label.same]

end Problem

namespace Checked

variable {α β : Type}

/-- The items of a list are complained about one after the other. -/
theorem problems_listFrom (check : β → Checked α) (start : Nat) (items : List β) :
    (listFrom check start items).problems = (items.zipIdx start).flatMap fun (b, position) =>
      (check b).problems.map (Problem.under (toString position)) := by
  induction items generalizing start with
  | nil => rfl
  | cons b rest ih =>
    rw [listFrom, problems_ap, problems_map, problems_under, ih, List.zipIdx_cons,
      List.flatMap_cons]

end Checked

/-! ## Problems of the parts -/

/-- A problem that lies under a spelling of a label. -/
def Problem.IsUnder (l : Label) (p : Problem) : Prop :=
  ∃ step rest, l.Claims step ∧ p.path = step :: rest

theorem Problem.IsUnder.path_ne_nil {l : Label} {p : Problem} (h : p.IsUnder l) : p.path ≠ [] := by
  obtain ⟨step, rest, _, hpath⟩ := h
  simp [hpath]

namespace Label

variable {α : Type} {l : Label} {read : Reading α} {entries : Entries} {p : Problem}

theorem isUnder_of_find? {step : String} {v : Document} (hfind : l.find? entries = some (step, v))
    (hp : p ∈ ((read v).under step).problems) : p.IsUnder l := by
  rw [Checked.problems_under] at hp
  obtain ⟨q, _, rfl⟩ := List.mem_map.1 hp
  exact ⟨step, q.path, (claims_of_find? hfind).1, rfl⟩

theorem isUnder_of_mem_required (hp : p ∈ (l.required read entries).problems) : p.IsUnder l := by
  unfold required at hp
  split at hp
  · next hfind => exact isUnder_of_find? hfind hp
  · rw [Checked.problems_invalid, List.mem_singleton] at hp
    subst hp
    exact ⟨l.spelling, [], .inl rfl, rfl⟩

theorem isUnder_of_mem_orElse {default : α} (hp : p ∈ (l.orElse default read entries).problems) :
    p.IsUnder l := by
  unfold orElse at hp
  split at hp
  · next hfind => exact isUnder_of_find? hfind hp
  · cases hp

end Label

theorem exists_path_of_mem_strangers {labels : List Label} {entries : Entries} {p : Problem}
    (hp : p ∈ strangers labels entries) : ∃ step, p.path = [step] := by
  obtain ⟨⟨key, v⟩, _, hkey⟩ := List.mem_filterMap.1 hp
  dsimp only at hkey
  unfold strangeKey? at hkey
  split at hkey
  · split_ifs at hkey
    cases hkey
    exact ⟨key.keyText, rfl⟩
  · cases hkey
    exact ⟨key.keyText, rfl⟩

namespace Schema

/-- What is wrong with the parts of a mapping, before the fields are compared with each other. -/
def partProblems (entries : Entries) : List Problem :=
  (Reading.record "EntitySchema" keys readEntries (.map entries)).problems

theorem partProblems_eq (entries : Entries) : partProblems entries =
    (nameKey.required Reading.nonEmptyText entries).problems ++
    (tableKey.required Reading.nonEmptyText entries).problems ++
    (fieldsKey.required (Reading.list Field.read) entries).problems ++
    (operationsKey.required (Reading.list Operation.read) entries).problems ++
    (policiesKey.required (Reading.list Policy.read) entries).problems ++
    (documentationKey.optional Documentation.read entries).problems ++
    strangers keys entries := by
  simp only [partProblems, Reading.record, Checked.problems_also, readEntries,
    Checked.functor_map_eq, Checked.seq_eq_ap, Checked.problems_ap, Checked.problems_map]

theorem path_ne_nil_of_mem_partProblems {entries : Entries} {p : Problem}
    (hp : p ∈ partProblems entries) : p.path ≠ [] := by
  rw [partProblems_eq] at hp
  simp only [List.mem_append] at hp
  rcases hp with (((((hname | htable) | hfields) | hoperations) | hpolicies) | hdocumentation) |
    hstranger
  · exact (Label.isUnder_of_mem_required hname).path_ne_nil
  · exact (Label.isUnder_of_mem_required htable).path_ne_nil
  · exact (Label.isUnder_of_mem_required hfields).path_ne_nil
  · exact (Label.isUnder_of_mem_required hoperations).path_ne_nil
  · exact (Label.isUnder_of_mem_required hpolicies).path_ne_nil
  · exact (Label.isUnder_of_mem_orElse hdocumentation).path_ne_nil
  · obtain ⟨step, hpath⟩ := exists_path_of_mem_strangers hstranger
    simp [hpath]

/-- What is wrong with the mapping as a whole stands alone. -/
theorem problems_read (entries : Entries) :
    (∃ s v, SoundParts entries s ∧ Field.FirstBreak s.fields v ∧
      (read (.map entries)).problems = [⟨[], .violation v⟩]) ∨
    (read (.map entries)).problems = partProblems entries := by
  cases hparts : Reading.record "EntitySchema" keys readEntries (.map entries) with
  | invalid ps =>
    right
    simp only [read, partProblems, hparts, Checked.thenCheck]
  | valid s =>
    have hsound := record_eq_valid_iff.1 hparts
    rw [read_of_soundParts hsound, hasNoCollision]
    cases hfirst : Field.firstCollision? [] s.fields with
    | none =>
      right
      simp only [partProblems, hparts, Checked.problems_valid]
    | some v =>
      left
      exact ⟨s, v, hsound, (Field.firstCollision?_nil_eq_some_iff s.fields v).1 hfirst, rfl⟩

/-! ## Problems of the fields -/

/-- What is wrong with each item of a list of fields by itself, one item after the other. -/
def fieldProblems (items : List Document) : List Problem :=
  items.zipIdx.flatMap fun (d, position) => (Field.read d).problems.map (Problem.atField position)

variable {entries : Entries} {items : List Document}

theorem not_isInFields_of_isUnder {l : Label} (hapart : l.Apart fieldsKey) {p : Problem}
    (h : p.IsUnder l) : ¬ p.isInFields = true := by
  obtain ⟨step, rest, hclaims, hpath⟩ := h
  have hstep : step ≠ fieldsKey.spelling := fun heq => hapart step hclaims (.inl heq)
  simp [Problem.isInFields, hpath, hstep]

theorem filter_isInFields_required {α : Type} (l : Label) (hapart : l.Apart fieldsKey)
    (read : Reading α) (entries : Entries) :
    (l.required read entries).problems.filter (·.isInFields) = [] := by
  apply List.filter_eq_nil_iff.2
  intro p hp
  exact not_isInFields_of_isUnder hapart (Label.isUnder_of_mem_required hp)

theorem filter_isInFields_optional {α : Type} (l : Label) (hapart : l.Apart fieldsKey)
    (read : Reading α) (entries : Entries) :
    (l.optional read entries).problems.filter (·.isInFields) = [] := by
  apply List.filter_eq_nil_iff.2
  intro p hp
  exact not_isInFields_of_isUnder hapart (Label.isUnder_of_mem_orElse hp)

theorem filter_isInFields_strangers (labels : List Label) (entries : Entries) :
    (strangers labels entries).filter (·.isInFields) = [] := by
  apply List.filter_eq_nil_iff.2
  intro p hp
  obtain ⟨step, hpath⟩ := exists_path_of_mem_strangers hp
  simp [Problem.isInFields, hpath]

theorem problems_fields (h : Document.find? "fields" entries = some (.list items)) :
    (fieldsKey.required (Reading.list Field.read) entries).problems = fieldProblems items := by
  have hfind : fieldsKey.find? entries = some ("fields", .list items) := by
    simp only [Label.find?, fieldsKey, Label.same, h]
  simp only [Label.required, hfind, Checked.problems_under, Reading.list,
    Checked.problems_listFrom, List.map_flatMap, List.map_map]
  rfl

/-- No other part and no stray key has problems in the fields. -/
theorem filter_isInFields_partProblems
    (h : Document.find? "fields" entries = some (.list items)) :
    (partProblems entries).filter (·.isInFields) = fieldProblems items := by
  have hfields : ∀ p ∈ (fieldsKey.required (Reading.list Field.read) entries).problems,
      p.isInFields = true := by
    intro p hp
    rw [problems_fields h] at hp
    obtain ⟨⟨d, position⟩, _, hmem⟩ := List.mem_flatMap.1 hp
    obtain ⟨q, _, rfl⟩ := List.mem_map.1 hmem
    exact Problem.isInFields_atField position q
  simp only [partProblems_eq, List.filter_append, filter_isInFields_strangers,
    filter_isInFields_required nameKey (by decide), filter_isInFields_required tableKey (by decide),
    filter_isInFields_required operationsKey (by decide),
    filter_isInFields_required policiesKey (by decide),
    filter_isInFields_optional documentationKey (by decide), List.nil_append, List.append_nil]
  rw [List.filter_eq_self.2 hfields, problems_fields h]

/-- The problems of the items, in the order of the items. -/
theorem filter_isInFields (h : Document.find? "fields" entries = some (.list items)) :
    (read (.map entries)).problems.filter (·.isInFields) = fieldProblems items := by
  have hparts := filter_isInFields_partProblems h
  rcases problems_read entries with ⟨s, v, hsound, _, honly⟩ | hsame
  · have hnone : partProblems entries = [] := by
      rw [partProblems, record_eq_valid_iff.2 hsound, Checked.problems_valid]
    rw [honly, ← hparts, hnone]
    rfl
  · rw [hsame, hparts]

theorem flatMap_zipIdx_single {β γ : Type} (f : β → List γ) (start i : Nat) (items : List β) :
    ((items.zipIdx start).flatMap fun (b, position) => if start + i = position then f b else []) =
      (items[i]?.map f).getD [] := by
  induction items generalizing start i with
  | nil => rfl
  | cons b rest ih =>
    rw [List.zipIdx_cons, List.flatMap_cons]
    cases i with
    | zero =>
      have hlater : (rest.zipIdx (start + 1)).flatMap
          (fun (b, position) => if start + 0 = position then f b else []) = [] := by
        apply List.flatMap_eq_nil_iff.2
        rintro ⟨c, position⟩ hc
        have hposition : start + 1 ≤ position := List.le_snd_of_mem_zipIdx hc
        exact if_neg (by omega)
      rw [hlater]
      simp
    | succ i =>
      have hshift : start + (i + 1) = start + 1 + i := by omega
      have hother : start + 1 + i ≠ start := by omega
      rw [hshift, ih]
      simp [hother]

theorem filter_isWithin_fieldProblems (items : List Document) (i : Nat) :
    (fieldProblems items).filter (·.isWithin ["fields", toString i]) =
      (items[i]?.map fun d => (Field.read d).problems.map (Problem.atField i)).getD [] := by
  have hsingle := flatMap_zipIdx_single
    (fun d => (Field.read d).problems.map (Problem.atField i)) 0 i items
  simp only [Nat.zero_add] at hsingle
  rw [fieldProblems, List.filter_flatMap, ← hsingle]
  simp only [Problem.filter_isWithin_map_atField]

/-- The problems at a position are those of the item there. -/
theorem filter_isWithin (h : Document.find? "fields" entries = some (.list items)) (i : Nat) :
    (read (.map entries)).problems.filter (·.isWithin ["fields", toString i]) =
      (items[i]?.map fun d => (Field.read d).problems.map (Problem.atField i)).getD [] := by
  rw [← filter_isWithin_fieldProblems, ← filter_isInFields h, List.filter_filter]
  apply List.filter_congr
  intro p _
  cases hp : p.isWithin ["fields", toString i] with
  | true => simp [Problem.isInFields_of_isWithin hp]
  | false => simp

end Schema

/-! ## Loading -/

namespace Source

/-- The mapping that a source gives in a world. -/
def Holds (source : Source) (w : World) (entries : Entries) : Prop :=
  match source with
  | .entries es => es = entries
  | .file path => ((Loading.document (Path.ofString path)).start w).1 = .ok entries

/-- What complaints about a source name it. -/
def origin : Source → Option String
  | .entries _ => none
  | .file path => some (Path.ofString path).text

end Source

theorem Loading.schema_of_holds {source : Source} {w : World} {entries : Entries}
    (h : source.Holds w entries) : ((Loading.schema source).start w).1 =
      match Schema.read (.map entries) with
      | .valid s => .ok s
      | .invalid problems =>
        .error (.failure (.malformed source.origin (Problem.messages problems))) := by
  cases source with
  | entries es =>
    change es = entries at h
    subst h
    rw [Loading.schema, Loading.start_checked]
    cases Schema.read (.map es) <;> rfl
  | file path =>
    change ((Loading.document (Path.ofString path)).start w).1 = .ok entries at h
    rcases hdocument : (Loading.document (Path.ofString path)).start w with ⟨result, mid⟩
    rw [hdocument] at h
    change result = .ok entries at h
    subst h
    simp only [Loading.schema, Run.start_bind, hdocument, Loading.start_checked]
    cases Schema.read (.map entries) <;> rfl

namespace Schema

/-- How the problems of a mapping are made up where its fields are a list: what is found at a
position is what the item there has by itself, and the complaint about a collision stands alone. -/
structure ReportsFields (entries : Entries) (items : List Document)
    (problems : List Problem) : Prop where
  alone : ∀ i, problems.filter (·.isWithin ["fields", toString i]) =
    (items[i]?.map fun d => (Field.read d).problems.map (Problem.atField i)).getD []
  ordered : problems.filter (·.isInFields) = fieldProblems items
  collision : (∃ s v, SoundParts entries s ∧ Field.FirstBreak s.fields v ∧
      problems = [⟨[], .violation v⟩]) ∨
    (problems = partProblems entries ∧ ∀ p ∈ problems, p.path ≠ [])

/-- Each item in the list of fields is complained about just as if it were read alone, in the order
of the list, and fields are only compared once nothing else is wrong. A source loads exactly when
there is no problem at all, and otherwise the failure has a line for each. -/
theorem problems_by_field {entries : Entries} {items : List Document} {source : Source} {w : World}
    (h : Document.find? "fields" entries = some (.list items)) (hsource : source.Holds w entries) :
    ReportsFields entries items (read (.map entries)).problems ∧
    (∀ i p, (Problem.atField i p).message =
      ".".intercalate ("fields" :: toString i :: p.path) ++ ": " ++ p.refusal.message) ∧
    ((∃ s, ((Loading.schema source).start w).1 = .ok s) ↔
      (read (.map entries)).problems = []) ∧
    ((read (.map entries)).problems ≠ [] → ((Loading.schema source).start w).1 =
      .error (.failure (.malformed source.origin
        (Problem.messages (read (.map entries)).problems)))) := by
  have hpaths (hsame : (read (.map entries)).problems = partProblems entries) :
      ∀ p ∈ (read (.map entries)).problems, p.path ≠ [] := by
    rw [hsame]
    exact fun p hp => path_ne_nil_of_mem_partProblems hp
  have hcollision := (problems_read entries).imp_right fun hsame => And.intro hsame (hpaths hsame)
  have hload := Loading.schema_of_holds hsource
  refine ⟨⟨filter_isWithin h, filter_isInFields h, hcollision⟩, Problem.message_atField, ?_, ?_⟩
  · rw [(justified_read (.map entries)).problems_eq_nil_iff, hload]
    cases read (.map entries) <;> simp
  · intro hproblems
    rw [hload]
    cases hread : read (.map entries) with
    | valid s => simp [hread] at hproblems
    | invalid problems => rfl

/-- A list of fields of which each item has something wrong, in a mapping without a name. The stray
key is written as the place of the second item, but is none. -/
def draftItems : List Document := [
  .map [(.text "name", .text "title"), (.text "dbName", .text ""), (.text "type", .text "float"),
    (.text "colour", .text "red")],
  .text "status",
  .map [(.text "name", .text "step"), (.text "dbName", .text "step"), (.text "type", .text "enum")]]

def draftEntries : Entries := [
  (.text "tableName", .text "drafts"),
  (.text "fields", .list draftItems),
  (.text "operations", .list []),
  (.text "rls", .list []),
  (.text "fields.1", .null)]

theorem draft_problems_by_field :
    Document.find? "fields" draftEntries = some (.list draftItems) ∧
    (Source.entries draftEntries).Holds Run.bareWorld draftEntries ∧
    (read (.map draftEntries)).problems.filter (·.isWithin ["fields", toString 1]) =
      [⟨["fields", "1"], .notRecord "EntityField"⟩] ∧
    ((read (.map draftEntries)).problems.filter (·.isInFields)).map (·.path) =
      [["fields", "0", "dbName"], ["fields", "0", "type"], ["fields", "0", "colour"],
        ["fields", "1"], ["fields", "2"]] ∧
    ¬ ∃ s, ((Loading.schema (.entries draftEntries)).start Run.bareWorld).1 = .ok s := by
  have hfields : Document.find? "fields" draftEntries = some (.list draftItems) := rfl
  have hsource : (Source.entries draftEntries).Holds Run.bareWorld draftEntries := rfl
  obtain ⟨hreports, _, hloads, _⟩ := problems_by_field hfields hsource
  refine ⟨hfields, hsource, ?_, ?_, ?_⟩
  · rw [hreports.alone]
    rfl
  · rw [hreports.ordered]
    rfl
  · rw [hloads]
    decide

end Schema
end Scaffold
