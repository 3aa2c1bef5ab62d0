import Scaffold.Artifact.Rendering
import Scaffold.Proofs.Declarations
import Scaffold.Proofs.Filtering
import Scaffold.Proofs.Printing
import Scaffold.Proofs.Records

/-!
# Filters as members

The repository, the hook and the command-line client declare what rows can be filtered by in an
interface. It has the enumerations that the layer keeps, the other names that operations filter by,
and two members for paging. The first two never meet, so that a name can only be there twice if it
is that of a member for paging.
-/
namespace Scaffold

open Artifact Script Text

/-! ## The names in an interface -/

def Script.pageNames : List String := pageMembers.map (·.name)

namespace Artifact.Repository

theorem mem_unseen {seen names : List String} {name : String} :
    name ∈ unseen seen names ↔ name ∈ names ∧ name ∉ seen := by
  induction names generalizing seen with
  | nil => simp [unseen]
  | cons first rest ih =>
    by_cases hfirst : first ∈ seen
    · have hne : name ∉ seen → name ≠ first := fun hnew heq => hnew (heq ▸ hfirst)
      rw [unseen, if_pos (by simpa using hfirst), ih, List.mem_cons]
      constructor
      · exact fun h => ⟨.inr h.1, h.2⟩
      · exact fun h => ⟨h.1.resolve_left (hne h.2), h.2⟩
    · rw [unseen, if_neg (by simpa using hfirst), List.mem_cons, ih, List.mem_cons, List.mem_cons]
      by_cases heq : name = first
      · simp [heq, hfirst]
      · simp [heq]

theorem mem_allFilters_iff (s : Schema) (name : String) :
    name ∈ allFilters s ↔ name ∈ Schema.filterNames s.operations := by
  have hlist : name ∈ listFilters s → name ∈ Schema.filterNames s.operations := by
    unfold listFilters
    cases hoperations : s.operationsOf .list with
    | nil => simp
    | cons op rest =>
      intro hname
      have hop : op ∈ s.operationsOf .list := hoperations ▸ List.mem_cons_self
      exact Schema.mem_filterNames.2 ⟨op, List.mem_of_mem_filter hop, hname⟩
  rw [allFilters, List.mem_append, mem_unseen]
  constructor
  · rintro (hname | hname)
    · exact hlist hname
    · exact hname.1
  · intro hname
    by_cases hfirst : name ∈ listFilters s
    · exact .inl hfirst
    · exact .inr ⟨hname, hfirst⟩

end Artifact.Repository

theorem Artifact.Hook.declares (s : Schema) : Declares (text s) (filtersInterface s) := by
  have htext : text s = unlines [headerLines s, [""], (filtersInterface s).lines,
      functionLines s].flatten := by
    simp only [text, lines, List.flatten_cons, List.flatten_nil, List.append_nil, List.append_assoc]
  rw [htext]
  exact declares_of_mem (by simp)

namespace Schema

/-- How a layer that keeps some enumerations declares what rows can be filtered by. No name is there
twice but those of the members for paging, and these just where they are used for something else. -/
structure DeclaresMembers (s : Schema) (text : String) (enums : List Field) (i : Interface) :
    Prop where
  shown : Declares text i
  mem_iff : ∀ name, name ∈ i.members.map (·.name) ↔ name ∈ enums.map (·.name) ∨
    (∃ op ∈ s.operations, name ∈ op.filters) ∨ name ∈ pageNames
  nodup_iff : (i.members.map (·.name)).Nodup ↔ (∀ f ∈ enums, f.name ∉ pageNames) ∧
    ∀ op ∈ s.operations, ∀ name ∈ op.filters, name ∉ pageNames
  others : ∀ name ∉ pageNames, (i.members.map (·.name)).count name ≤ 1

theorem declaresMembers_of_names {s : Schema} {text : String} {enums : List Field} {i : Interface}
    {own : List String} (hshown : Declares text i)
    (hnames : i.members.map (·.name) = own ++ pageNames) (hown : own.Nodup)
    (hmem : ∀ name, name ∈ own ↔
      name ∈ enums.map (·.name) ∨ ∃ op ∈ s.operations, name ∈ op.filters) :
    s.DeclaresMembers text enums i := by
  have hpage : pageNames.Nodup := by decide
  refine ⟨hshown, ?_, ?_, ?_⟩
  · intro name
    rw [hnames, List.mem_append, hmem, or_assoc]
  · rw [hnames, List.nodup_append']
    constructor
    · rintro ⟨_, _, hapart⟩
      constructor
      · exact fun f hf => hapart ((hmem f.name).2 (.inl (List.mem_map_of_mem hf)))
      · exact fun op hop name hname => hapart ((hmem name).2 (.inr ⟨op, hop, hname⟩))
    · rintro ⟨henums, hoperations⟩
      refine ⟨hown, hpage, ?_⟩
      intro name hname
      rcases (hmem name).1 hname with henum | ⟨op, hop, hfilter⟩
      · obtain ⟨f, hf, rfl⟩ := List.mem_map.1 henum
        exact henums f hf
      · exact hoperations op hop name hfilter
  · intro name hname
    rw [hnames, List.count_append, List.count_eq_zero.2 hname, Nat.add_zero]
    exact List.nodup_iff_count_le_one.1 hown name

/-- Enumerations and other filters that are declared apart make up an interface. -/
theorem declaresMembers_of_declaresFilters {s : Schema} {view : Variables} {text : String}
    {enums : List Field} {filters : List Filter} {i : Interface}
    (h : s.DeclaresFilters view enums filters) (henums : (enums.map (·.name)).Nodup)
    (hshown : Declares text i) (hmembers : i.members =
      enums.map (Field.filterMember s.name) ++ filters.map Filter.member ++ pageMembers) :
    s.DeclaresMembers text enums i := by
  have hnames : i.members.map (·.name) =
      (enums.map (·.name) ++ filters.map (·.name)) ++ pageNames := by
    rw [hmembers, List.map_append, List.map_append, List.map_map, List.map_map]
    rfl
  refine declaresMembers_of_names hshown hnames ?_ ?_
  · exact List.nodup_append'.2 ⟨henums, h.nodup, h.disjoint.symm⟩
  · intro name
    rw [List.mem_append]
    constructor
    · rintro (hkept | hfilter)
      · exact .inl hkept
      · obtain ⟨d, hd, rfl⟩ := List.mem_map.1 hfilter
        exact .inr (h.used d hd)
    · rintro (hkept | ⟨op, hop, hname⟩)
      · exact .inl hkept
      · have honce := h.once op hop name hname
        by_cases hkept : name ∈ enums.map (·.name)
        · exact .inl hkept
        · rw [List.count_eq_zero.2 hkept, Nat.zero_add] at honce
          exact .inr (List.count_pos_iff.1 (honce ▸ Nat.one_pos))

end Schema

namespace Artifact

theorem Repository.declaresMembers (s : Schema) :
    s.DeclaresMembers (text s) [] (filtersInterface s) := by
  have hfilters : (filters s).map (·.name) = distinct (allFilters s) :=
    Schema.map_name_declaredFilters s (allFilters s)
  have hmembers : (filtersInterface s).members =
      (filters s).map Filter.member ++ pageMembers := rfl
  have hnames : (filtersInterface s).members.map (·.name) =
      distinct (allFilters s) ++ pageNames := by
    rw [hmembers, List.map_append, List.map_map, ← hfilters]
    rfl
  have hshown : Declares (text s) (filtersInterface s) :=
    declares s _ (List.mem_cons_of_mem _ (List.mem_cons_of_mem _ List.mem_cons_self))
  refine Schema.declaresMembers_of_names hshown hnames (nodup_distinct _) ?_
  intro name
  rw [mem_distinct, mem_allFilters_iff, Schema.mem_filterNames]
  simp

theorem Hook.declaresFilters {s : Schema} (h : Field.CollisionFree s.fields) :
    s.DeclaresFilters (scope s) s.enumFields (filters s) :=
  Schema.declaresFilters_of_mem_excludedNames_iff h (List.Sublist.refl _) (fun _ => Iff.rfl) rfl rfl

theorem Hook.declaresMembers {s : Schema} (h : Field.CollisionFree s.fields) :
    s.DeclaresMembers (text s) s.enumFields (filtersInterface s) :=
  Schema.declaresMembers_of_declaresFilters (declaresFilters h) (Schema.nodup_enumNames h)
    (declares s) rfl

theorem Client.declaresFilters {s : Schema} (h : Field.CollisionFree s.fields) :
    s.DeclaresFilters (scope s) (enumFields s) (filters s) :=
  Schema.declaresFilters_of_mem_excludedNames_iff h (enumFields_sublist s) (mem_excludedNames_iff s)
    rfl rfl

theorem Client.declaresMembers {s : Schema} (h : Field.CollisionFree s.fields) :
    s.DeclaresMembers (text s) (enumFields s) (filtersInterface s) :=
  Schema.declaresMembers_of_declaresFilters (declaresFilters h)
    ((Schema.nodup_enumNames h).sublist ((enumFields_sublist s).map _))
    (declares s _ (by simp)) rfl

end Artifact

/-- In the interfaces for filters every name is declared once, except that the two names for paging
are declared again where an enumeration that the layer keeps has one, or an operation filters by
one. -/
theorem members_apart {s : Schema} (h : s.Accepted) :
    s.DeclaresMembers (Kind.repository.text s) [] (Repository.filtersInterface s) ∧
    s.DeclaresMembers (Kind.hook.text s) s.enumFields (Hook.filtersInterface s) ∧
    s.DeclaresMembers (Kind.client.text s) (Client.enumFields s) (Client.filtersInterface s) :=
  ⟨Repository.declaresMembers s, Hook.declaresMembers h.collisionFree,
    Client.declaresMembers h.collisionFree⟩

theorem article_members_apart : Schema.article.Accepted ∧
    ((Repository.filtersInterface .article).members.map (·.name)).Nodup ∧
    ((Hook.filtersInterface .article).members.map (·.name)).Nodup ∧
    ((Client.filtersInterface .article).members.map (·.name)).Nodup := by
  obtain ⟨hrepository, hhook, hclient⟩ := members_apart Schema.article_accepted
  have henums : ∀ f ∈ Schema.article.enumFields, f.name ∉ pageNames := by decide
  have hoperations : ∀ op ∈ Schema.article.operations, ∀ name ∈ op.filters, name ∉ pageNames := by
    decide
  exact ⟨Schema.article_accepted, hrepository.nodup_iff.2 ⟨by simp, hoperations⟩,
    hhook.nodup_iff.2 ⟨henums, hoperations⟩, hclient.nodup_iff.2
      ⟨fun f hf => henums f ((Client.enumFields_sublist _).subset hf), hoperations⟩⟩

namespace Schema

/-- Letters of which a query can ask for those with some limit. -/
def inbox : Schema where
  name := "Letter"
  table := "letters"
  fields := []
  operations := [{ type := .list, filters := ["limit"] }]
  policies := []

def inboxEntries : Entries := [
  (.text "name", .text "Letter"),
  (.text "tableName", .text "letters"),
  (.text "fields", .list []),
  (.text "operations", .list [
    .map [(.text "type", .text "list"), (.text "filters", .list [.text "limit"])]]),
  (.text "rls", .list [])]

theorem inbox_accepted : inbox.Accepted := (accepted_iff inbox).2 ⟨inboxEntries, rfl⟩

end Schema

theorem inbox_members_clash : Schema.inbox.Accepted ∧
    ¬ ((Repository.filtersInterface .inbox).members.map (·.name)).Nodup ∧
    ¬ ((Hook.filtersInterface .inbox).members.map (·.name)).Nodup ∧
    ¬ ((Client.filtersInterface .inbox).members.map (·.name)).Nodup := by
  refine ⟨Schema.inbox_accepted, ?_, ?_, ?_⟩
  · decide
  · decide
  · decide

/-! ## The types of filters -/

namespace Artifact.Hook

/-- The names that the hook has from the model. -/
def imported (s : Schema) : List String :=
  [s.name ++ "CreateInput", s.name ++ "UpdateInput"] ++ s.enumFields.map (Field.typeName s.name)

def importLines (s : Schema) : List String :=
  ["import type \x7b"] ++ (imported s).map (fun name => "  " ++ name ++ ",")
    ++ ["\x7d from '" ++ modelImport s ++ "'"]

/-- What a type in the hook stands for: itself, and if the hook has it from the model, what the
model declares under its name, where that is there once. -/
inductive Denotes (s : Schema) : String → String → Prop
  | same (type : String) : Denotes s type type
  | imported {name type : String} (hname : name ∈ imported s)
    (h : (Model.declarations s).filter (·.name = name) = [⟨"type", name, " = " ++ type⟩]) :
    Denotes s name type

/-- A value of the hook's interface can be given to a method of the service that takes some keys of
a record: the record has them, what is given under them has their type, and the members for paging
are those of the service. -/
structure Fits (s : Schema) (keys : List String) : Prop where
  picked : ∀ key ∈ keys, ∃ d ∈ (Model.dataInterface s).members, d.name = key
  typed : ∀ key ∈ keys, ∀ m ∈ (filtersInterface s).members, m.name = key →
    ∀ d ∈ (Model.dataInterface s).members, d.name = key →
      Denotes s m.type d.type ∧ (m.nullable = true → d.nullable = true)
  paged : ∀ page ∈ pageMembers, ∀ m ∈ (filtersInterface s).members, m.name = page.name → m = page

theorem importLines_infix (s : Schema) :
    ∃ lines, text s = unlines lines ∧ importLines s <:+: lines := by
  have hcreate : "  " ++ s.name ++ "CreateInput," =
      "  " ++ (s.name ++ "CreateInput") ++ "," := by
    rw [← String.toList_inj]
    simp
  have hupdate : "  " ++ s.name ++ "UpdateInput," =
      "  " ++ (s.name ++ "UpdateInput") ++ "," := by
    rw [← String.toList_inj]
    simp
  have hheader : importLines s <:+: headerLines s := by
    refine ⟨(headerLines s).take 13, ["", s!"const QUERY_KEY = '{s.table}'"], ?_⟩
    simp [headerLines, importLines, imported, comment, toString, hcreate, hupdate]
  exact ⟨_, rfl, List.infix_append_of_infix_left (List.infix_append_of_infix_left
    (List.infix_append_of_infix_left hheader))⟩

/-! ## What the hook declares -/

/-- The members of the interface that are not for paging. -/
def ownMembers (s : Schema) : List Member :=
  s.enumFields.map (Field.filterMember s.name) ++ (filters s).map Filter.member

theorem declaresOnce_own {s : Schema} (h : Field.CollisionFree s.fields) {m : Member}
    (hm : m ∈ ownMembers s) (hpage : m.name ∉ pageNames) : (filtersInterface s).DeclaresOnce m := by
  have hdeclares := declaresFilters h
  have hnames : (ownMembers s).map (·.name) = s.enumNames ++ (filters s).map (·.name) := by
    rw [ownMembers, List.map_append, List.map_map, List.map_map]
    rfl
  have hnodup : ((ownMembers s).map (·.name)).Nodup := by
    rw [hnames]
    exact List.nodup_append'.2 ⟨Schema.nodup_enumNames h, hdeclares.nodup, hdeclares.disjoint.symm⟩
  have hnone : pageMembers.filter (fun n => n.name = m.name) = [] := by
    rw [List.filter_eq_nil_iff]
    intro n hn heq
    have hkey : n.name = m.name := of_decide_eq_true heq
    exact hpage (List.mem_map.2 ⟨n, hn, hkey⟩)
  have hmembers : (filtersInterface s).members = ownMembers s ++ pageMembers := rfl
  rw [Interface.DeclaresOnce, hmembers, List.filter_append, hnone, List.append_nil]
  exact filter_key_eq hnodup hm

/-- An enumeration is declared with its own type, any other column with the type it has in a record,
and what is no column as a string. -/
theorem exists_ownMember {s : Schema} (h : Field.CollisionFree s.fields) {op : Operation}
    (hop : op ∈ s.operations) {name : String} (hname : name ∈ op.filters) :
    ∃ m ∈ ownMembers s, m.name = name ∧ m.optional = true ∧ m.nullable = false ∧
      (∀ c ∈ s.columns, c.name = name →
        m.type = if c.isEnum then c.typeName s.name else c.scriptType) ∧
      ((∀ c ∈ s.columns, c.name ≠ name) → m.type = "string") := by
  have hdeclares := declaresFilters h
  by_cases henum : name ∈ s.enumFields.map (·.name)
  · obtain ⟨f, hf, rfl⟩ := List.mem_map.1 henum
    have hcolumn := List.mem_filter.1 hf
    refine ⟨f.filterMember s.name, List.mem_append_left _ (List.mem_map_of_mem hf), rfl, rfl, rfl,
      ?_, ?_⟩
    · intro c hc hsame
      have hcf : c = f :=
        List.inj_on_of_nodup_map (Schema.nodup_columnNames h) hc hcolumn.1 hsame
      rw [hcf, if_pos hcolumn.2]
      rfl
    · intro hnone
      exact absurd rfl (hnone f hcolumn.1)
  · have honce := hdeclares.once op hop name hname
    rw [List.count_eq_zero.2 henum, Nat.zero_add] at honce
    obtain ⟨d, hd, rfl⟩ := List.mem_map.1 (List.count_pos_iff.1 (honce ▸ Nat.one_pos))
    refine ⟨d.member, List.mem_append_right _ (List.mem_map_of_mem hd), rfl, rfl, rfl, ?_, ?_⟩
    · intro c hc hsame
      have hplain : c.isEnum ≠ true := fun hisEnum =>
        henum (List.mem_map.2 ⟨c, List.mem_filter.2 ⟨hc, hisEnum⟩, hsame⟩)
      rw [if_neg hplain]
      exact hdeclares.typed d hd c hc hsame
    · exact hdeclares.untyped d hd

end Artifact.Hook

theorem Artifact.Hook.denotes_typeName {s : Schema} {f : Field} (hf : f ∈ s.enumFields)
    (h : (Model.exports s).count (f.typeName s.name) = 1) :
    Denotes s (f.typeName s.name) f.scriptType := by
  have himported : f.typeName s.name ∈ imported s :=
    List.mem_append_right _ (List.mem_map_of_mem hf)
  have hdeclared : Declaration.mk "type" (f.typeName s.name) (" = " ++ literalUnion f.values) ∈
      Model.declarations s :=
    List.mem_append_left _ (List.mem_flatMap.2 ⟨f, hf, List.mem_cons_self⟩)
  rw [← Model.map_name_declarations] at h
  rw [Field.scriptType_of_isEnum (List.mem_filter.1 hf).2]
  exact .imported himported (filter_key_eq_of_count h hdeclared)

/-! ## What the service takes -/

namespace Artifact.Service

def pageOptions : Interface := ⟨"export interface PageOptions", pageMembers⟩

theorem declares_pageOptions (s : Schema) : Declares (text s) pageOptions := by
  have hlines : functionLines s = ["", s!"const FUNCTION_NAME = '{s.table}-crud'", ""]
      ++ pageOptions.lines ++ (functionLines s).drop 7 := by
    simp [functionLines, pageOptions, Interface.lines, Interface.body, pageMembers, Member.line,
      onlyIf]
  have hfunction : pageOptions.lines <:+: functionLines s := by
    rw [hlines]
    exact List.infix_append _ _ _
  exact ⟨_, rfl, List.infix_append_of_infix_left (List.infix_append_of_infix_right hfunction)⟩

/-- A method that filters takes some keys of a record, and what is for paging. -/
theorem parameters_call (s : Schema) {op : Operation} (h : op.type = .list ∨ op.type = .custom) :
    (call s op).parameters = "filters: Partial<Pick<" ++ s.name ++ "Data, " ++ keyUnion op.filters
      ++ ">> & PageOptions = \x7b\x7d" := by
  rcases h with hlist | hcustom
  · simp only [call, hlist]
    rfl
  · simp only [call, hcustom]
    rfl

theorem mentions_parameters (s : Schema) {op : Operation} (hop : op ∈ s.operations) :
    ∃ lines, text s = unlines lines ∧ Mentions lines ("(" ++ (call s op).parameters ++ ")") := by
  have hcall : call s op ∈ calls s := List.mem_map_of_mem hop
  obtain ⟨line, hline, before, after, hheading⟩ :=
    (prints s).mentioned _ hcall (call s op).method.heading List.mem_cons_self
  obtain ⟨lines, htext, hblock⟩ := (prints s).exists_block hcall
  have hmem : line ∈ lines := hblock.subset hline
  refine ⟨lines, htext, .of_eq line (before ++ ("async " ++ (call s op).name)) after hmem ?_⟩
  rw [hheading, Method.heading]
  simp only [Call.method, String.append_assoc]

end Artifact.Service

namespace Schema

/-- How the hook declares a name that some operation filters by: for a column with a type that
stands for the type of the record, and else as a string. -/
structure FilterTyped (s : Schema) (name : String) (m : Member) : Prop where
  name_eq : m.name = name
  once : (Hook.filtersInterface s).DeclaresOnce m
  optional : m.optional = true
  present : m.nullable = false
  column : ∀ c ∈ s.columns, c.name = name →
    (Model.dataInterface s).DeclaresOnce ⟨name, false, c.scriptType, !c.required⟩ ∧
    ((c.isEnum = true → (Model.exports s).count (c.typeName s.name) = 1) →
      Hook.Denotes s m.type c.scriptType)
  other : (∀ c ∈ s.columns, c.name ≠ name) → m.type = "string"

/-- How the filters of the hook go together with the records of the model, and with what the service
takes. -/
structure FiltersFit (s : Schema) : Prop where
  hookShown : Declares (Kind.hook.text s) (Hook.filtersInterface s)
  importsShown : ∃ lines, Kind.hook.text s = unlines lines ∧ Hook.importLines s <:+: lines
  dataShown : Declares (Kind.model.text s) (Model.dataInterface s)
  aliasesShown : Exports (Kind.model.text s) (Model.lines s) (Model.declarations s)
  pageShown : Declares (Kind.service.text s) Service.pageOptions
  parametersShown : ∀ op ∈ s.operations, op.type = .list ∨ op.type = .custom →
    ∃ lines, Kind.service.text s = unlines lines ∧
      Mentions lines ("(" ++ ("filters: Partial<Pick<" ++ s.name ++ "Data, " ++
        keyUnion op.filters ++ ">> & PageOptions = \x7b\x7d") ++ ")")
  picked_iff : ∀ name, (∃ d ∈ (Model.dataInterface s).members, d.name = name) ↔
    ∃ c ∈ s.columns, c.name = name
  typed : ∀ op ∈ s.operations, ∀ name ∈ op.filters, name ∉ pageNames →
    ∃ m, s.FilterTyped name m
  fits_iff : ∀ op ∈ s.operations, ((Hook.filtersInterface s).members.map (·.name)).Nodup →
    (∀ f ∈ s.enumFields, f.name ∈ op.filters →
      (Model.exports s).count (f.typeName s.name) = 1) →
    (Hook.Fits s op.filters ↔ ∀ name ∈ op.filters, ∃ c ∈ s.columns, c.name = name)

theorem mem_dataInterface_iff (s : Schema) (name : String) :
    (∃ d ∈ (Model.dataInterface s).members, d.name = name) ↔ ∃ c ∈ s.columns, c.name = name := by
  constructor
  · rintro ⟨d, hd, hname⟩
    obtain ⟨c, hc, rfl⟩ := List.mem_map.1 hd
    exact ⟨c, hc, hname⟩
  · rintro ⟨c, hc, hname⟩
    exact ⟨c.member, List.mem_map_of_mem hc, hname⟩

theorem denotes_ownMember {s : Schema} {m : Member} {c : Field} (hc : c ∈ s.columns)
    (htype : m.type = if c.isEnum then c.typeName s.name else c.scriptType)
    (h : c.isEnum = true → (Model.exports s).count (c.typeName s.name) = 1) :
    Hook.Denotes s m.type c.scriptType := by
  rw [htype]
  cases hisEnum : c.isEnum with
  | true => exact Hook.denotes_typeName (List.mem_filter.2 ⟨hc, hisEnum⟩) (h hisEnum)
  | false => exact .same c.scriptType

theorem exists_filterTyped {s : Schema} (h : Field.CollisionFree s.fields) {op : Operation}
    (hop : op ∈ s.operations) {name : String} (hname : name ∈ op.filters)
    (hpage : name ∉ pageNames) : ∃ m, s.FilterTyped name m := by
  obtain ⟨m, hm, rfl, hoptional, hpresent, hcolumn, hother⟩ := Hook.exists_ownMember h hop hname
  have hdata : s.DeclaresColumns (·.name) (Model.dataInterface s) :=
    declaresColumns_of_perm (nodup_columnNames h) .rfl
  refine ⟨m, rfl, Hook.declaresOnce_own h hm hpage, hoptional, hpresent, ?_, hother⟩
  intro c hc hsame
  exact ⟨hsame ▸ hdata.once c hc, denotes_ownMember hc (hcolumn c hc hsame)⟩

theorem fits_iff {s : Schema} (h : Field.CollisionFree s.fields) {op : Operation}
    (hop : op ∈ s.operations) (hnodup : ((Hook.filtersInterface s).members.map (·.name)).Nodup)
    (honce : ∀ f ∈ s.enumFields, f.name ∈ op.filters →
      (Model.exports s).count (f.typeName s.name) = 1) :
    Hook.Fits s op.filters ↔ ∀ name ∈ op.filters, ∃ c ∈ s.columns, c.name = name := by
  have hsame {m n : Member} (hm : m ∈ (Hook.filtersInterface s).members)
      (hn : n ∈ (Hook.filtersInterface s).members) (hname : m.name = n.name) : m = n :=
    List.inj_on_of_nodup_map hnodup hm hn hname
  constructor
  · exact fun hfits name hname => (mem_dataInterface_iff s name).1 (hfits.picked name hname)
  · intro hcolumns
    refine ⟨fun name hname => (mem_dataInterface_iff s name).2 (hcolumns name hname), ?_, ?_⟩
    · intro name hname m hm hmname d hd hdname
      obtain ⟨own, hown, hownname, _, hpresent, hcolumn, _⟩ := Hook.exists_ownMember h hop hname
      have heq : m = own := hsame hm (List.mem_append_left _ hown) (hmname.trans hownname.symm)
      obtain ⟨c, hc, rfl⟩ := List.mem_map.1 hd
      rw [heq]
      refine ⟨denotes_ownMember hc (hcolumn c hc hdname) ?_, by simp [hpresent]⟩
      intro hisEnum
      have hcname : c.name = name := hdname
      exact honce c (List.mem_filter.2 ⟨hc, hisEnum⟩) (hcname.symm ▸ hname)
    · intro page hpage m hm hname
      exact hsame hm (List.mem_append_right _ hpage) hname

end Schema

/-- A filter is a member of a record just where it is the name of a column. The hook declares it
with a type that stands for that of the record, or as a string where it is no column, and so what
the hook takes can be given to an operation of the service just where all its filters are
columns. -/
theorem filters_fit {s : Schema} (h : s.Accepted) : s.FiltersFit where
  hookShown := Hook.declares s
  importsShown := Hook.importLines_infix s
  dataShown := Model.declares s (Model.dataInterface s) (List.mem_cons_of_mem _ List.mem_cons_self)
  aliasesShown := Model.exports_text s
  pageShown := Service.declares_pageOptions s
  parametersShown := by
    intro op hop htype
    rw [← Service.parameters_call s htype]
    exact Service.mentions_parameters s hop
  picked_iff := Schema.mem_dataInterface_iff s
  typed _ hop _ hname hpage := Schema.exists_filterTyped h.collisionFree hop hname hpage
  fits_iff _ hop := Schema.fits_iff h.collisionFree hop

/-- An article can be listed by what the hook takes, but not found by its author. -/
theorem article_filters_fit : Schema.article.FiltersFit ∧
    Hook.Fits .article ["status", "title", "step"] ∧ ¬ Hook.Fits .article ["author", "title"] := by
  have hall := filters_fit Schema.article_accepted
  have hnodup : ((Hook.filtersInterface .article).members.map (·.name)).Nodup := by decide
  have honce : ∀ f ∈ Schema.article.enumFields,
      (Model.exports .article).count (f.typeName "Article") = 1 := by decide +kernel
  have hlist := hall.fits_iff Schema.article.operations[0] (by decide) hnodup
    fun f hf _ => honce f hf
  have hcustom := hall.fits_iff Schema.article.operations[2] (by decide) hnodup
    fun f hf _ => honce f hf
  exact ⟨hall, hlist.2 (by decide), fun hfits => absurd (hcustom.1 hfits) (by decide)⟩

theorem author_notMem_data : Schema.article.Accepted ∧
    (∃ op ∈ Schema.article.operations, op.type = .custom ∧ "author" ∈ op.filters) ∧
    ∀ d ∈ (Model.dataInterface .article).members, d.name ≠ "author" :=
  ⟨Schema.article_accepted, by decide, by decide⟩

end Scaffold
