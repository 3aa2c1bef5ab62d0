import Scaffold.Artifact.Rendering
import Scaffold.Proofs.Collision

/-!
# The layers agree on the records

Some layers list the columns of a schema, others the fields that a row can be given, with the rest
written out. In a schema that was accepted these are the same columns: no declared field is taken
for a standard one.
-/
namespace Scaffold

open Artifact Script Text

/-! ## The fields of a schema -/

namespace Schema

/-- Of the standard fields a row can be given its owner, and of the declared ones all that are not
taken for a key or a time stamp. -/
theorem writableFields_eq_filter (s : Schema) : s.writableFields =
    Field.owner :: s.fields.filter fun f => !f.primaryKey && !f.isTimestamp := by
  have hleading : Field.leading.filter (fun f => !f.primaryKey && !f.isTimestamp) =
      [Field.owner] := by decide
  have htrailing : Field.trailing.filter (fun f => !f.primaryKey && !f.isTimestamp) = [] := by
    decide
  rw [writableFields, columns, List.filter_append, List.filter_append, hleading, htrailing,
    List.append_nil]
  rfl

/-- Where declared fields keep away from the standard ones, a row can be given its owner and what is
declared. -/
theorem writableFields_eq {s : Schema} (h : Field.CollisionFree s.fields) :
    s.writableFields = Field.owner :: s.fields := by
  rw [writableFields_eq_filter, List.cons.injEq, List.filter_eq_self]
  refine ⟨rfl, fun f hf => ?_⟩
  have hname : ∀ t ∈ Field.standard, t.name ≠ f.name :=
    fun t ht howns => (h.unreserved f hf).1 ⟨t, ht, .inl howns⟩
  have hcreated := hname Field.createdAt (by decide)
  have hupdated := hname Field.updatedAt (by decide)
  simp [h.noPrimaryKey f hf, Field.isTimestamp, hcreated.symm, hupdated.symm]

/-- What can be changed later is what is declared. -/
theorem updatableFields_eq {s : Schema} (h : Field.CollisionFree s.fields) :
    s.updatableFields = s.fields := by
  rw [updatableFields, writableFields_eq h, List.filter_cons_of_neg (by decide),
    List.filter_eq_self]
  intro f hf
  have hname : Field.owner.name ≠ f.name :=
    fun howns => (h.unreserved f hf).1 ⟨Field.owner, by decide, .inl howns⟩
  simpa using hname.symm

end Schema

/-! ## Declarations -/

/-- Where a key is there once, an item is all that has it. -/
theorem filter_key_eq_of_count {α κ : Type} [DecidableEq κ] {key : α → κ} {items : List α} {a : α}
    (h : (items.map key).count (key a) = 1) (ha : a ∈ items) :
    items.filter (fun b => key b = key a) = [a] := by
  have hlength : (items.filter fun b => key b = key a).length = 1 := by
    rw [← List.countP_eq_length_filter, ← h, List.count, List.countP_map]
    rfl
  obtain ⟨b, hb⟩ := List.length_eq_one_iff.1 hlength
  have hmem : a ∈ items.filter fun b => key b = key a := List.mem_filter.2 ⟨ha, by simp⟩
  rw [hb, List.mem_singleton] at hmem
  rw [hb, hmem]

/-- Where keys are different, an item is all that has its key. -/
theorem filter_key_eq {α κ : Type} [DecidableEq κ] {key : α → κ} {items : List α} {a : α}
    (h : (items.map key).Nodup) (ha : a ∈ items) : items.filter (fun b => key b = key a) = [a] :=
  filter_key_eq_of_count (List.count_eq_one_of_mem h (List.mem_map_of_mem ha)) ha

/-- What is made of fields whose names are different is found by name. -/
theorem filter_made_eq {α : Type} (make : Field → α) (key : α → String)
    (hkey : ∀ f, key (make f) = f.name) {fields : List Field}
    (hnames : (fields.map (·.name)).Nodup) {f : Field} (hf : f ∈ fields) :
    (fields.map make).filter (fun a => key a = key (make f)) = [make f] := by
  have hkeys : (fields.map make).map key = fields.map (·.name) := by
    rw [List.map_map]
    exact List.map_congr_left fun f _ => hkey f
  exact filter_key_eq (hkeys ▸ hnames) (List.mem_map_of_mem hf)

namespace Script

/-- An interface declares a member, and no other one of its name. -/
def Interface.DeclaresOnce (i : Interface) (m : Member) : Prop :=
  i.members.filter (fun n => n.name = m.name) = [m]

theorem Interface.declaresOnce {i : Interface} {m : Member}
    (h : (i.members.map (·.name)).Nodup) (hm : m ∈ i.members) : i.DeclaresOnce m :=
  filter_key_eq h hm

/-- The lines of an interface stand together in a text. -/
def Declares (text : String) (i : Interface) : Prop :=
  ∃ lines, text = unlines lines ∧ i.lines <:+: lines

theorem declares_of_mem {i : Interface} {parts : List (List String)} (h : i.lines ∈ parts) :
    Declares (unlines parts.flatten) i :=
  ⟨parts.flatten, rfl, List.infix_of_mem_flatten h⟩

end Script

/-! ## What the texts declare -/

namespace Artifact

theorem Repository.declares (s : Schema) :
    ∀ i ∈ [recordInterface s, inputInterface s, filtersInterface s], Declares (text s) i := by
  have htext : text s = unlines [headerLines s, [""], (recordInterface s).lines, [""],
      (inputInterface s).lines, [""], (filtersInterface s).lines, columnsLines s, toRecordLines s,
      classLines s].flatten := by
    simp only [text, lines, List.flatten_cons, List.flatten_nil, List.append_nil, List.append_assoc]
  rw [htext, List.forall_mem_cons, List.forall_mem_cons, List.forall_mem_singleton]
  exact ⟨declares_of_mem (by simp), declares_of_mem (by simp), declares_of_mem (by simp)⟩

theorem Model.declares (s : Schema) :
    ∀ i ∈ [rowInterface s, dataInterface s, createType s, updateType s], Declares (text s) i := by
  have htext : text s = unlines [headerLines s, s.enumFields.flatMap (enumLines s), [""],
      (rowInterface s).lines, [""], (dataInterface s).lines, [""], (createType s).lines, [""],
      (updateType s).lines, classLines s].flatten := by
    simp only [text, lines, List.flatten_cons, List.flatten_nil, List.append_nil, List.append_assoc]
  rw [htext, List.forall_mem_cons, List.forall_mem_cons, List.forall_mem_cons,
    List.forall_mem_singleton]
  exact ⟨declares_of_mem (by simp), declares_of_mem (by simp), declares_of_mem (by simp),
    declares_of_mem (by simp)⟩

theorem AdminPage.declares (s : Schema) : Declares (text s) (rowInterface s) := by
  have htext : text s = unlines [headerLines s, s.enumFields.flatMap optionsLines, examplesLines s,
      [""], (rowInterface s).lines, formLines s, callLines,
      ["", s!"export function {s.name}AdminPage() \x7b"], loadLines s, changeLines s, pageLines s,
      ["", s!"export default {s.name}AdminPage"]].flatten := by
    simp only [text, lines, List.flatten_cons, List.flatten_nil, List.append_nil, List.append_assoc]
  rw [htext]
  exact declares_of_mem (by simp)

theorem Client.declares (s : Schema) :
    ∀ i ∈ [recordInterface s, createInterface s, updateInterface s, filtersInterface s],
      Declares (text s) i := by
  have htext : text s = unlines [headerLines s, (enumFields s).flatMap (enumLines s),
      [""], comment "" [s.name ++ " type"], (recordInterface s).lines,
      [""], comment "" [s.name ++ " create input"], (createInterface s).lines,
      [""], comment "" [s.name ++ " update input"], (updateInterface s).lines,
      [""], comment "" [s.name ++ " list filters"], (filtersInterface s).lines,
      titled (s.name ++ " API Client") (classLines s)].flatten := by
    simp only [text, lines, titled, List.flatten_cons, List.flatten_nil, List.append_nil,
      List.append_assoc]
  rw [htext, List.forall_mem_cons, List.forall_mem_cons, List.forall_mem_cons,
    List.forall_mem_singleton]
  exact ⟨declares_of_mem (by simp), declares_of_mem (by simp), declares_of_mem (by simp),
    declares_of_mem (by simp)⟩

end Artifact

/-! ## Agreement -/

namespace Schema

/-- An interface that declares each column of a schema exactly once, under a name by which columns
are told apart, with its type and whether it can be null, and nothing else. -/
structure DeclaresColumns (s : Schema) (name : Field → String) (i : Interface) : Prop where
  once : ∀ c ∈ s.columns, i.DeclaresOnce ⟨name c, false, c.scriptType, !c.required⟩
  only : i.members.length = s.columns.length

theorem declaresColumns_of_perm {s : Schema} {name : Field → String} {i : Interface}
    (hnames : (s.columns.map name).Nodup)
    (h : i.members.Perm (s.columns.map fun c => ⟨name c, false, c.scriptType, !c.required⟩)) :
    s.DeclaresColumns name i := by
  constructor
  · intro c hc
    refine Interface.declaresOnce ?_ (h.mem_iff.2 (List.mem_map_of_mem hc))
    rw [(h.map Member.name).nodup_iff, List.map_map]
    exact hnames
  · rw [h.length_eq, List.length_map]

/-- The layers agree on what a record is: three of them on a row of the table, two on a record in
code. -/
structure RecordsAgree (s : Schema) : Prop where
  columns : (Repository.recordInterface s).body = s.columns.map fun c =>
    "  " ++ c.column ++ ": " ++ c.scriptType ++ onlyIf (!c.required) " | null"
  model : (Model.rowInterface s).body = (Repository.recordInterface s).body
  adminPage : (AdminPage.rowInterface s).body = (Repository.recordInterface s).body
  client : (Client.recordInterface s).body.Perm (Model.dataInterface s).body
  rows : ∀ i ∈ [Repository.recordInterface s, Model.rowInterface s, AdminPage.rowInterface s],
    s.DeclaresColumns (·.column) i
  records : ∀ i ∈ [Model.dataInterface s, Client.recordInterface s], s.DeclaresColumns (·.name) i
  repositoryShown : Declares (Kind.repository.text s)
    ⟨"export interface " ++ s.name ++ "Record", (Repository.recordInterface s).members⟩
  rowShown : Declares (Kind.model.text s)
    ⟨"export interface " ++ s.name ++ "DatabaseRecord", (Model.rowInterface s).members⟩
  adminPageShown : Declares (Kind.adminPage.text s)
    ⟨"interface " ++ s.name ++ "Row", (AdminPage.rowInterface s).members⟩
  dataShown : Declares (Kind.model.text s)
    ⟨"export interface " ++ s.name ++ "Data", (Model.dataInterface s).members⟩
  clientShown : Declares (Kind.client.text s)
    ⟨"export interface " ++ s.name, (Client.recordInterface s).members⟩

/-- The admin page writes out the columns that no row is given. -/
theorem members_adminPage {s : Schema} (h : Field.CollisionFree s.fields) :
    (AdminPage.rowInterface s).members = s.columns.map Field.columnMember := by
  rw [AdminPage.rowInterface, writableFields_eq h, columns, List.map_append, List.map_append]
  rfl

/-- So does the client, in another order. -/
theorem perm_members_client {s : Schema} (h : Field.CollisionFree s.fields) :
    (Client.recordInterface s).members.Perm (s.columns.map Field.member) := by
  have hclient : (Client.recordInterface s).members =
      s.writableFields.map Field.member ++ Client.keptMembers := rfl
  have hcolumns : s.columns.map Field.member = Field.id.member ::
      ((Field.owner :: s.fields).map Field.member ++
        [Field.createdAt.member, Field.updatedAt.member]) := by
    rw [columns, List.map_append, List.map_append]
    rfl
  rw [hclient, hcolumns, writableFields_eq h]
  exact List.perm_middle

theorem line_columnMember (c : Field) : c.columnMember.line =
    "  " ++ c.column ++ ": " ++ c.scriptType ++ onlyIf (!c.required) " | null" := by
  change "  " ++ c.column ++ "" ++ ": " ++ c.scriptType ++ onlyIf (!c.required) " | null" = _
  rw [String.append_empty]

end Schema

theorem records_agree {s : Schema} (h : s.Accepted) : s.RecordsAgree := by
  have hadmin := Schema.members_adminPage h.collisionFree
  have hclient := Schema.perm_members_client h.collisionFree
  have hrows {i : Interface} (hi : i.members = s.columns.map Field.columnMember) :
      s.DeclaresColumns (·.column) i :=
    Schema.declaresColumns_of_perm (Schema.nodup_columnColumns h.collisionFree) (hi ▸ .rfl)
  have hrecords {i : Interface} (hi : i.members.Perm (s.columns.map Field.member)) :
      s.DeclaresColumns (·.name) i :=
    Schema.declaresColumns_of_perm (Schema.nodup_columnNames h.collisionFree) hi
  exact {
    columns := List.map_map.trans (List.map_congr_left fun c _ => Schema.line_columnMember c)
    model := rfl
    adminPage := congrArg (List.map Member.line) hadmin
    client := hclient.map Member.line
    rows := by
      rw [List.forall_mem_cons, List.forall_mem_cons, List.forall_mem_singleton]
      exact ⟨hrows rfl, hrows rfl, hrows hadmin⟩
    records := by
      rw [List.forall_mem_cons, List.forall_mem_singleton]
      exact ⟨hrecords .rfl, hrecords hclient⟩
    repositoryShown := Repository.declares s (Repository.recordInterface s) (by simp)
    rowShown := Model.declares s (Model.rowInterface s) (by simp)
    adminPageShown := AdminPage.declares s
    dataShown := Model.declares s (Model.dataInterface s) (by simp)
    clientShown := Client.declares s (Client.recordInterface s) (by simp) }

theorem article_records_agree : Schema.article.RecordsAgree ∧
    (AdminPage.rowInterface Schema.article).body = [
      "  id: string", "  user_id: string", "  title: string", "  status: 'draft' | 'live' | null",
      "  last_step: 'none' | 'create' | null", "  created_at: string", "  updated_at: string"] :=
  ⟨records_agree Schema.article_accepted, by decide +kernel⟩

end Scaffold
