import Scaffold.Artifact.AdminPage
import Scaffold.Artifact.Demo
import Scaffold.Proofs.Ambiguity

/-!
# What the pages ask for

The admin page, the helpers of the command-line client and the demo are written for fixed
operations. They ask for these whether a schema declares them or not; what they ask for is there
just if it does, or if a custom operation goes by the same name.
-/
namespace Scaffold

open Artifact Script Text

/-! ## Requests -/

/-- An operation provides what goes by the name of a standard type. -/
def Operation.GoesBy (op : Operation) (type : OperationType) : Prop :=
  op.type = type ∨ op.type = .custom ∧ op.name = some type.name

theorem Operation.label_eq_iff {op : Operation} {type : OperationType} (htype : type ≠ .custom)
    (hcustom : op.type = .custom → op.name = some op.label) :
    op.label = type.name ↔ op.GoesBy type := by
  by_cases hop : op.type = .custom
  · have hname := hcustom hop
    simp only [GoesBy, hop, htype.symm, false_or, true_and, hname, Option.some.injEq]
  · have hinjective : op.type.name = type.name ↔ op.type = type := by
      cases op.type <;> cases type <;> simp [OperationType.name]
    rw [label, if_neg hop, hinjective]
    simp only [GoesBy, hop, false_and, or_false]

/-- An action is switched on just if some operation goes by it. -/
theorem Schema.mem_labels_iff {s : Schema} (h : s.Accepted) {type : OperationType}
    (htype : type ≠ .custom) : type.name ∈ s.labels ↔ ∃ op ∈ s.operations, op.GoesBy type := by
  have hlabel {op : Operation} (hop : op ∈ s.operations) : op.label = type.name ↔ op.GoesBy type :=
    Operation.label_eq_iff htype fun hcustom => (h.name_of_custom hop hcustom).1
  constructor
  · intro hmem
    obtain ⟨op, hop, hname⟩ := List.mem_map.1 hmem
    exact ⟨op, hop, (hlabel hop).1 hname⟩
  · rintro ⟨op, hop, hgoes⟩
    exact List.mem_map.2 ⟨op, hop, (hlabel hop).2 hgoes⟩

namespace Artifact

/-- The types of operations that the admin page asks for, in the order of its requests. -/
def AdminPage.asked : List OperationType := [.list, .update, .create, .delete]

theorem AdminPage.map_action_requests : requests.map (·.action) = asked.map OperationType.name :=
  rfl

theorem AdminPage.mentions_request (s : Schema) {r : Request} (h : r ∈ requests) :
    Mentions (loadLines s ++ changeLines s) r.text := by
  have hload : Mentions (loadLines s) listRequest.text :=
    .of_eq s!"      setRows(await call<{s.name}Row[]>({listRequest.text}))"
      ("      setRows(await call<" ++ s.name ++ "Row[]>(") "))" (by simp [loadLines]) rfl
  have hupdate : Mentions (changeLines s) updateRequest.text :=
    .of_eq s!"        await call({updateRequest.text})" "        await call(" ")"
      (by simp [changeLines]) rfl
  have hcreate : Mentions (changeLines s) createRequest.text :=
    .of_eq s!"        await call({createRequest.text})" "        await call(" ")"
      (by simp [changeLines]) rfl
  have hdelete : Mentions (changeLines s) deleteRequest.text :=
    .of_eq s!"      await call({deleteRequest.text})" "      await call(" ")"
      (by simp [changeLines]) rfl
  simp only [requests, List.mem_cons, List.not_mem_nil, or_false] at h
  rcases h with rfl | rfl | rfl | rfl
  · exact hload.mono (List.subset_append_left _ _)
  · exact hupdate.mono (List.subset_append_right _ _)
  · exact hcreate.mono (List.subset_append_right _ _)
  · exact hdelete.mono (List.subset_append_right _ _)

/-- The page is a function, and up to what it returns it loads and changes rows. -/
theorem AdminPage.encloses_changes (s : Schema) :
    ["", "export function " ++ s.name ++ "AdminPage() \x7b"] ++ (loadLines s ++ changeLines s) ++
      ["", "  return ("] <:+: lines s := by
  obtain ⟨rest, hpage⟩ : ["", "  return ("] <+: pageLines s := ⟨_, rfl⟩
  refine ⟨headerLines s ++ s.enumFields.flatMap optionsLines ++ examplesLines s ++ [""] ++
    (rowInterface s).lines ++ formLines s ++ callLines,
    rest ++ ["", s!"export default {s.name}AdminPage"], ?_⟩
  rw [lines, ← hpage]
  simp only [toString, List.append_assoc, List.cons_append, List.nil_append]

theorem Client.action_helperCalls {s : Schema} {c : Call} (h : c ∈ helperCalls s) :
    c.request.action = OperationType.list.name := by
  obtain ⟨f, _, hc⟩ := List.mem_flatMap.1 h
  obtain ⟨value, _, rfl⟩ := List.mem_map.1 hc
  rfl

/-- All helpers list rows, so they are provided for together. -/
theorem Client.forall_action_mem_labels_iff {s : Schema} (h : s.Accepted) :
    (∀ c ∈ helperCalls s, c.request.action ∈ s.labels) ↔
      helperCalls s = [] ∨ ∃ op ∈ s.operations, op.GoesBy .list := by
  have hlist : OperationType.list.name ∈ s.labels ↔ ∃ op ∈ s.operations, op.GoesBy .list :=
    Schema.mem_labels_iff h nofun
  rw [← hlist]
  constructor
  · intro hall
    rcases hcalls : helperCalls s with _ | ⟨c, rest⟩
    · exact .inl rfl
    · have hc : c ∈ helperCalls s := hcalls ▸ List.mem_cons_self
      exact .inr (action_helperCalls hc ▸ hall c hc)
  · rintro (hnone | hlist) c hc
    · rw [hnone] at hc
      exact absurd hc List.not_mem_nil
    · rwa [action_helperCalls hc]

/-! ## Members of the hook -/

/-- The type of the operation that gives the demo a member of the hook. -/
def Demo.provider : String → OperationType
  | "create" => .create
  | "remove" => .delete
  | _ => .list

theorem Hook.mem_keys_binding_iff (s : Schema) (op : Operation) {member : String}
    (h : member ∈ Demo.hookMembers) :
    member ∈ (binding s op).entries.map (·.1) ↔
      op.type = Demo.provider member ∨ op.type = .custom ∧ camelCase op.label = member := by
  simp only [Demo.hookMembers, List.mem_cons, List.not_mem_nil, or_false] at h
  rcases h with rfl | rfl | rfl | rfl | rfl <;> cases htype : op.type <;>
    simp [binding, htype, Demo.provider, eq_comm]

theorem Hook.mem_returned_iff (s : Schema) {member : String} (h : member ∈ Demo.hookMembers) :
    member ∈ returned s ↔ ∃ op ∈ s.operations,
      op.type = Demo.provider member ∨ op.type = .custom ∧ camelCase op.label = member := by
  have hreturned : returned s = s.operations.flatMap fun op =>
      (binding s op).entries.map (·.1) := by
    simp only [returned, bindings, operations, Schema.operationsWithout, List.map_map,
      List.flatMap_map]
    refine congrArg (List.flatMap · s.operations) (funext fun op => ?_)
    cases htype : op.type <;> simp [binding, htype, Operation.label]
  rw [hreturned, List.mem_flatMap]
  simp only [mem_keys_binding_iff s _ h]

theorem Hook.entryLine_eq (entry : String × Option String) :
    ∃ after, entryLine entry = "    " ++ entry.1 ++ after := by
  obtain ⟨key, _ | value⟩ := entry
  · exact ⟨",", rfl⟩
  · refine ⟨": " ++ value ++ ",", ?_⟩
    simp only [entryLine, String.append_assoc]

/-- The lines of the object that the hook returns. -/
def Hook.objectLines (s : Schema) : List String :=
  ["  return \x7b"] ++ (bindings s).flatMap (fun b => b.entries.map entryLine) ++ ["  \x7d"]

theorem Hook.encloses_object (s : Schema) : objectLines s <:+: lines s := by
  have hwithin (before entries : List String) (blank opening closing last : String) :
      [opening] ++ entries ++ [closing] <:+:
        before ++ [blank, opening] ++ entries ++ [closing, last] :=
    ⟨before ++ [blank], [last], by simp⟩
  have hfunction : objectLines s <:+: functionLines s := hwithin ..
  exact List.infix_append_of_infix_right hfunction

/-- The component is a function that first takes what it needs from the hook. -/
theorem Demo.encloses_members (s : Schema) :
    ["", "export function " ++ s.name ++ "sDemo() \x7b",
      "  const \x7b " ++ ", ".intercalate hookMembers ++ " \x7d = use" ++ s.name ++ "s()",
      "  const [form, setForm] = useState<DemoForm>(EMPTY_FORM)"] <:+: lines s := by
  have hform : ["", "export function " ++ s.name ++ "sDemo() \x7b",
      "  const \x7b " ++ ", ".intercalate hookMembers ++ " \x7d = use" ++ s.name ++ "s()",
      "  const [form, setForm] = useState<DemoForm>(EMPTY_FORM)"] <+: formLines s := by
    simp [formLines, toString, String.append_assoc]
  exact List.infix_append_of_infix_left (List.infix_append_of_infix_right hform.isInfix)

end Artifact

/-! ## What is provided -/

namespace Schema

/-- Operations of all types that the pages are written for. -/
def Complete (s : Schema) : Prop := ∀ type ∈ AdminPage.asked, ∃ op ∈ s.operations, op.type = type

instance (s : Schema) : Decidable s.Complete :=
  inferInstanceAs (Decidable (∀ type ∈ AdminPage.asked, ∃ op ∈ s.operations, op.type = type))

/-- How far the operations of a schema provide what the pages ask for, in the values they are made
of and in what shows of these in their texts. -/
structure Provides (s : Schema) : Prop where
  written : Endpoint.text s = unlines (Endpoint.lines s) ∧
    AdminPage.text s = unlines (AdminPage.lines s) ∧ Client.text s = unlines (Client.lines s) ∧
    Demo.text s = unlines (Demo.lines s) ∧ Hook.text s = unlines (Hook.lines s)
  labelsShown : (Endpoint.lines s).filterMap Endpoint.caseLabel? = s.labels
  endpointShown : Prints (Endpoint.text s) (Endpoint.lines s) ["    switch (body.action) \x7b"]
    (Endpoint.branches s) Endpoint.Branch.lines ["      default:"] Endpoint.Branch.pieces
  sent : AdminPage.requests.map (·.action) = AdminPage.asked.map OperationType.name
  sentShown : (["", "export function " ++ s.name ++ "AdminPage() \x7b"] ++
      (AdminPage.loadLines s ++ AdminPage.changeLines s) ++ ["", "  return ("] <:+:
        AdminPage.lines s) ∧
    ∀ r ∈ AdminPage.requests, Mentions (AdminPage.loadLines s ++ AdminPage.changeLines s) r.text
  handled : ∀ type ∈ AdminPage.asked, type.name ∈ s.labels ↔ ∃ op ∈ s.operations, op.GoesBy type
  helped : ∀ c ∈ Client.helperCalls s, c.request.action = OperationType.list.name
  helpedHandled : (∀ c ∈ Client.helperCalls s, c.request.action ∈ s.labels) ↔
    Client.helperCalls s = [] ∨ ∃ op ∈ s.operations, op.GoesBy .list
  helpedShown : Prints (Client.text s) (Client.lines s) (Client.opening s)
    (Client.operationCalls s ++ Client.helperCalls s) (fun c => "" :: c.method.lines "") ["\x7d"]
    Client.Call.pieces
  taken : ∀ member ∈ Demo.hookMembers, member ∈ Hook.returned s ↔ ∃ op ∈ s.operations,
    op.type = Demo.provider member ∨ op.type = .custom ∧ camelCase op.label = member
  takenShown : ["", "export function " ++ s.name ++ "sDemo() \x7b",
    "  const \x7b " ++ ", ".intercalate Demo.hookMembers ++ " \x7d = use" ++ s.name ++ "s()",
    "  const [form, setForm] = useState<DemoForm>(EMPTY_FORM)"] <:+: Demo.lines s
  returnedShown : (Hook.objectLines s <:+: Hook.lines s) ∧
    ∀ entry, ∃ after, Hook.entryLine entry = "    " ++ entry.1 ++ after
  complete : s.Complete → (∀ r ∈ AdminPage.requests, r.action ∈ s.labels) ∧
    (∀ c ∈ Client.helperCalls s, c.request.action ∈ s.labels) ∧
    ∀ member ∈ Demo.hookMembers, member ∈ Hook.returned s

theorem mem_labels_of_complete {s : Schema} (h : s.Complete) {type : OperationType}
    (htype : type ∈ AdminPage.asked) : type.name ∈ s.labels := by
  obtain ⟨op, hop, rfl⟩ := h type htype
  have hcustom : op.type ≠ .custom := fun hcustom => by
    rw [hcustom] at htype
    exact absurd htype (by decide)
  refine List.mem_map.2 ⟨op, hop, ?_⟩
  rw [Operation.label, if_neg hcustom]

end Schema

/-- The pages get what they ask for just as far as there are operations for it. -/
theorem operations_provide {s : Schema} (h : s.Accepted) : s.Provides where
  written := ⟨rfl, rfl, rfl, rfl, rfl⟩
  labelsShown := Endpoint.filterMap_caseLabel?_eq_labels s
  endpointShown := Endpoint.prints s
  sent := AdminPage.map_action_requests
  sentShown := ⟨AdminPage.encloses_changes s, fun _ hr => AdminPage.mentions_request s hr⟩
  handled type htype := by
    refine Schema.mem_labels_iff h ?_
    rintro rfl
    exact absurd htype (by decide)
  helped _ hc := Client.action_helperCalls hc
  helpedHandled := Client.forall_action_mem_labels_iff h
  helpedShown := Client.prints_calls s
  taken _ hmember := Hook.mem_returned_iff s hmember
  takenShown := Demo.encloses_members s
  returnedShown := ⟨Hook.encloses_object s, Hook.entryLine_eq⟩
  complete hcomplete := by
    refine ⟨fun r hr => ?_, fun c hc => ?_, fun member hmember => ?_⟩
    · have hasked : r.action ∈ AdminPage.asked.map OperationType.name :=
        AdminPage.map_action_requests ▸ List.mem_map_of_mem hr
      obtain ⟨type, htype, hname⟩ := List.mem_map.1 hasked
      exact hname ▸ Schema.mem_labels_of_complete hcomplete htype
    · have hasked : OperationType.list ∈ AdminPage.asked := by decide
      rw [Client.action_helperCalls hc]
      exact Schema.mem_labels_of_complete hcomplete hasked
    · have hasked : Demo.provider member ∈ AdminPage.asked := by
        have hall : ∀ member ∈ Demo.hookMembers, Demo.provider member ∈ AdminPage.asked := by
          decide
        exact hall member hmember
      obtain ⟨op, hop, htype⟩ := hcomplete _ hasked
      exact (Hook.mem_returned_iff s hmember).2 ⟨op, hop, .inl htype⟩

theorem article_operations_provide :
    Schema.article.Provides ∧ ¬ Schema.article.Complete ∧
      "items" ∈ Hook.returned .article ∧ "create" ∉ Hook.returned .article := by
  have hprovides := operations_provide Schema.article_accepted
  refine ⟨hprovides, by decide, (hprovides.taken _ (by decide)).2 (by decide), ?_⟩
  rw [hprovides.taken _ (by decide)]
  decide

/-! ## A schema without operations -/

namespace Schema

/-- A schema that offers nothing, though its enumeration gives the client a helper. -/
def mute : Schema where
  name := "Mute"
  table := "mutes"
  fields := [
    { name := "status", column := "status", type := .enum, enumValues := some ["draft", "live"] }]
  operations := []
  policies := []

def muteEntries : Entries := [
  (.text "name", .text "Mute"),
  (.text "tableName", .text "mutes"),
  (.text "fields", .list [.map [
    (.text "name", .text "status"), (.text "dbName", .text "status"), (.text "type", .text "enum"),
    (.text "enumValues", .list [.text "draft", .text "live"])]]),
  (.text "operations", .list []),
  (.text "rls", .list [])]

theorem mute_accepted : mute.Accepted := (accepted_iff mute).2 ⟨muteEntries, rfl⟩

end Schema

/-- The helper of the enumeration clashes with nothing. -/
theorem Artifact.Client.live_mem_helperCalls :
    helperCall .mute Schema.mute.fields[0] "live" ∈ helperCalls .mute := by
  have hfits : (clashes (standardMethods ++ customMethods .mute) Schema.mute.fields[0]).isEmpty =
      true := by
    rw [isEmpty_clashes_iff]
    decide
  have hkept : enumFields .mute = [Schema.mute.fields[0]] := by
    have hfields : Schema.mute.enumFields = [Schema.mute.fields[0]] := rfl
    change kept (standardMethods ++ customMethods .mute) Schema.mute.enumFields = _
    rw [hfields, kept_cons, if_pos hfits]
    rfl
  rw [helperCalls, hkept]
  exact List.mem_singleton_self _

/-- The pages ask for what no operation provides. -/
theorem mute_asked_in_vain : Schema.mute.Accepted ∧
    (∀ r ∈ AdminPage.requests,
      r.action ∉ (Endpoint.lines .mute).filterMap Endpoint.caseLabel?) ∧
    (∃ c ∈ Client.helperCalls .mute, c.request.action ∉ Schema.mute.labels) ∧
    ∀ member ∈ Demo.hookMembers, member ∉ Hook.returned .mute := by
  refine ⟨Schema.mute_accepted, ?_, ?_, by decide⟩
  · rw [Endpoint.filterMap_caseLabel?_eq_labels]
    decide
  · exact ⟨_, Client.live_mem_helperCalls, List.not_mem_nil⟩

end Scaffold
