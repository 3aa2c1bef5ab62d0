import Mathlib.Data.List.Nodup
import Mathlib.Data.List.Perm.Basic
import Scaffold.Proofs.Filtering
import Scaffold.Proofs.Layers

/-!
# When operations get in each other's way

Nothing keeps a schema from declaring an operation twice, or a custom one under the name of another.
A layer tells its operations apart exactly if it has a name of its own for each of them. The helpers
of the command-line client never add to the confusion.
-/
namespace Scaffold

open Artifact Script Text

/-! ## Names for operations -/

/-- The method by which the service and the client offer a standard operation. -/
def OperationType.method : OperationType → String
  | .get => "getById"
  | type => type.name

/-- How a layer names its operations: a standard one by its type, a custom one by its label.
Standard operations of two types never get the same name. -/
structure Naming where
  standard : OperationType → String
  custom : String → String
  injective : ∀ t t', t ≠ .custom → t' ≠ .custom → standard t = standard t' → t = t'

namespace Naming

/-- The names that the endpoint switches on. -/
def labels : Naming where
  standard := OperationType.name
  custom := id
  injective t t' ht ht' h := by
    cases t <;> cases t' <;> simp_all [OperationType.name]

/-- The names of the methods of the service and of the client. -/
def methods : Naming where
  standard := OperationType.method
  custom := camelCase
  injective t t' ht ht' h := by
    cases t <;> cases t' <;> simp_all [OperationType.method, OperationType.name]

def name (n : Naming) (op : Operation) : String :=
  if op.type = .custom then n.custom op.label else n.standard op.type

end Naming

def Schema.standardOperations (s : Schema) : List Operation :=
  s.operations.filter fun op => op.type ≠ .custom

namespace Naming

/-- No standard operation is declared twice, and no custom one has the name of another operation. -/
structure Unambiguous (n : Naming) (s : Schema) : Prop where
  once : (s.standardOperations.map (·.type)).Nodup
  distinct : ((s.operationsOf .custom).map fun op => n.custom op.label).Nodup
  apart : ∀ op ∈ s.operationsOf .custom, ∀ o ∈ s.standardOperations,
    n.custom op.label ≠ n.standard o.type

variable (n : Naming) (s : Schema)

theorem map_name_perm : List.Perm
    (s.standardOperations.map (fun op => n.standard op.type) ++
      (s.operationsOf .custom).map fun op => n.custom op.label)
    (s.operations.map n.name) := by
  have hstandard : s.standardOperations.map (fun op => n.standard op.type) =
      s.standardOperations.map n.name := by
    refine List.map_congr_left fun op hop => ?_
    have htype : op.type ≠ .custom := by simpa using (List.mem_filter.1 hop).2
    rw [name, if_neg htype]
  have hcustom : (s.operationsOf .custom).map (fun op => n.custom op.label) =
      (s.operationsOf .custom).map n.name := by
    refine List.map_congr_left fun op hop => ?_
    have htype : op.type = .custom := by simpa using (List.mem_filter.1 hop).2
    rw [name, if_pos htype]
  have hsplit : List.Perm (s.standardOperations ++ s.operationsOf .custom) s.operations := by
    have hperm := List.filter_append_perm (fun op : Operation => decide (op.type ≠ .custom))
      s.operations
    simpa [Schema.standardOperations, Schema.operationsOf] using hperm
  rw [hstandard, hcustom, ← List.map_append]
  exact hsplit.map n.name

theorem nodup_standard_iff :
    (s.standardOperations.map fun op => n.standard op.type).Nodup ↔
      (s.standardOperations.map (·.type)).Nodup := by
  have hcompose : s.standardOperations.map (fun op => n.standard op.type) =
      (s.standardOperations.map (·.type)).map n.standard := by
    rw [List.map_map]
    rfl
  rw [hcompose]
  refine ⟨List.Nodup.of_map n.standard, fun hnodup => hnodup.map_on fun t ht t' ht' => ?_⟩
  have hstandard {t : OperationType} (ht : t ∈ s.standardOperations.map (·.type)) :
      t ≠ .custom := by
    obtain ⟨op, hop, rfl⟩ := List.mem_map.1 ht
    simpa using (List.mem_filter.1 hop).2
  exact n.injective t t' (hstandard ht) (hstandard ht')

/-- A layer has a name of its own for each operation just if the schema is unambiguous for it. -/
theorem nodup_map_name_iff : (s.operations.map n.name).Nodup ↔ n.Unambiguous s := by
  rw [← (n.map_name_perm s).nodup_iff, List.nodup_append, n.nodup_standard_iff]
  constructor
  · rintro ⟨honce, hdistinct, hapart⟩
    refine ⟨honce, hdistinct, fun op hop o ho hsame => ?_⟩
    exact hapart _ (List.mem_map_of_mem ho) _ (List.mem_map_of_mem hop) hsame.symm
  · rintro ⟨honce, hdistinct, hapart⟩
    refine ⟨honce, hdistinct, fun a ha b hb hsame => ?_⟩
    obtain ⟨o, ho, rfl⟩ := List.mem_map.1 ha
    obtain ⟨op, hop, rfl⟩ := List.mem_map.1 hb
    exact hapart op hop o ho hsame.symm

instance : Decidable (n.Unambiguous s) := decidable_of_iff _ (n.nodup_map_name_iff s)

end Naming

namespace Artifact

/-! ## The endpoint and the service -/

theorem Endpoint.labels_eq (s : Schema) : s.labels = s.operations.map Naming.labels.name := by
  refine List.map_congr_left fun op _ => ?_
  by_cases hcustom : op.type = .custom
  · rw [Naming.name, if_pos hcustom]
    rfl
  · rw [Operation.label, if_neg hcustom, Naming.name, if_neg hcustom]
    rfl

/-- The labels can be read off the text. -/
theorem Endpoint.filterMap_caseLabel?_eq_labels (s : Schema) :
    (lines s).filterMap caseLabel? = s.labels := by
  rw [filterMap_caseLabel?_lines_text, map_action_branches, Schema.labels]

/-- If the labels differ, the branch that is taken for a label is the one for its operation. -/
theorem Endpoint.find?_branch {s : Schema} (hnodup : s.labels.Nodup) {op : Operation}
    (hop : op ∈ s.operations) :
    (branches s).find? (fun b => b.action = op.label) = some (branch s op) := by
  have hactions : ((branches s).map (·.action)).Nodup := by
    rwa [map_action_branches]
  have hmem : branch s op ∈ branches s := List.mem_map_of_mem hop
  rcases hfound : (branches s).find? fun b => b.action = op.label with _ | b
  · have hnone := List.find?_eq_none.1 hfound _ hmem
    simp [action_branch] at hnone
  · have haction : b.action = (branch s op).action := by
      rw [action_branch]
      simpa using List.find?_some hfound
    have hsame := List.inj_on_of_nodup_map hactions (List.mem_of_find?_eq_some hfound) hmem haction
    exact hfound.trans (congrArg some hsame)

theorem Service.name_call (s : Schema) (op : Operation) :
    (call s op).name = Naming.methods.name op := by
  cases htype : op.type <;>
    simp [call, query, Naming.name, Naming.methods, OperationType.method, OperationType.name, htype]

theorem Service.map_name_calls (s : Schema) :
    (calls s).map (·.name) = s.operations.map Naming.methods.name := by
  rw [calls, List.map_map]
  exact List.map_congr_left fun op _ => name_call s op

theorem Client.name_call (s : Schema) (op : Operation) :
    (call s op).name = Naming.methods.name op := by
  cases htype : op.type <;>
    simp [call, query, Naming.name, Naming.methods, OperationType.method, OperationType.name, htype]

theorem Client.map_name_operationCalls (s : Schema) :
    (operationCalls s).map (·.name) = s.operations.map Naming.methods.name := by
  rw [operationCalls, operations, Schema.operationsWithout, List.map_map, List.map_map]
  exact List.map_congr_left fun op _ => name_call s _

/-! ## The repository -/

namespace Repository

/-- The methods that a repository has whatever the operations are, the private one first. -/
def builtIns : List String :=
  [applyFiltersName, "list", "findById", "create", "update", "delete"]

/-- The names of all methods that the class declares. -/
def names (s : Schema) : List String := applyFiltersName :: (methods s).map (·.name)

theorem names_eq (s : Schema) :
    names s = builtIns ++ (s.operationsOf .custom).map fun op => camelCase op.label := by
  simp [names, methods, builtIns, queries, listQuery, findMethod, createMethod, updateMethod,
    deleteMethod, Query.method, customQuery, Function.comp_def]

/-- The methods differ just if the custom operations do, from each other and from what is there. -/
theorem nodup_names_iff (s : Schema) :
    (names s).Nodup ↔ ((s.operationsOf .custom).map fun op => camelCase op.label).Nodup ∧
      ∀ op ∈ s.operationsOf .custom, camelCase op.label ∉ builtIns := by
  have hbuiltIns : builtIns.Nodup := by decide
  rw [names_eq, List.nodup_append]
  constructor
  · rintro ⟨_, hdistinct, hapart⟩
    refine ⟨hdistinct, fun op hop hbuiltIn => ?_⟩
    exact hapart _ hbuiltIn _ (List.mem_map_of_mem hop) rfl
  · rintro ⟨hdistinct, hapart⟩
    refine ⟨hbuiltIns, hdistinct, fun a ha b hb hsame => ?_⟩
    obtain ⟨op, hop, rfl⟩ := List.mem_map.1 hb
    exact hapart op hop (hsame ▸ ha)

end Repository

/-! ## The command-line client -/

namespace Client

/-- The enumerations that are kept, besides methods that are taken. -/
def kept (taken : List String) (fields : List Field) : List Field :=
  (firstFit taken fields).filterMap fun (f, clashing) => if clashing.isEmpty then some f else none

theorem kept_cons (taken : List String) (f : Field) (rest : List Field) :
    kept taken (f :: rest) =
      if (clashes taken f).isEmpty then f :: kept (taken ++ helpers f) rest
      else kept taken rest := by
  rw [kept, firstFit, List.filterMap_cons]
  cases hclash : (clashes taken f).isEmpty <;> simp [kept, hclash]

/-- By induction on the fields: what is kept has helpers that are new, and each of them once. -/
theorem nodup_helpers_kept (taken : List String) (fields : List Field) :
    ((kept taken fields).flatMap helpers).Nodup ∧
      ∀ h ∈ (kept taken fields).flatMap helpers, h ∉ taken := by
  induction fields generalizing taken with
  | nil => exact ⟨.nil, nofun⟩
  | cons f rest ih =>
    rw [kept_cons]
    split
    · next hfits =>
      have hnew := (isEmpty_clashes_iff taken f).1 hfits
      obtain ⟨hnodup, hlater⟩ := ih (taken ++ helpers f)
      rw [List.flatMap_cons]
      refine ⟨List.nodup_append.2 ⟨?_, hnodup, ?_⟩, ?_⟩
      · rw [List.nodup_iff_count_le_one]
        intro h
        by_cases hmem : h ∈ helpers f
        · exact (hnew h hmem).2
        · rw [List.count_eq_zero.2 hmem]
          exact Nat.zero_le 1
      · rintro a ha b hb rfl
        exact hlater a hb (List.mem_append_right taken ha)
      · intro h hmem
        rcases List.mem_append.1 hmem with hfirst | hrest
        · exact (hnew h hfirst).1
        · intro htaken
          exact hlater h hrest (List.mem_append_left _ htaken)
    · exact ih taken

theorem map_name_helperCalls (s : Schema) :
    (helperCalls s).map (·.name) = (enumFields s).flatMap helpers := by
  simp only [helperCalls, List.map_flatMap, List.map_map]
  rfl

/-- Whatever operations there are, the client reserves the names of their methods. -/
theorem mem_reserved {s : Schema} (h : s.Accepted) {op : Operation} (hop : op ∈ s.operations) :
    Naming.methods.name op ∈ standardMethods ++ customMethods s := by
  by_cases hcustom : op.type = .custom
  · obtain ⟨hname, hnonempty⟩ := h.name_of_custom hop hcustom
    have hlisted : op ∈ s.operationsOf .custom := List.mem_filter.2 ⟨hop, by simpa using hcustom⟩
    rw [Naming.name, if_pos hcustom]
    refine List.mem_append_right _ (List.mem_map_of_mem (List.mem_filterMap.2 ⟨op, hlisted, ?_⟩))
    rw [hname, Option.filter_some]
    simp [hnonempty]
  · rw [Naming.name, if_neg hcustom]
    refine List.mem_append_left _ ?_
    cases htype : op.type
    case custom => exact absurd htype hcustom
    all_goals decide

theorem nodup_helperCalls (s : Schema) : ((helperCalls s).map (·.name)).Nodup := by
  rw [map_name_helperCalls]
  exact (nodup_helpers_kept _ _).1

theorem disjoint_helperCalls {s : Schema} (h : s.Accepted) :
    ((operationCalls s).map (·.name)).Disjoint ((helperCalls s).map (·.name)) := by
  rw [map_name_helperCalls, map_name_operationCalls]
  intro name hoperation hhelper
  obtain ⟨op, hop, rfl⟩ := List.mem_map.1 hoperation
  exact (nodup_helpers_kept _ _).2 _ hhelper (mem_reserved h hop)

/-- The helpers never matter to whether the methods of the client differ. -/
theorem nodup_calls_iff {s : Schema} (h : s.Accepted) :
    ((calls s).map (·.name)).Nodup ↔ Naming.methods.Unambiguous s := by
  rw [← Naming.nodup_map_name_iff, ← map_name_operationCalls, calls, List.map_append,
    List.nodup_append']
  exact ⟨fun hall => hall.1, fun hoperations =>
    ⟨hoperations, nodup_helperCalls s, disjoint_helperCalls h⟩⟩

end Client
end Artifact

/-! ## Operations told apart -/

namespace Schema

open Artifact

/-- How far the layers tell the operations of a schema apart, in the values they are made of and in
what shows of these in their texts. -/
structure Distinguishes (s : Schema) : Prop where
  labels : s.labels.Nodup ↔ Naming.labels.Unambiguous s
  branch : s.labels.Nodup → ∀ op ∈ s.operations,
    (Endpoint.branches s).find? (fun b => b.action = op.label) = some (Endpoint.branch s op)
  labelsShown : (Endpoint.lines s).filterMap Endpoint.caseLabel? = s.labels
  endpointShown : Prints (Endpoint.text s) (Endpoint.lines s) ["    switch (body.action) \x7b"]
    (Endpoint.branches s) Endpoint.Branch.lines ["      default:"] Endpoint.Branch.pieces
  repository : (Repository.names s).Nodup ↔
    ((s.operationsOf .custom).map fun op => camelCase op.label).Nodup ∧
      ∀ op ∈ s.operationsOf .custom, camelCase op.label ∉ Repository.builtIns
  method : (Repository.names s).Nodup → ∀ op ∈ s.operations,
    ∃! m, m ∈ Repository.methods s ∧ m.name = (Endpoint.branch s op).method
  query : (Repository.names s).Nodup → ∀ op ∈ s.operationsOf .custom, ∀ m ∈ Repository.methods s,
    m.name = camelCase op.label → m = (Repository.customQuery op).method s
  repositoryShown : Prints (Repository.text s) (Repository.lines s) (Repository.opening s)
    (Repository.methods s) (fun m => "" :: m.lines "") ["\x7d"] fun m => [m.heading]
  privateShown : Mentions (Repository.opening s) ("private " ++ Repository.applyFiltersName ++ "(")
  serviceNames : (Service.calls s).map (·.name) = s.operations.map Naming.methods.name
  service : ((Service.calls s).map (·.name)).Nodup ↔ Naming.methods.Unambiguous s
  serviceCall : ((Service.calls s).map (·.name)).Nodup → ∀ op ∈ s.operations,
    ∀ c ∈ Service.calls s, c.name = Naming.methods.name op → c = Service.call s op
  serviceShown : Prints (Service.text s) (Service.lines s) (Service.opening s) (Service.calls s)
    (fun c => c.method.lines "," ++ [""]) ["\x7d"] Service.Call.pieces
  helpers : ((Client.helperCalls s).map (·.name)).Nodup
  helpersApart :
    ((Client.operationCalls s).map (·.name)).Disjoint ((Client.helperCalls s).map (·.name))
  clientNames : (Client.operationCalls s).map (·.name) = s.operations.map Naming.methods.name
  client : ((Client.calls s).map (·.name)).Nodup ↔ Naming.methods.Unambiguous s
  clientCall : ((Client.calls s).map (·.name)).Nodup → ∀ op ∈ Client.operations s,
    ∀ c ∈ Client.calls s, c.name = Naming.methods.name op → c = Client.call s op
  clientShown : Prints (Client.text s) (Client.lines s) (Client.opening s) (Client.calls s)
    (fun c => "" :: c.method.lines "") ["\x7d"] Client.Call.pieces

end Schema

open Artifact

/-- A repository whose methods differ has just one for each branch of the endpoint. -/
theorem Artifact.Repository.existsUnique_method {s : Schema} (h : (Repository.names s).Nodup)
    {op : Operation} (hop : op ∈ s.operations) :
    ∃! m, m ∈ Repository.methods s ∧ m.name = (Endpoint.branch s op).method := by
  obtain ⟨m, hm, hname⟩ := Repository.exists_method_branch hop
  have hnodup : ((Repository.methods s).map (·.name)).Nodup := (List.nodup_cons.1 h).2
  refine ⟨m, ⟨hm, hname⟩, ?_⟩
  rintro m' ⟨hm', hname'⟩
  exact List.inj_on_of_nodup_map hnodup hm' hm (hname'.trans hname.symm)

/-- The layers tell the operations of a schema apart just if their names do. -/
theorem operations_distinguished {s : Schema} (h : s.Accepted) : s.Distinguishes where
  labels := by rw [Endpoint.labels_eq, Naming.nodup_map_name_iff]
  branch hnodup _ hop := Endpoint.find?_branch hnodup hop
  labelsShown := Endpoint.filterMap_caseLabel?_eq_labels s
  endpointShown := Endpoint.prints s
  repository := Repository.nodup_names_iff s
  method hnodup _ hop := Repository.existsUnique_method hnodup hop
  query hnodup op hop m hm hname := by
    have hquery : (Repository.customQuery op).method s ∈ Repository.methods s :=
      List.mem_append_right _ (List.mem_map_of_mem (List.mem_map_of_mem hop))
    exact List.inj_on_of_nodup_map (List.nodup_cons.1 hnodup).2 hm hquery hname
  repositoryShown := Repository.prints s
  privateShown := Repository.mentions_private s
  serviceNames := Service.map_name_calls s
  service := by rw [Service.map_name_calls, Naming.nodup_map_name_iff]
  serviceCall hnodup op hop c hc hname := by
    rw [← Service.name_call s op] at hname
    exact List.inj_on_of_nodup_map hnodup hc (List.mem_map_of_mem hop) hname
  serviceShown := Service.prints s
  helpers := Client.nodup_helperCalls s
  helpersApart := Client.disjoint_helperCalls h
  clientNames := Client.map_name_operationCalls s
  client := Client.nodup_calls_iff h
  clientCall hnodup op hop c hc hname := by
    have hcall : Client.call s op ∈ Client.calls s :=
      List.mem_append_left _ (List.mem_map_of_mem hop)
    rw [← Client.name_call s op] at hname
    exact List.inj_on_of_nodup_map hnodup hc hcall hname
  clientShown := Client.prints_calls s

theorem article_operations_distinguished :
    Schema.article.Distinguishes ∧ Naming.labels.Unambiguous .article ∧
      Naming.methods.Unambiguous .article :=
  ⟨operations_distinguished Schema.article_accepted, by decide, by decide⟩

/-! ## An echo -/

namespace Schema

/-- A schema with two operations of one name: a standard one, and a custom one that repeats it. -/
def echo : Schema where
  name := "Echo"
  table := "echoes"
  fields := []
  operations := [{ type := .list }, { type := .custom, name := some "list" }]
  policies := []

def echoEntries : Entries := [
  (.text "name", .text "Echo"),
  (.text "tableName", .text "echoes"),
  (.text "fields", .list []),
  (.text "operations", .list [
    .map [(.text "type", .text "list")],
    .map [(.text "type", .text "custom"), (.text "name", .text "list")]]),
  (.text "rls", .list [])]

theorem echo_accepted : echo.Accepted := (accepted_iff echo).2 ⟨echoEntries, rfl⟩

end Schema

/-- Nothing refuses the echo, and no layer tells its operations apart. -/
theorem echo_not_distinguished : Schema.echo.Accepted ∧
    ¬ ((Endpoint.lines .echo).filterMap Endpoint.caseLabel?).Nodup ∧
    ¬ (Repository.names .echo).Nodup ∧ ¬ ((Service.calls .echo).map (·.name)).Nodup ∧
    ¬ ((Client.calls .echo).map (·.name)).Nodup := by
  refine ⟨Schema.echo_accepted, ?_, by decide, by decide, ?_⟩
  · rw [Endpoint.filterMap_caseLabel?_eq_labels]
    decide
  · rw [Client.nodup_calls_iff Schema.echo_accepted]
    decide

end Scaffold
