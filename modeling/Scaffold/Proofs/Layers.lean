import Mathlib.Data.List.Nodup
import Scaffold.Proofs.Acceptance
import Scaffold.Proofs.Switch

/-!
# The layers agree on the operations

Every layer goes through the operations by itself. They meet in the actions that are sent and
switched on, in the methods that one layer calls and the next one has, and in the keys by which rows
are filtered.
-/
namespace Scaffold

open Artifact Script Text

/-! ## The actions -/

namespace Artifact

theorem Endpoint.action_branch (s : Schema) (op : Operation) :
    (branch s op).action = op.label := by
  cases htype : op.type <;> simp [branch, Operation.label, OperationType.name, htype]

theorem Service.action_call (s : Schema) (op : Operation) :
    (call s op).request.action = op.label := by
  cases htype : op.type <;> simp [call, query, Operation.label, OperationType.name, htype]

theorem Client.action_call (s : Schema) (op : Operation) :
    (call s op).request.action = op.label := by
  cases htype : op.type <;> simp [call, query, Operation.label, OperationType.name, htype]

theorem Endpoint.map_action_branches (s : Schema) :
    (branches s).map (·.action) = s.operations.map Operation.label := by
  simp only [branches, List.map_map]
  exact List.map_congr_left fun op _ => action_branch s op

theorem Service.map_action_calls (s : Schema) :
    (calls s).map (·.request.action) = s.operations.map Operation.label := by
  simp only [calls, List.map_map]
  exact List.map_congr_left fun op _ => action_call s op

/-- Fewer filters do not make another action. -/
theorem Client.map_action_operationCalls (s : Schema) :
    (operationCalls s).map (·.request.action) = s.operations.map Operation.label := by
  simp only [operationCalls, operations, Schema.operationsWithout, List.map_map]
  exact List.map_congr_left fun op _ => action_call s _

/-! ## The methods -/

theorem Repository.exists_method_branch {s : Schema} {op : Operation} (h : op ∈ s.operations) :
    ∃ m ∈ methods s, m.name = (Endpoint.branch s op).method := by
  cases htype : op.type with
  | list =>
    refine ⟨(listQuery s).method s, by simp [methods], ?_⟩
    simp [Endpoint.branch, htype, listQuery, Query.method]
  | get => exact ⟨findMethod s, by simp [methods], by simp [Endpoint.branch, htype, findMethod]⟩
  | create =>
    exact ⟨createMethod s, by simp [methods], by simp [Endpoint.branch, htype, createMethod]⟩
  | update =>
    exact ⟨updateMethod s, by simp [methods], by simp [Endpoint.branch, htype, updateMethod]⟩
  | delete =>
    exact ⟨deleteMethod s, by simp [methods], by simp [Endpoint.branch, htype, deleteMethod]⟩
  | custom =>
    have hquery : customQuery op ∈ queries s :=
      List.mem_map_of_mem (List.mem_filter.2 ⟨h, by simpa using htype⟩)
    refine ⟨(customQuery op).method s, ?_, ?_⟩
    · exact List.mem_append_right _ (List.mem_map_of_mem hquery)
    · simp [Endpoint.branch, htype, customQuery, Query.method]

theorem Hook.serviceMethod_binding (s : Schema) (op : Operation) (filters : List String) :
    (binding s { op with filters }).serviceMethod = (Service.call s op).name := by
  cases htype : op.type <;>
    simp [binding, Service.call, Service.query, Operation.label, htype]

theorem Hook.map_serviceMethod_bindings (s : Schema) :
    (bindings s).map (·.serviceMethod) = (Service.calls s).map (·.name) := by
  simp only [bindings, operations, Schema.operationsWithout, Service.calls, List.map_map]
  exact List.map_congr_left fun op _ => serviceMethod_binding s op _

end Artifact

/-! ## Agreement -/

namespace Schema

/-- The layers filter alike for an operation: the endpoint picks the keys by which a query of the
repository filters, and the service takes those. The query is the one that the endpoint calls; if
no name is there twice, no other method has its name. -/
structure FiltersAlike (s : Schema) (op : Operation) (q : Repository.Query) : Prop where
  defined : q.method s ∈ Repository.methods s
  called : q.name = (Endpoint.branch s op).method
  only : ((Repository.methods s).map (·.name)).Nodup →
    ∀ m ∈ Repository.methods s, m.name = (Endpoint.branch s op).method → m = q.method s
  picked : (Endpoint.branch s op).arguments = .filters op.filters
  applied : q.keys = op.filters
  appliedShown : Mentions ((q.method s).lines "")
    ("applyFilters(query, " ++ q.filters ++ ", " ++ keyList op.filters ++ ")")
  taken : (Service.call s op).keys = op.filters
  takenShown : (Service.call s op).parameters =
    "filters: Partial<Pick<" ++ s.name ++ "Data, " ++ keyUnion op.filters ++
      ">> & PageOptions = \x7b\x7d"

theorem filtersAlike_of_keys {s : Schema} {op : Operation} {q : Repository.Query}
    (hdefined : q.method s ∈ Repository.methods s)
    (hcalled : q.name = (Endpoint.branch s op).method) (happlied : q.keys = op.filters)
    (hpicked : (Endpoint.branch s op).arguments = .filters op.filters)
    (htaken : (Service.call s op).keys = op.filters ∧
      (Service.call s op).parameters = Service.filtersParameter s op.filters) :
    s.FiltersAlike op q where
  defined := hdefined
  called := hcalled
  only hnodup _ hm hname :=
    List.inj_on_of_nodup_map hnodup hm hdefined (hname.trans hcalled.symm)
  picked := hpicked
  applied := happlied
  appliedShown := happlied ▸ Repository.mentions_keys s q
  taken := htaken.1
  takenShown := htaken.2

theorem filtersAlike_custom {s : Schema} {op : Operation} (h : op ∈ s.operations)
    (hcustom : op.type = .custom) : s.FiltersAlike op (Repository.customQuery op) := by
  have hquery : Repository.customQuery op ∈ Repository.queries s :=
    List.mem_map_of_mem (List.mem_filter.2 ⟨h, by simpa using hcustom⟩)
  apply filtersAlike_of_keys
  · exact List.mem_append_right _ (List.mem_map_of_mem hquery)
  · simp only [Endpoint.branch, hcustom, Repository.customQuery]
  · rfl
  · simp only [Endpoint.branch, hcustom]
  · simp only [Service.call, hcustom, Service.query, and_self]

/-- Of the operations that list rows, the first one says by which keys the repository filters. -/
theorem filtersAlike_list {s : Schema} {op : Operation}
    (h : (s.operationsOf .list).head? = some op) :
    s.FiltersAlike op (Repository.listQuery s) := by
  have hlist : op.type = .list := by
    simpa using (List.mem_filter.1 (List.mem_of_mem_head? h)).2
  have hkeys : Repository.listFilters s = op.filters := by
    obtain ⟨rest, hrest⟩ := List.head?_eq_some_iff.1 h
    simp only [Repository.listFilters, hrest]
  apply filtersAlike_of_keys
  · exact List.mem_cons_self
  · simp only [Endpoint.branch, hlist, Repository.listQuery]
  · exact hkeys
  · simp only [Endpoint.branch, hlist]
  · simp only [Service.call, hlist, Service.query, and_self]

def labels (s : Schema) : List String := s.operations.map Operation.label

/-- The layers agree on the operations, in the values they are made of and in what shows of these in
their texts: all cases of the endpoint's text, and the whole of the switch, of the classes, of the
object and of the function from its opening to its closing lines. -/
structure LayersAgree (s : Schema) : Prop where
  custom : ∀ op ∈ s.operations, op.type = .custom → op.name = some op.label
  standard : ∀ op ∈ s.operations, op.type ≠ .custom → op.label = op.type.name
  cases : (Endpoint.branches s).map (·.action) = s.labels
  union : Endpoint.actions s = s.labels
  service : (Service.calls s).map (·.request.action) = s.labels
  client : (Client.operationCalls s).map (·.request.action) = s.labels
  repository : ∀ b ∈ Endpoint.branches s, ∃ m ∈ Repository.methods s, m.name = b.method
  hook : ∀ b ∈ Hook.bindings s, ∃ c ∈ Service.calls s, c.name = b.serviceMethod
  customKeys : ∀ op ∈ s.operations, op.type = .custom →
    s.FiltersAlike op (Repository.customQuery op)
  listKeys : ∀ op, (s.operationsOf .list).head? = some op →
    s.FiltersAlike op (Repository.listQuery s)
  casesShown : (Endpoint.lines s).filterMap Endpoint.caseLabel? = s.labels
  unionShown : (Endpoint.lines s).filterMap Endpoint.union? = [keyUnion s.labels]
  endpointShown : Prints (Endpoint.text s) (Endpoint.lines s) ["    switch (body.action) \x7b"]
    (Endpoint.branches s) Endpoint.Branch.lines ["      default:"] Endpoint.Branch.pieces
  serviceShown : Prints (Service.text s) (Service.lines s) (Service.opening s) (Service.calls s)
    (fun c => c.method.lines "," ++ [""]) ["\x7d"] Service.Call.pieces
  clientShown : Prints (Client.text s) (Client.lines s) (Client.opening s)
    (Client.operationCalls s ++ Client.helperCalls s) (fun c => "" :: c.method.lines "") ["\x7d"]
    Client.Call.pieces
  repositoryShown : Prints (Repository.text s) (Repository.lines s) (Repository.opening s)
    (Repository.methods s) (fun m => "" :: m.lines "") ["\x7d"] fun m => [m.heading]
  hookShown : Prints (Hook.text s) (Hook.lines s) (Hook.opening s) (Hook.bindings s)
    (fun b => "" :: b.lines) ["", "  return \x7b"] (Hook.Binding.pieces s.name)

end Schema

/-- The rendered layers agree, operation by operation and in order. -/
theorem layers_agree {s : Schema} (h : s.Accepted) : s.LayersAgree where
  custom _ hop hcustom := (h.name_of_custom hop hcustom).1
  standard op _ hstandard := by rw [Operation.label, if_neg hstandard]
  cases := Endpoint.map_action_branches s
  union := rfl
  service := Service.map_action_calls s
  client := Client.map_action_operationCalls s
  repository b hb := by
    obtain ⟨op, hop, rfl⟩ := List.mem_map.1 hb
    exact Repository.exists_method_branch hop
  hook b hb := by
    have hname : b.serviceMethod ∈ (Service.calls s).map (·.name) := by
      rw [← Hook.map_serviceMethod_bindings]
      exact List.mem_map_of_mem hb
    exact List.mem_map.1 hname
  customKeys _ hop hcustom := Schema.filtersAlike_custom hop hcustom
  listKeys _ hfirst := Schema.filtersAlike_list hfirst
  casesShown := by
    rw [Endpoint.filterMap_caseLabel?_lines_text, Endpoint.map_action_branches, Schema.labels]
  unionShown := Endpoint.filterMap_union?_lines s
  endpointShown := Endpoint.prints s
  serviceShown := Service.prints s
  clientShown := Client.prints_calls s
  repositoryShown := Repository.prints s
  hookShown := Hook.prints s

theorem article_layers_agree :
    Schema.article.LayersAgree ∧ Schema.article.labels = ["list", "get", "by_author"] :=
  ⟨layers_agree Schema.article_accepted, by decide⟩

end Scaffold
