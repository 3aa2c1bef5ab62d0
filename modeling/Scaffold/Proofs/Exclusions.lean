import Mathlib.Data.List.Forall2
import Scaffold.Proofs.Filtering

/-!
# Names taken out of the filters

A layer that declares enumerations by themselves takes their names out of the filters of the
operations. Whichever it takes out, it leaves the operations as they are in every other respect, and
the filters that are left in their order. The more names it takes out, the fewer filters are left,
so a client that keeps all enumerations has the operations and the filters of the hook.
-/
namespace Scaffold

open Artifact

namespace Operation

/-- The same operation with perhaps fewer filters, in the same order. -/
structure Narrows (narrow wide : Operation) : Prop where
  type : narrow.type = wide.type
  name : narrow.name = wide.name
  description : narrow.description = wide.description
  limit : narrow.limit = wide.limit
  filters : narrow.filters.Sublist wide.filters

def without (op : Operation) (names : List String) : Operation :=
  { op with filters := op.filters.filter fun n => !names.contains n }

@[simp] theorem without_nil (op : Operation) : op.without [] = op := by
  simp [without]

theorem mem_filters_without {op : Operation} {names : List String} {n : String} :
    n ∈ (op.without names).filters ↔ n ∈ op.filters ∧ n ∉ names := by
  simp [without]

theorem narrows_without {names more : List String} (h : names ⊆ more) (op : Operation) :
    (op.without more).Narrows (op.without names) := by
  refine ⟨rfl, rfl, rfl, rfl, List.monotone_filter_right op.filters fun n hn => ?_⟩
  rw [Bool.not_eq_true', ← Bool.not_eq_true, List.contains_iff_mem] at hn ⊢
  exact fun hmem => hn (h hmem)

/-- Of the other names nothing is missing, however often they occur. -/
theorem filter_without {names more : List String} (h : names ⊆ more) (op : Operation) :
    (op.without names).filters.filter (· ∉ more) = op.filters.filter (· ∉ more) := by
  rw [without, List.filter_filter]
  refine List.filter_congr fun n _ => ?_
  have hout : n ∈ names → n ∈ more := fun hn => h hn
  grind

end Operation

namespace Schema

variable (s : Schema)

theorem operationsWithout_eq_map (exclusion : Exclusion) :
    s.operationsWithout exclusion =
      s.operations.map fun op => op.without (s.excludedNames exclusion) := rfl

/-! ## What is excluded -/

theorem excludedNames_subset (exclusion : Exclusion) : s.excludedNames exclusion ⊆ s.enumNames := by
  unfold excludedNames
  split
  · split
    · exact List.filter_subset_self _
    · exact List.Subset.refl _
  · exact List.nil_subset _

theorem mem_excludedNames_enumsAmong {names : List String} {n : String} :
    n ∈ s.excludedNames (.enumsAmong names) ↔ n ∈ s.enumNames ∧ n ∈ names := by
  simp

theorem excludedNames_mono {names more : List String} (h : names ⊆ more) :
    s.excludedNames (.enumsAmong names) ⊆ s.excludedNames (.enumsAmong more) := by
  intro n hn
  rw [mem_excludedNames_enumsAmong] at hn ⊢
  exact ⟨hn.1, h hn.2⟩

theorem excludedNames_enumsAmong_nil : s.excludedNames (.enumsAmong []) = [] := by
  simp

theorem excludedNames_enumsAmong_of_subset {names : List String} (h : s.enumNames ⊆ names) :
    s.excludedNames (.enumsAmong names) = s.enumNames := by
  rw [excludedNames_enumsAmong, List.filter_eq_self]
  exact fun n hn => List.contains_iff_mem.2 (h hn)

/-! ## What is left -/

/-- What an exclusion does to the operations, and how two of them compare. -/
structure Excludes : Prop where
  narrowed : ∀ exclusion,
    List.Forall₂ Operation.Narrows (s.operationsWithout exclusion) s.operations
  others : ∀ exclusion, List.Forall₂
    (fun left op => left.filters.filter (· ∉ s.enumNames) = op.filters.filter (· ∉ s.enumNames))
    (s.operationsWithout exclusion) s.operations
  missing : ∀ names, List.Forall₂
    (fun left op => ∀ n, n ∈ left.filters ↔ n ∈ op.filters ∧ ¬ (n ∈ s.enumNames ∧ n ∈ names))
    (s.operationsWithout (.enumsAmong names)) s.operations
  antitone : ∀ names more : List String, names ⊆ more → List.Forall₂ Operation.Narrows
    (s.operationsWithout (.enumsAmong more)) (s.operationsWithout (.enumsAmong names))
  nothing : s.operationsWithout .none = s.operations ∧
    s.operationsWithout (.enumsAmong []) = s.operationsWithout .none
  off : ∀ exclusion : Exclusion, exclusion.ofEnums = false →
    s.operationsWithout exclusion = s.operations
  everything : ∀ names : List String, s.enumNames ⊆ names →
    s.operationsWithout (.enumsAmong names) = s.operationsWithout .enums
  client : s.enumFields ⊆ Client.enumFields s →
    (Client.operations s = Hook.operations s ∧ Client.filters s = Hook.filters s) ∧
    (Client.scope s).lookup "operations" = (Hook.scope s).lookup "operations" ∧
    (Client.scope s).lookup "declared_filters" = (Hook.scope s).lookup "declared_filters"

theorem operations_eq_of_subset (h : s.enumFields ⊆ Client.enumFields s) :
    Client.operations s = Hook.operations s := by
  have hnames : s.enumNames ⊆ (Client.enumFields s).map (·.name) := List.map_subset _ h
  rw [Client.operations, Hook.operations, operationsWithout_eq_map, operationsWithout_eq_map,
    excludedNames_enumsAmong_of_subset s hnames]
  rfl

/-- Excluding names of enumerations from the filters changes nothing else, and takes out the more
the more names there are. -/
theorem operations_narrowed : s.Excludes where
  narrowed exclusion := by
    rw [operationsWithout_eq_map, List.forall₂_map_left_iff, List.forall₂_same]
    intro op _
    simpa using op.narrows_without (List.nil_subset (s.excludedNames exclusion))
  others exclusion := by
    rw [operationsWithout_eq_map, List.forall₂_map_left_iff, List.forall₂_same]
    exact fun op _ => op.filter_without (s.excludedNames_subset exclusion)
  missing names := by
    rw [operationsWithout_eq_map, List.forall₂_map_left_iff, List.forall₂_same]
    intro op _ n
    rw [Operation.mem_filters_without, mem_excludedNames_enumsAmong]
  antitone names more h := by
    rw [operationsWithout_eq_map, operationsWithout_eq_map, List.forall₂_map_left_iff,
      List.forall₂_map_right_iff, List.forall₂_same]
    exact fun op _ => op.narrows_without (s.excludedNames_mono h)
  nothing := by
    rw [operationsWithout_eq_map, operationsWithout_eq_map, excludedNames_enumsAmong_nil,
      excludedNames_none]
    simp
  off exclusion hoff := by
    rw [operationsWithout_eq_map, excludedNames, hoff, if_neg Bool.false_ne_true]
    simp
  everything names h := by
    rw [operationsWithout_eq_map, operationsWithout_eq_map, excludedNames_enumsAmong_of_subset s h]
    rfl
  client h := by
    have hoperations := s.operations_eq_of_subset h
    have hfilters : Client.filters s = Hook.filters s := by
      rw [Client.filters, Hook.filters, hoperations]
    refine ⟨⟨hoperations, hfilters⟩, ?_, ?_⟩
    · exact congrArg (some ∘ Variables.operations) hoperations
    · exact congrArg (some ∘ Variables.filters) hfilters

end Schema

/-- Without its last field the article has one enumeration, which the client keeps. -/
theorem article_operations_narrowed :
    let s := { Schema.article with fields := Schema.article.fields.take 2 }
    s.enumFields ⊆ Client.enumFields s ∧ Client.operations s = Hook.operations s ∧
      Client.filters s = Hook.filters s ∧ Client.operations s ≠ s.operations := by
  intro s
  have hkept : s.enumFields ⊆ Client.enumFields s := by decide +kernel
  obtain ⟨hoperations, hfilters⟩ := (s.operations_narrowed.client hkept).1
  exact ⟨hkept, hoperations, hfilters, by rw [hoperations]; decide⟩

end Scaffold
