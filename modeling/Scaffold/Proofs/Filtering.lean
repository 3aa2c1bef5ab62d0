import Scaffold.Artifact.Client
import Scaffold.Artifact.Hook
import Scaffold.Proofs.Collision

/-!
# Every filter is declared once

The hook and the command-line client declare a parameter for each enumeration they keep and one for
each other name that an operation filters by. Taking the kept names out of the operations before the
rest is declared makes the two lists complementary: no filter is lost, and none is there twice.
-/
namespace Scaffold

/-! ## Lists without repetitions -/

theorem distinct_filter {α : Type} [DecidableEq α] (keep : α → Bool) (items : List α) :
    distinct (items.filter keep) = (distinct items).filter keep := by
  induction items with
  | nil => rfl
  | cons a rest ih =>
    cases ha : keep a with
    | true =>
      rw [List.filter_cons_of_pos ha, distinct, distinct, ih, List.filter_cons_of_pos ha,
        List.filter_filter, List.filter_filter]
      simp only [Bool.and_comm]
    | false =>
      have hne : ∀ x ∈ distinct rest, keep x = (keep x && decide (x ≠ a)) := by
        rintro x -
        by_cases hx : x = a
        · simp [hx, ha]
        · simp [hx]
      rw [List.filter_cons_of_neg (by simp [ha]), distinct, List.filter_cons_of_neg (by simp [ha]),
        ih, List.filter_filter]
      exact List.filter_congr hne

/-- The items that are kept stand in the order of their first places. -/
theorem pairwise_idxOf_distinct {α : Type} [DecidableEq α] (items : List α) :
    (distinct items).Pairwise fun a b => items.idxOf a < items.idxOf b := by
  induction items with
  | nil => exact .nil
  | cons a rest ih =>
    have hlater {x : α} (hx : x ∈ (distinct rest).filter (· ≠ a)) :
        (a :: rest).idxOf x = rest.idxOf x + 1 := by
      have hne : x ≠ a := by simpa using (List.mem_filter.1 hx).2
      exact List.idxOf_cons_ne rest hne.symm
    refine .cons (fun x hx => ?_) ((ih.filter _).imp_of_mem fun hx hy hlt => ?_)
    · rw [hlater hx, List.idxOf_cons_self]
      omega
    · rw [hlater hx, hlater hy]
      omega

theorem Field.scriptType_of_isEnum {f : Field} (h : f.isEnum = true) :
    f.scriptType = Script.literalUnion f.values := by
  have htype : f.type = .enum := by simpa [isEnum] using h
  simp only [scriptType, htype, Script.literalUnion]

theorem Field.validator_of_isEnum {f : Field} (h : f.isEnum = true) :
    f.validator = "z.enum([" ++ Script.literalList f.values ++ "])" := by
  have htype : f.type = .enum := by simpa [isEnum] using h
  simp only [validator, htype, Script.literalList]

/-- Values that are there were declared as such. -/
theorem Field.enumValues_of_values_ne_nil {f : Field} (h : f.values ≠ []) :
    f.enumValues = some f.values := by
  cases hdeclared : f.enumValues with
  | none => simp [values, hdeclared] at h
  | some declared => simp [values, hdeclared]

namespace Schema

/-! ## Declared filters -/

@[simp] theorem map_name_declaredFilters (s : Schema) (names : List String) :
    (s.declaredFilters names).map (·.name) = distinct names := by
  simp [declaredFilters, filter, Function.comp_def]

theorem mem_filterNames {operations : List Operation} {name : String} :
    name ∈ filterNames operations ↔ ∃ op ∈ operations, name ∈ op.filters :=
  List.mem_flatMap

theorem filterNames_operationsWithout (s : Schema) (exclusion : Exclusion) :
    filterNames (s.operationsWithout exclusion) =
      (filterNames s.operations).filter fun n => !(s.excludedNames exclusion).contains n := by
  simp only [filterNames, operationsWithout, List.flatMap_map, List.filter_flatMap]

theorem scriptType_filter_of_mem {s : Schema} (h : Field.CollisionFree s.fields) {c : Field}
    (hc : c ∈ s.columns) : (s.filter c.name).scriptType = c.scriptType := by
  simp only [filter, (field?_eq_some_iff h).2 ⟨hc, rfl⟩]

theorem scriptType_filter_of_forall_ne {s : Schema} {name : String}
    (h : ∀ c ∈ s.columns, c.name ≠ name) : (s.filter name).scriptType = "string" := by
  simp only [filter, field?_eq_none_iff.2 h]

theorem nodup_enumNames {s : Schema} (h : Field.CollisionFree s.fields) : s.enumNames.Nodup :=
  (nodup_columnNames h).sublist (List.filter_sublist.map _)

theorem eq_of_mem_enumFields {s : Schema} (h : Field.CollisionFree s.fields) {f g : Field}
    (hf : f ∈ s.enumFields) (hg : g ∈ s.enumFields) (hname : f.name = g.name) : f = g :=
  List.inj_on_of_nodup_map (nodup_columnNames h) (List.mem_of_mem_filter hf)
    (List.mem_of_mem_filter hg) hname

/-- How the view of a layer declares the parameters that its operations filter by: some enumerations
have one each, and the other names have one with the type of their column. -/
structure DeclaresFilters (s : Schema) (view : Variables) (enums : List Field)
    (filters : List Filter) : Prop where
  enumsShown : view.lookup "enum_fields" = some (Variables.enumFields enums)
  filtersShown : view.lookup "declared_filters" = some (Variables.filters filters)
  once : ∀ op ∈ s.operations, ∀ name ∈ op.filters,
    (enums.map (·.name)).count name + (filters.map (·.name)).count name = 1
  nodup : (filters.map (·.name)).Nodup
  disjoint : (filters.map (·.name)).Disjoint (enums.map (·.name))
  ordered : (filters.map (·.name)).Pairwise fun a b =>
    (filterNames s.operations).idxOf a < (filterNames s.operations).idxOf b
  used : ∀ d ∈ filters, ∃ op ∈ s.operations, d.name ∈ op.filters
  typed : ∀ d ∈ filters, ∀ c ∈ s.columns, c.name = d.name → d.scriptType = c.scriptType
  untyped : ∀ d ∈ filters, (∀ c ∈ s.columns, c.name ≠ d.name) → d.scriptType = "string"

/-- What is taken out of the operations has to be just what the layer declares as enumerations. -/
theorem declaresFilters_of_mem_excludedNames_iff {s : Schema} (h : Field.CollisionFree s.fields)
    {view : Variables} {enums : List Field} {exclusion : Exclusion}
    (hsub : enums.Sublist s.enumFields)
    (hexcluded : ∀ name, name ∈ s.excludedNames exclusion ↔ name ∈ enums.map (·.name))
    (henums : view.lookup "enum_fields" = some (Variables.enumFields enums))
    (hfilters : view.lookup "declared_filters" = some
      (Variables.filters (s.declaredFilters (filterNames (s.operationsWithout exclusion))))) :
    DeclaresFilters s view enums
      (s.declaredFilters (filterNames (s.operationsWithout exclusion))) := by
  have hnames : (s.declaredFilters (filterNames (s.operationsWithout exclusion))).map (·.name) =
      (distinct (filterNames s.operations)).filter
        fun n => !(s.excludedNames exclusion).contains n := by
    rw [map_name_declaredFilters, filterNames_operationsWithout, distinct_filter]
  have hmem {name : String} :
      name ∈ (s.declaredFilters (filterNames (s.operationsWithout exclusion))).map (·.name) ↔
        name ∈ filterNames s.operations ∧ name ∉ enums.map (·.name) := by
    rw [hnames, List.mem_filter, mem_distinct, ← hexcluded]
    simp
  have hnodup := (nodup_distinct (filterNames s.operations)).filter
    fun n => !(s.excludedNames exclusion).contains n
  rw [← hnames] at hnodup
  have hnodupEnums : (enums.map (·.name)).Nodup :=
    (nodup_enumNames h).sublist (hsub.map _)
  refine ⟨henums, hfilters, ?_, hnodup, ?_, ?_, ?_, ?_, ?_⟩
  · intro op hop name hname
    have hfiltered : name ∈ filterNames s.operations := mem_filterNames.2 ⟨op, hop, hname⟩
    by_cases hkept : name ∈ enums.map (·.name)
    · rw [List.count_eq_one_of_mem hnodupEnums hkept,
        List.count_eq_zero.2 fun hdeclared => (hmem.1 hdeclared).2 hkept]
    · rw [List.count_eq_zero.2 hkept, List.count_eq_one_of_mem hnodup (hmem.2 ⟨hfiltered, hkept⟩)]
  · intro name hdeclared hkept
    exact (hmem.1 hdeclared).2 hkept
  · rw [hnames]
    exact (pairwise_idxOf_distinct _).filter _
  · intro d hd
    exact mem_filterNames.1 (hmem.1 (List.mem_map_of_mem hd)).1
  · intro d hd c hc hname
    obtain ⟨name, _, rfl⟩ := List.mem_map.1 hd
    change c.name = name at hname
    subst hname
    exact scriptType_filter_of_mem h hc
  · intro d hd hnone
    obtain ⟨name, _, rfl⟩ := List.mem_map.1 hd
    exact scriptType_filter_of_forall_ne hnone

end Schema

/-! ## The command-line client -/

namespace Artifact.Client

/-- An enumeration fits when each of its helpers is new, and there once. -/
theorem isEmpty_clashes_iff (taken : List String) (f : Field) :
    (clashes taken f).isEmpty = true ↔ ∀ h ∈ helpers f, h ∉ taken ∧ (helpers f).count h ≤ 1 := by
  rw [List.isEmpty_iff, clashes, ← List.length_eq_zero_iff, List.length_mergeSort,
    List.length_eq_zero_iff, List.eq_nil_iff_forall_not_mem]
  simp [mem_distinct]

theorem enumFields_sublist (s : Schema) : (enumFields s).Sublist s.enumFields := by
  have hfit (fields : List Field) (taken : List String) :
      ((firstFit taken fields).filterMap
        fun d => if d.2.isEmpty then some d.1 else none).Sublist fields := by
    induction fields generalizing taken with
    | nil => exact .slnil
    | cons f rest ih =>
      cases hclash : (clashes taken f).isEmpty with
      | true =>
        rw [firstFit, List.filterMap_cons]
        simpa only [hclash, if_true] using (ih _).cons_cons f
      | false =>
        rw [firstFit, List.filterMap_cons]
        simpa only [hclash, Bool.false_eq_true, if_false] using (ih _).cons f
  exact hfit _ _

/-- Of the enumerations exactly the kept ones are taken out of the operations. -/
theorem mem_excludedNames_iff (s : Schema) (name : String) :
    name ∈ s.excludedNames (.enumsAmong ((enumFields s).map (·.name))) ↔
      name ∈ (enumFields s).map (·.name) := by
  simp only [Schema.excludedNames_enumsAmong, List.mem_filter, List.contains_iff_mem,
    and_iff_right_iff_imp]
  intro hkept
  exact ((enumFields_sublist s).map _).subset hkept

end Artifact.Client

open Artifact

/-- In the hook and in the command-line client every filter is declared once, by the enumeration of
that name or as a filter with the type of its column. An enumeration that the client drops is
declared as such a filter just when an operation filters by it, and then with its literal type. -/
theorem filters_declared_once {s : Schema} (h : s.Accepted) :
    s.DeclaresFilters (Hook.scope s) s.enumFields (Hook.filters s) ∧
    s.DeclaresFilters (Client.scope s) (Client.enumFields s) (Client.filters s) ∧
    ∀ f ∈ s.enumFields, f ∉ Client.enumFields s →
      ((∃ d ∈ Client.filters s, d.name = f.name) ↔ ∃ op ∈ s.operations, f.name ∈ op.filters) ∧
      ∀ d ∈ Client.filters s, d.name = f.name → d.scriptType = Script.literalUnion f.values := by
  have hfree := h.collisionFree
  have hclient : s.DeclaresFilters (Client.scope s) (Client.enumFields s) (Client.filters s) :=
    Schema.declaresFilters_of_mem_excludedNames_iff hfree (Client.enumFields_sublist s)
      (Client.mem_excludedNames_iff s) rfl rfl
  refine ⟨?_, hclient, fun f hf hdropped => ⟨⟨?_, ?_⟩, ?_⟩⟩
  · exact Schema.declaresFilters_of_mem_excludedNames_iff hfree (List.Sublist.refl _)
      (fun _ => Iff.rfl) rfl rfl
  · rintro ⟨d, hd, hname⟩
    exact hname ▸ hclient.used d hd
  · rintro ⟨op, hop, hfilter⟩
    have hnotKept : f.name ∉ (Client.enumFields s).map (·.name) := by
      intro hkept
      obtain ⟨g, hg, hname⟩ := List.mem_map.1 hkept
      have hmem := (Client.enumFields_sublist s).subset hg
      exact hdropped (Schema.eq_of_mem_enumFields hfree hmem hf hname ▸ hg)
    have honce := hclient.once op hop f.name hfilter
    rw [List.count_eq_zero.2 hnotKept, Nat.zero_add] at honce
    exact List.mem_map.1 (List.count_pos_iff.1 (honce ▸ Nat.one_pos))
  · intro d hd hname
    rw [hclient.typed d hd f (List.mem_of_mem_filter hf) hname.symm]
    exact Field.scriptType_of_isEnum (List.mem_filter.1 hf).2

/-- The helper of the article's second enumeration would be another `create`, so the client drops
that enumeration. -/
theorem Client.step_notMem_enumFields :
    Schema.article.fields[2] ∉ Client.enumFields .article := by
  have hkept : (Client.clashes (Client.standardMethods ++ Client.customMethods .article)
      Schema.article.fields[1]).isEmpty = true := by
    rw [Client.isEmpty_clashes_iff]
    decide
  have hdropped : (Client.clashes
      ((Client.standardMethods ++ Client.customMethods .article) ++
        Client.helpers Schema.article.fields[1]) Schema.article.fields[2]).isEmpty = false := by
    rw [Bool.eq_false_iff, Ne, Client.isEmpty_clashes_iff]
    decide
  have hfields : Schema.article.enumFields =
      [Schema.article.fields[1], Schema.article.fields[2]] := rfl
  rw [Client.enumFields, Client.decisions, hfields, Client.firstFit, Client.firstFit,
    Client.firstFit, List.filterMap_cons, List.filterMap_cons, List.filterMap_nil]
  simp only [hkept, hdropped, if_true]
  decide

theorem article_filters_declared_once :
    Schema.article.DeclaresFilters (Hook.scope .article) Schema.article.enumFields
      (Hook.filters .article) ∧
    Schema.article.DeclaresFilters (Client.scope .article) (Client.enumFields .article)
      (Client.filters .article) ∧
    ∃ d ∈ Client.filters .article, d.name = "step" := by
  have hall := filters_declared_once Schema.article_accepted
  have hstep := (hall.2.2 Schema.article.fields[2] (by decide) Client.step_notMem_enumFields).1
  exact ⟨hall.1, hall.2.1, hstep.2 ⟨Schema.article.operations[0], by decide, by decide⟩⟩

end Scaffold
