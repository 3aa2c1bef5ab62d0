import Scaffold.Proofs.Parameters

/-!
# Filters in the order of first use

The repository begins with the filters of the operation that lists rows, as they are written there,
and appends the names that the other operations add, each once. What it declares are the same names
without repetitions. So only a name that the list itself repeats can tell the two apart.
-/
namespace Scaffold

/-! ## Lists without repetitions -/

theorem distinct_append {α : Type} [DecidableEq α] (front back : List α) :
    distinct (front ++ back) = distinct front ++ (distinct back).filter (· ∉ front) := by
  induction front with
  | nil => simp [distinct]
  | cons a rest ih =>
    have hnew : ((distinct back).filter (· ∉ rest)).filter (· ≠ a) =
        (distinct back).filter (· ∉ a :: rest) := by
      rw [List.filter_filter]
      apply List.filter_congr
      intro b _
      by_cases hb : b = a <;> simp [hb]
    rw [List.cons_append, distinct, ih, List.filter_append, hnew, distinct, List.cons_append]

theorem distinct_eq_self_iff {α : Type} [DecidableEq α] (items : List α) :
    distinct items = items ↔ items.Nodup := by
  constructor
  · intro h
    rw [← h]
    exact nodup_distinct items
  · intro h
    induction items with
    | nil => simp [distinct]
    | cons a rest ih =>
      obtain ⟨hnew, hrest⟩ := List.nodup_cons.1 h
      have hall : ∀ b ∈ rest, decide (b ≠ a) = true := by
        intro b hb
        simpa using fun heq : b = a => hnew (heq ▸ hb)
      rw [distinct, ih hrest, List.filter_eq_self.2 hall]

namespace Schema

/-- The operations besides the first one that lists rows. -/
def otherOperations (s : Schema) : List Operation := s.operations.eraseP (·.type = .list)

end Schema

namespace Artifact.Repository

/-! ## Names not seen yet -/

theorem unseen_eq_distinct (seen names : List String) :
    unseen seen names = distinct (names.filter (· ∉ seen)) := by
  induction names generalizing seen with
  | nil => simp [unseen, distinct]
  | cons name rest ih =>
    by_cases hseen : name ∈ seen
    · rw [unseen, if_pos (by simpa using hseen), ih, List.filter_cons_of_neg (by simpa using hseen)]
    · -- The name counts as seen for the rest, which is how `distinct` goes on as well.
      have hrest : rest.filter (· ∉ name :: seen) = (rest.filter (· ∉ seen)).filter (· ≠ name) := by
        rw [List.filter_filter]
        apply List.filter_congr
        intro b _
        by_cases hb : b = name <;> simp [hb]
      rw [unseen, if_neg (by simpa using hseen), ih, List.filter_cons_of_pos (by simpa using hseen),
        distinct, hrest, distinct_filter]

/-- The operation whose filters come first adds nothing when its turn comes again. -/
theorem filter_filterNames_operations (s : Schema) :
    (Schema.filterNames s.operations).filter (· ∉ listFilters s) =
      (Schema.filterNames s.otherOperations).filter (· ∉ listFilters s) := by
  cases hlists : s.operationsOf .list with
  | nil =>
    have hnone : ∀ op ∈ s.operations, ¬ decide (op.type = .list) = true :=
      List.filter_eq_nil_iff.1 hlists
    rw [Schema.otherOperations, List.eraseP_of_forall_not hnone]
  | cons op rest =>
    have hop : op ∈ s.operations.filter (·.type = .list) := by
      change op ∈ s.operationsOf .list
      rw [hlists]
      exact List.mem_cons_self
    obtain ⟨hmem, htype⟩ := List.mem_filter.1 hop
    obtain ⟨first, before, after, hbefore, hfirst, hall, hothers⟩ :=
      List.exists_of_eraseP (p := fun op : Operation => op.type = .list) hmem htype
    have hfilters : listFilters s = first.filters := by
      have hskip : before.filter (·.type = .list) = [] :=
        List.filter_eq_nil_iff.2 hbefore
      have htypes : s.operationsOf .list = first :: after.filter (·.type = .list) := by
        rw [Schema.operationsOf, hall, List.filter_append, hskip, List.nil_append,
          List.filter_cons, if_pos hfirst]
      simp only [listFilters, htypes]
    have hseen : first.filters.filter (· ∉ first.filters) = [] := by
      apply List.filter_eq_nil_iff.2
      intro name hname
      simpa using hname
    rw [Schema.otherOperations, hothers, hall, hfilters]
    simp only [Schema.filterNames, List.flatMap_append, List.flatMap_cons, List.filter_append,
      hseen, List.nil_append]

/-- The names of the other operations are appended in the order of first use. -/
theorem allFilters_eq_append (s : Schema) :
    allFilters s = listFilters s ++
      (distinct (Schema.filterNames s.otherOperations)).filter (· ∉ listFilters s) := by
  rw [allFilters, unseen_eq_distinct, filter_filterNames_operations, distinct_filter]

theorem distinct_allFilters (s : Schema) :
    distinct (allFilters s) =
      distinct (listFilters s ++ Schema.filterNames s.otherOperations) := by
  rw [allFilters_eq_append, distinct_append, distinct_append, distinct_filter,
    (distinct_eq_self_iff _).2 (nodup_distinct _), List.filter_filter]
  simp only [Bool.and_self]

theorem nodup_allFilters_iff (s : Schema) : (allFilters s).Nodup ↔ (listFilters s).Nodup := by
  rw [allFilters_eq_append, List.nodup_append']
  constructor
  · exact fun h => h.1
  · intro h
    refine ⟨h, (nodup_distinct _).filter _, ?_⟩
    intro name hlist hother
    simpa [hlist] using (List.mem_filter.1 hother).2

end Artifact.Repository

open Artifact

/-- How the view of the repository shows the names that rows can be filtered by. -/
structure Schema.ShowsFilters (s : Schema) (view : Variables) (all : List String)
    (declared : List Filter) : Prop where
  listShown : view.lookup "list_filters" = some (Document.ofTexts (Repository.listFilters s))
  allShown : view.lookup "all_filters" = some (Document.ofTexts all)
  declaredShown : view.lookup "declared_filters" = some (Variables.filters declared)
  all_eq : all = Repository.listFilters s ++
    (distinct (filterNames s.otherOperations)).filter (· ∉ Repository.listFilters s)
  declared_eq : declared.map (·.name) =
    distinct (Repository.listFilters s ++ filterNames s.otherOperations)

/-- The repository declares each name once, in the order of first use. Its list of all names is the
same list just when the list operation repeats no name, for it takes over those as they are. -/
theorem repository_filters (s : Schema) :
    s.ShowsFilters (Repository.scope s) (Repository.allFilters s) (Repository.filters s) ∧
    ((Repository.allFilters s).Nodup ↔ (Repository.listFilters s).Nodup) ∧
    (Repository.allFilters s =
        distinct (Repository.listFilters s ++ Schema.filterNames s.otherOperations) ↔
      (Repository.listFilters s).Nodup) ∧
    (Repository.allFilters s = (Repository.filters s).map (·.name) ↔
      (Repository.listFilters s).Nodup) := by
  have hdeclared : (Repository.filters s).map (·.name) = distinct (Repository.allFilters s) :=
    s.map_name_declaredFilters _
  have hsame : Repository.allFilters s = distinct (Repository.allFilters s) ↔
      (Repository.listFilters s).Nodup := by
    rw [eq_comm, distinct_eq_self_iff, Repository.nodup_allFilters_iff]
  have hshown : s.ShowsFilters (Repository.scope s) (Repository.allFilters s)
      (Repository.filters s) := by
    constructor
    case all_eq => exact Repository.allFilters_eq_append s
    case declared_eq => rw [hdeclared, Repository.distinct_allFilters]
    all_goals rfl
  refine ⟨hshown, Repository.nodup_allFilters_iff s, ?_, ?_⟩
  · rw [← Repository.distinct_allFilters]
    exact hsame
  · rw [hdeclared]
    exact hsame

/-! ## A list that repeats a filter -/

/-- A bookmark, whose list is filtered by the same name twice. -/
def Schema.bookmark : Schema where
  name := "Bookmark"
  table := "bookmarks"
  fields := [{ name := "tag", column := "tag", type := .string }]
  operations := [
    { type := .custom, name := some "by_owner", filters := ["owner", "tag", "owner"] },
    { type := .list, filters := ["tag", "tag"] }]
  policies := []

theorem Schema.bookmark_accepted : bookmark.Accepted :=
  (accepted_iff bookmark).2 ⟨[
    (.text "name", .text "Bookmark"),
    (.text "tableName", .text "bookmarks"),
    (.text "fields", .list [
      .map [(.text "name", .text "tag"), (.text "dbName", .text "tag"),
        (.text "type", .text "string")]]),
    (.text "operations", .list [
      .map [(.text "type", .text "custom"), (.text "name", .text "by_owner"),
        (.text "filters", .list [.text "owner", .text "tag", .text "owner"])],
      .map [(.text "type", .text "list"),
        (.text "filters", .list [.text "tag", .text "tag"])]]),
    (.text "rls", .list [])], rfl⟩

theorem bookmark_filters_repeated :
    Schema.bookmark.Accepted ∧
    (Repository.scope .bookmark).lookup "all_filters" =
      some (Document.ofTexts ["tag", "tag", "owner"]) ∧
    (Repository.filters .bookmark).map (·.name) = ["tag", "owner"] ∧
    ¬ (Repository.allFilters .bookmark).Nodup ∧
    Repository.allFilters .bookmark ≠ (Repository.filters .bookmark).map (·.name) :=
  ⟨Schema.bookmark_accepted, rfl, rfl, by decide, by decide⟩

end Scaffold
