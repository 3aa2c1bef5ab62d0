import Mathlib.Data.List.Lattice
import Scaffold.Artifact.Migration
import Scaffold.Proofs.Acceptance
import Scaffold.Proofs.Printing

/-!
# Names in the database

A migration names its indexes after the table and the column, and its trigger after the table. Two
tables never share the names of their triggers. They share the name of an index just where one table
is named like the other with more behind an underscore, and a column of that other makes up for it.
-/
namespace Scaffold

open Artifact Script Text

/-! ## Joined names -/

/-- Two pairs of words that are joined to the same name, split at different underscores. -/
theorem joined_eq_iff {a b : List Char} (h : a ≠ b) (x y : List Char) :
    a ++ '_' :: x = b ++ '_' :: y ↔
      (∃ r, b = a ++ '_' :: r ∧ x = r ++ '_' :: y) ∨
        ∃ r, a = b ++ '_' :: r ∧ y = r ++ '_' :: x := by
  constructor
  · intro heq
    rcases List.append_eq_append_iff.1 heq with ⟨c, hb, hx⟩ | ⟨c, ha, hy⟩
    · cases c with
      | nil => exact absurd (by simpa using hb.symm) h
      | cons d r =>
        obtain ⟨rfl, hrest⟩ := List.cons.inj hx
        exact .inl ⟨r, hb, hrest⟩
    · cases c with
      | nil => exact absurd (by simpa using ha) h
      | cons d r =>
        obtain ⟨rfl, hrest⟩ := List.cons.inj hy
        exact .inr ⟨r, ha, hrest⟩
  · rintro (⟨r, rfl, rfl⟩ | ⟨r, rfl, rfl⟩)
    · simp
    · simp

namespace Artifact.Migration

/-- A column of a table, and one of a table whose name is longer by what the first column has
more. -/
def Overlaps (s : Schema) (f : Field) (t : Schema) (g : Field) : Prop :=
  ∃ more, t.table = s.table ++ "_" ++ more ∧ f.column = more ++ "_" ++ g.column

theorem indexName_eq_iff {s t : Schema} (h : s.table ≠ t.table) (f g : Field) :
    indexName s f = indexName t g ↔ Overlaps s f t g ∨ Overlaps t g s f := by
  have hname (u : Schema) (i : Field) :
      (indexName u i).toList = "idx_".toList ++ (u.table.toList ++ '_' :: i.column.toList) := by
    simp [indexName, toString]
  have hoverlaps (u v : Schema) (i j : Field) : Overlaps u i v j ↔
      ∃ r, v.table.toList = u.table.toList ++ '_' :: r ∧
        i.column.toList = r ++ '_' :: j.column.toList := by
    constructor
    · rintro ⟨more, htable, hcolumn⟩
      refine ⟨more.toList, ?_, ?_⟩
      · simp [htable]
      · simp [hcolumn]
    · rintro ⟨r, htable, hcolumn⟩
      refine ⟨String.ofList r, ?_, ?_⟩
      · rw [← String.toList_inj]
        simp [htable]
      · rw [← String.toList_inj]
        simp [hcolumn]
  rw [← String.toList_inj, hname, hname, List.append_right_inj,
    joined_eq_iff (mt String.toList_inj.1 h), hoverlaps, hoverlaps]

/-! ## Names of indexes -/

def indexNames (s : Schema) : List String := s.indexedFields.map (indexName s)

theorem disjoint_indexNames_iff {s t : Schema} (h : s.table ≠ t.table) :
    (indexNames s).Disjoint (indexNames t) ↔
      ∀ f ∈ s.indexedFields, ∀ g ∈ t.indexedFields,
        ¬ Overlaps s f t g ∧ ¬ Overlaps t g s f := by
  simp only [← not_or, ← indexName_eq_iff h]
  constructor
  · intro hdisjoint f hf g hg heq
    exact hdisjoint (List.mem_map_of_mem hf) (heq ▸ List.mem_map_of_mem hg)
  · intro hapart name hs ht
    obtain ⟨f, hf, rfl⟩ := List.mem_map.1 hs
    obtain ⟨g, hg, heq⟩ := List.mem_map.1 ht
    exact hapart f hf g hg heq.symm

/-- The name of a table begins with that of another and an underscore. -/
def Extends (t s : Schema) : Prop := ∃ more, t.table = s.table ++ "_" ++ more

theorem disjoint_indexNames {s t : Schema} (h : s.table ≠ t.table) (hst : ¬ Extends t s)
    (hts : ¬ Extends s t) : (indexNames s).Disjoint (indexNames t) := by
  rw [disjoint_indexNames_iff h]
  refine fun f _ g _ => ⟨?_, ?_⟩
  · rintro ⟨more, htable, _⟩
    exact hst ⟨more, htable⟩
  · rintro ⟨more, htable, _⟩
    exact hts ⟨more, htable⟩

theorem not_overlaps_of_column_eq {s t : Schema} {f g : Field} (h : f.column = g.column) :
    ¬ Overlaps s f t g := by
  rintro ⟨more, _, hcolumn⟩
  have hlength := congrArg String.length hcolumn
  rw [h, String.length_append, String.length_append] at hlength
  have hunderscore : "_".length = 1 := rfl
  omega

/-- Every table has an index on the owner of its rows. -/
theorem owner_mem_indexedFields (s : Schema) : Field.owner ∈ s.indexedFields := by
  simp [Schema.indexedFields, Field.owner]

/-! ## Names of triggers -/

theorem triggerFunction_eq_iff {s t : Schema} :
    triggerFunction s = triggerFunction t ↔ s.table = t.table := by
  simp [triggerFunction, toString]

theorem triggerName_eq_iff {s t : Schema} : triggerName s = triggerName t ↔ s.table = t.table := by
  simp [triggerName, toString]

theorem hasUpdatedAt_eq (s : Schema) : hasUpdatedAt s = true := by
  simp [hasUpdatedAt, Field.updatedAt]

/-! ## The text -/

/-- A migration makes its indexes and its trigger under these names. -/
structure ShowsNames (s : Schema) : Prop where
  indexes : Prints (text s) (lines s) ["", "-- Indexes"] s.indexedFields
    (fun f => [indexLine s f]) [""] fun f =>
      ["CREATE INDEX IF NOT EXISTS " ++ indexName s f ++ " ON public." ++ s.table]
  triggers : ∃ lines, text s = unlines lines ∧
    Mentions lines ("CREATE OR REPLACE FUNCTION public." ++ triggerFunction s ++ "()") ∧
    Mentions lines ("CREATE TRIGGER " ++ triggerName s)

theorem exists_indexLine_eq (s : Schema) (f : Field) : ∃ rest, indexLine s f =
    "CREATE INDEX IF NOT EXISTS " ++ indexName s f ++ " ON public." ++ s.table ++ rest := by
  obtain ⟨method, hline⟩ : ∃ method, indexLine s f =
      "CREATE INDEX IF NOT EXISTS " ++ indexName s f ++ " ON public." ++ s.table ++ method ++ " ("
        ++ f.column ++ ");" := ⟨_, rfl⟩
  refine ⟨method ++ " (" ++ f.column ++ ");", ?_⟩
  rw [hline]
  simp only [String.append_assoc]

theorem mentions_indexName (s : Schema) (f : Field) :
    Mentions [indexLine s f]
      ("CREATE INDEX IF NOT EXISTS " ++ indexName s f ++ " ON public." ++ s.table) := by
  obtain ⟨rest, hline⟩ := exists_indexLine_eq s f
  refine .of_eq (indexLine s f) "" rest List.mem_cons_self ?_
  rw [hline, String.empty_append]

theorem showsNames (s : Schema) : ShowsNames s where
  indexes := by
    have hne : s.indexedFields.isEmpty = false :=
      List.isEmpty_eq_false_iff_exists_mem.2 ⟨_, owner_mem_indexedFields s⟩
    have hlines : ["", "-- Indexes"] ++ s.indexedFields.flatMap (fun f => [indexLine s f]) =
        indexLines s := by
      rw [← List.map_eq_flatMap, indexLines, hne]
      rfl
    refine ⟨rfl, ?_, ?_⟩
    · obtain ⟨rest, htrigger⟩ : [""] <+: triggerLines s := by
        rw [triggerLines, if_pos (hasUpdatedAt_eq s)]
        exact ⟨_, rfl⟩
      refine ⟨headerLines s ++ [""] ++ tableLines s ++ commentLines s, rest ++ securityLines s, ?_⟩
      rw [hlines, lines, followingLines, ← htrigger]
      simp only [List.append_assoc]
    · intro f _
      rw [List.forall_mem_singleton]
      exact mentions_indexName s f
  triggers := by
    have hfunction : Mentions (triggerLines s)
        ("CREATE OR REPLACE FUNCTION public." ++ triggerFunction s ++ "()") := by
      refine .of_mem ?_
      simp [triggerLines, hasUpdatedAt_eq, toString]
    have htrigger : Mentions (triggerLines s) ("CREATE TRIGGER " ++ triggerName s) := by
      refine .of_mem ?_
      simp [triggerLines, hasUpdatedAt_eq, toString]
    have hlines : triggerLines s ⊆ lines s :=
      List.subset_append_of_subset_right _
        (List.subset_append_of_subset_left _ (List.subset_append_right _ _))
    exact ⟨lines s, rfl, hfunction.mono hlines, htrigger.mono hlines⟩

/-! ## Two migrations -/

/-- What two migrations have in common by the names that they make. -/
structure NamesApart (s t : Schema) : Prop where
  shown : ShowsNames s ∧ ShowsNames t
  indexName_eq_iff : ∀ f ∈ s.indexedFields, ∀ g ∈ t.indexedFields,
    indexName s f = indexName t g ↔ Overlaps s f t g ∨ Overlaps t g s f
  disjoint_iff : (indexNames s).Disjoint (indexNames t) ↔
    ∀ f ∈ s.indexedFields, ∀ g ∈ t.indexedFields, ¬ Overlaps s f t g ∧ ¬ Overlaps t g s f
  disjoint : ¬ Extends t s → ¬ Extends s t → (indexNames s).Disjoint (indexNames t)
  owners : Field.owner ∈ s.indexedFields ∧ Field.owner ∈ t.indexedFields ∧
    indexName s Field.owner ≠ indexName t Field.owner
  functions : triggerFunction s ≠ triggerFunction t
  triggers : triggerName s ≠ triggerName t

/-- Two tables share the name of an index just where one table is named like the other with more,
and one of its columns like a column of the other without it. They never share the names of their
triggers. -/
theorem names_apart {s t : Schema} (h : s.table ≠ t.table) : NamesApart s t where
  shown := ⟨showsNames s, showsNames t⟩
  indexName_eq_iff f _ g _ := indexName_eq_iff h f g
  disjoint_iff := disjoint_indexNames_iff h
  disjoint := disjoint_indexNames h
  owners := by
    refine ⟨owner_mem_indexedFields s, owner_mem_indexedFields t, ?_⟩
    rw [Ne, indexName_eq_iff h]
    exact not_or_intro (not_overlaps_of_column_eq rfl) (not_overlaps_of_column_eq rfl)
  functions := mt triggerFunction_eq_iff.1 h
  triggers := mt triggerName_eq_iff.1 h

end Artifact.Migration

/-! ## An order and its items -/

namespace Schema

/-- A table with an index on a column whose name begins like that of another table goes on. -/
def order : Schema where
  name := "Order"
  table := "order"
  fields := [{ name := "itemUserId", column := "item_user_id", type := .uuid, indexed := true }]
  operations := []
  policies := []

def orderEntries : Entries := [
  (.text "name", .text "Order"),
  (.text "tableName", .text "order"),
  (.text "fields", .list [
    .map [(.text "name", .text "itemUserId"), (.text "dbName", .text "item_user_id"),
      (.text "type", .text "uuid"), (.text "index", .bool true)]]),
  (.text "operations", .list []),
  (.text "rls", .list [])]

theorem order_accepted : order.Accepted := (accepted_iff order).2 ⟨orderEntries, rfl⟩

def orderItem : Schema where
  name := "OrderItem"
  table := "order_item"
  fields := []
  operations := []
  policies := []

def orderItemEntries : Entries := [
  (.text "name", .text "OrderItem"),
  (.text "tableName", .text "order_item"),
  (.text "fields", .list []),
  (.text "operations", .list []),
  (.text "rls", .list [])]

theorem orderItem_accepted : orderItem.Accepted :=
  (accepted_iff orderItem).2 ⟨orderItemEntries, rfl⟩

end Schema

namespace Artifact.Migration

theorem article_order_names_apart : Schema.article.table ≠ Schema.order.table ∧
    NamesApart .article .order := ⟨by decide, names_apart (by decide)⟩

/-- The index on the owner of an item has the name of another index on the orders. -/
theorem order_names_clash : Schema.order.Accepted ∧ Schema.orderItem.Accepted ∧
    Schema.order.table ≠ Schema.orderItem.table ∧
    ¬ (indexNames .order).Disjoint (indexNames .orderItem) := by
  refine ⟨Schema.order_accepted, Schema.orderItem_accepted, by decide, fun hdisjoint => ?_⟩
  exact hdisjoint (a := "idx_order_item_user_id") (by decide) (by decide)

end Artifact.Migration
end Scaffold
