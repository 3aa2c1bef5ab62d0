import Scaffold.Proofs.Identifiers
import Scaffold.Proofs.Restrictions

/-!
# Views by position

The views of a schema pick columns by name and by mark: the fields that a row can be given are those
that are no key and no time stamp, the ones that can be changed later are not named like the owner
either. By position they are the declared fields with some of the standard ones around them. The two
descriptions meet just where no declared field passes for a standard one, and in a schema that was
accepted none does.
-/
namespace Scaffold

open Artifact

namespace Field

/-- Whether a view would take a declared field for a standard one. -/
def PassesForStandard (f : Field) : Prop :=
  f.primaryKey = true ∨ f.name = owner.name ∨ f.name = createdAt.name ∨ f.name = updatedAt.name

theorem not_passesForStandard_iff (f : Field) : ¬ f.PassesForStandard ↔
    (!f.primaryKey && !f.isTimestamp) = true ∧ f.name ≠ owner.name := by
  simp only [PassesForStandard, isTimestamp, Bool.and_eq_true, Bool.not_eq_true',
    Bool.or_eq_false_iff, decide_eq_false_iff_not, not_or, Bool.not_eq_true]
  tauto

theorem CollisionFree.not_passesForStandard {fields : List Field} (h : CollisionFree fields)
    {f : Field} (hf : f ∈ fields) : ¬ f.PassesForStandard := by
  have hname : ∀ t ∈ standard, f.name ≠ t.name :=
    fun t ht heq => (h.unreserved f hf).1 ⟨t, ht, .inl heq.symm⟩
  rintro (hkey | howner | hcreated | hupdated)
  · rw [h.noPrimaryKey f hf] at hkey
    cases hkey
  · exact hname owner (by decide) howner
  · exact hname createdAt (by decide) hcreated
  · exact hname updatedAt (by decide) hupdated

end Field

namespace Schema

/-! ## Each view in any schema -/

theorem updatableFields_eq_filter (s : Schema) : s.updatableFields =
    s.fields.filter fun f => (!f.primaryKey && !f.isTimestamp) && f.name ≠ Field.owner.name := by
  rw [updatableFields, writableFields_eq_filter, List.filter_cons_of_neg (by decide),
    List.filter_filter]
  exact List.filter_congr fun f _ => Bool.and_comm _ _

/-- The owner is the only standard field with an index. -/
theorem indexedFields_eq (s : Schema) :
    s.indexedFields = Field.owner :: s.fields.filter (·.indexed) := by
  have hleading : Field.leading.filter (·.indexed) = [Field.owner] := by decide
  have htrailing : Field.trailing.filter (·.indexed) = [] := by decide
  rw [indexedFields, columns, List.filter_append, List.filter_append, hleading, htrailing,
    List.append_nil]
  rfl

/-- What a short form shows can be changed later. -/
theorem displayFields_eq_take (s : Schema) (count : Nat) :
    s.displayFields count = s.updatableFields.take count := rfl

/-! ## All views -/

/-- The views of a schema, described by position, with what templates are given of them. -/
structure ViewsPositional (s : Schema) : Prop where
  writable : s.writableFields = Field.owner :: s.fields
  updatable : s.updatableFields = s.fields
  columns : s.columns = Field.id :: (s.writableFields ++ [Field.createdAt, Field.updatedAt])
  indexed : s.indexedFields = Field.owner :: s.fields.filter (·.indexed)
  enums : s.enumFields = s.fields.filter fun f => f.type = .enum
  adminPage : AdminPage.displayFields s = s.fields.take 4
  demo : Demo.displayFields s = s.fields.take 3
  updatedAt : Migration.hasUpdatedAt s = true
  adminPageScope : (AdminPage.scope s).lookup "display_fields" =
    some (Variables.formFields (s.fields.take 4))
  demoScope : (Demo.scope s).lookup "display_fields" =
    some (Variables.formFields (s.fields.take 3))
  updatedAtScope : (Migration.scope s).lookup "has_updated_at" = some (.bool true)

theorem viewsPositional_of_writable {s : Schema}
    (hwritable : s.writableFields = Field.owner :: s.fields)
    (hupdatable : s.updatableFields = s.fields) : s.ViewsPositional where
  writable := hwritable
  updatable := hupdatable
  columns := by
    rw [hwritable]
    rfl
  indexed := s.indexedFields_eq
  enums := by
    rw [s.enumFields_eq]
    rfl
  adminPage := by rw [AdminPage.displayFields, displayFields_eq_take, hupdatable]
  demo := by rw [Demo.displayFields, displayFields_eq_take, hupdatable]
  updatedAt := Migration.hasUpdatedAt_eq s
  adminPageScope := by
    have hlookup : (AdminPage.scope s).lookup "display_fields" =
      some (Variables.formFields (AdminPage.displayFields s)) := rfl
    rw [hlookup, AdminPage.displayFields, displayFields_eq_take, hupdatable]
  demoScope := by
    have hlookup : (Demo.scope s).lookup "display_fields" =
      some (Variables.formFields (Demo.displayFields s)) := rfl
    rw [hlookup, Demo.displayFields, displayFields_eq_take, hupdatable]
  updatedAtScope := by
    have hlookup : (Migration.scope s).lookup "has_updated_at" =
      some (.bool (Migration.hasUpdatedAt s)) := rfl
    rw [hlookup, Migration.hasUpdatedAt_eq]

/-- A declared field is missing from some view just if it passes for a standard one. -/
theorem viewsPositional_iff (s : Schema) :
    s.ViewsPositional ↔ ∀ f ∈ s.fields, ¬ f.PassesForStandard := by
  simp only [Field.not_passesForStandard_iff]
  constructor
  · intro h f hf
    have hupdatable := h.updatable
    rw [updatableFields_eq_filter, List.filter_eq_self] at hupdatable
    simpa using hupdatable f hf
  · intro h
    refine viewsPositional_of_writable ?_ ?_
    · rw [writableFields_eq_filter, List.cons.injEq, List.filter_eq_self]
      exact ⟨rfl, fun f hf => (h f hf).1⟩
    · rw [updatableFields_eq_filter, List.filter_eq_self]
      intro f hf
      simpa using h f hf

/-- In a schema that was accepted each view is what it is by position. -/
theorem views_positional {s : Schema} (h : s.Accepted) : s.ViewsPositional :=
  (viewsPositional_iff s).2 fun _ hf => h.collisionFree.not_passesForStandard hf

theorem article_views_positional : article.Accepted ∧ article.ViewsPositional :=
  ⟨article_accepted, views_positional article_accepted⟩

end Schema
end Scaffold
