import Scaffold.Proofs.Restrictions

/-!
# Enumerations told apart by their types

The type of an enumeration is the union of its values, and its validator lists them. Both are made
of literals that are marked character by character, so neither a separator within a value nor a run
of backslashes at its end moves a border between two of them: fields with the same type or the same
validator have the same values in the same order.
-/
namespace Scaffold

open Script Text

namespace Field

theorem enumValues_eq_iff {f g : Field} (h : g.values ≠ []) :
    f.enumValues = g.enumValues ↔ f.values = g.values := by
  constructor
  · intro heq
    rw [values, values, heq]
  · intro heq
    rw [enumValues_of_values_ne_nil h, enumValues_of_values_ne_nil (heq ▸ h), heq]

/-- The union of some values begins with a quote. -/
theorem head_literalUnion {values : List String} (h : values ≠ []) :
    (literalUnion values).toList.head? = some '\'' := by
  cases values with
  | nil => exact absurd rfl h
  | cons v values =>
    have hunion : literalUnion (v :: values) =
        Literal.joined " | " Literal.scriptCode (v :: values) := by
      rw [literalUnion, Literal.script_eq, Literal.joined]
    rw [hunion, Literal.Code.toList_joined_cons, List.head?_cons]

/-- No other type does. -/
theorem head_scriptType_ne {f : Field} (h : f.type ≠ .enum) :
    f.scriptType.toList.head? ≠ some '\'' := by
  unfold scriptType
  cases htype : f.type with
  | enum => exact absurd htype h
  | array =>
    cases f.elementType <;> simp [ElementType.toFieldType, FieldType.scriptType]
  | string | number | integer | boolean | uuid | timestamp | json => simp [FieldType.scriptType]

theorem scriptType_eq_iff {f g : Field} (henum : g.type = .enum) (hvalues : g.values ≠ []) :
    f.scriptType = g.scriptType ↔ f.type = .enum ∧ f.values = g.values := by
  have hunion {e : Field} (he : e.type = .enum) : e.scriptType = literalUnion e.values :=
    scriptType_of_isEnum (by simpa [isEnum] using he)
  by_cases hf : f.type = .enum
  · rw [hunion hf, hunion henum, Literal.literalUnion_injective.eq_iff]
    simp [hf]
  · refine iff_of_false (fun heq => head_scriptType_ne hf ?_) fun hboth => hf hboth.1
    rw [heq, hunion henum]
    exact head_literalUnion hvalues

theorem validator_eq_iff {f g : Field} (henum : g.type = .enum) :
    f.validator = g.validator ↔ f.type = .enum ∧ f.values = g.values := by
  rw [validator_of_isEnum (f := g) (by simpa [isEnum] using henum)]
  exact validatesFor_iff f g.values

/-- A field has the type or the validator of an enumeration just if it is an enumeration of the same
values, whatever characters these have. -/
theorem enum_types_injective {g : Field} (henum : g.type = .enum) (hvalues : g.values ≠ [])
    (f : Field) :
    (f.scriptType = g.scriptType ↔ f.type = .enum ∧ f.enumValues = g.enumValues) ∧
      (f.validator = g.validator ↔ f.type = .enum ∧ f.enumValues = g.enumValues) := by
  rw [enumValues_eq_iff hvalues]
  exact ⟨scriptType_eq_iff henum hvalues, validator_eq_iff henum⟩

/-- An enumeration with a separator in one value, and a backslash at the end of another. -/
def quotedChoice : Field where
  name := "choice"
  column := "choice"
  type := .enum
  enumValues := some ["a' | 'b", "c\\", "d', 'e\n"]

/-- The same values, of which the first is split at its separator. -/
def splitChoice : Field := { quotedChoice with enumValues := some ["a", "b", "c\\", "d', 'e\n"] }

theorem splitChoice_told_apart : quotedChoice.type = .enum ∧ quotedChoice.values ≠ [] ∧
    splitChoice.scriptType ≠ quotedChoice.scriptType ∧
    splitChoice.validator ≠ quotedChoice.validator := by
  have htypes := enum_types_injective (g := quotedChoice) rfl (by decide) splitChoice
  have hvalues : splitChoice.enumValues ≠ quotedChoice.enumValues := by decide
  refine ⟨rfl, by decide, fun heq => ?_, fun heq => ?_⟩
  · exact hvalues (htypes.1.1 heq).2
  · exact hvalues (htypes.2.1 heq).2

end Field
end Scaffold
