import Scaffold.Proofs.Filtering
import Scaffold.Proofs.Literals
import Scaffold.Proofs.Printing
import Scaffold.Proofs.Records

/-!
# Fields with declared values

The database checks the values of every field that has some, and so does the form of the admin page
offer them. The validation schemas look at the type instead, and so do the declarations of the page.
Only an enumeration has to have values, but no other type is kept from it: the layers agree just
where no other field has any.
-/
namespace Scaffold

open Artifact Script Text

/-! ## Values in the layers -/

namespace Field

/-- The database checks a field against these values. -/
def ChecksFor (f : Field) (values : List String) : Prop :=
  Migration.restriction f = ["CHECK (" ++ f.column ++ " IN (" ++ Migration.valueList values ++ "))"]

/-- The validation schemas check a field against these values. -/
def ValidatesFor (f : Field) (values : List String) : Prop :=
  f.validator = "z.enum([" ++ literalList values ++ "])"

theorem checksFor_iff (f : Field) (values : List String) :
    f.ChecksFor values ↔ f.values ≠ [] ∧ f.values = values := by
  unfold ChecksFor Migration.restriction
  cases hvalues : f.values with
  | nil => simp
  | cons v vs =>
    simp [String.append_assoc, Literal.valueList_injective.eq_iff]

/-- No other validator begins like that of an enumeration. -/
theorem third_validator_ne {f : Field} (h : f.type ≠ .enum) :
    f.validator.toList[2]? ≠ some 'e' := by
  unfold validator
  cases htype : f.type with
  | enum => exact absurd htype h
  | string | number | integer | boolean | uuid | timestamp | array | json =>
    simp [FieldType.validator]

theorem validatesFor_iff (f : Field) (values : List String) :
    f.ValidatesFor values ↔ f.type = .enum ∧ f.values = values := by
  unfold ValidatesFor
  by_cases htype : f.type = .enum
  · have henum : f.isEnum = true := by simpa [isEnum] using htype
    simp [validator_of_isEnum henum, htype, Literal.literalList_injective.eq_iff]
  · refine iff_of_false (fun heq => third_validator_ne htype ?_) fun h => htype h.1
    rw [heq]
    simp

/-- A check and a validator of the same values are the same for a field that is an enumeration just
if it has values. -/
theorem forall_checksFor_iff_validatesFor_iff (f : Field) :
    (∀ values, f.ChecksFor values ↔ f.ValidatesFor values) ↔ (f.values ≠ [] ↔ f.type = .enum) := by
  simp only [checksFor_iff, validatesFor_iff, and_congr_left_iff]
  exact ⟨fun h => h f.values rfl, fun h _ _ => h⟩

/-- An enumeration that was read has values. -/
theorem values_of_read {d : Document} {f : Field} (h : read d = .valid f)
    (henum : f.type = .enum) : f.values ≠ [] := by
  obtain ⟨raw, _, hchecked⟩ := Checked.thenCheck_eq_valid_iff.1 h
  unfold hasItsValues at hchecked
  split at hchecked
  · cases hchecked
  · next hvalues =>
    obtain rfl : raw = f := by simpa using hchecked
    simpa [isEnum, henum] using hvalues

end Field

theorem Schema.Accepted.values_of_enum {s : Schema} (h : s.Accepted) {f : Field}
    (hf : f ∈ s.fields) (henum : f.type = .enum) : f.values ≠ [] := by
  obtain ⟨entries, hparts, _⟩ := h.parts
  obtain ⟨d, hlist⟩ := Label.exists_of_required hparts.fields
  obtain ⟨d', hread⟩ := Reading.exists_of_mem_list hlist hf
  exact Field.values_of_read hread henum

/-- No standard field is an enumeration. -/
theorem Schema.enumFields_eq (s : Schema) : s.enumFields = s.fields.filter (·.isEnum) := by
  have hleading : Field.leading.filter (·.isEnum) = [] := by decide
  have htrailing : Field.trailing.filter (·.isEnum) = [] := by decide
  rw [enumFields, columns, List.filter_append, List.filter_append, hleading, htrailing,
    List.nil_append, List.append_nil]

/-! ## Options of the admin page -/

namespace Artifact.AdminPage

/-- What stands before a constant whose values are gone through. -/
def referenceOpening : List Char :=
  [' ', ' ', ' ', ' ', ' ', ' ', ' ', ' ', ' ', ' ', ' ', ' ', '\x7b']

/-- What stands after it. -/
def referenceClosing : List Char :=
  ['.', 'm', 'a', 'p', '(', '(', 'o', 'p', 't', 'i', 'o', 'n', ')', ' ', '=', '>', ' ', '(']

/-- The constant in a line that goes through its values. -/
def reference? (line : String) : Option String :=
  if referenceOpening <+: line.toList then
    let rest := line.toList.drop referenceOpening.length
    some (String.ofList (rest.take (rest.length - referenceClosing.length)))
  else none

theorem reference?_line (constant : String) :
    reference? ("            \x7b" ++ constant ++ ".map((option) => (") = some constant := by
  have hline : ("            \x7b" ++ constant ++ ".map((option) => (").toList =
      referenceOpening ++ (constant.toList ++ referenceClosing) := by
    simp [referenceOpening, referenceClosing]
  unfold reference?
  rw [hline, if_pos (List.prefix_append _ _), List.drop_left]
  simp

theorem reference?_eq_none {cs : List Char} (h : differ referenceOpening cs = true)
    (rest : String) : reference? (String.ofList cs ++ rest) = none :=
  if_neg (not_prefix_ofList_append h rest)

theorem reference?_fixed {cs : List Char} (h : referenceOpening.isPrefixOf cs = false) :
    reference? (String.ofList cs) = none :=
  if_neg (not_prefix_ofList h)

theorem reference?_valueLine (f : Field) : reference? (valueLine f) = none := by
  have hline : valueLine f =
      "            value=\x7bString(form." ++ (f.name ++ " ?? '')\x7d") := by
    unfold valueLine
    simp only [toString, String.append_assoc]
  rw [hline]
  exact reference?_eq_none rfl _

theorem reference?_onChange (f : Field) (value : String) :
    reference? (onChange f value) = none := by
  have hline : onChange f value = "            onChange=\x7b(e) => update('" ++
      (f.name ++ "', " ++ value ++ ")\x7d") := by
    unfold onChange
    simp only [toString, String.append_assoc]
  rw [hline]
  exact reference?_eq_none rfl _

/-- A form refers to the constant of a field where the field is a choice. -/
theorem filterMap_reference?_widgetLines (f : Field) :
    (widgetLines f).filterMap reference? =
      if widget f = .choice then [optionsConstant f] else [] := by
  have hchecked (rest : String) :
      reference? ("            checked=\x7bBoolean(form." ++ rest) = none :=
    reference?_eq_none rfl _
  have hfixed : ∀ line ∈ ["          <select", inputStyle, "          >",
      "              <option key=\x7boption\x7d value=\x7boption\x7d>",
      "                \x7boption\x7d", "              </option>", "            ))\x7d",
      "          </select>", "          <input", "            type=\"checkbox\"",
      "            className=\"ml-2\"", "          />", "            type=\"number\"",
      "          <textarea", "            rows=\x7b12\x7d",
      "            className=\"mt-1 block w-full rounded border p-2 font-mono\""],
      reference? line = none := by
    iterate 15 refine List.forall_mem_cons.2 ⟨reference?_fixed rfl, ?_⟩
    exact List.forall_mem_singleton.2 (reference?_fixed rfl)
  simp only [List.forall_mem_cons, List.not_mem_nil, IsEmpty.forall_iff, implies_true,
    and_true] at hfixed
  unfold widgetLines
  cases widget f with
  | choice =>
    simp only [List.filterMap_cons, hfixed, reference?_valueLine, reference?_onChange, toString,
      reference?_line]
    rfl
  | checkbox =>
    simp only [List.filterMap_cons, hfixed, reference?_onChange, toString, String.append_assoc,
      hchecked]
    rfl
  | number | box | line =>
    simp only [List.filterMap_cons, hfixed, reference?_valueLine, reference?_onChange]
    rfl

theorem filterMap_reference?_inputLines (f : Field) :
    (inputLines f).filterMap reference? =
      if widget f = .choice then [optionsConstant f] else [] := by
  have hlabel : reference? "        <label className=\"block\">" = none :=
    reference?_fixed rfl
  have hclose : reference? "        </label>" = none := reference?_fixed rfl
  have hspan (rest : String) :
      reference? ("          <span className=\"text-sm\">" ++ rest) = none :=
    reference?_eq_none rfl _
  unfold inputLines
  simp only [List.filterMap_append, List.filterMap_cons, List.filterMap_nil, hlabel, hclose,
    toString, String.append_assoc, hspan, filterMap_reference?_widgetLines, List.nil_append,
    List.append_nil]

theorem widget_eq_choice_iff (f : Field) : widget f = .choice ↔ f.values ≠ [] := by
  unfold widget
  cases f.values with
  | nil =>
    simp only [List.isEmpty_nil]
    split_ifs <;> simp_all
  | cons v vs => simp

/-- The constants that the form refers to are those of the fields with values. -/
theorem filterMap_reference?_flatMap_inputLines (fields : List Field) :
    (fields.flatMap inputLines).filterMap reference? =
      (fields.filter fun f => f.values ≠ []).map optionsConstant := by
  rw [List.filterMap_flatMap]
  simp only [filterMap_reference?_inputLines, widget_eq_choice_iff]
  induction fields with
  | nil => rfl
  | cons f rest ih =>
    rw [List.flatMap_cons, ih, List.filter_cons]
    by_cases hf : f.values = []
    · simp [hf]
    · simp [hf]

theorem mem_declaredConstants_iff (s : Schema) (constant : String) :
    constant ∈ declaredConstants s ↔
      ∃ f ∈ s.fields, f.type = .enum ∧ optionsConstant f = constant := by
  simp [declaredConstants, s.enumFields_eq, Field.isEnum, and_assoc]

end Artifact.AdminPage

/-! ## What the texts show -/

namespace Artifact

theorem Migration.mem_separated {line : String} {lines : List String} (h : line ∈ lines) :
    line ∈ separated lines ∨ line ++ "," ∈ separated lines := by
  induction lines with
  | nil => cases h
  | cons first rest ih =>
    cases rest with
    | nil => exact .inl h
    | cons second rest =>
      rw [separated]
      rcases List.mem_cons.1 h with rfl | h
      · exact .inr List.mem_cons_self
      · exact (ih h).imp (List.mem_cons_of_mem _) (List.mem_cons_of_mem _)

theorem Migration.mentions_definition {s : Schema} {f : Field} (h : f ∈ s.columns) :
    ∃ lines, text s = unlines lines ∧ Mentions lines (definition f) := by
  refine ⟨lines s, rfl, ?_⟩
  have htable : Mentions (tableLines s) (definition f) := by
    have hsub : separated (s.columns.map definition) ⊆ tableLines s :=
      List.subset_append_of_subset_left _ (List.subset_append_right _ _)
    rcases mem_separated (List.mem_map_of_mem h) with hline | hline
    · exact .of_mem (hsub hline)
    · exact .of_eq _ "" "," (hsub hline) (by rw [String.empty_append])
  refine htable.mono fun line hline => ?_
  simp only [lines, List.mem_append, hline, true_or, or_true]

theorem exists_intercalate_concat (separator first : String) (rest : List String) (last : String) :
    ∃ before, separator.intercalate (first :: (rest ++ [last])) = before ++ last := by
  induction rest generalizing first with
  | nil =>
    refine ⟨first ++ separator, ?_⟩
    rw [List.nil_append, String.intercalate_cons_cons, String.intercalate_singleton]
  | cons second rest ih =>
    obtain ⟨before, hbefore⟩ := ih second
    refine ⟨first ++ separator ++ before, ?_⟩
    rw [List.cons_append, String.intercalate_cons_cons, hbefore, ← String.append_assoc]

/-- A check comes last in the definition of its column. -/
theorem Migration.exists_definition_eq {f : Field} {check : String} (h : check ∈ restriction f) :
    ∃ before, definition f = before ++ check := by
  have hrestriction : restriction f = [check] := by
    unfold restriction at h ⊢
    split at h
    · cases h
    · next hvalues =>
      rw [if_neg hvalues, List.mem_singleton.1 h]
  obtain ⟨before, hbefore⟩ := exists_intercalate_concat " " f.column
    (f.sqlType :: (presence f ++ (if f.unique then ["UNIQUE"] else [])
      ++ (f.sqlDefault.map ("DEFAULT " ++ ·)).toList ++ reference f)) check
  refine ⟨"  " ++ before, ?_⟩
  rw [String.append_assoc, ← hbefore, definition, clauses, hrestriction, List.cons_append]

theorem Validation.mentions_validator {s : Schema} {f : Field} (h : f ∈ s.writableFields) :
    ∃ lines, text s = unlines lines ∧ Mentions lines (f.name ++ ": " ++ f.validator) := by
  have hline : (createEntry f).line ∈ (createEntries s).map Entry.line :=
    List.mem_map_of_mem (List.mem_map_of_mem h)
  refine ⟨lines s, rfl, .of_eq (createEntry f).line "  "
    (onlyIf (!f.required) ".optional()" ++ onlyIf (!f.required) ".nullable()" ++ ",") ?_ ?_⟩
  · simp only [lines, objectLines, List.mem_append, hline, true_or, or_true]
  · simp only [Entry.line, createEntry, String.append_assoc]

/-- The form has an input for each field that can be changed, and nothing else. -/
theorem AdminPage.encloses_inputs (s : Schema) :
    formOpening s ++ s.updatableFields.flatMap inputLines ++ formClosing <:+: lines s := by
  have hpage : formOpening s ++ s.updatableFields.flatMap inputLines ++ formClosing <:+:
      pageLines s := by
    refine ⟨headingLines s, tableLines s ++ excerptLines, ?_⟩
    simp only [pageLines, List.append_assoc]
  exact List.infix_append_of_infix_left (List.infix_append_of_infix_right hpage)

/-- The constants with values, from the name of the endpoint to the examples. -/
theorem AdminPage.prints_options (s : Schema) : Prints (text s) (lines s)
    ["", "const FUNCTION_NAME = '" ++ s.table ++ "-crud'"] s.enumFields optionsLines
    ["", "const EXAMPLES: \x7b title: string; code: string \x7d[] = ["] fun f =>
      ["const " ++ optionsConstant f ++ " = [" ++ literalList f.values ++ "]"] where
  written := rfl
  enclosed := by
    obtain ⟨before, hheader⟩ : nameLines s <:+ headerLines s := List.suffix_append _ _
    refine ⟨before, s.examples.map exampleLine ++ ["]"] ++ [""] ++ (rowInterface s).lines ++
      formLines s ++ callLines ++ ["", s!"export function {s.name}AdminPage() \x7b"] ++
      loadLines s ++ changeLines s ++ pageLines s ++ ["", s!"export default {s.name}AdminPage"], ?_⟩
    rw [lines, examplesLines, ← hheader]
    simp only [nameLines, List.append_assoc]
    rfl
  mentioned f _ := by
    rw [List.forall_mem_singleton]
    exact .of_mem (List.mem_cons_of_mem _ List.mem_cons_self)

/-! ## All layers -/

/-- Where the values of a field show. -/
structure ShowsRestrictions (s : Schema) : Prop where
  columns : ∀ f ∈ s.fields, ∃ lines, Migration.text s = unlines lines ∧
    Mentions lines (Migration.definition f)
  checks : ∀ f ∈ s.fields, ∀ check ∈ Migration.restriction f,
    ∃ before, Migration.definition f = before ++ check
  validators : ∀ f ∈ s.fields, ∃ lines, Validation.text s = unlines lines ∧
    Mentions lines (f.name ++ ": " ++ f.validator)
  inputs : AdminPage.text s = unlines (AdminPage.lines s) ∧
    AdminPage.formOpening s ++ s.fields.flatMap AdminPage.inputLines ++ AdminPage.formClosing <:+:
      AdminPage.lines s
  options : Prints (AdminPage.text s) (AdminPage.lines s)
    ["", "const FUNCTION_NAME = '" ++ s.table ++ "-crud'"] s.enumFields AdminPage.optionsLines
    ["", "const EXAMPLES: \x7b title: string; code: string \x7d[] = ["] fun f =>
      ["const " ++ AdminPage.optionsConstant f ++ " = [" ++ literalList f.values ++ "]"]

/-- Where the layers agree on the fields that have values. -/
structure RestrictionsAgree (s : Schema) : Prop where
  shown : ShowsRestrictions s
  checks_iff : ∀ f ∈ s.fields,
    (∀ values, f.ChecksFor values ↔ f.ValidatesFor values) ↔ (f.values ≠ [] → f.type = .enum)
  options_iff :
    (∀ constant ∈ (s.fields.flatMap AdminPage.inputLines).filterMap AdminPage.reference?,
      constant ∈ AdminPage.declaredConstants s) ↔
    ∀ f ∈ s.fields, f.values ≠ [] →
      ∃ g ∈ s.fields, g.type = .enum ∧ AdminPage.optionsConstant g = AdminPage.optionsConstant f
  agree : (∀ f ∈ s.fields, f.values ≠ [] → f.type = .enum) →
    (∀ f ∈ s.fields, ∀ values, f.ChecksFor values ↔ f.ValidatesFor values) ∧
    ∀ constant ∈ (s.fields.flatMap AdminPage.inputLines).filterMap AdminPage.reference?,
      constant ∈ AdminPage.declaredConstants s

theorem showsRestrictions {s : Schema} (h : Field.CollisionFree s.fields) :
    ShowsRestrictions s where
  columns f hf := Migration.mentions_definition
    (List.mem_append_left _ (List.mem_append_right _ hf))
  checks f _ check hcheck := Migration.exists_definition_eq hcheck
  validators f hf := by
    refine Validation.mentions_validator ?_
    rw [Schema.writableFields_eq h]
    exact List.mem_cons_of_mem _ hf
  inputs := by
    rw [← Schema.updatableFields_eq h]
    exact ⟨rfl, AdminPage.encloses_inputs s⟩
  options := AdminPage.prints_options s

theorem AdminPage.forall_reference_iff (s : Schema) :
    (∀ constant ∈ (s.fields.flatMap inputLines).filterMap reference?,
      constant ∈ declaredConstants s) ↔
    ∀ f ∈ s.fields, f.values ≠ [] →
      ∃ g ∈ s.fields, g.type = .enum ∧ optionsConstant g = optionsConstant f := by
  rw [filterMap_reference?_flatMap_inputLines, List.forall_mem_map]
  simp only [List.mem_filter, decide_eq_true_eq, mem_declaredConstants_iff, and_imp]

end Artifact

/-- The layers agree on a field with values just if it is an enumeration. -/
theorem restrictions_agree {s : Schema} (h : s.Accepted) : RestrictionsAgree s where
  shown := showsRestrictions h.collisionFree
  checks_iff f hf := by
    rw [Field.forall_checksFor_iff_validatesFor_iff]
    exact ⟨fun hiff => hiff.1, fun honly => ⟨honly, h.values_of_enum hf⟩⟩
  options_iff := AdminPage.forall_reference_iff s
  agree honly := by
    refine ⟨fun f hf => ?_, (AdminPage.forall_reference_iff s).2 fun f hf hvalues => ?_⟩
    · rw [Field.forall_checksFor_iff_validatesFor_iff]
      exact ⟨honly f hf, h.values_of_enum hf⟩
    · exact ⟨f, hf, honly f hf hvalues, rfl⟩

theorem article_restrictions_agree : Schema.article.Accepted ∧ RestrictionsAgree .article ∧
    ∀ f ∈ Schema.article.fields, f.values ≠ [] → f.type = .enum :=
  ⟨Schema.article_accepted, restrictions_agree Schema.article_accepted, by decide⟩

/-! ## A text with values -/

namespace Schema

/-- A schema with a field that is no enumeration and has values nonetheless. -/
def badge : Schema where
  name := "Badge"
  table := "badges"
  fields := [
    { name := "tone", column := "tone", type := .string, enumValues := some ["warm", "cold"] }]
  operations := []
  policies := []

def badgeEntries : Entries := [
  (.text "name", .text "Badge"),
  (.text "tableName", .text "badges"),
  (.text "fields", .list [
    .map [(.text "name", .text "tone"), (.text "dbName", .text "tone"),
      (.text "type", .text "string"), (.text "enumValues", .list [.text "warm", .text "cold"])]]),
  (.text "operations", .list []),
  (.text "rls", .list [])]

theorem badge_accepted : badge.Accepted := (accepted_iff badge).2 ⟨badgeEntries, rfl⟩

end Schema

/-- The database checks the values of the badge's tone, its validator takes any text, and the page
offers the values of a constant that it does not declare. -/
theorem badge_restrictions_differ : Schema.badge.Accepted ∧
    Schema.badge.fields[0].ChecksFor ["warm", "cold"] ∧
    ¬ Schema.badge.fields[0].ValidatesFor ["warm", "cold"] ∧
    "TONE_OPTIONS" ∈ (Schema.badge.fields.flatMap AdminPage.inputLines).filterMap
      AdminPage.reference? ∧
    "TONE_OPTIONS" ∉ AdminPage.declaredConstants .badge := by
  refine ⟨Schema.badge_accepted, rfl, ?_, ?_, by decide⟩
  · rw [Field.validatesFor_iff]
    decide
  · rw [AdminPage.filterMap_reference?_flatMap_inputLines]
    decide

end Scaffold
