import Scaffold.Checked.Record
import Scaffold.Schema.Entity

/-!
# Reading a schema from a document

Every part is read by itself and reports all of its problems. Rules between the parts are looked at
once the parts are sound.
-/
namespace Scaffold

namespace Rules

def minLengthKey : Label := ⟨"minLength", "min_length"⟩
def maxLengthKey : Label := ⟨"maxLength", "max_length"⟩
def minKey : Label := .same "min"
def maxKey : Label := .same "max"
def emailKey : Label := .same "email"
def urlKey : Label := .same "url"
def patternKey : Label := .same "pattern"

def keys : List Label := [minLengthKey, maxLengthKey, minKey, maxKey, emailKey, urlKey, patternKey]

def read : Reading Rules :=
  Reading.record "Validation" keys fun r =>
    Rules.mk
      <$> minLengthKey.optional (Reading.atLeast 0) r
      <*> maxLengthKey.optional (Reading.atLeast 0) r
      <*> minKey.optional Reading.number r
      <*> maxKey.optional Reading.number r
      <*> emailKey.orElse false Reading.truth r
      <*> urlKey.orElse false Reading.truth r
      <*> patternKey.optional Reading.text r

end Rules

namespace Field

def nameKey : Label := .same "name"
def columnKey : Label := ⟨"dbName", "db_name"⟩
def typeKey : Label := ⟨"type", "field_type"⟩
def requiredKey : Label := .same "required"
def defaultKey : Label := .same "default"
def primaryKeyKey : Label := ⟨"primaryKey", "primary_key"⟩
def uniqueKey : Label := .same "unique"
def referencesKey : Label := .same "references"
def onDeleteKey : Label := ⟨"onDelete", "on_delete"⟩
def indexKey : Label := .same "index"
def indexMethodKey : Label := ⟨"indexType", "index_type"⟩
def enumValuesKey : Label := ⟨"enumValues", "enum_values"⟩
def elementKey : Label := ⟨"arrayType", "array_element_type"⟩
def rulesKey : Label := .same "validation"
def autoUpdateKey : Label := ⟨"autoUpdate", "auto_update"⟩

def keys : List Label :=
  [nameKey, columnKey, typeKey, requiredKey, defaultKey, primaryKeyKey, uniqueKey, referencesKey,
    onDeleteKey, indexKey, indexMethodKey, enumValuesKey, elementKey, rulesKey, autoUpdateKey]

/-- A truth value or a number stands for the text it is written as. -/
def readDefault : Reading (Option String)
  | .bool b => .valid (some (if b then "true" else "false"))
  | .int i =>
    match Number.numeral? i with
    | some s => .valid (some s)
    | none => .refuse .longNumeral
  | .float x => .valid (some x.shortest)
  | d => Reading.nullable Reading.text d

def isNullOrAbsent : Option Document → Bool
  | none => true
  | some .null => true
  | some _ => false

/-- An array whose elements have no type is one of strings. -/
def withElementType (entries : Entries) : Entries :=
  match typeKey.find? entries with
  | some (_, .text "array") =>
    if isNullOrAbsent (Document.find? elementKey.spelling entries)
        && isNullOrAbsent (Document.find? elementKey.name entries) then
      Document.insert (.text elementKey.name) (.text ElementType.string.name) entries
    else entries
  | _ => entries

def choices : List (String × FieldType) := FieldType.all.map fun t => (t.name, t)

def elementChoices : List (String × ElementType) := ElementType.all.map fun t => (t.name, t)

def readEntries (r : Entries) : Checked Field :=
  Field.mk
    <$> nameKey.required Reading.nonEmptyText r
    <*> columnKey.required Reading.nonEmptyText r
    <*> typeKey.required (Reading.choice choices) r
    <*> requiredKey.orElse false Reading.truth r
    <*> defaultKey.orElse none readDefault r
    <*> primaryKeyKey.orElse false Reading.truth r
    <*> uniqueKey.orElse false Reading.truth r
    <*> referencesKey.optional Reading.text r
    <*> onDeleteKey.optional Reading.text r
    <*> indexKey.orElse false Reading.truth r
    <*> indexMethodKey.optional Reading.text r
    <*> enumValuesKey.optional (Reading.list Reading.text) r
    <*> elementKey.optional (Reading.choice elementChoices) r
    <*> rulesKey.optional Rules.read r
    <*> autoUpdateKey.orElse false Reading.truth r

def hasItsValues (f : Field) : Checked Field :=
  if f.isEnum && f.values.isEmpty then .refuse (.violation (.noValues f.name)) else .valid f

def read : Reading Field := fun d =>
  let d := match d with
    | .map entries => .map (withElementType entries)
    | d => d
  (Reading.record "EntityField" keys readEntries d).thenCheck hasItsValues

end Field

namespace Operation

def typeKey : Label := ⟨"type", "op_type"⟩
def nameKey : Label := .same "name"
def descriptionKey : Label := .same "description"
def filtersKey : Label := .same "filters"
def limitKey : Label := .same "limit"

def keys : List Label := [typeKey, nameKey, descriptionKey, filtersKey, limitKey]

def choices : List (String × OperationType) := OperationType.all.map fun t => (t.name, t)

def readEntries (r : Entries) : Checked Operation :=
  Operation.mk
    <$> typeKey.required (Reading.choice choices) r
    <*> nameKey.optional Reading.nonEmptyText r
    <*> descriptionKey.optional Reading.text r
    <*> filtersKey.orElse [] (Reading.list Reading.text) r
    <*> limitKey.optional (Reading.atLeast 1) r

def hasItsName (op : Operation) : Checked Operation :=
  if op.type = .custom && (op.name.getD "").isEmpty then .refuse (.violation .unnamedOperation)
  else .valid op

def read : Reading Operation := fun d =>
  (Reading.record "Operation" keys readEntries d).thenCheck hasItsName

end Operation

namespace Policy

def actionKey : Label := .same "action"
def nameKey : Label := .same "name"
def conditionKey : Label := ⟨"using", "using_expr"⟩
def checkKey : Label := ⟨"withCheck", "with_check_expr"⟩

def keys : List Label := [actionKey, nameKey, conditionKey, checkKey]

def read : Reading Policy :=
  Reading.record "RLSPolicy" keys fun r =>
    Policy.mk
      <$> actionKey.required Reading.nonEmptyText r
      <*> nameKey.required Reading.nonEmptyText r
      <*> conditionKey.optional Reading.text r
      <*> checkKey.optional Reading.text r

end Policy

namespace Example

def titleKey : Label := .same "title"
def codeKey : Label := .same "code"

def keys : List Label := [titleKey, codeKey]

def read : Reading Example :=
  Reading.record "Example" keys fun r =>
    Example.mk <$> titleKey.required Reading.text r <*> codeKey.required Reading.text r

end Example

namespace Documentation

def descriptionKey : Label := .same "description"
def examplesKey : Label := .same "examples"

def keys : List Label := [descriptionKey, examplesKey]

def read : Reading Documentation :=
  Reading.record "Documentation" keys fun r =>
    Documentation.mk
      <$> descriptionKey.optional Reading.text r
      <*> examplesKey.orElse [] (Reading.list Example.read) r

end Documentation

namespace Schema

def nameKey : Label := .same "name"
def tableKey : Label := ⟨"tableName", "table_name"⟩
def fieldsKey : Label := .same "fields"
def operationsKey : Label := .same "operations"
def policiesKey : Label := ⟨"rls", "rls_policies"⟩
def documentationKey : Label := .same "documentation"

def keys : List Label :=
  [nameKey, tableKey, fieldsKey, operationsKey, policiesKey, documentationKey]

def readEntries (r : Entries) : Checked Schema :=
  Schema.mk
    <$> nameKey.required Reading.nonEmptyText r
    <*> tableKey.required Reading.nonEmptyText r
    <*> fieldsKey.required (Reading.list Field.read) r
    <*> operationsKey.required (Reading.list Operation.read) r
    <*> policiesKey.required (Reading.list Policy.read) r
    <*> documentationKey.optional Documentation.read r

/-- The names and columns of the fields are all different, from each other and from the standard
ones. -/
def hasNoCollision (s : Schema) : Checked Schema :=
  match Field.firstCollision? [] s.fields with
  | some v => .refuse (.violation v)
  | none => .valid s

def read : Reading Schema := fun d =>
  (Reading.record "EntitySchema" keys readEntries d).thenCheck hasNoCollision

end Schema
end Scaffold
