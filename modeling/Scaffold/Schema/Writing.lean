import Scaffold.Schema.Reading

/-!
# Writing a schema as a document

Every field is written under its own name, with null for what is absent, so that the document reads
back as the same schema.
-/
namespace Scaffold.Document

def ofOption {α : Type} (write : α → Document) : Option α → Document
  | some a => write a
  | none => .null

def ofTexts (texts : List String) : Document := .list (texts.map .text)

def ofNat (n : Nat) : Document := .int (Int.ofNat n)

/-- A mapping with text keys. -/
def record (entries : List (String × Document)) : Document :=
  .map (entries.map fun (name, v) => (.text name, v))

end Scaffold.Document

namespace Scaffold

open Document

def Rules.toDocument (r : Rules) : Document :=
  record [
    (Rules.minLengthKey.name, ofOption ofNat r.minLength),
    (Rules.maxLengthKey.name, ofOption ofNat r.maxLength),
    (Rules.minKey.name, ofOption .float r.min),
    (Rules.maxKey.name, ofOption .float r.max),
    (Rules.emailKey.name, .bool r.email),
    (Rules.urlKey.name, .bool r.url),
    (Rules.patternKey.name, ofOption .text r.pattern)]

def Field.toDocument (f : Field) : Document :=
  record [
    (Field.nameKey.name, .text f.name),
    (Field.columnKey.name, .text f.column),
    (Field.typeKey.name, .text f.type.name),
    (Field.requiredKey.name, .bool f.required),
    (Field.defaultKey.name, ofOption .text f.defaultValue),
    (Field.primaryKeyKey.name, .bool f.primaryKey),
    (Field.uniqueKey.name, .bool f.unique),
    (Field.referencesKey.name, ofOption .text f.references),
    (Field.onDeleteKey.name, ofOption .text f.onDelete),
    (Field.indexKey.name, .bool f.indexed),
    (Field.indexMethodKey.name, ofOption .text f.indexMethod),
    (Field.enumValuesKey.name, ofOption ofTexts f.enumValues),
    (Field.elementKey.name, ofOption (fun e => .text e.name) f.element),
    (Field.rulesKey.name, ofOption Rules.toDocument f.rules),
    (Field.autoUpdateKey.name, .bool f.autoUpdate)]

def Operation.toDocument (op : Operation) : Document :=
  record [
    (Operation.typeKey.name, .text op.type.name),
    (Operation.nameKey.name, ofOption .text op.name),
    (Operation.descriptionKey.name, ofOption .text op.description),
    (Operation.filtersKey.name, ofTexts op.filters),
    (Operation.limitKey.name, ofOption ofNat op.limit)]

def Policy.toDocument (p : Policy) : Document :=
  record [
    (Policy.actionKey.name, .text p.action),
    (Policy.nameKey.name, .text p.name),
    (Policy.conditionKey.name, ofOption .text p.condition),
    (Policy.checkKey.name, ofOption .text p.check)]

def Example.toDocument (e : Example) : Document :=
  record [(Example.titleKey.name, .text e.title), (Example.codeKey.name, .text e.code)]

def Documentation.toDocument (d : Documentation) : Document :=
  record [
    (Documentation.descriptionKey.name, ofOption .text d.description),
    (Documentation.examplesKey.name, .list (d.examples.map Example.toDocument))]

def Schema.toDocument (s : Schema) : Document :=
  record [
    (Schema.nameKey.name, .text s.name),
    (Schema.tableKey.name, .text s.table),
    (Schema.fieldsKey.name, .list (s.fields.map Field.toDocument)),
    (Schema.operationsKey.name, .list (s.operations.map Operation.toDocument)),
    (Schema.policiesKey.name, .list (s.policies.map Policy.toDocument)),
    (Schema.documentationKey.name, ofOption Documentation.toDocument s.documentation)]

end Scaffold
