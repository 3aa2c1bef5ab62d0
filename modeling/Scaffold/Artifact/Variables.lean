import Scaffold.Schema.Filters
import Scaffold.Schema.Writing

/-!
# What a template can name

Each kind of artifact has a view of the schema: variables with text, lists and records for values.
Here are the records for the parts that the views share.
-/
namespace Scaffold

open Document

/-- The variables of a template, by name. -/
abbrev Variables := List (String × Document)

namespace Field

def codeView (f : Field) : Document :=
  record [
    ("name", .text f.name),
    ("db_name", .text f.column),
    ("typescript_type", .text f.scriptType),
    ("typescript_default", .text f.scriptDefault),
    ("zod_type", .text f.validator),
    ("required", .bool f.required)]

def formView (f : Field) : Document :=
  record [
    ("name", .text f.name),
    ("db_name", .text f.column),
    ("typescript_type", .text f.scriptType),
    ("typescript_default", .text f.scriptDefault),
    ("field_type", .text f.type.name),
    ("required", .bool f.required),
    ("enum_values", ofTexts f.values)]

def enumView (f : Field) : Document :=
  record [
    ("name", .text f.name),
    ("db_name", .text f.column),
    ("enum_values", ofTexts f.values)]

def columnView (f : Field) : Document :=
  record [
    ("name", .text f.name),
    ("db_name", .text f.column),
    ("sql_type", .text f.sqlType),
    ("required", .bool f.required),
    ("default", ofOption .text f.sqlDefault),
    ("primary_key", .bool f.primaryKey),
    ("unique", .bool f.unique),
    ("references", ofOption .text f.references),
    ("on_delete", ofOption .text f.onDelete),
    ("enum_values", ofTexts f.values),
    ("index", .bool f.indexed),
    ("index_type", ofOption .text f.indexMethod),
    ("auto_update", .bool f.autoUpdate)]

end Field

def Filter.view (f : Filter) : Document :=
  record [("name", .text f.name), ("typescript_type", .text f.scriptType)]

/-- A custom operation has a name. -/
def Operation.view (op : Operation) : Document :=
  record [
    ("op_type", .text op.type.name),
    ("name", if op.type = .custom then .text op.label else ofOption .text op.name),
    ("description", ofOption .text op.description),
    ("filters", ofTexts op.filters),
    ("limit", ofOption ofNat op.limit)]

def Operation.customView (op : Operation) : Document :=
  record [
    ("name", .text op.label),
    ("description", ofOption .text op.description),
    ("filters", ofTexts op.filters),
    ("limit", ofOption ofNat op.limit)]

def Policy.view (p : Policy) : Document :=
  record [
    ("action", .text p.action),
    ("name", .text p.name),
    ("using", ofOption .text p.condition),
    ("with_check", ofOption .text p.check)]

namespace Variables

def codeFields (fields : List Field) : Document := .list (fields.map Field.codeView)

def formFields (fields : List Field) : Document := .list (fields.map Field.formView)

def enumFields (fields : List Field) : Document := .list (fields.map Field.enumView)

def columnFields (fields : List Field) : Document := .list (fields.map Field.columnView)

def filters (filters : List Filter) : Document := .list (filters.map Filter.view)

def operations (operations : List Operation) : Document := .list (operations.map Operation.view)

/-- Every view begins with the names of the entity and its table. -/
def ofNames (s : Schema) : Variables := [("name", .text s.name), ("table_name", .text s.table)]

end Variables
end Scaffold
