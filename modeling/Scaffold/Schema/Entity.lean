import Scaffold.Distinct
import Scaffold.Schema.Field
import Scaffold.Schema.Violation

/-!
# Schemas

A schema describes one entity: its fields, the operations on it, and who may see what. Four standard
fields surround the declared ones; no declared field may claim their names or columns, so the
columns of a schema never repeat a name.
-/
namespace Scaffold

structure Operation where
  type : OperationType
  name : Option String := none
  description : Option String := none
  filters : List String := []
  limit : Option Nat := none
deriving DecidableEq, Repr

/-- A rule of row-level security. -/
structure Policy where
  action : String
  name : String
  condition : Option String := none
  check : Option String := none
deriving DecidableEq, Repr

structure Example where
  title : String
  code : String
deriving DecidableEq, Repr

structure Documentation where
  description : Option String := none
  examples : List Example := []
deriving DecidableEq, Repr

structure Schema where
  name : String
  table : String
  fields : List Field
  operations : List Operation
  policies : List Policy
  documentation : Option Documentation := none
deriving DecidableEq, Repr

/-! ## Standard fields -/

namespace Field

def id : Field where
  name := "id"
  column := "id"
  type := .uuid
  required := true
  primaryKey := true
  defaultValue := some "gen_random_uuid()"

/-- The user whom a row belongs to. -/
def owner : Field where
  name := "userId"
  column := "user_id"
  type := .uuid
  required := true
  references := some "auth.users(id)"
  onDelete := some "CASCADE"
  indexed := true

def createdAt : Field where
  name := "createdAt"
  column := "created_at"
  type := .timestamp
  required := true
  defaultValue := some "NOW()"

def updatedAt : Field where
  name := "updatedAt"
  column := "updated_at"
  type := .timestamp
  required := true
  defaultValue := some "NOW()"
  autoUpdate := true

def leading : List Field := [id, owner]

def trailing : List Field := [createdAt, updatedAt]

def standard : List Field := leading ++ trailing

/-- The standard field that owns a name, be it in code or in the table. -/
def ownerOf? (name : String) : Option String :=
  (standard.find? fun s => s.name = name || s.column = name).map (·.name)

def isTimestamp (f : Field) : Bool := f.name = createdAt.name || f.name = updatedAt.name

/-! ## Collisions -/

/-- What a field gets wrong beside the fields declared before it. -/
def collision? (earlier : List Field) (f : Field) : Option Violation :=
  match (ownerOf? f.name).orElse fun _ => ownerOf? f.column with
  | some standard => some (.reserved f.name standard)
  | none =>
    if f.primaryKey then some (.primaryKey f.name id.name)
    else if earlier.any fun e => e.name = f.name then some (.repeatedName f.name)
    else if earlier.any fun e => e.column = f.column then some (.repeatedColumn f.column)
    else none

/-- The collision of the first field that has one. -/
def firstCollision? (earlier : List Field) : List Field → Option Violation
  | [] => none
  | f :: rest => (collision? earlier f).orElse fun _ => firstCollision? (f :: earlier) rest

end Field

/-! ## Views of a schema -/

namespace Operation

/-- The name under which an operation is asked for. -/
def label (op : Operation) : String :=
  if op.type = .custom then op.name.getD "" else op.type.name

end Operation

namespace Schema

/-- The fields of the table, in order. -/
def columns (s : Schema) : List Field := Field.leading ++ s.fields ++ Field.trailing

def field? (s : Schema) (name : String) : Option Field :=
  s.columns.find? fun f => f.name = name

/-- Fields that a new row can be given. -/
def writableFields (s : Schema) : List Field :=
  s.columns.filter fun f => !f.primaryKey && !f.isTimestamp

/-- Fields that can be changed later: a row keeps its owner. -/
def updatableFields (s : Schema) : List Field :=
  s.writableFields.filter fun f => f.name ≠ Field.owner.name

def indexedFields (s : Schema) : List Field := s.columns.filter (·.indexed)

def enumFields (s : Schema) : List Field := s.columns.filter (·.isEnum)

def operationsOf (s : Schema) (type : OperationType) : List Operation :=
  s.operations.filter fun op => op.type = type

/-- The names that operations are given, each once and without the empty one. -/
def operationNames (s : Schema) : List String :=
  distinct (s.operations.filterMap fun op => op.name.filter (· ≠ ""))

def description (s : Schema) : Option String := s.documentation.bind (·.description)

def examples (s : Schema) : List Example :=
  match s.documentation with
  | some d => d.examples
  | none => []

/-- A schema on one line, for people. -/
def summary (s : Schema) : String :=
  s!"<EntitySchema {s.name} ({s.table}): {s.fields.length} fields, "
    ++ s!"{s.operations.length} operations>"

@[simp] theorem columns_eq (s : Schema) :
    s.columns = [Field.id, Field.owner] ++ s.fields ++ [Field.createdAt, Field.updatedAt] := rfl

end Schema
end Scaffold
