/-!
# Types of fields and operations

Each type has one name in documents; the tables give its form in SQL, in TypeScript and in the
validation library.
-/
namespace Scaffold

inductive FieldType
  | string
  | number
  | integer
  | boolean
  | uuid
  | timestamp
  | enum
  | array
  | json
deriving DecidableEq, Repr

/-- Types that the elements of an array can have. -/
inductive ElementType
  | string
  | number
  | integer
  | boolean
  | uuid
deriving DecidableEq, Repr

inductive OperationType
  | list
  | get
  | create
  | update
  | delete
  | custom
deriving DecidableEq, Repr

namespace FieldType

def all : List FieldType :=
  [.string, .number, .integer, .boolean, .uuid, .timestamp, .enum, .array, .json]

def name : FieldType → String
  | .string => "string"
  | .number => "number"
  | .integer => "integer"
  | .boolean => "boolean"
  | .uuid => "uuid"
  | .timestamp => "timestamp"
  | .enum => "enum"
  | .array => "array"
  | .json => "json"

def sqlType : FieldType → String
  | .string => "TEXT"
  | .number => "NUMERIC"
  | .integer => "INTEGER"
  | .boolean => "BOOLEAN"
  | .uuid => "UUID"
  | .timestamp => "TIMESTAMPTZ"
  | .enum => "TEXT"
  | .array => "TEXT[]"
  | .json => "JSONB"

def scriptType : FieldType → String
  | .string => "string"
  | .number => "number"
  | .integer => "number"
  | .boolean => "boolean"
  | .uuid => "string"
  | .timestamp => "string"
  | .enum => "string"
  | .array => "string[]"
  | .json => "Record<string, unknown>"

/-- The value that a required field has before it is filled in. -/
def scriptDefault : FieldType → String
  | .string => "''"
  | .number => "0"
  | .integer => "0"
  | .boolean => "false"
  | .uuid => "null"
  | .timestamp => "null"
  | .enum => "''"
  | .array => "[]"
  | .json => "\x7b\x7d"

def validator : FieldType → String
  | .string => "z.string()"
  | .number => "z.number()"
  | .integer => "z.number().int()"
  | .boolean => "z.boolean()"
  | .uuid => "z.string().uuid()"
  | .timestamp => "z.string().datetime()"
  | .enum => "z.string()"
  | .array => "z.array(z.string())"
  | .json => "z.record(z.unknown())"

end FieldType

namespace ElementType

def all : List ElementType := [.string, .number, .integer, .boolean, .uuid]

/-- The same type, for a field of its own. -/
def toFieldType : ElementType → FieldType
  | .string => .string
  | .number => .number
  | .integer => .integer
  | .boolean => .boolean
  | .uuid => .uuid

def name (e : ElementType) : String := e.toFieldType.name

end ElementType

namespace OperationType

def all : List OperationType := [.list, .get, .create, .update, .delete, .custom]

def name : OperationType → String
  | .list => "list"
  | .get => "get"
  | .create => "create"
  | .update => "update"
  | .delete => "delete"
  | .custom => "custom"

end OperationType
end Scaffold
