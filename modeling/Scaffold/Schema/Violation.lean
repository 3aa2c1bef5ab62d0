/-!
# Rules between the parts of a schema

What can be wrong with parts that are each sound by themselves.
-/
namespace Scaffold

inductive Violation
  /-- An enumeration without values. -/
  | noValues (field : String)
  /-- A custom operation without a name. -/
  | unnamedOperation
  /-- A name or column that belongs to a standard field. -/
  | reserved (field standard : String)
  | primaryKey (field standard : String)
  | repeatedName (name : String)
  | repeatedColumn (column : String)
deriving DecidableEq, Repr

def Violation.message : Violation → String
  | .noValues field => s!"Field '{field}' is of type enum but 'enumValues' is missing or empty."
  | .unnamedOperation => "Custom operations require a 'name'."
  | .reserved field standard =>
    s!"Field '{field}' collides with the standard field '{standard}', which is always generated. "
      ++ "Remove it from the schema."
  | .primaryKey field standard =>
    s!"Field '{field}' is marked primaryKey; the primary key '{standard}' is always generated."
  | .repeatedName name => s!"Duplicate field name '{name}'."
  | .repeatedColumn column => s!"Duplicate field dbName '{column}'."

end Scaffold
