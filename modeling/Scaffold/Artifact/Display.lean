import Scaffold.Schema.Entity

/-!
# What a short form shows

The pages show the first few fields that a row can be given, and make room for long text when the
entity has any.
-/
namespace Scaffold

/-- The field that is written in a large box. -/
def Field.contentName : String := "content"

namespace Schema

/-- The first fields that a row can be given, without its owner. -/
def displayFields (s : Schema) (count : Nat) : List Field :=
  (s.writableFields.filter fun f => f.name ≠ Field.owner.name).take count

def hasContent (s : Schema) : Bool := (s.field? Field.contentName).isSome

end Schema
end Scaffold
