import Scaffold.Schema.Entity

/-!
# Filters

An operation filters by names that are usually, but not necessarily, names of fields. Layers that
declare a parameter for every enumeration take those names out of the operations; what is left is
declared once for each name, in the order of first use.
-/
namespace Scaffold

/-- A filter parameter and its type in TypeScript. -/
structure Filter where
  name : String
  scriptType : String
deriving DecidableEq, Repr

/-- Whether the names of enumerations are taken out of the filters, and of which enumerations if not
of all. -/
structure Exclusion where
  ofEnums : Bool := false
  among : Option (List String) := none
deriving DecidableEq, Repr

namespace Exclusion

def none : Exclusion := {}

def enums : Exclusion := { ofEnums := true }

def enumsAmong (names : List String) : Exclusion := { ofEnums := true, among := some names }

end Exclusion

namespace Schema

/-- A filter has the type of the field it names, and else is a string. -/
def filter (s : Schema) (name : String) : Filter :=
  ⟨name, match s.field? name with
    | some f => f.scriptType
    | none => "string"⟩

def enumNames (s : Schema) : List String := s.enumFields.map (·.name)

/-- Names that are given count only where enumerations are excluded at all. -/
def excludedNames (s : Schema) (exclusion : Exclusion) : List String :=
  if exclusion.ofEnums then
    match exclusion.among with
    | some names => s.enumNames.filter names.contains
    | none => s.enumNames
  else []

@[simp] theorem excludedNames_none (s : Schema) : s.excludedNames .none = [] := rfl

@[simp] theorem excludedNames_enums (s : Schema) : s.excludedNames .enums = s.enumNames := rfl

@[simp] theorem excludedNames_enumsAmong (s : Schema) (names : List String) :
    s.excludedNames (.enumsAmong names) = s.enumNames.filter names.contains := rfl

/-- The operations without the excluded names among their filters. -/
def operationsWithout (s : Schema) (exclusion : Exclusion) : List Operation :=
  let excluded := s.excludedNames exclusion
  s.operations.map fun op => { op with filters := op.filters.filter fun n => !excluded.contains n }

def filterNames (operations : List Operation) : List String := operations.flatMap (·.filters)

def declaredFilters (s : Schema) (names : List String) : List Filter :=
  (distinct names).map s.filter

end Schema
end Scaffold
