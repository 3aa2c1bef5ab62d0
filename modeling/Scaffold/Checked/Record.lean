import Scaffold.Checked.Scalar

/-!
# Reading records

A record is a mapping with known keys. A key has the spelling of documents and the name of the
field itself; the second is read only where the first is absent, and whatever is not read is a
problem of its own.
-/
namespace Scaffold

/-- The two spellings of a key. -/
structure Label where
  spelling : String
  name : String

/-- A key with one spelling. -/
def Label.same (name : String) : Label := ⟨name, name⟩

abbrev Entries := List (Document × Document)

namespace Label

/-- The value under a key, with the spelling it was found under. -/
def find? (l : Label) (entries : Entries) : Option (String × Document) :=
  match Document.find? l.spelling entries with
  | some v => some (l.spelling, v)
  | none => (Document.find? l.name entries).map fun v => (l.name, v)

variable {α : Type}

def required (l : Label) (read : Reading α) (entries : Entries) : Checked α :=
  match l.find? entries with
  | some (spelling, v) => (read v).under spelling
  | none => .invalid [⟨[l.spelling], .missing⟩]

def orElse (l : Label) (default : α) (read : Reading α) (entries : Entries) : Checked α :=
  match l.find? entries with
  | some (spelling, v) => (read v).under spelling
  | none => .valid default

/-- A value that may be absent or null. -/
def optional (l : Label) (read : Reading α) (entries : Entries) : Checked (Option α) :=
  l.orElse none (Reading.nullable read) entries

end Label

/-- The problem of one key, if no field was read from it. -/
def strangeKey? (spellings : List String) (key : Document) : Option Problem :=
  match Reading.readable? key with
  | some (some s) => if spellings.contains s then none else some ⟨[key.keyText], .unknownKey⟩
  | _ => some ⟨[key.keyText], .keyNotText⟩

def strangers (labels : List Label) (entries : Entries) : List Problem :=
  let spellings := labels.filterMap fun l => (l.find? entries).map (·.1)
  entries.filterMap fun (key, _) => strangeKey? spellings key

/-- Reads the fields of a record of some kind, and finds fault with every other key. -/
def Reading.record {α : Type} (kind : String) (labels : List Label)
    (fields : Entries → Checked α) : Reading α
  | .map entries => (fields entries).also (strangers labels entries)
  | _ => .refuse (.notRecord kind)

end Scaffold
