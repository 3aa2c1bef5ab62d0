import Scaffold.Document

/-!
# Documents can be compared

Whether two documents are the same can be computed, part by part.
-/
namespace Scaffold.Document

mutual

def same : Document → Document → Bool
  | null, null => true
  | bool a, bool b => a = b
  | int a, int b => a = b
  | float a, float b => a = b
  | text a, text b => a = b
  | halved a p r, halved b q t => a = b ∧ p = q ∧ r = t
  | bytes a, bytes b => a = b
  | date a, date b => a = b
  | dateTime a, dateTime b => a = b
  | list a, list b => sameItems a b
  | set a, set b => sameItems a b
  | map a, map b => sameEntries a b
  | _, _ => false
termination_by structural a => a

def sameItems : List Document → List Document → Bool
  | [], [] => true
  | a :: rest, b :: rest' => same a b && sameItems rest rest'
  | _, _ => false
termination_by structural a => a

def sameEntry : Document × Document → Document × Document → Bool
  | (k, v), (k', v') => same k k' && same v v'
termination_by structural a => a

def sameEntries : List (Document × Document) → List (Document × Document) → Bool
  | [], [] => true
  | a :: rest, b :: rest' => sameEntry a b && sameEntries rest rest'
  | _, _ => false
termination_by structural a => a

end

mutual

theorem same_iff (a b : Document) : same a b = true ↔ a = b := by
  cases a with
  | null | bool | int | float | text | halved | bytes | date | dateTime => cases b <;> simp [same]
  | list items => cases b <;> simp [same, sameItems_iff items]
  | set items => cases b <;> simp [same, sameItems_iff items]
  | map entries => cases b <;> simp [same, sameEntries_iff entries]
termination_by structural a

theorem sameItems_iff (a b : List Document) : sameItems a b = true ↔ a = b := by
  cases a with
  | nil => cases b <;> simp [sameItems]
  | cons first rest => cases b <;> simp [sameItems, same_iff first, sameItems_iff rest]
termination_by structural a

theorem sameEntry_iff (a b : Document × Document) : sameEntry a b = true ↔ a = b := by
  obtain ⟨key, value⟩ := a
  simp [sameEntry, same_iff key, same_iff value, Prod.ext_iff]
termination_by structural a

theorem sameEntries_iff (a b : List (Document × Document)) : sameEntries a b = true ↔ a = b := by
  cases a with
  | nil => cases b <;> simp [sameEntries]
  | cons first rest => cases b <;> simp [sameEntries, sameEntry_iff first, sameEntries_iff rest]
termination_by structural a

end

instance : DecidableEq Document := fun a b => decidable_of_iff _ (same_iff a b)

end Scaffold.Document
