/-!
# Lists without repetitions
-/
namespace Scaffold

/-- Each item once, at its first place. -/
def distinct {α : Type} [DecidableEq α] : List α → List α
  | [] => []
  | a :: rest => a :: (distinct rest).filter (· ≠ a)

@[simp] theorem mem_distinct {α : Type} [DecidableEq α] {a : α} {items : List α} :
    a ∈ distinct items ↔ a ∈ items := by
  induction items with
  | nil => simp [distinct]
  | cons b rest ih =>
    by_cases h : a = b <;> simp [distinct, ih, h]

theorem nodup_distinct {α : Type} [DecidableEq α] (items : List α) : (distinct items).Nodup := by
  induction items with
  | nil => simp [distinct]
  | cons a rest ih => exact List.nodup_cons.2 ⟨by simp, ih.filter _⟩

end Scaffold
