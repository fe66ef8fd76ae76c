/-!
# Lists without repetition

`distinct` keeps the first occurrence of every element, in order.
-/

namespace Tenancy

variable {α : Type} [DecidableEq α]

/-- The elements in the order of their first occurrences. -/
def distinct : List α → List α
  | [] => []
  | a :: rest => a :: (distinct rest).filter (· ≠ a)

@[simp] theorem mem_distinct {a : α} {l : List α} : a ∈ distinct l ↔ a ∈ l := by
  induction l with
  | nil => simp [distinct]
  | cons b rest ih => by_cases h : a = b <;> simp [distinct, ih, h]

theorem nodup_distinct (l : List α) : (distinct l).Nodup := by
  induction l with
  | nil => simp [distinct]
  | cons b rest ih => exact List.nodup_cons.2 ⟨by simp, ih.filter _⟩

/-- A set of numbers as an ascending list. -/
def ascending (l : List Int) : List Int :=
  (distinct l).mergeSort

end Tenancy
