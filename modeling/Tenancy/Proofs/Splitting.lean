import Mathlib.Data.List.Basic
import Tenancy.Text.Split

/-!
# Splitting and joining

A text is cut at the occurrences of a character into parts that do not have it, and parts without it
are found again behind each other: `intercalate_splitAt` and `splitAt_intercalate`.
-/

namespace Tenancy.Text

variable {separator : Char} {part : List Char} {parts : List (List Char)}

/-- Behind the first part, every part follows a separator. -/
theorem intercalate_cons (separator : Char) (part : List Char) (parts : List (List Char)) :
    [separator].intercalate (part :: parts) = part ++ parts.flatMap (separator :: ·) := by
  induction parts generalizing part with
  | nil => simp
  | cons next rest ih =>
    rw [List.intercalate_cons_cons, ih, List.flatMap_cons, List.append_assoc,
      List.singleton_append, List.cons_append]

theorem splitAt_of_not_mem (free : separator ∉ part) : splitAt separator part = [part] := by
  induction part with
  | nil => rfl
  | cons c rest ih =>
    have other : c ≠ separator := (List.ne_of_not_mem_cons free).symm
    rw [splitAt, if_neg other, ih (List.not_mem_of_not_mem_cons free)]

theorem splitAt_append (free : separator ∉ part) (rest : List Char) :
    splitAt separator (part ++ separator :: rest) = part :: splitAt separator rest := by
  induction part with
  | nil => rw [List.nil_append, splitAt, if_pos rfl]
  | cons c more ih =>
    have other : c ≠ separator := (List.ne_of_not_mem_cons free).symm
    rw [List.cons_append, splitAt, if_neg other, ih (List.not_mem_of_not_mem_cons free)]

/-- Parts without the separator are found again. -/
theorem splitAt_intercalate (free : separator ∉ part) (others : ∀ p ∈ parts, separator ∉ p) :
    splitAt separator ([separator].intercalate (part :: parts)) = part :: parts := by
  rw [intercalate_cons]
  induction parts generalizing part with
  | nil => simpa using splitAt_of_not_mem free
  | cons next rest ih =>
    obtain ⟨nextFree, later⟩ := List.forall_mem_cons.mp others
    rw [List.flatMap_cons, List.cons_append, splitAt_append free, ih nextFree later]

/-- A text is its parts, joined; no part has the separator. -/
theorem intercalate_splitAt (separator : Char) (s : List Char) :
    [separator].intercalate (splitAt separator s) = s ∧ splitAt separator s ≠ [] ∧
      ∀ part ∈ splitAt separator s, separator ∉ part := by
  induction s with
  | nil => simp [splitAt]
  | cons c rest ih =>
    obtain ⟨joined, some, free⟩ := ih
    rw [splitAt]
    obtain ⟨first, parts, cut⟩ := List.exists_cons_of_ne_nil some
    rw [cut] at joined free ⊢
    by_cases same : c = separator
    · rw [if_pos same]
      refine ⟨?_, by simp, List.forall_mem_cons.mpr ⟨List.not_mem_nil, free⟩⟩
      rw [intercalate_cons] at joined
      rw [intercalate_cons, List.nil_append, List.flatMap_cons, List.cons_append, joined, same]
    · rw [if_neg same]
      obtain ⟨own, others⟩ := List.forall_mem_cons.mp free
      refine ⟨?_, by simp, List.forall_mem_cons.mpr ⟨?_, others⟩⟩
      · rw [intercalate_cons] at joined ⊢
        rw [List.cons_append, joined]
      · exact List.not_mem_cons_of_ne_of_not_mem (Ne.symm same) own

end Tenancy.Text
