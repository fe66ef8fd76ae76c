import Tenancy.Proofs.Worklist

/-!
# The walk along links

What `Links.preorder` visits: everything that can be reached from the pending items, every id at
most once, and nothing else.

* `of_mem_preorder`: a property of the pending items that links hand down holds for all that is
  visited.
* `covered_of_pending` and `covered_of_under`: every pending item, and every item under one that is
  visited, was visited before or is visited.
* `preorder_congr`: the walk depends only on the links under the ids that it can reach.
-/

namespace Tenancy.Links

variable {α : Type} {links other : Links α} {key : α → Int} {pending : List (Nat × α)}
  {visited : List Int}

theorem mem_under {parent : Int} {a : α} : a ∈ links.under parent ↔ (parent, a) ∈ links := by
  simp only [under, List.mem_filterMap, Option.ite_none_right_eq_some, Option.some.injEq]
  constructor
  · rintro ⟨⟨k, b⟩, present, rfl, rfl⟩
    exact present
  · intro present
    exact ⟨(parent, a), present, rfl, rfl⟩

/-- A property that the pending items have and that is handed down by links. -/
theorem of_mem_preorder {P : α → Prop} (closed : ∀ a, P a → ∀ b ∈ links.under (key a), P b)
    (start : ∀ x ∈ pending, P x.2) {x : Nat × α}
    (visit : x ∈ links.preorder key pending visited) : P x.2 := by
  induction pending, visited using Links.preorder.induct links key with
  | case1 visited =>
    rw [preorder] at visit
    cases visit
  | case2 depth a rest visited seen ih =>
    rw [preorder, if_pos seen] at visit
    exact ih (fun y later => start y (List.mem_cons_of_mem _ later)) visit
  | case3 depth a rest visited fresh ih =>
    rw [preorder, if_neg fresh] at visit
    have here : P a := start (depth, a) List.mem_cons_self
    rcases List.mem_cons.mp visit with rfl | visit
    · exact here
    · refine ih (fun y later => ?_) visit
      rcases List.mem_append.mp later with child | later
      · obtain ⟨b, under, rfl⟩ := List.mem_map.mp child
        exact closed a here b under
      · exact start y (List.mem_cons_of_mem _ later)

theorem key_not_mem_of_mem_preorder {x : Nat × α}
    (visit : x ∈ links.preorder key pending visited) : key x.2 ∉ visited := by
  rw [preorder_eq_expansions] at visit
  exact Worklist.key_not_mem_of_mem_expansions visit

/-- Every id is visited at most once. -/
theorem nodup_preorder (links : Links α) (key : α → Int) (pending : List (Nat × α))
    (visited : List Int) : ((links.preorder key pending visited).map fun x => key x.2).Nodup := by
  rw [preorder_eq_expansions]
  exact (links.walk key).nodup_expansions pending visited

/-- The id was visited before the walk or is visited by it. -/
def Covered (links : Links α) (key : α → Int) (pending : List (Nat × α)) (visited : List Int)
    (id : Int) : Prop :=
  id ∈ visited ∨ ∃ x ∈ links.preorder key pending visited, key x.2 = id

theorem covered_cons {depth : Nat} {a : α} {rest : List (Nat × α)} (fresh : key a ∉ visited)
    {id : Int} :
    Covered links key ((depth, a) :: rest) visited id ↔
      Covered links key ((links.under (key a)).map (depth + 1, ·) ++ rest) (key a :: visited)
        id := by
  simp only [Covered]
  rw [preorder, if_neg fresh]
  simp only [List.mem_cons, exists_eq_or_imp, eq_comm (a := id), or_left_comm, or_assoc]

theorem covered_of_pending {x : Nat × α} (waits : x ∈ pending) :
    Covered links key pending visited (key x.2) := by
  induction pending, visited using Links.preorder.induct links key with
  | case1 visited => cases waits
  | case2 depth a rest visited seen ih =>
    rcases List.mem_cons.mp waits with rfl | later
    · exact .inl seen
    · simpa only [Covered, preorder, if_pos seen] using ih later
  | case3 depth a rest visited fresh ih =>
    rw [covered_cons fresh]
    rcases List.mem_cons.mp waits with rfl | later
    · exact .inl List.mem_cons_self
    · exact ih (List.mem_append_right _ later)

/-- The walk leaves out nothing under what it visits. -/
theorem covered_of_under {x : Nat × α} (visit : x ∈ links.preorder key pending visited) {b : α}
    (under : b ∈ links.under (key x.2)) : Covered links key pending visited (key b) := by
  induction pending, visited using Links.preorder.induct links key with
  | case1 visited =>
    rw [preorder] at visit
    cases visit
  | case2 depth a rest visited seen ih =>
    rw [preorder, if_pos seen] at visit
    simpa only [Covered, preorder, if_pos seen] using ih visit
  | case3 depth a rest visited fresh ih =>
    rw [preorder, if_neg fresh] at visit
    rw [covered_cons fresh]
    rcases List.mem_cons.mp visit with rfl | visit
    · have waits : (depth + 1, b) ∈ (links.under (key a)).map (depth + 1, ·) ++ rest :=
        List.mem_append_left _ (List.mem_map_of_mem under)
      exact covered_of_pending waits
    · exact ih visit

/-- Two walks agree if the links do under all ids of a set that holds the pending ids and is closed
under links. -/
theorem preorder_congr {P : Int → Prop} (agree : ∀ k, P k → links.under k = other.under k)
    (closed : ∀ k, P k → ∀ a ∈ links.under k, P (key a)) (start : ∀ x ∈ pending, P (key x.2)) :
    links.preorder key pending visited = other.preorder key pending visited := by
  induction pending, visited using Links.preorder.induct links key with
  | case1 visited => rw [preorder, preorder]
  | case2 depth a rest visited seen ih =>
    rw [preorder, preorder, if_pos seen, if_pos seen]
    exact ih fun y later => start y (List.mem_cons_of_mem _ later)
  | case3 depth a rest visited fresh ih =>
    have here : P (key a) := start (depth, a) List.mem_cons_self
    rw [preorder, preorder, if_neg fresh, if_neg fresh, ← agree (key a) here]
    congr 1
    refine ih fun y later => ?_
    rcases List.mem_append.mp later with child | later
    · obtain ⟨b, under, rfl⟩ := List.mem_map.mp child
      exact closed (key a) here b under
    · exact start y (List.mem_cons_of_mem _ later)

theorem forest_congr {P : Int → Prop} (agree : ∀ k, P k → links.under k = other.under k)
    (closed : ∀ k, P k → ∀ a ∈ links.under k, P (key a)) {roots : List α}
    (start : ∀ a ∈ roots, P (key a)) : links.forest key roots = other.forest key roots := by
  rw [forest, forest, preorder_congr agree closed]
  intro x waits
  obtain ⟨a, root, rfl⟩ := List.mem_map.mp waits
  exact start a root

end Tenancy.Links
