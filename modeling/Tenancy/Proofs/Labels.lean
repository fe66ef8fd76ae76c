import Tenancy.Organization.View
import Tenancy.Proofs.Traversal

/-!
# Labels of forests

The labels of a forest are those of its nodes, in pre-order (`labels_eq`). A forest that is built
from rows has exactly their labels, in the same order (`labels_ofRows`), and relabelling depends
only on what the new labels of the old ones are (`map_congr`). If some label may have no new one,
the forest is relabelled as a whole or not at all (`exists_mapOption_iff`).
-/

namespace Tenancy

namespace Forest

variable {α β γ : Type}

/-- The trees of a forest, each given by the label of its root and the forest of the children. -/
def trees : Forest α → List (α × Forest α)
  | nil => []
  | cons a children siblings => (a, children) :: siblings.trees

/-- The nodes in pre-order, each with the forest of its children. -/
def nodes : Forest α → List (α × Forest α)
  | nil => []
  | cons a children siblings => (a, children) :: (children.nodes ++ siblings.nodes)

theorem roots_eq (t : Forest α) : t.roots = t.trees.map (·.1) := by
  induction t with
  | nil => rfl
  | cons a children siblings _ ih => rw [roots, trees, List.map_cons, ih]

theorem labels_eq (t : Forest α) : t.labels = t.nodes.map (·.1) := by
  induction t with
  | nil => rfl
  | cons a children siblings ihChildren ihSiblings =>
    rw [labels, nodes, List.map_cons, List.map_append, ihChildren, ihSiblings]

theorem label_mem_labels {t : Forest α} {node : α × Forest α} (shown : node ∈ t.nodes) :
    node.1 ∈ t.labels := by
  rw [labels_eq]
  exact List.mem_map_of_mem shown

theorem mem_nodes_of_mem_trees {t : Forest α} {tree : α × Forest α} (listed : tree ∈ t.trees) :
    tree ∈ t.nodes := by
  induction t with
  | nil => exact listed
  | cons a children siblings _ ih =>
    rcases List.mem_cons.mp listed with rfl | later
    · exact List.mem_cons_self
    · exact List.mem_cons_of_mem _ (List.mem_append_right _ (ih later))

theorem mem_labels_of_mem_roots {t : Forest α} {a : α} (root : a ∈ t.roots) : a ∈ t.labels := by
  rw [roots_eq] at root
  obtain ⟨tree, listed, rfl⟩ := List.mem_map.mp root
  rw [labels_eq]
  exact List.mem_map_of_mem (mem_nodes_of_mem_trees listed)

/-- The children of a node are nodes. -/
theorem mem_labels_of_mem_nodes {t : Forest α} {node : α × Forest α} (shown : node ∈ t.nodes)
    {child : α} (under : child ∈ node.2.roots) : child ∈ t.labels := by
  induction t with
  | nil => cases shown
  | cons a children siblings ihChildren ihSiblings =>
    rcases List.mem_cons.mp shown with rfl | shown
    · exact List.mem_cons_of_mem _ (List.mem_append_left _ (mem_labels_of_mem_roots under))
    rcases List.mem_append.mp shown with below | beside
    · exact List.mem_cons_of_mem _ (List.mem_append_left _ (ihChildren below))
    · exact List.mem_cons_of_mem _ (List.mem_append_right _ (ihSiblings beside))

theorem labels_ofTrees (trees : List (α × Forest α)) :
    (ofTrees trees).labels = trees.flatMap fun t => t.1 :: t.2.labels := by
  induction trees with
  | nil => rfl
  | cons t rest ih =>
    show t.1 :: (t.2.labels ++ (ofTrees rest).labels) = _
    rw [ih, List.flatMap_cons, List.cons_append]

/-- The labels of trees that wait to be grafted. -/
theorem labels_graft (row : Nat × α) (trees : List (Nat × α × Forest α)) :
    (ofTrees ((graft row trees).map (·.2))).labels =
      row.2 :: (ofTrees (trees.map (·.2))).labels := by
  have split : trees.map (·.2) = (trees.takeWhile (row.1 < ·.1)).map (·.2) ++
      (trees.dropWhile (row.1 < ·.1)).map (·.2) := by
    rw [← List.map_append, List.takeWhile_append_dropWhile]
  rw [split, graft]
  simp only [List.map_cons, labels_ofTrees, List.flatMap_cons, List.flatMap_append,
    List.cons_append]

theorem labels_ofRows (rows : List (Nat × α)) : (ofRows rows).labels = rows.map (·.2) := by
  induction rows with
  | nil => rfl
  | cons row rest ih =>
    show (ofTrees ((graft row (rest.foldr graft [])).map (·.2))).labels = _
    rw [labels_graft, List.map_cons, ← ih, ofRows]

theorem map_map (f : α → β) (g : β → γ) (t : Forest α) :
    (t.map f).map g = t.map fun a => g (f a) := by
  induction t with
  | nil => rfl
  | cons a children siblings ihChildren ihSiblings =>
    simp [map, ihChildren, ihSiblings]

theorem map_id (t : Forest α) : t.map (fun a => a) = t := by
  induction t with
  | nil => rfl
  | cons a children siblings ihChildren ihSiblings => rw [map, ihChildren, ihSiblings]

theorem labels_map (f : α → β) (t : Forest α) : (t.map f).labels = t.labels.map f := by
  induction t with
  | nil => rfl
  | cons a children siblings ihChildren ihSiblings =>
    simp [map, labels, ihChildren, ihSiblings]

theorem map_congr {f g : α → β} {t : Forest α} (agree : ∀ a ∈ t.labels, f a = g a) :
    t.map f = t.map g := by
  induction t with
  | nil => rfl
  | cons a children siblings ihChildren ihSiblings =>
    simp only [labels, List.mem_cons, List.mem_append, or_imp, forall_and, forall_eq] at agree
    obtain ⟨here, below, beside⟩ := agree
    rw [map, map, here, ihChildren below, ihSiblings beside]

/-- Relabelling succeeds just if every label has a new one. -/
theorem exists_mapOption_iff {g : α → Option β} {t : Forest α} :
    (∃ u, t.mapOption g = some u) ↔ ∀ a ∈ t.labels, g a ≠ none := by
  induction t with
  | nil => simp [mapOption, labels]
  | cons a children siblings ihChildren ihSiblings =>
    rw [labels, List.forall_mem_cons, List.forall_mem_append, ← ihChildren, ← ihSiblings,
      Option.ne_none_iff_exists']
    simp only [mapOption, Option.bind_eq_bind, Option.bind_eq_some_iff, Option.pure_def,
      Option.some.injEq]
    constructor
    · rintro ⟨_, b, here, below, inner, beside, outer, -⟩
      exact ⟨⟨b, here⟩, ⟨below, inner⟩, beside, outer⟩
    · rintro ⟨⟨b, here⟩, ⟨below, inner⟩, beside, outer⟩
      exact ⟨_, b, here, below, inner, beside, outer, rfl⟩

/-- What the new labels have in common with the old ones stays where it is. -/
theorem map_of_mapOption {g : α → Option β} {key : α → γ} {newKey : β → γ}
    (kept : ∀ a b, g a = some b → newKey b = key a) {t : Forest α} {u : Forest β}
    (done : t.mapOption g = some u) : u.map newKey = t.map key := by
  induction t generalizing u with
  | nil =>
    cases done
    rfl
  | cons a children siblings ihChildren ihSiblings =>
    simp only [mapOption, Option.bind_eq_bind, Option.bind_eq_some_iff] at done
    obtain ⟨b, here, below, inner, beside, outer, last⟩ := done
    cases last
    rw [map, map, kept a b here, ihChildren inner, ihSiblings outer]

end Forest

/-- The labels of a forest under roots have every property of the roots that links hand down. -/
theorem Links.of_mem_labels_forest {α : Type} {links : Links α} {key : α → Int} {P : α → Prop}
    (closed : ∀ a, P a → ∀ b ∈ links.under (key a), P b) {roots : List α}
    (start : ∀ a ∈ roots, P a) {a : α} (labelled : a ∈ (links.forest key roots).labels) : P a := by
  rw [forest, Forest.labels_ofRows] at labelled
  obtain ⟨x, visit, rfl⟩ := List.mem_map.mp labelled
  refine of_mem_preorder closed (fun y waits => ?_) visit
  obtain ⟨b, root, rfl⟩ := List.mem_map.mp waits
  exact start b root

/-- Marking the authorized nodes changes nothing else. -/
theorem Hierarchy.map_fst_authorize (target : Option Int) (inherited : Bool) (t : Forest Int) :
    (authorize target inherited t).map (·.1) = t := by
  induction t generalizing inherited with
  | nil => rfl
  | cons a children siblings ihChildren ihSiblings =>
    simp [authorize, Forest.map, ihChildren, ihSiblings]

theorem Hierarchy.map_fst_labels_authorize (target : Option Int) (inherited : Bool)
    (t : Forest Int) : (authorize target inherited t).labels.map (·.1) = t.labels := by
  rw [← Forest.labels_map, map_fst_authorize]

end Tenancy
