import Mathlib.Data.List.Nodup
import Tenancy.Proofs.Labels

/-!
# Forests up to the order of siblings

Two forests that differ in the order of siblings at most (`Rearranged`) have the same nodes, with
the same labels, and each of these hangs under the same node (`Alike`). Conversely, a forest whose
nodes have given children is determined by them and by its roots up to that order
(`rearranged_of_unfolds`).
-/

namespace Tenancy.Forest

variable {α β : Type} {t u : Forest α} {a b : α} {under : α → List α}

/-- The forests differ in the order of siblings at most, at whatever depth. -/
inductive Rearranged : Forest α → Forest α → Prop
  | nil : Rearranged nil nil
  | cons (a : α) {children others siblings rest : Forest α} :
      Rearranged children others → Rearranged siblings rest →
      Rearranged (cons a children siblings) (cons a others rest)
  | swap (a b : α) (children others siblings : Forest α) :
      Rearranged (cons a children (cons b others siblings))
        (cons b others (cons a children siblings))
  | trans {t u v : Forest α} : Rearranged t u → Rearranged u v → Rearranged t v

/-- Some node with the label `b` is a child of one with the label `a`. -/
def Hangs (t : Forest α) (b a : α) : Prop :=
  ∃ node ∈ t.nodes, node.1 = a ∧ b ∈ node.2.roots

/-- The children of every node are those that `under` gives for it, in whatever order. -/
def Unfolds (under : α → List α) (t : Forest α) : Prop :=
  ∀ node ∈ t.nodes, node.2.roots.Perm (under node.1)

/-- The same nodes, each under the same one, in an order of siblings that may differ. -/
structure Alike (t u : Forest α) : Prop where
  rearranged : t.Rearranged u
  labels : t.labels.Perm u.labels
  roots : t.roots.Perm u.roots
  hangs : ∀ b a, t.Hangs b a ↔ u.Hangs b a

/-! ## What a rearrangement keeps -/

namespace Rearranged

protected theorem refl (t : Forest α) : t.Rearranged t := by
  induction t with
  | nil => exact .nil
  | cons a children siblings ihChildren ihSiblings => exact .cons a ihChildren ihSiblings

theorem symm (same : t.Rearranged u) : u.Rearranged t := by
  induction same with
  | nil => exact .nil
  | cons a _ _ ihChildren ihSiblings => exact .cons a ihChildren ihSiblings
  | swap a b children others siblings => exact .swap b a others children siblings
  | trans _ _ first second => exact second.trans first

theorem perm_roots (same : t.Rearranged u) : t.roots.Perm u.roots := by
  induction same with
  | nil => exact .nil
  | cons a _ _ _ ihSiblings => exact ihSiblings.cons a
  | swap a b children others siblings => exact .swap b a siblings.roots
  | trans _ _ first second => exact first.trans second

theorem perm_labels (same : t.Rearranged u) : t.labels.Perm u.labels := by
  induction same with
  | nil => exact .nil
  | cons a _ _ ihChildren ihSiblings => exact (ihChildren.append ihSiblings).cons a
  | swap a b children others siblings =>
    have beside : (children.labels ++ (others.labels ++ siblings.labels)).Perm
        (others.labels ++ (children.labels ++ siblings.labels)) := List.perm_append_comm_assoc ..
    calc a :: (children.labels ++ b :: (others.labels ++ siblings.labels))
      List.Perm _ (a :: b :: (children.labels ++ (others.labels ++ siblings.labels))) :=
        List.perm_middle.cons a
      List.Perm _ (b :: a :: (others.labels ++ (children.labels ++ siblings.labels))) :=
        (List.Perm.swap b a _).trans ((beside.cons a).cons b)
      List.Perm _ (b :: (others.labels ++ a :: (children.labels ++ siblings.labels))) :=
        List.perm_middle.symm.cons b
  | trans _ _ first second => exact first.trans second

theorem map (same : t.Rearranged u) (f : α → β) : (t.map f).Rearranged (u.map f) := by
  induction same with
  | nil => exact .nil
  | cons a _ _ ihChildren ihSiblings => exact .cons (f a) ihChildren ihSiblings
  | swap a b children others siblings => exact .swap (f a) (f b) _ _ _
  | trans _ _ first second => exact first.trans second

/-- For every node there is one with the same label and the same children. -/
theorem exists_node (same : t.Rearranged u) {node : α × Forest α} (shown : node ∈ t.nodes) :
    ∃ others, (node.1, others) ∈ u.nodes ∧ node.2.Rearranged others := by
  induction same generalizing node with
  | nil => cases shown
  | @cons a children others siblings rest below _ ihChildren ihSiblings =>
    rcases List.mem_cons.mp shown with rfl | shown
    · exact ⟨others, List.mem_cons_self, below⟩
    rcases List.mem_append.mp shown with inner | outer
    · obtain ⟨found, listed, alike⟩ := ihChildren inner
      exact ⟨found, List.mem_cons_of_mem _ (List.mem_append_left _ listed), alike⟩
    · obtain ⟨found, listed, alike⟩ := ihSiblings outer
      exact ⟨found, List.mem_cons_of_mem _ (List.mem_append_right _ listed), alike⟩
  | swap a b children others siblings =>
    refine ⟨node.2, ?_, .refl _⟩
    simp only [nodes, List.mem_cons, List.mem_append] at shown ⊢
    grind
  | trans _ _ first second =>
    obtain ⟨middle, listed, alike⟩ := first shown
    obtain ⟨found, present, further⟩ := second listed
    exact ⟨found, present, alike.trans further⟩

theorem hangs (same : t.Rearranged u) (child : t.Hangs b a) : u.Hangs b a := by
  obtain ⟨node, shown, rfl, root⟩ := child
  obtain ⟨others, listed, alike⟩ := same.exists_node shown
  exact ⟨_, listed, rfl, alike.perm_roots.subset root⟩

theorem unfolds (same : t.Rearranged u) (unfolds : t.Unfolds under) : u.Unfolds under := by
  intro node shown
  obtain ⟨others, listed, alike⟩ := same.symm.exists_node shown
  exact alike.perm_roots.trans (unfolds _ listed)

theorem alike (same : t.Rearranged u) : t.Alike u where
  rearranged := same
  labels := same.perm_labels
  roots := same.perm_roots
  hangs _ _ := ⟨same.hangs, same.symm.hangs⟩

end Rearranged

/-! ## What determines a forest -/

/-- Any root can be put in front. -/
theorem exists_rearranged_cons (root : a ∈ u.roots) :
    ∃ children rest, u.Rearranged (cons a children rest) := by
  induction u with
  | nil => cases root
  | cons b children siblings _ ih =>
    rcases List.mem_cons.mp root with rfl | later
    · exact ⟨children, siblings, .refl _⟩
    · obtain ⟨others, rest, front⟩ := ih later
      exact ⟨others, cons b children rest, (Rearranged.cons b (.refl _) front).trans (.swap ..)⟩

/-- The children of the nodes and the roots determine a forest up to the order of siblings. -/
theorem rearranged_of_unfolds (first : t.Unfolds under) (second : u.Unfolds under)
    (roots : t.roots.Perm u.roots) : t.Rearranged u := by
  induction t generalizing u with
  | nil =>
    cases u with
    | nil => exact .nil
    | cons b others rest => cases (roots.symm.subset List.mem_cons_self)
  | cons a children siblings ihChildren ihSiblings =>
    obtain ⟨others, rest, front⟩ := exists_rearranged_cons (roots.subset List.mem_cons_self)
    obtain ⟨here, below⟩ := List.forall_mem_cons.mp first
    obtain ⟨otherHere, otherBelow⟩ := List.forall_mem_cons.mp (front.unfolds second)
    obtain ⟨inner, beside⟩ := List.forall_mem_append.mp below
    obtain ⟨otherInner, otherBeside⟩ := List.forall_mem_append.mp otherBelow
    have siblingRoots := (roots.trans front.perm_roots).cons_inv
    refine .trans ?_ front.symm
    exact .cons a (ihChildren inner otherInner (here.trans otherHere.symm))
      (ihSiblings beside otherBeside siblingRoots)

theorem Hangs.mem_labels (child : t.Hangs b a) : a ∈ t.labels := by
  obtain ⟨node, shown, rfl, -⟩ := child
  exact label_mem_labels shown

/-- Every node is a root or hangs under a node. -/
theorem mem_roots_or_hangs (shown : b ∈ t.labels) : b ∈ t.roots ∨ ∃ a, t.Hangs b a := by
  induction t with
  | nil => cases shown
  | cons a children siblings ihChildren ihSiblings =>
    rcases List.mem_cons.mp shown with rfl | shown
    · exact .inl List.mem_cons_self
    rcases List.mem_append.mp shown with inner | outer
    · rcases ihChildren inner with root | ⟨p, node, listed, own, child⟩
      · exact .inr ⟨a, _, List.mem_cons_self, rfl, root⟩
      · exact .inr ⟨p, node, List.mem_cons_of_mem _ (List.mem_append_left _ listed), own, child⟩
    · rcases ihSiblings outer with root | ⟨p, node, listed, own, child⟩
      · exact .inl (List.mem_cons_of_mem _ root)
      · exact .inr ⟨p, node, List.mem_cons_of_mem _ (List.mem_append_right _ listed), own, child⟩

/-- Where no label occurs twice, a node is determined by its label. -/
theorem eq_of_same_label (nodup : t.labels.Nodup) {node other : α × Forest α}
    (shown : node ∈ t.nodes) (otherShown : other ∈ t.nodes) (same : node.1 = other.1) :
    node = other := by
  rw [labels_eq] at nodup
  exact List.inj_on_of_nodup_map nodup shown otherShown same

end Tenancy.Forest
