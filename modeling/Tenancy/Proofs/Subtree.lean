import Tenancy.Proofs.TreeView

/-!
# The tree below an organization and the scope below it

Two walks go down from an organization. That of the scope counts the organization as visited before
it starts, so it never reports it. That of the tree has not visited anything when it starts, so it
reports the organization as well if a cycle of parents leads back to it.

* `mem_shownBelow_iff`: the tree shows what is reached by one link or more.
* `perm_descendants_iff`, `perm_cons_descendants_iff`: the tree shows the scope if the organization
  is not below itself, and the scope together with the organization if it is.
-/

namespace Tenancy.Hierarchy

variable {h : Hierarchy} {node y : Int}

/-- The ids of the organizations in the tree below one, in the order of the tree. -/
def shownBelow (h : Hierarchy) (node : Int) : List Int :=
  (h.subtreeView node).labels.map (·.id)

theorem mem_shownBelow_iff : y ∈ h.shownBelow node ↔ Relation.TransGen h.Child node y := by
  have shown : y ∈ h.shownBelow node ↔
      ∃ child ∈ h.childrenOf node, Relation.ReflTransGen h.Child child y := by
    rw [← @shows_view h y _ none false, shownBelow, subtreeView, Forest.Shows, List.mem_map]
  rw [shown, Relation.TransGen.head'_iff]
  simp only [mem_childrenOf]

theorem nodup_shownBelow (h : Hierarchy) (node : Int) : (h.shownBelow node).Nodup :=
  nodup_view h _ none false

/-- Wherever there is no way back to the organization, the tree below it shows its scope. -/
theorem perm_descendants_iff :
    (h.shownBelow node).Perm (h.descendants node) ↔ ¬Relation.TransGen h.Child node node := by
  constructor
  · intro same around
    exact not_mem_descendants h node (same.subset (mem_shownBelow_iff.mpr around))
  · intro apart
    rw [List.perm_ext_iff_of_nodup (nodup_shownBelow h node) (nodup_descendants h node)]
    intro y
    rw [mem_shownBelow_iff, mem_descendants_iff]
    refine (and_iff_right_of_imp fun below (itself : y = node) => ?_).symm
    exact apart (itself ▸ below)

/-- Wherever there is a way back to the organization, the tree below it shows it beside its
scope. -/
theorem perm_cons_descendants_iff :
    (h.shownBelow node).Perm (node :: h.descendants node) ↔
      Relation.TransGen h.Child node node := by
  constructor
  · intro same
    exact mem_shownBelow_iff.mp (same.symm.subset List.mem_cons_self)
  · intro around
    have nodup : (node :: h.descendants node).Nodup :=
      List.nodup_cons.mpr ⟨not_mem_descendants h node, nodup_descendants h node⟩
    rw [List.perm_ext_iff_of_nodup (nodup_shownBelow h node) nodup]
    intro y
    rw [mem_shownBelow_iff, mem_cons_descendants_iff]
    constructor
    · exact Relation.TransGen.to_reflTransGen
    · exact fun below => around.trans_left below

/-- The tree below an organization shows what lies below it, each organization once. This is its
scope and, just where a cycle leads back to the organization, the organization itself. -/
theorem subtree_shows_what_is_below (h : Hierarchy) (node : Int) :
    (h.shownBelow node).Nodup ∧
    (∀ y, y ∈ h.shownBelow node ↔ Relation.TransGen h.Child node y) ∧
    (∀ y, y ∈ h.descendants node ↔ y ∈ h.shownBelow node ∧ y ≠ node) ∧
    ((h.shownBelow node).Perm (h.descendants node) ↔ node ∉ h.shownBelow node) ∧
    ((h.shownBelow node).Perm (node :: h.descendants node) ↔ node ∈ h.shownBelow node) := by
  refine ⟨nodup_shownBelow h node, fun y => mem_shownBelow_iff, fun y => ?_, ?_, ?_⟩
  · rw [mem_descendants_iff, mem_shownBelow_iff, and_comm]
  · rw [perm_descendants_iff, mem_shownBelow_iff]
  · rw [perm_cons_descendants_iff, mem_shownBelow_iff]

/-- Two organizations, each of which has the other one as its parent. -/
def henAndEgg : Hierarchy :=
  [⟨some 1, some "hen", 2⟩, ⟨some 2, some "egg", 1⟩]

/-- The tree below the hen shows the hen, which is not in the scope below it. -/
theorem hen_is_shown_below_itself :
    1 ∈ henAndEgg.shownBelow 1 ∧ 1 ∉ henAndEgg.descendants 1 := by
  refine ⟨mem_shownBelow_iff.mpr ?_, not_mem_descendants _ _⟩
  have under : henAndEgg.Child 1 2 := mem_childrenOf.mp (by decide)
  have back : henAndEgg.Child 2 1 := mem_childrenOf.mp (by decide)
  exact .tail (.single under) back

end Tenancy.Hierarchy
