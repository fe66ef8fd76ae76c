import Tenancy.Proofs.Ancestry
import Tenancy.Proofs.DepthFirst

/-!
# How a forest under links hangs together

The walk along links yields nothing but a list of depths and labels; the forest is read off it. It
keeps to the links nevertheless, as the recursion that builds the same forest does:

* `roots_forest` and `follows_forest`: its roots are among the items it was asked for, and the
  children of every node are among the items under that node, both in the order in which these
  occur first.
* `mem_labels_forest`: the nodes of a forest of organizations are those that can be reached.
-/

namespace Tenancy

namespace Links

variable {α : Type}

theorem roots_forest [DecidableEq α] (links : Links α) (key : α → Int) (roots : List α) :
    (links.forest key roots).roots.Sublist (distinct roots) := by
  rw [forest_eq_depthFirst]
  exact roots_depthFirst links key roots []

theorem follows_forest [DecidableEq α] (links : Links α) (key : α → Int) (roots : List α) :
    (links.forest key roots).Follows fun a => distinct (links.under (key a)) := by
  rw [forest_eq_depthFirst]
  exact follows_depthFirst links key roots []

/-- No two nodes of a forest have the same id. -/
theorem nodup_labels_forest (links : Links α) (key : α → Int) (roots : List α) :
    ((links.forest key roots).labels.map key).Nodup := by
  rw [forest, Forest.labels_ofRows, List.map_map]
  exact nodup_preorder links key _ []

end Links

namespace Hierarchy

variable {h : Hierarchy} {x : Int} {roots : List Int}

/-- The nodes of the forest under some organizations are these and what is below them. -/
theorem mem_labels_forest :
    x ∈ (h.links.forest (fun id => id) roots).labels ↔
      ∃ r ∈ roots, Relation.ReflTransGen h.Child r x := by
  constructor
  · refine Links.of_mem_labels_forest (P := fun x => ∃ r ∈ roots, Relation.ReflTransGen h.Child r x)
      ?_ fun r root => ⟨r, root, .refl⟩
    rintro p ⟨r, root, below⟩ c under
    exact ⟨r, root, below.tail (mem_childrenOf.mp under)⟩
  · rintro ⟨r, root, below⟩
    -- at the start nothing has been visited, so what is covered is visited by the walk
    rw [Links.forest, Forest.labels_ofRows, List.mem_map]
    suffices covered : Links.Covered h.links (fun id => id) (roots.map (0, ·)) [] x by
      rcases covered with none | visit
      · cases none
      · exact visit
    induction below with
    | refl => exact Links.covered_of_pending (List.mem_map_of_mem root)
    | tail _ under ih =>
      rcases ih with none | ⟨y, visit, rfl⟩
      · cases none
      · exact Links.covered_of_under visit (mem_childrenOf.mpr under)

end Hierarchy

end Tenancy
