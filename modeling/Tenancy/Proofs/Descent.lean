import Tenancy.Proofs.TreeView

/-!
# Views by recursion

A view is worked out in three steps: the walk along links writes down ids with their depths, the
forest is read off these, and the marks are handed down in it. `Hierarchy.descend` does all of it in
one recursion over the organizations, which also says what a view is (`view_is_depth_first`), on any
rows and for any roots.

* `view_eq_descend`: both build the same forest.
* `roots_view`, `nodes_view`: roots and children come in the order of their first occurrences.
* `authorized_descend`: a node is marked just if the mark was there from the start or the authorized
  organization is on the way up from the node.
-/

namespace Tenancy

namespace Forest

variable {α β : Type}

/-- The way from each node up to its root, in pre-order of the nodes; from a root it goes on
through `above`. -/
def pathsFrom (above : List α) : Forest α → List (List α)
  | nil => []
  | cons a children siblings =>
    (a :: above) :: (children.pathsFrom (a :: above) ++ siblings.pathsFrom above)

/-- The way from each node up to its root, in pre-order of the nodes. -/
def paths (t : Forest α) : List (List α) :=
  t.pathsFrom []

theorem map_head?_pathsFrom (above : List α) (t : Forest α) :
    (t.pathsFrom above).map List.head? = t.labels.map some := by
  induction t generalizing above with
  | nil => rfl
  | cons a children siblings ihChildren ihSiblings =>
    rw [pathsFrom, labels, List.map_cons, List.map_cons, List.map_append, List.map_append,
      ihChildren, ihSiblings, List.head?_cons]

theorem roots_map (f : α → β) (t : Forest α) : (t.map f).roots = t.roots.map f := by
  induction t with
  | nil => rfl
  | cons a children siblings _ ih => rw [map, roots, roots, List.map_cons, ih]

theorem nodes_map (f : α → β) (t : Forest α) :
    (t.map f).nodes = t.nodes.map fun node => (f node.1, node.2.map f) := by
  induction t with
  | nil => rfl
  | cons a children siblings ihChildren ihSiblings =>
    rw [map, nodes, nodes, List.map_cons, List.map_append, ihChildren, ihSiblings]

end Forest

namespace Hierarchy

variable {h : Hierarchy} {target : Option Int} {inherited : Bool} {roots : List Int}

/-- The node of an organization with its mark. -/
def nodeOf (h : Hierarchy) (marked : Int × Bool) : TreeNode :=
  { id := marked.1, name := (h.name? marked.1).getD "", authorized := marked.2 }

/-- The view of the pending organizations by recursion. An organization that was visited before is
left out; under any other one goes the view of its children, and what is in there counts as visited
for the organizations that follow. -/
def descend (h : Hierarchy) (target : Option Int) : Bool → List Int → List Int → Forest TreeNode
  | _, [], _ => .nil
  | inherited, id :: rest, visited =>
    if id ∈ visited then descend h target inherited rest visited
    else
      let children := descend h target (inherited || target == some id) (h.childrenOf id)
        (id :: visited)
      .cons (h.nodeOf (id, inherited || target == some id)) children
        (descend h target inherited rest (children.labels.map (·.id) ++ id :: visited))
  termination_by _ pending visited => pending.length + h.links.unspent visited
  decreasing_by
    · simp
    · rename_i fresh
      have := h.links.length_under_add_unspent fresh
      simp only [childrenOf, List.length_cons]
      omega
    · exact Nat.add_lt_add_of_lt_of_le (Nat.lt_succ_self _) (h.links.unspent_append_cons_le _ _ _)

/-! ## The same forest -/

theorem view_eq_map (h : Hierarchy) (roots : List Int) (target : Option Int) (inherited : Bool) :
    h.view roots target inherited =
      (authorize target inherited (h.links.forest (fun id => id) roots)).map h.nodeOf :=
  rfl

theorem map_id_authorize (h : Hierarchy) (target : Option Int) (inherited : Bool)
    (t : Forest Int) : ((authorize target inherited t).map h.nodeOf).map (·.id) = t := by
  rw [Forest.map_map]
  exact map_fst_authorize target inherited t

/-- The recursion builds the forest of the links and marks it on the way. -/
theorem descend_eq (inherited : Bool) (pending visited : List Int) :
    h.descend target inherited pending visited =
      (authorize target inherited (h.links.depthFirst (fun id => id) pending visited)).map
        h.nodeOf := by
  fun_induction descend h target inherited pending visited with
  | case1 inherited visited =>
    rw [Links.depthFirst_nil]
    rfl
  | case2 inherited id rest visited seen ih => rw [Links.depthFirst, if_pos seen, ih]
  | case3 inherited id rest visited fresh children ihChildren ihRest =>
    have whole : children = _ := ihChildren
    have ids : children.labels.map (·.id) =
        (h.links.depthFirst (fun id => id) (h.childrenOf id) (id :: visited)).labels := by
      rw [whole, ← Forest.labels_map, map_id_authorize]
    rw [ihRest, ids, whole, Links.depthFirst_of_fresh fresh, List.map_id']
    rfl

theorem view_eq_descend (h : Hierarchy) (roots : List Int) (target : Option Int)
    (inherited : Bool) : h.view roots target inherited = h.descend target inherited roots [] := by
  rw [descend_eq, ← Links.forest_eq_depthFirst, view_eq_map]

/-! ## What hangs where -/

theorem roots_view (h : Hierarchy) (roots : List Int) (target : Option Int) (inherited : Bool) :
    ((h.view roots target inherited).roots.map (·.id)).Sublist (distinct roots) := by
  rw [← Forest.roots_map, view_eq_map, map_id_authorize]
  exact Links.roots_forest h.links _ roots

theorem nodes_view (h : Hierarchy) (roots : List Int) (target : Option Int) (inherited : Bool) :
    ∀ node ∈ (h.view roots target inherited).nodes,
      (node.2.roots.map (·.id)).Sublist (distinct (h.childrenOf node.1.id)) := by
  intro node shown
  have follows := Links.follows_forest h.links (fun id => id) roots
  rw [← map_id_authorize h target inherited (h.links.forest (fun id => id) roots), ← view_eq_map,
    Forest.follows_iff, Forest.nodes_map] at follows
  rw [← Forest.roots_map]
  exact follows _ (List.mem_map_of_mem shown)

/-! ## What is marked -/

/-- The mark of a node, where `base` is the mark at the very start and `above` the way from the
pending organizations upwards. -/
theorem authorized_descend {base : Bool} (inherited : Bool) (pending visited : List Int) :
    ∀ above : List TreeNode,
      (inherited = true ↔ base = true ∨ ∃ n ∈ above, target = some n.id) →
      ∀ node rest, node :: rest ∈ (h.descend target inherited pending visited).pathsFrom above →
        (node.authorized = true ↔ base = true ∨ ∃ n ∈ node :: rest, target = some n.id) := by
  fun_induction descend h target inherited pending visited with
  | case1 inherited visited =>
    intro above start node rest way
    cases way
  | case2 inherited id others visited seen ih => exact ih
  | case3 inherited id others visited fresh children ihChildren ihRest =>
    intro above start node rest way
    have here : (inherited || target == some id) = true ↔
        base = true ∨ ∃ n ∈ h.nodeOf (id, inherited || target == some id) :: above,
          target = some n.id := by
      simp only [Bool.or_eq_true, beq_iff_eq, start, List.mem_cons, exists_eq_or_imp, nodeOf]
      exact or_assoc.trans (or_congr_right or_comm)
    rcases List.mem_cons.mp way with same | way
    · obtain ⟨rfl, rfl⟩ := List.cons.inj same
      exact here
    rcases List.mem_append.mp way with below | beside
    · exact ihChildren _ here node rest below
    · exact ihRest above start node rest beside

end Hierarchy

/-- A view is the forest that the depth-first recursion builds, whatever the rows and the roots are:
every organization that can be reached from the roots is in it once, and nothing else. Its roots are
roots that were asked for, and what hangs under a node is listed as a child of that node, both in
the order of their first occurrences. A node is marked just if the mark was there from the start or
the authorized organization is on the way from the node up to its root. -/
theorem view_is_depth_first (h : Hierarchy) (roots : List Int) (target : Option Int)
    (inherited : Bool) :
    h.view roots target inherited = h.descend target inherited roots [] ∧
    ((h.view roots target inherited).labels.map (·.id)).Nodup ∧
    (∀ x, (h.view roots target inherited).Shows x ↔
      ∃ r ∈ roots, Relation.ReflTransGen (fun p c => c ∈ h.childrenOf p) r x) ∧
    ((h.view roots target inherited).roots.map (·.id)).Sublist (distinct roots) ∧
    (∀ node ∈ (h.view roots target inherited).nodes,
      (node.2.roots.map (·.id)).Sublist (distinct (h.childrenOf node.1.id))) ∧
    (h.view roots target inherited).paths.map List.head? =
      (h.view roots target inherited).labels.map some ∧
    ∀ node above, node :: above ∈ (h.view roots target inherited).paths →
      (node.authorized = true ↔ inherited = true ∨ ∃ n ∈ node :: above, target = some n.id) := by
  have listed : (fun p c => c ∈ h.childrenOf p) = h.Child := by
    funext p c
    exact propext Hierarchy.mem_childrenOf
  refine ⟨h.view_eq_descend roots target inherited, h.nodup_view roots target inherited,
    fun x => ?_, h.roots_view roots target inherited, h.nodes_view roots target inherited,
    Forest.map_head?_pathsFrom [] _, fun node above way => ?_⟩
  · rw [listed, Hierarchy.shows_view]
  · rw [Hierarchy.view_eq_descend] at way
    exact Hierarchy.authorized_descend inherited roots [] [] (by simp) node above way

/-- Two rows for one organization, a cycle through it, and another tenant. -/
def tangle : Hierarchy := [
    ⟨some 1, some "headquarters", -1⟩, ⟨some 2, some "lab", 1⟩, ⟨some 3, some "bench", 2⟩,
    ⟨some 2, some "lab", 3⟩, ⟨some 4, some "sales", 1⟩, ⟨some 5, some "branch", -1⟩]

/-- The view of the tangle from the lab, the headquarters and an id without a row, with the bench
marked. -/
def tangleView : Forest TreeNode :=
  tangle.view [2, 1, 2, 9] (some 3) false

/-- The lab comes first, so that it is not shown under the headquarters again; the bench is marked,
but neither the lab above it nor anything beside it. An id without a row has a node all the same. -/
theorem tangle_is_walked_once :
    tangleView.rows =
      [(0, ⟨2, "lab", false, false, false⟩), (1, ⟨3, "bench", false, false, true⟩),
        (0, ⟨1, "headquarters", false, false, false⟩), (1, ⟨4, "sales", false, false, false⟩),
        (0, ⟨9, "", false, false, false⟩)] ∧
    tangleView = tangle.descend (some 3) false [2, 1, 2, 9] [] ∧
    (tangleView.labels.map (·.id)).Nodup ∧
    ¬Relation.ReflTransGen (fun p c => c ∈ tangle.childrenOf p) 2 5 ∧
    (tangleView.roots.map (·.id)).Sublist [2, 1, 9] ∧
    ([4] : List Int).Sublist (distinct (tangle.childrenOf 1)) ∧
    (true = true ↔ false = true ∨
      ∃ n ∈ ([⟨3, "bench", false, false, true⟩, ⟨2, "lab", false, false, false⟩] : List TreeNode),
        some (3 : Int) = some n.id) := by
  obtain ⟨same, once, reached, tops, ordered, -, marked⟩ :=
    view_is_depth_first tangle [2, 1, 2, 9] (some 3) false
  refine ⟨by decide +kernel, same, once, fun below => ?_, tops, ?_, ?_⟩
  · have shown := (reached 5).mpr ⟨2, by decide, below⟩
    have hidden : ¬tangleView.Shows 5 := by
      show ¬∃ n ∈ tangleView.labels, n.id = 5
      decide +kernel
    exact hidden shown
  · exact ordered (⟨1, "headquarters", false, false, false⟩,
      .cons ⟨4, "sales", false, false, false⟩ .nil .nil) (by decide +kernel)
  · exact marked ⟨3, "bench", false, false, true⟩ [⟨2, "lab", false, false, false⟩]
      (by decide +kernel)

end Tenancy
