import Tenancy.Proofs.Climb
import Tenancy.Proofs.Descent

/-!
# The trees of the first level

The tree of a first-level organization is built downwards along the links, whatever else is in the
hierarchy. It shows the organizations that climb to its root, each of them under its parent
(`first_level_view_shows_tenant`), and all of these trees together are the forest of everything
(`full_forest_joins_first_level_views`).

* `view_singleton`: the view of one organization is a single tree.
* `parent?_of_mem_nodes`: where no id occurs twice, what hangs under a node has it as its parent.
* `view_of_inherited`: if the mark is there from the start, then every node has it.
* `resolves_iff_below_root`: what climbs to the first level is what lies below the root.
-/

namespace Tenancy

theorem Forest.map_ofTrees {α β : Type} (f : α → β) (trees : List (α × Forest α)) :
    (ofTrees trees).map f = ofTrees (trees.map fun tree => (f tree.1, tree.2.map f)) := by
  induction trees with
  | nil => rfl
  | cons tree rest ih =>
    show cons (f tree.1) (tree.2.map f) ((ofTrees rest).map f) = _
    rw [ih]
    rfl

/-- What is under an item comes in the order of the links. -/
theorem Links.under_sublist {α : Type} (links : Links α) (k : Int) :
    (links.under k).Sublist (links.map (·.2)) := by
  induction links with
  | nil => exact List.nil_sublist _
  | cons link rest ih =>
    rw [under, List.filterMap_cons, List.map_cons]
    split
    · exact ih.cons _
    · next found =>
      obtain ⟨-, same⟩ := Option.ite_none_right_eq_some.mp found
      obtain rfl := Option.some.inj same
      exact ih.cons_cons _

namespace Hierarchy

variable {h : Hierarchy} {x y a target : Int} {roots : List Int}

/-! ## Single trees -/

theorem view_singleton (h : Hierarchy) (a : Int) (target : Option Int) (inherited : Bool) :
    ∃ children, h.view [a] target inherited =
      .cons (h.nodeOf (a, inherited || target == some a)) children .nil := by
  rw [view_eq_map, Links.forest_eq_depthFirst, Links.depthFirst_of_fresh List.not_mem_nil,
    Links.depthFirst_nil]
  exact ⟨_, rfl⟩

/-- What hangs under a node has it as its parent. -/
theorem parent?_of_mem_nodes (nodup : h.ids.Nodup) {authorized : Option Int}
    {node : TreeNode × Forest TreeNode} (shown : node ∈ (h.view roots authorized inherited).nodes)
    {child : TreeNode} (under : child ∈ node.2.roots) : h.parent? child.id = some node.1.id := by
  have listed := (h.nodes_view roots authorized inherited node shown).subset
    (List.mem_map_of_mem under)
  exact (mem_childrenOf.mp (mem_distinct.mp listed)).parent? nodup

/-! ## Marks from the start -/

theorem authorize_of_inherited (authorized : Option Int) (t : Forest Int) :
    authorize authorized true t = t.map (·, true) := by
  induction t with
  | nil => rfl
  | cons a children siblings ihChildren ihSiblings =>
    rw [authorize, Bool.true_or, ihChildren, ihSiblings, Forest.map]

theorem view_of_inherited (h : Hierarchy) (roots : List Int) (authorized : Option Int) :
    h.view roots authorized true =
      (h.links.depthFirst (fun id => id) roots []).map fun id => h.nodeOf (id, true) := by
  rw [view_eq_map, authorize_of_inherited, Forest.map_map, Links.forest_eq_depthFirst]

theorem authorized_of_inherited {authorized : Option Int} {node : TreeNode}
    (shown : node ∈ (h.view roots authorized true).labels) : node.authorized = true := by
  rw [view_of_inherited, Forest.labels_map] at shown
  obtain ⟨id, -, rfl⟩ := List.mem_map.mp shown
  rfl

/-! ## Members and what is above them -/

/-- What lies above a member, other than the root, is a member. -/
theorem Proper.resolves_of_below (proper : h.Proper) (member : h.Resolves y a)
    (inner : x ≠ rootOrganizationId) (below : Relation.ReflTransGen h.Child x y) :
    h.Resolves x a := by
  rcases Relation.reflTransGen_iff_eq_or_transGen.mp below with rfl | below
  · exact member
  · obtain ⟨steps, meets⟩ := (transGen_child_iff proper.nodup).mp below
    exact (proper.resolves_of_ancestor? member meets).resolve_left inner

theorem Proper.resolves_iff_below_root (proper : h.Proper) :
    (∃ a, h.Resolves x a) ↔ Relation.TransGen h.Child rootOrganizationId x := by
  constructor
  · rintro ⟨a, member⟩
    exact member.below_root
  · intro below
    induction below with
    | single under => exact ⟨_, .top (under.parent? proper.nodup)⟩
    | tail _ under ih =>
      obtain ⟨a, member⟩ := ih
      exact ⟨a, proper.resolves_of_child member under⟩

/-- The children of an id come in the order of the rows. -/
theorem childrenOf_sublist_ids (h : Hierarchy) (x : Int) : (h.childrenOf x).Sublist h.ids := by
  have all : h.links.map (·.2) = h.ids := by
    simp only [links, ids, List.map_filterMap, Option.map_map, Function.comp_def, Option.map_id']
  rw [← all]
  exact h.links.under_sublist x

/-- The first-level organizations have trees of their own in the forest of everything: no
organization climbs to two of them. -/
theorem Proper.depthFirst_firstLevel (proper : h.Proper) :
    h.links.depthFirst (fun id => id) (h.childrenOf rootOrganizationId) [] =
      .ofTrees ((h.childrenOf rootOrganizationId).map fun a =>
        (a, h.links.depthFirst (fun id => id) (h.childrenOf a) [a])) := by
  have first : ∀ a ∈ h.childrenOf rootOrganizationId, h.Resolves a a := fun a under =>
    .top ((mem_childrenOf.mp under).parent? proper.nodup)
  refine Links.depthFirst_eq_ofTrees (fun a k => h.Resolves k a)
    (fun a under k inside b below => proper.resolves_of_mem_childrenOf inside below) first ?_
    (fun a under k before => absurd before List.not_mem_nil)
  have nodup := (h.childrenOf_sublist_ids rootOrganizationId).nodup proper.nodup
  exact nodup.imp fun different k inside other => different (inside.unique other)

/-! ## The tree of a first-level organization -/

/-- The tree of a first-level organization with the branch of another organization marked; all of it
is marked for the root. -/
def tenantTree (h : Hierarchy) (a target : Int) : Forest TreeNode :=
  h.view [a] (some target) (target == rootOrganizationId)

theorem firstLevelView_eq (inner : x ≠ rootOrganizationId)
    (climbs : h.firstLevelAncestor x = .ok a) (target : Int) :
    h.firstLevelView x target = .ok (h.tenantTree a target) := by
  rw [firstLevelView, if_neg inner, climbs, tenantTree]

theorem shows_tenantTree (h : Hierarchy) (a target y : Int) :
    (h.tenantTree a target).Shows y ↔ y ∈ a :: h.descendants a := by
  rw [tenantTree, shows_view, mem_cons_descendants_iff]
  simp

theorem authorized_tenantTree_iff (proper : h.Proper) (first : h.Resolves a a) {node : TreeNode}
    (shown : node ∈ (h.tenantTree a target).labels) :
    node.authorized = true ↔
      target = rootOrganizationId ∨ node.id ∈ target :: h.descendants target := by
  rw [tenantTree] at shown
  by_cases root : target = rootOrganizationId
  · rw [root, beq_self_eq_true] at shown
    simp [root, authorized_of_inherited shown]
  · rw [beq_false_of_ne root] at shown
    rw [or_iff_right root, mem_cons_descendants_iff]
    refine authorized_view_iff proper.nodup (fun r single above => root ?_) shown
    rw [List.mem_singleton.mp single] at above
    exact proper.root_of_above first above

/-- A child of a marked node is marked. -/
theorem authorized_child (proper : h.Proper) (first : h.Resolves a a)
    {node : TreeNode × Forest TreeNode} (shown : node ∈ (h.tenantTree a target).nodes)
    (marked : node.1.authorized = true) {child : TreeNode} (under : child ∈ node.2.roots) :
    child.authorized = true := by
  have upper : node.1 ∈ (h.tenantTree a target).labels := Forest.label_mem_labels shown
  have lower : child ∈ (h.tenantTree a target).labels := Forest.mem_labels_of_mem_nodes shown under
  have link : h.Child node.1.id child.id :=
    child_of_parent? (parent?_of_mem_nodes proper.nodup shown under)
  rw [authorized_tenantTree_iff proper first upper] at marked
  rw [authorized_tenantTree_iff proper first lower]
  refine marked.imp_right fun below => ?_
  rw [mem_cons_descendants_iff] at below ⊢
  exact below.tail link

/-- A tree that does not show the authorized organization has no mark. -/
theorem not_authorized_of_hidden (proper : h.Proper) (first : h.Resolves a a)
    (inner : target ≠ rootOrganizationId) (hidden : ¬(h.tenantTree a target).Shows target)
    {node : TreeNode} (shown : node ∈ (h.tenantTree a target).labels) :
    node.authorized = false := by
  rw [Bool.eq_false_iff, ne_eq, authorized_tenantTree_iff proper first shown, or_iff_right inner,
    mem_cons_descendants_iff]
  intro below
  rw [shows_tenantTree, proper.mem_firstLevel_iff first] at hidden
  have member : h.Resolves node.id a := by
    rw [← proper.mem_firstLevel_iff first, ← shows_tenantTree h a target]
    exact ⟨node, shown, rfl⟩
  exact hidden (proper.resolves_of_below member inner below)

/-! ## The forest of everything -/

/-- The tree of a first-level organization, all of it marked, as a root and what hangs under it. -/
def markedTree (h : Hierarchy) (a : Int) : TreeNode × Forest TreeNode :=
  (h.nodeOf (a, true),
    (h.links.depthFirst (fun id => id) (h.childrenOf a) [a]).map fun id => h.nodeOf (id, true))

theorem tenantTree_root (h : Hierarchy) (a : Int) :
    h.tenantTree a rootOrganizationId = .ofTrees [h.markedTree a] := by
  rw [tenantTree, beq_self_eq_true, view_of_inherited,
    Links.depthFirst_of_fresh List.not_mem_nil, Links.depthFirst_nil]
  rfl

theorem Proper.fullForest_eq (proper : h.Proper) :
    h.fullForest = .ofTrees ((h.childrenOf rootOrganizationId).map h.markedTree) := by
  rw [fullForest, view_of_inherited, proper.depthFirst_firstLevel, Forest.map_ofTrees,
    List.map_map]
  rfl

theorem Proper.shows_fullForest (proper : h.Proper) :
    h.fullForest.Shows x ↔ ∃ a, h.Resolves x a := by
  rw [proper.resolves_iff_below_root, fullForest, shows_view, Relation.TransGen.head'_iff]
  simp only [mem_childrenOf]

end Hierarchy

/-! ## The views -/

open Hierarchy in
/-- The first-level view of an organization that climbs to the first level is one tree. Its root is
the organization directly under the root of all, its nodes are the first-level scope, each of them
once, and what hangs under a node has it as its parent. If the authorized organization is the root
of all, then every node is marked; otherwise the nodes that are the authorized organization or below
it are. So the marks are handed down, and none is there if the tree does not show the authorized
organization. Without a first-level organization above it there is no view, for the reason that the
climb gives. -/
theorem first_level_view_shows_tenant {h : Hierarchy} (proper : h.Proper) {x : Int}
    (inner : x ≠ rootOrganizationId) (target : Int) :
    (∀ a, h.firstLevelAncestor x = .ok a → ∃ scope top children tree,
      h.resolveScope x false .firstLevel = .ok scope ∧
      h.firstLevelView x target = .ok tree ∧
      tree = .cons top children .nil ∧ top.id = a ∧
      (tree.labels.map (·.id)).Nodup ∧
      (∀ y, tree.Shows y ↔ y ∈ scope) ∧
      (∀ node ∈ tree.nodes, ∀ child ∈ node.2.roots, h.parent? child.id = some node.1.id) ∧
      (∀ node ∈ tree.labels, node.authorized = true ↔
        target = rootOrganizationId ∨ node.id = target ∨ node.id ∈ h.descendants target) ∧
      (∀ node ∈ tree.nodes, node.1.authorized = true →
        ∀ child ∈ node.2.roots, child.authorized = true) ∧
      (target ≠ rootOrganizationId → ¬tree.Shows target →
        ∀ node ∈ tree.labels, node.authorized = false)) ∧
    ∀ reason, h.firstLevelAncestor x = .error reason →
      h.firstLevelView x target = .error reason := by
  refine ⟨fun a climbs => ?_, fun reason lost => by rw [firstLevelView, if_neg inner, lost]⟩
  have member := firstLevelAncestor_eq_ok_iff.mp climbs
  obtain ⟨children, single⟩ := h.view_singleton a (some target) (target == rootOrganizationId)
  refine ⟨_, _, children, h.tenantTree a target, resolveScope_firstLevel proper member,
    firstLevelView_eq inner climbs target, single, rfl, h.nodup_view _ _ _,
    h.shows_tenantTree a target, fun node shown child under => ?_, fun node shown => ?_,
    fun node shown marked child under => ?_, fun other hidden node shown => ?_⟩
  · exact parent?_of_mem_nodes proper.nodup shown under
  · rw [authorized_tenantTree_iff proper member.last shown, List.mem_cons]
  · exact authorized_child proper member.last shown marked under
  · exact not_authorized_of_hidden proper member.last other hidden shown

theorem proper_workshop : workshop.hierarchy.Proper :=
  ⟨by decide, by decide⟩

/-- Who looks from the bench sees the tenant of the headquarters, with the lab and the bench marked;
who looks from the hen, which is on a cycle, sees nothing. -/
theorem bench_sees_headquarters :
    (∃ scope top children tree,
      workshop.hierarchy.resolveScope 3 false .firstLevel = .ok scope ∧
      workshop.hierarchy.firstLevelView 3 2 = .ok tree ∧
      tree = .cons top children .nil ∧ top.id = 1 ∧
      (tree.labels.map (·.id)).Nodup ∧
      (∀ y, tree.Shows y ↔ y ∈ scope) ∧
      tree.rows = [(0, ⟨1, "headquarters", false, false, false⟩),
        (1, ⟨2, "lab", false, false, true⟩), (2, ⟨3, "bench", false, false, true⟩),
        (1, ⟨4, "sales", false, false, false⟩)] ∧
      ∀ node ∈ tree.labels, node.authorized = true ↔
        2 = rootOrganizationId ∨ node.id = 2 ∨ node.id ∈ workshop.hierarchy.descendants 2) ∧
    workshop.hierarchy.firstLevelView 6 2 = .error (.cycle 6) := by
  constructor
  · obtain ⟨scope, top, children, tree, found, shown, single, own, once, same, -, marks, -, -⟩ :=
      (first_level_view_shows_tenant proper_workshop (by decide) 2).1 1
        (by decide +kernel : workshop.hierarchy.firstLevelAncestor 3 = .ok 1)
    have rows : (workshop.hierarchy.firstLevelView 3 2).map Forest.rows =
        .ok [(0, ⟨1, "headquarters", false, false, false⟩),
          (1, ⟨2, "lab", false, false, true⟩), (2, ⟨3, "bench", false, false, true⟩),
          (1, ⟨4, "sales", false, false, false⟩)] := by decide +kernel
    rw [shown] at rows
    exact ⟨scope, top, children, tree, found, shown, single, own, once, same,
      Except.ok.inj rows, marks⟩
  · exact (first_level_view_shows_tenant proper_workshop (by decide) 2).2 _
      (by decide +kernel : workshop.hierarchy.firstLevelAncestor 6 = .error (.cycle 6))

open Hierarchy in
/-- The forest of everything consists of the first-level views of the first-level organizations, in
their order, as if each of these had been built alone. It shows just the organizations that climb to
the first level, each of them once; those that are missing are the ones whose way upwards runs in a
circle or out of the hierarchy. -/
theorem full_forest_joins_first_level_views {h : Hierarchy} (proper : h.Proper) :
    (∃ tree : Int → TreeNode × Forest TreeNode,
      (∀ a ∈ h.childrenOf rootOrganizationId,
        h.firstLevelView a rootOrganizationId = .ok (.ofTrees [tree a])) ∧
      h.fullForest = .ofTrees ((h.childrenOf rootOrganizationId).map tree)) ∧
    (h.fullForest.labels.map (·.id)).Nodup ∧
    (∀ x, h.fullForest.Shows x ↔ ∃ a, h.firstLevelAncestor x = .ok a) ∧
    ∀ x ∈ h.ids, ¬h.fullForest.Shows x ↔ h.Circles x ∨ h.Dangles x := by
  refine ⟨⟨h.markedTree, fun a under => ?_, proper.fullForest_eq⟩, h.nodup_view _ _ _,
    fun x => ?_, fun x known => ?_⟩
  · have first : h.Resolves a a := .top ((mem_childrenOf.mp under).parent? proper.nodup)
    rw [firstLevelView_eq (proper.ne_root first.mem_ids) (firstLevelAncestor_eq_ok_iff.mpr first),
      tenantTree_root]
  · simp only [proper.shows_fullForest, firstLevelAncestor_eq_ok_iff]
  · rw [proper.shows_fullForest]
    constructor
    · exact fun lost => circles_or_dangles known fun a member => lost ⟨a, member⟩
    · rintro (around | out) ⟨a, member⟩
      · exact proper.not_circles member around
      · exact proper.not_dangles member out

/-- The forest of the workshop has a tree for each of its tenants; the hen and the orphan are
missing. -/
theorem workshop_forest_has_two_trees :
    (∃ tree : Int → TreeNode × Forest TreeNode,
      workshop.hierarchy.firstLevelView 1 rootOrganizationId = .ok (.ofTrees [tree 1]) ∧
      workshop.hierarchy.firstLevelView 5 rootOrganizationId = .ok (.ofTrees [tree 5]) ∧
      workshop.hierarchy.fullForest = .ofTrees [tree 1, tree 5]) ∧
    workshop.hierarchy.fullForest.labels.map (·.id) = [1, 2, 3, 4, 5] ∧
    (workshop.hierarchy.fullForest.Shows 3 ↔
      ∃ a, workshop.hierarchy.firstLevelAncestor 3 = .ok a) ∧
    (workshop.hierarchy.Circles 6 ∨ workshop.hierarchy.Dangles 6) ∧
    (workshop.hierarchy.Circles 8 ∨ workshop.hierarchy.Dangles 8) := by
  obtain ⟨⟨tree, views, joined⟩, -, shows, missing⟩ :=
    full_forest_joins_first_level_views proper_workshop
  have roots : workshop.hierarchy.childrenOf rootOrganizationId = [1, 5] := by decide
  have shown : workshop.hierarchy.fullForest.labels.map (·.id) = [1, 2, 3, 4, 5] := by
    decide +kernel
  have hidden : ∀ x, x ∉ ([1, 2, 3, 4, 5] : List Int) →
      ¬workshop.hierarchy.fullForest.Shows x := by
    rintro x outside ⟨node, listed, rfl⟩
    exact outside (shown ▸ List.mem_map_of_mem listed)
  rw [roots] at views joined
  refine ⟨⟨tree, views 1 (by decide), views 5 (by decide), joined⟩, shown, shows 3, ?_, ?_⟩
  · exact (missing 6 (by decide)).mp (hidden 6 (by decide))
  · exact (missing 8 (by decide)).mp (hidden 8 (by decide))

end Tenancy
