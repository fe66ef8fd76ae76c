import Tenancy.Proofs.CheckBoxes
import Tenancy.Proofs.Descent
import Tenancy.Proofs.Siblings
import Tenancy.Proofs.Subtree

/-!
# One shape for menus and organizations

The tree of menus and the view of the organizations below an id are built from rows of one form, but
not by one walk: the menus are walked as rows with their names, the organizations as ids whose names
are looked up afterwards. Read the same rows in both ways, and the trees have one shape
(`menus_take_shape_of_organizations`).

* `Links.depthFirst_relabel`: the walk goes by the ids, so that it commutes with a change of the
  items that keeps these.
* `checkedTree_ok_iff`: the tree of menus is built if and only if each row that the walk visits has
  a name.
* `first_of_mem_visited`: of the rows of one id, the walk visits the first one under some parent.
* `name?_of_mem_visited`: where no id is repeated, this is the row in which the name of an
  organization is looked up.
-/

namespace Tenancy

namespace Links

variable {α β : Type} {links : Links α} {key : α → Int} {newKey : β → Int} {f : α → β}

/-- The same links between other items. -/
def relabel (links : Links α) (f : α → β) : Links β :=
  links.map fun l => (l.1, f l.2)

theorem under_relabel (links : Links α) (f : α → β) (parent : Int) :
    (links.relabel f).under parent = (links.under parent).map f := by
  rw [relabel, under, under, List.filterMap_map, List.map_filterMap]
  refine List.filterMap_congr fun l _ => ?_
  by_cases here : l.1 = parent <;> simp [here]

/-- A walk goes by the ids of the items, whatever else the items hold. -/
theorem depthFirst_relabel (kept : ∀ a, newKey (f a) = key a) (pending : List α)
    (visited : List Int) :
    (links.relabel f).depthFirst newKey (pending.map f) visited =
      (links.depthFirst key pending visited).map f := by
  fun_induction depthFirst links key pending visited with
  | case1 visited =>
    rw [List.map_nil, depthFirst_nil]
    rfl
  | case2 a rest visited seen ih =>
    rw [List.map_cons, depthFirst, if_pos ((kept a).symm ▸ seen), ih]
  | case3 a rest visited fresh children ihChildren ihRest =>
    have ids : (children.map f).labels.map newKey = children.labels.map key := by
      rw [Forest.labels_map, List.map_map]
      exact List.map_congr_left fun b _ => kept b
    have start : newKey (f a) ∉ visited := (kept a).symm ▸ fresh
    rw [List.map_cons, depthFirst_of_fresh start, kept, under_relabel, ihChildren, ids, ihRest]
    rfl

theorem forest_relabel (kept : ∀ a, newKey (f a) = key a) (roots : List α) :
    (links.relabel f).forest newKey (roots.map f) = (links.forest key roots).map f := by
  rw [forest_eq_depthFirst, forest_eq_depthFirst, depthFirst_relabel kept]

end Links

/-- The row of a menu read as that of an organization. -/
def MenuRow.organization (m : MenuRow) : HierarchyRow :=
  ⟨m.id, m.name, m.parent⟩

/-- The rows of menus read as those of organizations. -/
def hierarchyOf (menus : List MenuRow) : Hierarchy :=
  menus.map MenuRow.organization

theorem links_hierarchyOf (menus : List MenuRow) :
    (hierarchyOf menus).links = (Menu.links menus).relabel (·.1) := by
  rw [hierarchyOf, Hierarchy.links, Menu.links, Links.relabel, List.filterMap_map,
    List.map_filterMap]
  refine List.filterMap_congr fun m _ => ?_
  show m.id.map (m.parent, ·) = (m.id.map _).map _
  rw [Option.map_map]
  rfl

theorem child_hierarchyOf (menus : List MenuRow) :
    (hierarchyOf menus).Child = fun p c => ∃ m ∈ menus, m.id = some c ∧ m.parent = p := by
  funext p c
  simp only [Hierarchy.Child, hierarchyOf, List.mem_map, exists_exists_and_eq_and]
  rfl

namespace Menu

variable {menus : List MenuRow} {selection : Selection} {root : Int} {tree : Forest TreeNode}
  {item : Int × Option String}

/-- The rows that a walk through the menus under `root` visits, in its order, each by its id and its
name. Of the rows of one id it visits the one that it comes to first. -/
def visited (menus : List MenuRow) (root : Int) : List (Int × Option String) :=
  ((links menus).depthFirst (·.1) ((links menus).under root) []).labels

theorem checkedTree_eq_ok :
    checkedTree menus selection root = .ok tree ↔ authTree menus selection root = some tree := by
  unfold checkedTree
  cases authTree menus selection root <;> simp

/-! ## When the tree is built -/

theorem exists_authTree_iff :
    (∃ tree, authTree menus selection root = some tree) ↔
      ∀ item ∈ visited menus root, item.2 ≠ none := by
  have built : (∃ tree, authTree menus selection root = some tree) ↔
      ∃ named, ((links menus).forest (·.1) ((links menus).under root)).mapOption named? =
        some named := by
    simp only [authTree_eq_some_iff]
    exact ⟨fun ⟨_, named, names, _⟩ => ⟨named, names⟩, fun ⟨named, names⟩ => ⟨_, named, names, rfl⟩⟩
  rw [built, Forest.exists_mapOption_iff, Links.forest_eq_depthFirst]
  simp only [named?, ne_eq, Option.map_eq_none_iff]
  rfl

theorem checkedTree_ok_iff :
    (∃ tree, checkedTree menus selection root = .ok tree) ↔
      ∀ item ∈ visited menus root, item.2 ≠ none := by
  simp only [checkedTree_eq_ok, exists_authTree_iff]

theorem checkedTree_of_nameless (listed : item ∈ visited menus root) (nameless : item.2 = none) :
    checkedTree menus selection root = .error [unnamed] := by
  have failed : authTree menus selection root = none := by
    rw [Option.eq_none_iff_forall_ne_some]
    exact fun tree built => exists_authTree_iff.mp ⟨tree, built⟩ item listed nameless
  rw [checkedTree, failed]

/-! ## The rows that are visited -/

/-- Of the rows of one id, the first one under its parent is visited. -/
theorem first_of_mem_visited (listed : item ∈ visited menus root) :
    ∃ parent, (parent = root ∨ parent ∈ (visited menus root).map (·.1)) ∧
      ((links menus).under parent).find? (·.1 = item.1) = some item := by
  rcases Forest.mem_roots_or_hangs listed with top | ⟨upper, node, shown, rfl, below⟩
  · exact ⟨root, .inl rfl, Links.find?_of_mem_roots top⟩
  · refine ⟨node.1.1, .inr ?_, Links.find?_of_mem_nodes shown below⟩
    exact List.mem_map_of_mem (Forest.label_mem_labels shown)

theorem exists_row_of_mem_visited (listed : item ∈ visited menus root) :
    ∃ m ∈ menus, m.id = some item.1 ∧ m.name = item.2 := by
  obtain ⟨parent, -, first⟩ := first_of_mem_visited listed
  have link := Links.mem_under.mp (List.mem_of_find?_eq_some first)
  obtain ⟨m, present, own⟩ := List.mem_filterMap.mp link
  obtain ⟨id, known, same⟩ := Option.map_eq_some_iff.mp own
  cases same
  exact ⟨m, present, known, rfl⟩

/-- The shape of the walk through the menus is that of the view of organizations. -/
theorem map_id_subtreeView (menus : List MenuRow) (root : Int) :
    ((hierarchyOf menus).subtreeView root).map (·.id) =
      ((links menus).forest (·.1) ((links menus).under root)).map (·.1) := by
  rw [Hierarchy.subtreeView, Hierarchy.view_eq_map, Hierarchy.map_id_authorize,
    Hierarchy.childrenOf, links_hierarchyOf, Links.under_relabel]
  exact Links.forest_relabel (fun _ => rfl) _

theorem ids_visited (menus : List MenuRow) (root : Int) :
    (visited menus root).map (·.1) = (hierarchyOf menus).shownBelow root := by
  rw [Hierarchy.shownBelow, ← Forest.labels_map, map_id_subtreeView, Forest.labels_map,
    Links.forest_eq_depthFirst]
  rfl

/-- Where no id is repeated, the row that is visited is the one that is looked up. -/
theorem name?_of_mem_visited (nodup : (hierarchyOf menus).ids.Nodup)
    (listed : item ∈ visited menus root) : (hierarchyOf menus).name? item.1 = item.2 := by
  obtain ⟨m, present, own, named⟩ := exists_row_of_mem_visited listed
  have row : m.organization ∈ hierarchyOf menus := List.mem_map_of_mem present
  rw [Hierarchy.name?, Hierarchy.row?_eq_some nodup row own]
  exact named

/-! ## What the tree shows -/

section Built

variable (built : authTree menus selection root = some tree)
include built

theorem map_id_authTree : tree.map (·.id) = ((hierarchyOf menus).subtreeView root).map (·.id) := by
  obtain ⟨named, names, rfl⟩ := authTree_eq_some_iff.mp built
  rw [map_id_subtreeView, map_check (g := (·.1)) fun _ => rfl]
  refine Forest.map_of_mapOption (fun item menu labelled => ?_) names
  rw [named?_eq_some.mp labelled]

/-- The tree shows the rows that are visited. -/
theorem labels_authTree :
    tree.labels.map (fun node => (node.id, some node.name)) = visited menus root := by
  obtain ⟨named, names, rfl⟩ := authTree_eq_some_iff.mp built
  have kept : ∀ item menu, named? item = some menu → (menu.1, some menu.2) = item :=
    fun _ _ labelled => (named?_eq_some.mp labelled).symm
  rw [← Forest.labels_map, map_check (g := fun menu => (menu.1, some menu.2)) fun _ => rfl,
    Forest.map_of_mapOption kept names, Forest.map_id, Links.forest_eq_depthFirst]
  rfl

theorem map_name_authTree (nodup : (hierarchyOf menus).ids.Nodup) :
    tree.map (fun node => (node.id, node.name)) =
      ((hierarchyOf menus).subtreeView root).map fun node => (node.id, node.name) := by
  have organizations :
      ((hierarchyOf menus).subtreeView root).map (fun node => (node.id, node.name)) =
      (((hierarchyOf menus).subtreeView root).map (·.id)).map
        fun id => (id, ((hierarchyOf menus).name? id).getD "") := by
    rw [Hierarchy.subtreeView, Hierarchy.view_eq_map, Forest.map_map, Forest.map_map,
      Forest.map_map]
    rfl
  obtain ⟨named, names, rfl⟩ := authTree_eq_some_iff.mp built
  have kept : ∀ item menu, named? item = some menu → menu = (item.1, item.2.getD "") := by
    intro item menu labelled
    rw [named?_eq_some.mp labelled]
    rfl
  rw [organizations, map_id_subtreeView, Forest.map_map,
    map_check (g := fun menu => menu) (fun _ => rfl), Forest.map_of_mapOption kept names]
  refine Forest.map_congr fun item listed => ?_
  rw [Links.forest_eq_depthFirst] at listed
  rw [name?_of_mem_visited nodup listed]

end Built

end Menu

open Menu in
/-- The rows of menus, read as organizations, give a view of the same shape. The tree of menus is
built if and only if each row has a name that the walk visits, and is refused for a menu without a
name otherwise. Each id that can be reached is visited once, with the first of its rows under the
menu from which it is visited. The tree has the ids of the view below the same id, nested and
ordered in the same way, and the names of the rows that are visited; where no id is repeated, these
are the names in the view. -/
theorem menus_take_shape_of_organizations (menus : List MenuRow) (selection : Selection)
    (root : Int) :
    ((∃ tree, checkedTree menus selection root = .ok tree) ↔
      ∀ item ∈ visited menus root, item.2 ≠ none) ∧
    ((∃ item ∈ visited menus root, item.2 = none) →
      checkedTree menus selection root = .error [unnamed]) ∧
    ((visited menus root).map (·.1)).Nodup ∧
    (∀ x, x ∈ (visited menus root).map (·.1) ↔
      Relation.TransGen (fun p c => ∃ m ∈ menus, m.id = some c ∧ m.parent = p) root x) ∧
    (∀ item ∈ visited menus root,
      ∃ parent, (parent = root ∨ parent ∈ (visited menus root).map (·.1)) ∧
        ((links menus).under parent).find? (·.1 = item.1) = some item) ∧
    ∀ tree, checkedTree menus selection root = .ok tree →
      tree.map (·.id) = ((hierarchyOf menus).subtreeView root).map (·.id) ∧
      tree.labels.map (fun node => (node.id, some node.name)) = visited menus root ∧
      ((hierarchyOf menus).ids.Nodup → tree.map (fun node => (node.id, node.name)) =
        ((hierarchyOf menus).subtreeView root).map fun node => (node.id, node.name)) := by
  refine ⟨checkedTree_ok_iff, fun ⟨item, listed, nameless⟩ => ?_, ?_, fun x => ?_,
    fun item listed => first_of_mem_visited listed, fun tree done => ?_⟩
  · exact checkedTree_of_nameless listed nameless
  · rw [ids_visited]
    exact Hierarchy.nodup_shownBelow _ _
  · rw [ids_visited, Hierarchy.mem_shownBelow_iff, child_hierarchyOf]
  · have built := checkedTree_eq_ok.mp done
    exact ⟨map_id_authTree built, labels_authTree built, map_name_authTree built⟩

/-- A first level, a menu without a name, a cycle and a row without an id. -/
def shelf : List MenuRow :=
  [⟨some 1, some "system", -1⟩, ⟨some 2, some "roles", 1⟩, ⟨some 3, none, 9⟩,
    ⟨some 4, some "egg", 5⟩, ⟨some 5, some "hen", 4⟩, ⟨none, none, 5⟩]

open Menu in
/-- The menus below the hen have the names and the shape of the organizations below it, and so have
the reports, where two menus are listed twice, the shape. The menu without a name spoils no tree but
the one that it is in. -/
theorem shelf_takes_shape_of_organizations :
    (∃ tree, checkedTree shelf (Selection.ofIds [2]) 5 = .ok tree ∧
      (tree.map fun node => (node.id, node.name)) =
        ((hierarchyOf shelf).subtreeView 5).map fun node => (node.id, node.name)) ∧
    checkedTree shelf (Selection.ofIds [2]) 9 = .error [unnamed] ∧
    ∃ tree, checkedTree reportMenus (Selection.ofIds [4]) = .ok tree ∧
      tree.map (·.id) = ((hierarchyOf reportMenus).subtreeView rootMenuId).map (·.id) ∧
      visited reportMenus rootMenuId =
        [(1, some "reports"), (2, some "daily"), (3, some "monthly"), (4, some "archive"),
          (5, some "current")] := by
  obtain ⟨builtIff, -, -, -, -, shows⟩ :=
    menus_take_shape_of_organizations shelf (Selection.ofIds [2]) 5
  obtain ⟨tree, built⟩ := builtIff.mpr (by decide +kernel)
  obtain ⟨-, -, names⟩ := shows tree built
  obtain ⟨-, refused, -⟩ := menus_take_shape_of_organizations shelf (Selection.ofIds [2]) 9
  obtain ⟨otherIff, -, -, -, -, others⟩ :=
    menus_take_shape_of_organizations reportMenus (Selection.ofIds [4]) rootMenuId
  obtain ⟨reports, found⟩ := otherIff.mpr (by decide +kernel)
  exact ⟨⟨tree, built, names (by decide)⟩, refused (by decide +kernel), reports, found,
    (others reports found).1, by decide +kernel⟩

end Tenancy
