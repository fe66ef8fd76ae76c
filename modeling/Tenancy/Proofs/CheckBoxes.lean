import Mathlib.Tactic.Push
import Tenancy.Menu.Basic
import Tenancy.Proofs.Nesting

/-!
# Check boxes and the ends of the tree of menus

The boxes are worked out from the ends of the tree upwards, each from those of the children. Every
box can be read off the ends below it all the same (`boxes_follow_leaves`): it is selected if all of
them are, authorized if one of them is, and partly selected if they disagree.

* `leaves_check`: the box of a menu without children shows whether the menu is selected.
* `Boxed.parent`: if the boxes of the children are read off the ends below them, then that of the
  parent is read off the ends below it.
* `check_congr`: nothing but the ends of the tree is looked up in the selection.
-/

namespace Tenancy

/-! ## The ends of the tree -/

namespace Forest

variable {α : Type}

/-- The labels of the nodes without children. -/
def leaves : Forest α → List α
  | nil => []
  | cons a nil siblings => a :: siblings.leaves
  | cons _ (cons b below beside) siblings => (cons b below beside).leaves ++ siblings.leaves

theorem cons_ne_nil (a : α) (children siblings : Forest α) : cons a children siblings ≠ nil :=
  nofun

theorem leaves_cons {a : α} {children siblings : Forest α} (inner : children ≠ nil) :
    (cons a children siblings).leaves = children.leaves ++ siblings.leaves := by
  cases children with
  | nil => exact absurd rfl inner
  | cons b below beside => rfl

/-- The labels of the nodes without children at a node and below it. They are that of the node
itself if it has no children. -/
def ends (node : α × Forest α) : List α :=
  (cons node.1 node.2 nil).leaves

theorem ends_nil (a : α) : ends (a, nil) = [a] :=
  rfl

theorem ends_of_ne_nil {a : α} {children : Forest α} (inner : children ≠ nil) :
    ends (a, children) = children.leaves := by
  rw [ends, leaves_cons inner, leaves, List.append_nil]

theorem leaves_eq (t : Forest α) : t.leaves = t.trees.flatMap ends := by
  induction t with
  | nil => rfl
  | cons a children siblings _ ih =>
    rw [trees, List.flatMap_cons, ← ih]
    cases children with
    | nil => rfl
    | cons b below beside =>
      have inner := cons_ne_nil b below beside
      rw [leaves_cons inner, ends_of_ne_nil inner]

theorem mem_leaves {t : Forest α} {a : α} : a ∈ t.leaves ↔ (a, nil) ∈ t.nodes := by
  induction t with
  | nil => simp [leaves, nodes]
  | cons b children siblings ihChildren ihSiblings =>
    cases children with
    | nil => simp [leaves, nodes, ihSiblings]
    | cons c below beside =>
      have inner := cons_ne_nil c below beside
      rw [leaves_cons inner, List.mem_append, ihChildren, ihSiblings]
      simp [nodes, or_assoc]

theorem ends_ne_nil (node : α × Forest α) : ends node ≠ [] := by
  obtain ⟨a, children⟩ := node
  induction children generalizing a with
  | nil => exact nofun
  | cons b below beside ih _ =>
    have inner := cons_ne_nil b below beside
    rw [ends_of_ne_nil inner, leaves_eq, trees, List.flatMap_cons]
    exact List.append_ne_nil_of_left_ne_nil (ih b) _

end Forest

namespace Menu

variable {selection : Selection}

/-- The box of a menu that has no children. -/
def leafBox (selection : Selection) (menu : Int × String) : TreeNode :=
  { id := menu.1, name := menu.2, selected := selection menu.1, authorized := selection menu.1 }

/-- The box of a menu that has children with the given boxes. -/
def parentBox (menu : Int × String) (boxes : List TreeNode) : TreeNode :=
  { id := menu.1, name := menu.2
    selected := boxes.all (·.selected)
    partlySelected :=
      (boxes.any (·.selected) && boxes.any (!·.selected)) || boxes.any (·.partlySelected)
    authorized := boxes.any (·.authorized) }

theorem check_cons_ne_nil (selection : Selection) (menu : Int × String)
    (children siblings : Forest (Int × String)) :
    check selection (.cons menu children siblings) ≠ .nil := by
  cases children with
  | nil => exact nofun
  | cons child below beside => exact nofun

/-- The boxes of the menus without children show whether these are selected, and nothing else. -/
theorem leaves_check (selection : Selection) (menus : Forest (Int × String)) :
    (check selection menus).leaves = menus.leaves.map (leafBox selection) := by
  fun_induction check selection menus with
  | case1 => rfl
  | case2 id name siblings ih =>
    show _ :: (check selection siblings).leaves = _
    rw [ih]
    rfl
  | case3 id name siblings child below beside children boxes ihChildren ihSiblings =>
    rw [Forest.leaves_cons (check_cons_ne_nil selection _ _ _), ihChildren, ihSiblings,
      ← List.map_append]
    rfl

/-! ## Boxes further up -/

/-- A box shows what the selection says about the given ends. -/
structure Boxed (selection : Selection) (box : TreeNode) (ends : List TreeNode) : Prop where
  selected : box.selected = true ↔ ∀ leaf ∈ ends, selection leaf.id = true
  authorized : box.authorized = true ↔ ∃ leaf ∈ ends, selection leaf.id = true
  partlySelected : box.partlySelected = true ↔
    (∃ leaf ∈ ends, selection leaf.id = true) ∧ ∃ leaf ∈ ends, selection leaf.id = false

theorem Boxed.leaf (menu : Int × String) :
    Boxed selection (leafBox selection menu) [leafBox selection menu] where
  selected := by simp [leafBox]
  authorized := by simp [leafBox]
  partlySelected := by simp [leafBox]

theorem Boxed.partlySelected_iff {box : TreeNode} {ends : List TreeNode}
    (boxed : Boxed selection box ends) :
    box.partlySelected = true ↔ box.authorized = true ∧ box.selected = false := by
  rw [boxed.partlySelected, boxed.authorized, Bool.eq_false_iff, ne_eq, boxed.selected]
  simp only [not_forall, Bool.not_eq_true, exists_prop]

/-- If the boxes of the children show what the selection says about the ends below them, then the
box of the parent does so for its own. No child is without ends. -/
theorem Boxed.parent (menu : Int × String) {trees : List (TreeNode × Forest TreeNode)}
    (each : ∀ tree ∈ trees, Boxed selection tree.1 (Forest.ends tree)) :
    Boxed selection (parentBox menu (trees.map (·.1))) (trees.flatMap Forest.ends) where
  selected := by
    simp only [parentBox, List.all_map, List.all_eq_true, Function.comp_apply, List.mem_flatMap]
    constructor
    · rintro all leaf ⟨tree, listed, below⟩
      exact (each tree listed).selected.mp (all tree listed) leaf below
    · intro all tree listed
      exact (each tree listed).selected.mpr fun leaf below => all leaf ⟨tree, listed, below⟩
  authorized := by
    simp only [parentBox, List.any_map, List.any_eq_true, Function.comp_apply, List.mem_flatMap]
    constructor
    · rintro ⟨tree, listed, marked⟩
      obtain ⟨leaf, below, chosen⟩ := (each tree listed).authorized.mp marked
      exact ⟨leaf, ⟨tree, listed, below⟩, chosen⟩
    · rintro ⟨leaf, ⟨tree, listed, below⟩, chosen⟩
      exact ⟨tree, listed, (each tree listed).authorized.mpr ⟨leaf, below, chosen⟩⟩
  partlySelected := by
    simp only [parentBox, List.any_map, Bool.or_eq_true, Bool.and_eq_true, List.any_eq_true,
      Function.comp_apply, Bool.not_eq_eq_eq_not, Bool.not_true, List.mem_flatMap]
    constructor
    · rintro (⟨⟨tree, listed, full⟩, other, otherListed, lacking⟩ | ⟨tree, listed, mixed⟩)
      · obtain ⟨leaf, below⟩ := List.exists_mem_of_ne_nil _ (Forest.ends_ne_nil tree)
        have missing := mt (each other otherListed).selected.mpr (Bool.eq_false_iff.mp lacking)
        push Not at missing
        obtain ⟨gap, gapBelow, unchosen⟩ := missing
        exact ⟨⟨leaf, ⟨tree, listed, below⟩, (each tree listed).selected.mp full leaf below⟩,
          gap, ⟨other, otherListed, gapBelow⟩, Bool.eq_false_iff.mpr unchosen⟩
      · obtain ⟨⟨leaf, below, chosen⟩, gap, gapBelow, unchosen⟩ :=
          (each tree listed).partlySelected.mp mixed
        exact ⟨⟨leaf, ⟨tree, listed, below⟩, chosen⟩, gap, ⟨tree, listed, gapBelow⟩, unchosen⟩
    · rintro ⟨⟨leaf, ⟨tree, listed, below⟩, chosen⟩, gap, ⟨other, otherListed, gapBelow⟩, unchosen⟩
      have lacking : other.1.selected = false := by
        refine Bool.eq_false_iff.mpr fun full => ?_
        have := (each other otherListed).selected.mp full gap gapBelow
        rw [unchosen] at this
        cases this
      -- the child above the chosen end is selected as a whole or partly
      cases full : tree.1.selected with
      | true => exact .inl ⟨⟨tree, listed, full⟩, other, otherListed, lacking⟩
      | false =>
        refine .inr ⟨tree, listed, (each tree listed).partlySelected_iff.mpr ⟨?_, full⟩⟩
        exact (each tree listed).authorized.mpr ⟨leaf, below, chosen⟩

/-- Every box of a tree of menus shows what the selection says about the ends below it. -/
theorem boxed_check (selection : Selection) (menus : Forest (Int × String)) :
    ∀ node ∈ (check selection menus).nodes, Boxed selection node.1 (Forest.ends node) := by
  fun_induction check selection menus with
  | case1 => exact nofun
  | case2 id name siblings ih =>
    intro node listed
    rcases List.mem_cons.mp listed with rfl | beside
    · exact Boxed.leaf (id, name)
    · exact ih node beside
  | case3 id name child below beside siblings children boxes ihChildren ihSiblings =>
    intro node listed
    rcases List.mem_cons.mp listed with rfl | later
    · have inner : children ≠ .nil := check_cons_ne_nil selection child below beside
      rw [Forest.ends_of_ne_nil inner, Forest.leaves_eq]
      have boxed := Boxed.parent (id, name) fun tree root =>
        ihChildren tree (Forest.mem_nodes_of_mem_trees root)
      rwa [← Forest.roots_eq] at boxed
    · rcases List.mem_append.mp later with inside | outside
      · exact ihChildren node inside
      · exact ihSiblings node outside

/-! ## What the boxes depend on -/

/-- Nothing but the ends of the tree is looked up in the selection. -/
theorem check_congr {other : Selection} {menus : Forest (Int × String)}
    (agree : ∀ menu ∈ menus.leaves, other menu.1 = selection menu.1) :
    check other menus = check selection menus := by
  fun_induction check selection menus with
  | case1 => rfl
  | case2 id name siblings ih =>
    obtain ⟨here, beside⟩ := List.forall_mem_cons.mp agree
    simp only [check, here, ih beside]
  | case3 id name child below beside siblings children boxes ihChildren ihSiblings =>
    have inner := Forest.cons_ne_nil child below beside
    rw [Forest.leaves_cons inner, List.forall_mem_append] at agree
    rw [check, ihChildren agree.1, ihSiblings agree.2]

/-- Checking leaves every menu where it is. -/
theorem map_check {β : Type} {f : TreeNode → β} {g : Int × String → β}
    (same : ∀ node, f node = g (node.id, node.name)) (selection : Selection)
    (menus : Forest (Int × String)) : (check selection menus).map f = menus.map g := by
  fun_induction check selection menus with
  | case1 => rfl
  | case2 id name siblings ih => rw [Forest.map, Forest.map, Forest.map, Forest.map, same, ih]
  | case3 id name child below beside siblings children boxes ihChildren ihSiblings =>
    rw [Forest.map, Forest.map, same, ihChildren, ihSiblings]

theorem ids_check (selection : Selection) (menus : Forest (Int × String)) :
    (check selection menus).labels.map (·.id) = menus.labels.map (·.1) := by
  rw [← Forest.labels_map, map_check (g := (·.1)) (fun _ => rfl), Forest.labels_map]

/-! ## The tree that is built -/

variable {menus : List MenuRow} {parent : Int} {tree : Forest TreeNode}

/-- The name of an item, next to its id. -/
def named? (item : Int × Option String) : Option (Int × String) :=
  item.2.map fun text => (item.1, text)

theorem named?_eq_some {item : Int × Option String} {menu : Int × String} :
    named? item = some menu ↔ item = (menu.1, some menu.2) := by
  obtain ⟨id, name⟩ := item
  cases name <;> simp [named?, Prod.ext_iff]

/-- The tree is built if all names are there. -/
theorem authTree_eq_some_iff : authTree menus selection parent = some tree ↔
    ∃ named, ((links menus).forest (·.1) ((links menus).under parent)).mapOption named? =
      some named ∧ check selection named = tree := by
  rw [authTree, Option.bind_eq_bind, Option.bind_eq_some_iff]
  simp only [Option.pure_def, Option.some.injEq]
  rfl

theorem named?_keeps {item : Int × Option String} {menu : Int × String}
    (labelled : named? item = some menu) : menu.1 = item.1 := by
  rw [named?_eq_some.mp labelled]

theorem nodup_named {named : Forest (Int × String)}
    (names : ((links menus).forest (·.1) ((links menus).under parent)).mapOption named? =
      some named) : (named.labels.map (·.1)).Nodup := by
  rw [← Forest.labels_map, Forest.map_of_mapOption (fun _ _ => named?_keeps) names,
    Forest.labels_map]
  exact Links.nodup_labels_forest _ _ _

theorem exists_of_authTree (built : authTree menus selection parent = some tree) :
    ∃ named, tree = check selection named ∧ (named.labels.map (·.1)).Nodup ∧
      ∀ other : Selection, authTree menus other parent = some (check other named) := by
  obtain ⟨named, names, rfl⟩ := authTree_eq_some_iff.mp built
  exact ⟨named, rfl, nodup_named names, fun other => authTree_eq_some_iff.mpr ⟨named, names, rfl⟩⟩

/-- The box at an end of the tree shows whether its menu is selected. -/
theorem exists_leafBox (built : authTree menus selection parent = some tree) {leaf : TreeNode}
    (last : leaf ∈ tree.leaves) : ∃ menu, leaf = leafBox selection menu := by
  obtain ⟨named, rfl, -, -⟩ := exists_of_authTree built
  rw [leaves_check] at last
  obtain ⟨menu, -, rfl⟩ := List.mem_map.mp last
  exact ⟨menu, rfl⟩

theorem authorized_of_mem_leaves (built : authTree menus selection parent = some tree)
    {leaf : TreeNode} (last : leaf ∈ tree.leaves) : leaf.authorized = selection leaf.id := by
  obtain ⟨menu, rfl⟩ := exists_leafBox built last
  rfl

theorem nodup_ids_authTree (built : authTree menus selection parent = some tree) :
    (tree.labels.map (·.id)).Nodup := by
  obtain ⟨named, rfl, nodup, -⟩ := exists_of_authTree built
  rwa [ids_check]

/-- No node of the tree has the id of another one. -/
theorem eq_of_same_id (built : authTree menus selection parent = some tree)
    {node other : TreeNode × Forest TreeNode} (shown : node ∈ tree.nodes)
    (otherShown : other ∈ tree.nodes) (same : node.1.id = other.1.id) : node = other := by
  have nodup := nodup_ids_authTree built
  rw [Forest.labels_eq, List.map_map] at nodup
  exact List.inj_on_of_nodup_map nodup shown otherShown same

end Menu

/-- Every box in a tree of menus can be read off the ends of the tree below it, or off its own menu
if it has no children: it is selected if all of these are selected, authorized if one of them is,
and partly selected if one of them is and another one is not, that is, if it is authorized but not
selected. What the selection says about any other menu has no effect. -/
theorem boxes_follow_leaves {menus : List MenuRow} {selection : Selection} {parent : Int}
    {tree : Forest TreeNode} (built : Menu.authTree menus selection parent = some tree) :
    (∀ node ∈ tree.nodes,
      (node.1.selected = true ↔ ∀ leaf ∈ Forest.ends node, selection leaf.id = true) ∧
      (node.1.authorized = true ↔ ∃ leaf ∈ Forest.ends node, selection leaf.id = true) ∧
      (node.1.partlySelected = true ↔
        (∃ leaf ∈ Forest.ends node, selection leaf.id = true) ∧
          ∃ leaf ∈ Forest.ends node, selection leaf.id = false) ∧
      (node.1.partlySelected = true ↔ node.1.authorized = true ∧ node.1.selected = false)) ∧
    (∀ other : Selection, (∀ leaf ∈ tree.leaves, other leaf.id = selection leaf.id) →
      Menu.authTree menus other parent = some tree) ∧
    ∀ node ∈ tree.nodes, node.2 ≠ .nil → ∀ leaf ∈ tree.leaves, leaf.id ≠ node.1.id := by
  obtain ⟨named, rfl, -, rebuilt⟩ := Menu.exists_of_authTree built
  refine ⟨fun node shown => ?_, fun other agree => ?_, fun node shown inner leaf last same => ?_⟩
  · have boxed := Menu.boxed_check selection named node shown
    exact ⟨boxed.selected, boxed.authorized, boxed.partlySelected, boxed.partlySelected_iff⟩
  · rw [Menu.leaves_check, List.forall_mem_map] at agree
    rw [rebuilt other, Menu.check_congr agree]
  · rw [← Menu.eq_of_same_id built (Forest.mem_leaves.mp last) shown same] at inner
    exact inner rfl

/-- Menus on three levels. One of them is listed twice, and two have each other as their parents. -/
def reportMenus : List MenuRow :=
  [⟨some 1, some "reports", -1⟩, ⟨some 2, some "daily", 1⟩, ⟨some 3, some "monthly", 1⟩,
    ⟨some 4, some "archive", 3⟩, ⟨some 5, some "current", 3⟩, ⟨some 4, some "archive", 3⟩,
    ⟨some 3, some "monthly", 4⟩, ⟨some 6, some "hen", 7⟩, ⟨some 7, some "egg", 6⟩]

/-- With one end selected out of three, the menus above it are authorized and partly selected,
whatever the selection says about them. -/
theorem archive_partly_selects_reports :
    ∃ tree, Menu.authTree reportMenus (Selection.ofIds [4]) = some tree ∧
      Menu.authTree reportMenus (Selection.ofIds [4, 1, 3]) = some tree ∧
      ∃ node ∈ tree.nodes, node.1.id = 1 ∧ (Forest.ends node).map (·.id) = [2, 4, 5] ∧
        node.1.authorized = true ∧ node.1.selected = false ∧ node.1.partlySelected = true := by
  have run : (Menu.authTree reportMenus (Selection.ofIds [4])).any (fun tree =>
      tree.leaves.map (·.id) == [2, 4, 5] && tree.nodes.any fun node =>
        node.1.id == 1 && (Forest.ends node).map (·.id) == [2, 4, 5]) = true := by
    decide +kernel
  simp only [Option.any_eq_true, Bool.and_eq_true, List.any_eq_true, beq_iff_eq] at run
  obtain ⟨tree, built, last, node, shown, own, below⟩ := run
  obtain ⟨boxes, unaffected, -⟩ := boxes_follow_leaves built
  obtain ⟨selected, authorized, -, partly⟩ := boxes node shown
  have other : ∀ leaf ∈ tree.leaves,
      Selection.ofIds [4, 1, 3] leaf.id = Selection.ofIds [4] leaf.id := by
    have agree : ∀ id ∈ tree.leaves.map (·.id),
        Selection.ofIds [4, 1, 3] id = Selection.ofIds [4] id := by
      rw [last]
      decide
    exact List.forall_mem_map.mp agree
  have some : node.1.authorized = true := by
    have chosen : ∃ id ∈ (Forest.ends node).map (·.id), Selection.ofIds [4] id = true := by
      rw [below]
      decide
    obtain ⟨_, listed, chosen⟩ := chosen
    obtain ⟨leaf, outer, rfl⟩ := List.mem_map.mp listed
    exact authorized.mpr ⟨leaf, outer, chosen⟩
  have lacking : node.1.selected = false := by
    have unchosen : ¬∀ id ∈ (Forest.ends node).map (·.id), Selection.ofIds [4] id = true := by
      rw [below]
      decide
    exact Bool.eq_false_iff.mpr fun full => unchosen (List.forall_mem_map.mpr (selected.mp full))
  exact ⟨tree, built, unaffected _ other, node, shown, own, below, some, lacking,
    partly.mpr ⟨some, lacking⟩⟩

end Tenancy
