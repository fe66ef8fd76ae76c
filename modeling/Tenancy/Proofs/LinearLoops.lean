import Tenancy.Proofs.CheckBoxes
import Tenancy.Proofs.Descent
import Tenancy.Proofs.Reordering

/-!
# Loops in linear time

What lies below an organization, a view and a tree of menus are each collected by a loop over
pending entries. The loops differ in what an entry holds, in the order in which they take what is
under an id, and in that the one over menus breaks off at a menu without a name. All of them are a
`Worklist`, and so they take at most a turn for every entry at the start and for every row
(`loops_end_in_linear_time`).

A loop adds the node of an entry at once, behind the children that its parent has by then, or
behind the roots. `Forest.grow_nil_parented` says that the forest comes out of that.
-/

namespace Tenancy

/-! ## Forests that grow at their ends -/

namespace Forest

variable {α : Type} {key : α → Int} {p : Option Int} {k : Int} {t u v : Forest α}

/-- The trees of a forest, followed by those of another one. -/
def append : Forest α → Forest α → Forest α
  | nil, u => u
  | cons a children siblings, u => cons a children (siblings.append u)

/-- Puts trees behind the children of the nodes with an id. -/
def appendBelow (key : α → Int) (k : Int) : Forest α → Forest α → Forest α
  | nil, _ => nil
  | cons a children siblings, u =>
    let below := appendBelow key k children u
    cons a (if key a = k then below.append u else below) (appendBelow key k siblings u)

/-- Puts trees behind the children of the nodes with an id, or behind the roots. -/
def attach (key : α → Int) (p : Option Int) (t u : Forest α) : Forest α :=
  match p with
  | none => t.append u
  | some k => t.appendBelow key k u

/-- Attaches one node after the other, each of which comes with the id of its parent. -/
def grow (key : α → Int) (t : Forest α) (nodes : List (Option Int × α)) : Forest α :=
  nodes.foldl (fun t x => t.attach key x.1 (cons x.2 nil nil)) t

/-- The nodes in pre-order, each with the id of its parent. -/
def parented (key : α → Int) (p : Option Int) (t : Forest α) : List (Option Int × α) :=
  t.unroll (fun x a => (some (key x.2), a)) (p, ·)

theorem append_nil (t : Forest α) : t.append nil = t := by
  induction t with
  | nil => rfl
  | cons a children siblings _ ih => rw [append, ih]

theorem append_assoc (t u v : Forest α) : (t.append u).append v = t.append (u.append v) := by
  induction t with
  | nil => rfl
  | cons a children siblings _ ih => rw [append, append, append, ih]

theorem labels_append (t u : Forest α) : (t.append u).labels = t.labels ++ u.labels := by
  induction t with
  | nil => rfl
  | cons a children siblings _ ih =>
    rw [append, labels, labels, ih, List.cons_append, List.append_assoc]

theorem appendBelow_append (t u v : Forest α) :
    (t.append u).appendBelow key k v = (t.appendBelow key k v).append (u.appendBelow key k v) := by
  induction t with
  | nil => rfl
  | cons a children siblings _ ih => rw [append, appendBelow, ih, appendBelow, append]

theorem appendBelow_of_absent (absent : ∀ a ∈ t.labels, key a ≠ k) :
    t.appendBelow key k u = t := by
  induction t with
  | nil => rfl
  | cons a children siblings ihChildren ihSiblings =>
    rw [labels, List.forall_mem_cons, List.forall_mem_append] at absent
    obtain ⟨here, below, beside⟩ := absent
    rw [appendBelow, if_neg here, ihChildren below, ihSiblings beside]

theorem attach_nil (p : Option Int) (t : Forest α) : t.attach key p nil = t := by
  cases p with
  | none => exact t.append_nil
  | some k =>
    show t.appendBelow key k nil = t
    induction t with
    | nil => rfl
    | cons a children siblings ihChildren ihSiblings =>
      rw [appendBelow, ihChildren, ihSiblings, append_nil, ite_self]

theorem mem_labels_attach {a : α} (shown : a ∈ (t.attach key p u).labels) :
    a ∈ t.labels ∨ a ∈ u.labels := by
  cases p with
  | none => exact List.mem_append.mp (labels_append t u ▸ shown)
  | some k =>
    change a ∈ (t.appendBelow key k u).labels at shown
    induction t with
    | nil => cases shown
    | cons b children siblings ihChildren ihSiblings =>
      rw [appendBelow, labels, List.mem_cons, List.mem_append] at shown
      rw [labels, List.mem_cons, List.mem_append]
      rcases shown with here | below | beside
      · exact .inl (.inl here)
      · have inside : a ∈ (children.appendBelow key k u).labels ∨ a ∈ u.labels := by
          split at below
          · exact List.mem_append.mp (labels_append _ u ▸ below)
          · exact .inl below
        rcases inside with old | new
        · exact (ihChildren old).imp_left fun listed => .inr (.inl listed)
        · exact .inr new
      · exact (ihSiblings beside).imp_left fun listed => .inr (.inr listed)

/-- What goes to the same place comes behind what is there already. -/
theorem attach_attach (apart : ∀ a ∈ u.labels, some (key a) ≠ p) :
    (t.attach key p u).attach key p v = t.attach key p (u.append v) := by
  cases p with
  | none => exact t.append_assoc u v
  | some k =>
    have absent : u.appendBelow key k v = u :=
      appendBelow_of_absent fun a shown same => apart a shown (congrArg some same)
    show (t.appendBelow key k u).appendBelow key k v = t.appendBelow key k (u.append v)
    induction t with
    | nil => rfl
    | cons a children siblings ihChildren ihSiblings =>
      rw [appendBelow, appendBelow, appendBelow, ihSiblings]
      split
      · rw [appendBelow_append, absent, ihChildren, append_assoc]
      · rw [ihChildren]

/-- What goes below a node that was attached could have been there before. -/
theorem appendBelow_attach (absent : ∀ a ∈ t.labels, key a ≠ k) :
    (t.attach key p u).appendBelow key k v = t.attach key p (u.appendBelow key k v) := by
  cases p with
  | none =>
    show (t.append u).appendBelow key k v = t.append (u.appendBelow key k v)
    rw [appendBelow_append, appendBelow_of_absent absent]
  | some j =>
    show (t.appendBelow key j u).appendBelow key k v = t.appendBelow key j (u.appendBelow key k v)
    induction t with
    | nil => rfl
    | cons a children siblings ihChildren ihSiblings =>
      rw [labels, List.forall_mem_cons, List.forall_mem_append] at absent
      obtain ⟨here, below, beside⟩ := absent
      rw [appendBelow, appendBelow, appendBelow, if_neg here, ihSiblings beside]
      split
      · rw [appendBelow_append, ihChildren below]
      · rw [ihChildren below]

/-- Attaching the nodes of a forest one by one attaches the forest, if the ids are all different and
none of them was there before. -/
theorem grow_parented (nodup : (t.labels.map key).Nodup)
    (apart : ∀ a ∈ t.labels, some (key a) ≠ p)
    (fresh : ∀ a ∈ t.labels, ∀ b ∈ u.labels, key b ≠ key a) :
    u.grow key (t.parented key p) = u.attach key p t := by
  induction t generalizing p u with
  | nil => exact (attach_nil p u).symm
  | cons a children siblings ihChildren ihSiblings =>
    rw [labels, List.map_cons, List.map_append, List.nodup_cons, List.nodup_append] at nodup
    obtain ⟨own, nodupBelow, nodupBeside, different⟩ := nodup
    rw [labels, List.forall_mem_cons, List.forall_mem_append] at apart fresh
    obtain ⟨apartHere, apartBelow, apartBeside⟩ := apart
    obtain ⟨freshHere, freshBelow, freshBeside⟩ := fresh
    have ownBelow : ∀ b ∈ children.labels, key a ≠ key b := fun b shown same =>
      own (List.mem_append_left _ (same ▸ List.mem_map_of_mem shown))
    have ownBeside : ∀ b ∈ siblings.labels, key a ≠ key b := fun b shown same =>
      own (List.mem_append_right _ (same ▸ List.mem_map_of_mem shown))
    -- the children find the new node, as no other one has its id, and it has all of them before
    -- its siblings come
    have below : (u.attach key p (cons a nil nil)).grow key
        (children.parented key (some (key a))) = u.attach key p (cons a children nil) := by
      rw [ihChildren nodupBelow]
      · show (u.attach key p (cons a nil nil)).appendBelow key (key a) children = _
        rw [appendBelow_attach freshHere, appendBelow, if_pos rfl]
        rfl
      · exact fun b shown same => ownBelow b shown (Option.some.inj same).symm
      · intro b shown c listed
        rcases mem_labels_attach listed with old | new
        · exact freshBelow b shown c old
        · rw [List.mem_singleton.mp new]
          exact ownBelow b shown
    have tree : (cons a children nil).labels = a :: children.labels := by
      rw [labels, labels, List.append_nil]
    have beside : (u.attach key p (cons a children nil)).grow key (siblings.parented key p) =
        u.attach key p (cons a children siblings) := by
      rw [ihSiblings nodupBeside apartBeside, attach_attach]
      · rfl
      · rw [tree, List.forall_mem_cons]
        exact ⟨apartHere, apartBelow⟩
      · intro b shown c listed
        rcases mem_labels_attach listed with old | new
        · exact freshBeside b shown c old
        rcases List.mem_cons.mp (tree ▸ new) with rfl | inside
        · exact ownBeside b shown
        · exact different _ (List.mem_map_of_mem inside) _ (List.mem_map_of_mem shown)
    rw [← beside, ← below]
    exact List.foldl_append

/-- A forest with different ids is built again from its nodes and the ids of their parents. -/
theorem grow_nil_parented (nodup : (t.labels.map key).Nodup) :
    nil.grow key (t.parented key none) = t :=
  grow_parented nodup (fun _ _ => nofun) fun _ _ _ => nofun

theorem unroll_labels (t : Forest α) : t.unroll (fun _ a => a) (fun a => a) = t.labels := by
  induction t with
  | nil => rfl
  | cons a children siblings ihChildren ihSiblings =>
    rw [unroll, labels, ihChildren, ihSiblings]

end Forest

/-! ## What lies below an organization -/

theorem Links.unspent_nil {α : Type} (links : Links α) : links.unspent [] = links.length := by
  simp [unspent]

theorem Links.under_reverse {α : Type} (links : Links α) (k : Int) :
    under links.reverse k = (links.under k).reverse :=
  List.filterMap_reverse

namespace Hierarchy

theorem length_links_le (h : Hierarchy) : h.links.length ≤ h.length :=
  List.length_filterMap_le _ _

/-- The loop that collects what lies below an organization. Of the organizations under one, it takes
the last first. -/
def descentLoop (h : Hierarchy) : Worklist Int Int where
  links := h.links.reverse
  key := fun id => id
  entry := fun _ child => child
  stops := fun _ => false

/-- The organizations below `id` in the order in which the loop finds them. -/
def descendantsWithin (h : Hierarchy) (fuel : Nat) (id : Int) : Option (List Int) :=
  h.descentLoop.run fuel (h.childrenOf id).reverse [id]

theorem links_reverse (h : Hierarchy) : links h.reverse = h.links.reverse :=
  List.filterMap_reverse

theorem childrenOf_reverse (h : Hierarchy) (id : Int) :
    childrenOf h.reverse id = (h.childrenOf id).reverse := by
  rw [childrenOf, links_reverse, Links.under_reverse, ← childrenOf]

/-- The loop finds what lies below the organization in the hierarchy read backwards. -/
theorem expansions_descentLoop (h : Hierarchy) (id : Int) :
    h.descentLoop.expansions (h.childrenOf id).reverse [id] = descendants h.reverse id := by
  have walked : h.descentLoop.expansions ((h.childrenOf id).reverse.map fun a => a) [id] =
      (h.descentLoop.links.depthFirst (fun id => id) (h.childrenOf id).reverse [id]).unroll
        (fun _ a => a) (fun a => a) :=
    Links.expansions_eq_depthFirst (fun _ _ => rfl) (fun _ => rfl) _ [id]
  rw [List.map_id'] at walked
  rw [walked, descendants, Links.preorder_eq_depthFirst, childrenOf_reverse, links_reverse]
  exact (Forest.unroll_labels _).trans (Forest.map_snd_rowsFrom 0 _).symm

theorem descendantsWithin_ends (h : Hierarchy) (id : Int) :
    EndsWithin (h.descendantsWithin · id) h.length (descendants h.reverse id) := by
  -- the entries at the start are paid for by the links under `id`, which counts as visited
  have credit : h.descentLoop.credit (h.childrenOf id).reverse [id] = h.links.length := by
    have paid := Links.length_under_add_unspent h.links.reverse (List.not_mem_nil (a := id))
    rw [Links.under_reverse, Links.unspent_nil] at paid
    exact paid.trans List.length_reverse
  rw [← expansions_descentLoop]
  refine (Worklist.run_ends_of_never (fun _ => rfl) _ _).mono ?_
  exact Nat.le_trans (Nat.le_of_eq credit) h.length_links_le

/-! ## Views -/

/-- An entry of the loop that builds a view. -/
structure Pending where
  id : Int
  /-- The node under which the organization goes. -/
  parent : Option Int
  /-- Whether that node is authorized. -/
  inherited : Bool

/-- Whether the node for an entry is authorized. -/
def Pending.authorized (target : Option Int) (e : Pending) : Bool :=
  e.inherited || target == some e.id

/-- The loop that builds a view. -/
def viewLoop (h : Hierarchy) (target : Option Int) : Worklist Int Pending where
  links := h.links
  key := (·.id)
  entry := fun e child => ⟨child, some e.id, e.authorized target⟩
  stops := fun _ => false

/-- The entries for which the loop builds nodes. -/
def expandedWithin (h : Hierarchy) (fuel : Nat) (roots : List Int) (target : Option Int)
    (inherited : Bool) : Option (List Pending) :=
  (h.viewLoop target).run fuel (roots.map (⟨·, none, inherited⟩)) []

/-- The node for an entry, with the id of its parent. -/
def placed (h : Hierarchy) (target : Option Int) (e : Pending) : Option Int × TreeNode :=
  (e.parent, h.nodeOf (e.id, e.authorized target))

/-- The view that the loop builds. -/
def viewWithin (h : Hierarchy) (fuel : Nat) (roots : List Int) (target : Option Int)
    (inherited : Bool) : Option (Forest TreeNode) :=
  (h.expandedWithin fuel roots target inherited).map fun taken =>
    Forest.nil.grow (·.id) (taken.map (h.placed target))

theorem map_placed_unroll (h : Hierarchy) (target : Option Int) (parent : Option Int)
    (inherited : Bool) (t : Forest Int) :
    (t.unroll (h.viewLoop target).entry (⟨·, parent, inherited⟩)).map (h.placed target) =
      ((authorize target inherited t).map h.nodeOf).parented (·.id) parent := by
  induction t generalizing parent inherited with
  | nil => rfl
  | cons id children siblings ihChildren ihSiblings =>
    rw [Forest.unroll, List.map_cons, List.map_append, ihSiblings]
    exact congrArg (_ :: · ++ _) (ihChildren _ _)

theorem grow_expansions_viewLoop (h : Hierarchy) (roots : List Int) (target : Option Int)
    (inherited : Bool) :
    Forest.nil.grow (·.id) (((h.viewLoop target).expansions
      (roots.map (⟨·, none, inherited⟩)) []).map (h.placed target)) =
        h.view roots target inherited := by
  -- the ids in the view are different, so that each of them names one parent
  have nodup := nodup_view h roots target inherited
  rw [view_eq_map, Links.forest_eq_depthFirst] at nodup ⊢
  have walked : (h.viewLoop target).expansions (roots.map (⟨·, none, inherited⟩)) [] =
      (h.links.depthFirst (fun id => id) roots []).unroll (h.viewLoop target).entry
        (⟨·, none, inherited⟩) :=
    Links.expansions_eq_depthFirst (fun _ _ => rfl) (fun _ => rfl) roots []
  rw [walked, map_placed_unroll]
  exact Forest.grow_nil_parented nodup

theorem expandedWithin_ends (h : Hierarchy) (roots : List Int) (target : Option Int)
    (inherited : Bool) :
    EndsWithin (h.expandedWithin · roots target inherited) (roots.length + h.length)
      ((h.viewLoop target).expansions (roots.map (⟨·, none, inherited⟩)) []) := by
  refine (Worklist.run_ends_of_never (fun _ => rfl) _ _).mono ?_
  exact Nat.le_trans (Worklist.credit_le _ _ _ _) (Nat.add_le_add_left h.length_links_le _)

theorem viewWithin_ends (h : Hierarchy) (roots : List Int) (target : Option Int)
    (inherited : Bool) :
    EndsWithin (h.viewWithin · roots target inherited) (roots.length + h.length)
      (h.view roots target inherited) := by
  rw [← grow_expansions_viewLoop]
  exact (h.expandedWithin_ends roots target inherited).map _

end Hierarchy

/-! ## Menus with check boxes -/

namespace Menu

/-- The loop that builds a tree of menus: an entry is a menu with the id of its parent in the tree.
There is no node for a menu without a name. -/
def treeLoop (menus : List MenuRow) :
    Worklist (Int × Option String) (Option Int × Int × Option String) where
  links := links menus
  key := fun e => e.2.1
  entry := fun e menu => (some e.2.1, menu)
  stops := fun e => e.2.2.isNone

/-- The entries that the loop expands, and the one without a name if it meets one. -/
def expandedWithin (fuel : Nat) (menus : List MenuRow) (parent : Int) :
    Option (List (Option Int × Int × Option String)) :=
  (treeLoop menus).run fuel (((links menus).under parent).map (none, ·)) []

/-- An entry with the name of its menu. -/
def labelled? (e : Option Int × Int × Option String) : Option (Option Int × Int × String) :=
  (named? e.2).map (e.1, ·)

/-- The tree with check boxes that is built of entries, if all of them have names. -/
def treeOf (selection : Selection) (taken : List (Option Int × Int × Option String)) :
    Checked (Forest TreeNode) :=
  match taken.mapM labelled? with
  | some nodes => .ok (check selection (Forest.nil.grow (·.1) nodes))
  | none => .error [unnamed]

/-- The tree that the loop builds. -/
def checkedTreeWithin (fuel : Nat) (menus : List MenuRow) (selection : Selection) (parent : Int) :
    Option (Checked (Forest TreeNode)) :=
  (expandedWithin fuel menus parent).map (treeOf selection)

theorem mapM_parented (p : Option Int) (t : Forest (Int × Option String)) :
    (t.parented (·.1) p).mapM labelled? = (t.mapOption named?).map (·.parented (·.1) p) := by
  induction t generalizing p with
  | nil => rfl
  | cons item children siblings ihChildren ihSiblings =>
    show ((p, item) :: (children.parented _ (some item.1) ++ siblings.parented _ p)).mapM _ = _
    rw [List.mapM_cons, List.mapM_append, ihChildren, ihSiblings, Forest.mapOption, labelled?]
    cases here : named? item with
    | none => rfl
    | some menu =>
      rw [← named?_keeps here]
      cases children.mapOption named? with
      | none => rfl
      | some below =>
        cases siblings.mapOption named? with
        | none => rfl
        | some beside => rfl

theorem treeOf_expansions (menus : List MenuRow) (selection : Selection) (parent : Int) :
    treeOf selection (Worklist.upTo (treeLoop menus).stops
      ((treeLoop menus).expansions (((links menus).under parent).map (none, ·)) [])) =
        checkedTree menus selection parent := by
  have walked : (treeLoop menus).expansions (((links menus).under parent).map (none, ·)) [] =
      ((links menus).forest (·.1) ((links menus).under parent)).parented (·.1) none := by
    rw [Links.forest_eq_depthFirst]
    exact Links.expansions_eq_depthFirst (fun _ _ => rfl) (fun _ => rfl) _ []
  have stuck : ∀ e, (treeLoop menus).stops e = (labelled? e).isNone := fun e => by
    simp [treeLoop, labelled?, named?]
  have built : authTree menus selection parent =
      (((links menus).forest (·.1) ((links menus).under parent)).mapOption named?).map
        (check selection) :=
    Option.map_eq_bind.symm
  rw [treeOf, Worklist.mapM_upTo stuck, walked, mapM_parented, checkedTree, built]
  cases names : ((links menus).forest (·.1) ((links menus).under parent)).mapOption named? with
  | none => rfl
  | some named =>
    show Except.ok (check selection (Forest.nil.grow (·.1) (named.parented (·.1) none))) = _
    rw [Forest.grow_nil_parented (nodup_named names)]
    rfl

theorem length_links_le (menus : List MenuRow) : (links menus).length ≤ menus.length :=
  List.length_filterMap_le _ _

theorem expandedWithin_ends (menus : List MenuRow) (parent : Int) :
    EndsWithin (expandedWithin · menus parent)
      (((links menus).under parent).length + menus.length)
      (Worklist.upTo (treeLoop menus).stops
        ((treeLoop menus).expansions (((links menus).under parent).map (none, ·)) [])) := by
  refine ((treeLoop menus).run_ends _ _).mono ?_
  exact Nat.le_trans (Worklist.credit_le _ _ _ _) (Nat.add_le_add_left (length_links_le menus) _)

theorem checkedTreeWithin_ends (menus : List MenuRow) (selection : Selection) (parent : Int) :
    EndsWithin (checkedTreeWithin · menus selection parent)
      (((links menus).under parent).length + menus.length)
      (checkedTree menus selection parent) := by
  rw [← treeOf_expansions]
  exact (expandedWithin_ends menus parent).map _

end Menu

/-! ## All three -/

/-- On any rows, the loop that collects what lies below an organization takes no more turns than
there are rows, and those that build a view or a tree of menus take no more than there are rows and
entries at the start: with fuel for as many turns they do not run out, and the result is the one
that they have without fuel. No id is expanded twice, where the organization that the first loop
starts at counts as expanded. -/
theorem loops_end_in_linear_time :
    (∀ (h : Hierarchy) (id : Int), ∃ found,
      EndsWithin (h.descendantsWithin · id) h.length found ∧
      found.Perm (h.descendants id) ∧ (id :: found).Nodup) ∧
    (∀ (h : Hierarchy) (roots : List Int) (target : Option Int) (inherited : Bool),
      EndsWithin (h.viewWithin · roots target inherited) (roots.length + h.length)
        (h.view roots target inherited) ∧
      ∃ taken,
        EndsWithin (h.expandedWithin · roots target inherited) (roots.length + h.length) taken ∧
        (taken.map (·.id)).Nodup) ∧
    (∀ (menus : List MenuRow) (selection : Selection) (parent : Int),
      EndsWithin (Menu.checkedTreeWithin · menus selection parent)
        (((Menu.links menus).under parent).length + menus.length)
        (Menu.checkedTree menus selection parent) ∧
      ∃ taken,
        EndsWithin (Menu.expandedWithin · menus parent)
          (((Menu.links menus).under parent).length + menus.length) taken ∧
        (taken.map (·.2.1)).Nodup) := by
  refine ⟨fun h id => ?_, fun h roots target inherited => ?_, fun menus selection parent => ?_⟩
  · have same := (Hierarchy.Reorders.of_perm (List.reverse_perm h)).perm_descendants id
    refine ⟨_, h.descendantsWithin_ends id, same, List.nodup_cons.mpr ⟨?_, ?_⟩⟩
    · exact Hierarchy.not_mem_descendants h.reverse id
    · exact Hierarchy.nodup_descendants h.reverse id
  · have once := (h.viewLoop target).nodup_expansions (roots.map (⟨·, none, inherited⟩)) []
    exact ⟨h.viewWithin_ends roots target inherited, _,
      h.expandedWithin_ends roots target inherited, once⟩
  · have once := (Menu.treeLoop menus).nodup_expansions
      (((Menu.links menus).under parent).map (none, ·)) []
    exact ⟨Menu.checkedTreeWithin_ends menus selection parent, _,
      Menu.expandedWithin_ends menus parent, ((Worklist.upTo_sublist _ _).map _).nodup once⟩

/-- There are as many turns as rows if everything hangs below the organization, also on a cycle and
with a row that is there twice. -/
example :
    let h : Hierarchy := [⟨some 1, none, 2⟩, ⟨some 2, none, 1⟩, ⟨some 2, none, 1⟩]
    h.descendantsWithin 3 1 = some [2] ∧ h.descendantsWithin 2 1 = none := by
  decide

end Tenancy
