import Tenancy.Distinct
import Tenancy.Proofs.Labels

/-!
# Depth first, by recursion

The walk along links keeps a list of what is pending and writes down depths, from which the forest
is put together afterwards. `Links.depthFirst` builds the same forest by recursion: it goes down
from an item before it turns to the next one, and hands on what has been visited in between
(`forest_eq_depthFirst`).

* `ofRows_rows`: a forest is given back by its rows, so that what the walk writes down is enough.
* `expansions_append`: a loop first expands what is under the items in front, and then goes on with
  the others. The walk is such a loop (`preorder_eq_depthFirst`).
* `roots_depthFirst`, `follows_depthFirst`: roots and children come in the order of their first
  occurrences.
* `find?_of_mem_roots`, `find?_of_mem_nodes`: of the items of one id, a root or a child is the
  first.
* `depthFirst_congr`: what was visited matters only as far as it can be reached.
-/

namespace Tenancy

namespace Forest

variable {α : Type}

/-- The children of every node are among the items that `under` gives for it, in their order. -/
def Follows (under : α → List α) : Forest α → Prop
  | nil => True
  | cons a children siblings =>
    children.roots.Sublist (under a) ∧ children.Follows under ∧ siblings.Follows under

/-- What `Follows` says, for one node at a time. -/
theorem follows_iff {under : α → List α} {t : Forest α} :
    t.Follows under ↔ ∀ node ∈ t.nodes, node.2.roots.Sublist (under node.1) := by
  induction t with
  | nil => simp [Follows, nodes]
  | cons a children siblings ihChildren ihSiblings =>
    rw [Follows, nodes, List.forall_mem_cons, List.forall_mem_append, ihChildren, ihSiblings]

/-! ## Forests and their rows -/

theorem ofTrees_trees (t : Forest α) : ofTrees t.trees = t := by
  induction t with
  | nil => rfl
  | cons a children siblings _ ih =>
    show cons a children (ofTrees siblings.trees) = _
    rw [ih]

/-- The nodes in pre-order, each as an entry: a root gets the one that `start` gives for it, and a
child gets the one that `entry` gives for it under the entry of its parent. -/
def unroll {ε : Type} (entry : ε → α → ε) (start : α → ε) : Forest α → List ε
  | nil => []
  | cons a children siblings =>
    start a :: (children.unroll entry (entry (start a)) ++ siblings.unroll entry start)

theorem unroll_depths (depth : Nat) (t : Forest α) :
    t.unroll (fun x a => (x.1 + 1, a)) (depth, ·) = t.rowsFrom depth := by
  induction t generalizing depth with
  | nil => rfl
  | cons a children siblings ihChildren ihSiblings =>
    rw [unroll, rowsFrom, ihChildren, ihSiblings]

theorem map_snd_rowsFrom (depth : Nat) (t : Forest α) :
    (t.rowsFrom depth).map (·.2) = t.labels := by
  induction t generalizing depth with
  | nil => rfl
  | cons a children siblings ihChildren ihSiblings =>
    simp [rowsFrom, labels, ihChildren, ihSiblings]

/-- A node takes the trees below it, which come first among those that wait. -/
theorem graft_append {depth : Nat} (a : α) {below beside : List (Nat × α × Forest α)}
    (deeper : ∀ tree ∈ below, depth < tree.1) (higher : ∀ tree ∈ beside, tree.1 ≤ depth) :
    graft (depth, a) (below ++ beside) = (depth, a, ofTrees (below.map (·.2))) :: beside := by
  have taken : ∀ tree ∈ below, decide (depth < tree.1) = true := fun tree listed =>
    decide_eq_true (deeper tree listed)
  have left : ∀ tree ∈ beside, ¬decide (depth < tree.1) = true := fun tree listed => by
    simpa using higher tree listed
  have none : beside.takeWhile (depth < ·.1) = [] := by
    cases beside with
    | nil => rfl
    | cons tree others => exact List.takeWhile_cons_of_neg (left tree List.mem_cons_self)
  have all : beside.dropWhile (depth < ·.1) = beside := by
    cases beside with
    | nil => rfl
    | cons tree others => exact List.dropWhile_cons_of_neg (left tree List.mem_cons_self)
  rw [graft, List.takeWhile_append_of_pos taken, List.dropWhile_append_of_pos taken, none, all,
    List.append_nil]

/-- Grafting the rows of a forest gives its trees, in front of trees that are no deeper. -/
theorem foldr_graft_rowsFrom {depth : Nat} (t : Forest α) {rest : List (Nat × α × Forest α)}
    (higher : ∀ tree ∈ rest, tree.1 ≤ depth) :
    (t.rowsFrom depth).foldr graft rest = t.trees.map (depth, ·) ++ rest := by
  induction t generalizing depth rest with
  | nil => rfl
  | cons a children siblings ihChildren ihSiblings =>
    have beside : ∀ tree ∈ siblings.trees.map (depth, ·) ++ rest, tree.1 ≤ depth := by
      intro tree listed
      rcases List.mem_append.mp listed with sibling | later
      · obtain ⟨t, -, rfl⟩ := List.mem_map.mp sibling
        exact Nat.le_refl depth
      · exact higher tree later
    have below : ∀ tree ∈ children.trees.map (depth + 1, ·), depth < tree.1 := by
      intro tree listed
      obtain ⟨t, -, rfl⟩ := List.mem_map.mp listed
      exact Nat.lt_succ_self depth
    have whole : ofTrees ((children.trees.map (depth + 1, ·)).map (·.2)) = children := by
      rw [List.map_map]
      exact (congrArg ofTrees (List.map_id children.trees)).trans children.ofTrees_trees
    rw [rowsFrom, List.foldr_cons, List.foldr_append, ihSiblings higher,
      ihChildren fun tree listed => Nat.le_succ_of_le (beside tree listed),
      graft_append a below beside, whole]
    rfl

theorem ofRows_rows (t : Forest α) : ofRows t.rows = t := by
  rw [ofRows, rows, foldr_graft_rowsFrom t (by simp), List.append_nil, List.map_map]
  exact (congrArg ofTrees (List.map_id t.trees)).trans t.ofTrees_trees

end Forest

namespace Links

variable {α : Type} {links : Links α} {key : α → Int} {pending : List α} {visited other : List Int}

/-! ## The recursion -/

theorem unspent_append_cons_le (links : Links α) (more : List Int) (k : Int) (visited : List Int) :
    links.unspent (more ++ k :: visited) ≤ links.unspent visited := by
  refine List.countP_mono_left fun l _ => ?_
  simp +contextual

/-- The forest under the given items by recursion: under an item goes all that can be reached from
it, and whatever is in there counts as visited for the items that follow. -/
def depthFirst (links : Links α) (key : α → Int) : List α → List Int → Forest α
  | [], _ => .nil
  | a :: rest, visited =>
    if key a ∈ visited then depthFirst links key rest visited
    else
      let children := depthFirst links key (links.under (key a)) (key a :: visited)
      .cons a children (depthFirst links key rest (children.labels.map key ++ key a :: visited))
  termination_by pending visited => pending.length + links.unspent visited
  decreasing_by
    · simp
    · rename_i fresh
      have := links.length_under_add_unspent fresh
      simp
      omega
    · exact Nat.add_lt_add_of_lt_of_le (Nat.lt_succ_self _) (links.unspent_append_cons_le _ _ _)

theorem depthFirst_nil (links : Links α) (key : α → Int) (visited : List Int) :
    links.depthFirst key [] visited = .nil := by
  rw [depthFirst]

theorem depthFirst_of_fresh {a : α} (fresh : key a ∉ visited) :
    links.depthFirst key (a :: pending) visited =
      .cons a (links.depthFirst key (links.under (key a)) (key a :: visited))
        (links.depthFirst key pending
          ((links.depthFirst key (links.under (key a)) (key a :: visited)).labels.map key ++
            key a :: visited)) := by
  rw [depthFirst, if_neg fresh]

/-- A loop that finds the id of an item in every entry for it expands what is under the items in
front, as the recursion does, and then goes on with the entries that wait behind them. -/
theorem expansions_append {ε : Type} {w : Worklist α ε}
    (keyed : ∀ e a, w.key (w.entry e a) = key a) (pending : List α) (visited : List Int) :
    ∀ (start : α → ε) (waiting : List ε), (∀ a, w.key (start a) = key a) →
      w.expansions (pending.map start ++ waiting) visited =
        (w.links.depthFirst key pending visited).unroll w.entry start ++
          w.expansions waiting
            ((w.links.depthFirst key pending visited).labels.map key ++ visited) := by
  fun_induction depthFirst w.links key pending visited with
  | case1 visited =>
    intro start waiting own
    rfl
  | case2 a rest visited seen ih =>
    intro start waiting own
    rw [List.map_cons, List.cons_append, Worklist.expansions, if_pos ((own a).symm ▸ seen)]
    exact ih start waiting own
  | case3 a rest visited fresh children ihChildren ihRest =>
    intro start waiting own
    rw [List.map_cons, List.cons_append, Worklist.expansions, if_neg ((own a).symm ▸ fresh),
      Worklist.push, own, ihChildren _ _ (keyed _), ihRest _ _ own]
    simp only [Forest.unroll, Forest.labels, List.cons_append, List.append_assoc]
    congr 3
    -- the same ids were visited, in another order
    refine Worklist.expansions_congr_visited fun k => ?_
    simp only [List.mem_append, List.mem_cons, List.map_cons, List.map_append]
    grind

theorem expansions_eq_depthFirst {ε : Type} {w : Worklist α ε}
    (keyed : ∀ e a, w.key (w.entry e a) = key a) {start : α → ε}
    (own : ∀ a, w.key (start a) = key a) (pending : List α) (visited : List Int) :
    w.expansions (pending.map start) visited =
      (w.links.depthFirst key pending visited).unroll w.entry start := by
  have walk := expansions_append keyed pending visited start [] own
  rwa [List.append_nil, Worklist.expansions, List.append_nil] at walk

theorem preorder_eq_depthFirst (links : Links α) (key : α → Int) (pending : List α)
    (visited : List Int) :
    links.preorder key (pending.map (0, ·)) visited =
      (links.depthFirst key pending visited).rows := by
  rw [preorder_eq_expansions, Forest.rows, ← Forest.unroll_depths]
  exact expansions_eq_depthFirst (fun _ _ => rfl) (fun _ => rfl) pending visited

/-- The forest that is read off the walk is the one that the recursion builds. -/
theorem forest_eq_depthFirst (links : Links α) (key : α → Int) (roots : List α) :
    links.forest key roots = links.depthFirst key roots [] := by
  rw [forest, preorder_eq_depthFirst, Forest.ofRows_rows]

/-- The recursion shows what the walk visits. -/
theorem mem_labels_depthFirst {a : α} :
    a ∈ (links.depthFirst key pending visited).labels ↔
      ∃ x ∈ links.preorder key (pending.map (0, ·)) visited, x.2 = a := by
  rw [preorder_eq_depthFirst, ← Forest.map_snd_rowsFrom 0, List.mem_map]
  rfl

theorem key_not_mem_of_mem_depthFirst {a : α}
    (shown : a ∈ (links.depthFirst key pending visited).labels) : key a ∉ visited := by
  obtain ⟨x, visit, rfl⟩ := mem_labels_depthFirst.mp shown
  exact key_not_mem_of_mem_preorder visit

theorem of_mem_depthFirst {P : α → Prop} (closed : ∀ a, P a → ∀ b ∈ links.under (key a), P b)
    (start : ∀ a ∈ pending, P a) {a : α}
    (shown : a ∈ (links.depthFirst key pending visited).labels) : P a := by
  obtain ⟨x, visit, rfl⟩ := mem_labels_depthFirst.mp shown
  refine of_mem_preorder closed (fun y waits => ?_) visit
  obtain ⟨b, listed, rfl⟩ := List.mem_map.mp waits
  exact start b listed

/-! ## What hangs where -/

/-- The roots are pending items, in the order in which these occur first. -/
theorem roots_depthFirst [DecidableEq α] (links : Links α) (key : α → Int) (pending : List α)
    (visited : List Int) :
    (links.depthFirst key pending visited).roots.Sublist (distinct pending) := by
  -- a root was not visited when its turn came, so no item before it was the same
  have later : ∀ (a : α) (rest : List α) (seen : List Int), key a ∈ seen →
      (links.depthFirst key rest seen).roots.Sublist (distinct rest) →
      (links.depthFirst key rest seen).roots.Sublist ((distinct rest).filter (· ≠ a)) := by
    intro a rest seen before ordered
    have others : ∀ b ∈ (links.depthFirst key rest seen).roots, decide (b ≠ a) = true := by
      intro b root
      refine decide_eq_true fun same => ?_
      exact key_not_mem_of_mem_depthFirst (Forest.mem_labels_of_mem_roots root) (same ▸ before)
    rw [← List.filter_eq_self.mpr others]
    exact ordered.filter _
  fun_induction depthFirst links key pending visited with
  | case1 visited => exact List.nil_sublist _
  | case2 a rest visited seen ih => exact (later a rest visited seen ih).cons a
  | case3 a rest visited fresh children ihChildren ihRest =>
    refine (later a rest _ ?_ ihRest).cons_cons a
    exact List.mem_append_right _ List.mem_cons_self

/-- The children of every node are among the items under it, in the order in which these occur
first. -/
theorem follows_depthFirst [DecidableEq α] (links : Links α) (key : α → Int) (pending : List α)
    (visited : List Int) :
    (links.depthFirst key pending visited).Follows fun a => distinct (links.under (key a)) := by
  fun_induction depthFirst links key pending visited with
  | case1 visited => trivial
  | case2 a rest visited seen ih => exact ih
  | case3 a rest visited fresh children ihChildren ihRest =>
    exact ⟨roots_depthFirst links key _ _, ihChildren, ihRest⟩

/-- A root is the first of the pending items with its id. -/
theorem find?_of_mem_roots {a : α} (root : a ∈ (links.depthFirst key pending visited).roots) :
    pending.find? (key · = key a) = some a := by
  have fresh := key_not_mem_of_mem_depthFirst (Forest.mem_labels_of_mem_roots root)
  fun_induction depthFirst links key pending visited with
  | case1 visited => cases root
  | case2 b rest visited seen ih =>
    have other : key b ≠ key a := fun same => fresh (same ▸ seen)
    rw [List.find?_cons_of_neg (by simpa using other)]
    exact ih root fresh
  | case3 b rest visited unseen children ihChildren ihRest =>
    rcases List.mem_cons.mp root with rfl | later
    · exact List.find?_cons_of_pos (by simp)
    · have late := key_not_mem_of_mem_depthFirst (Forest.mem_labels_of_mem_roots later)
      have other : key b ≠ key a := fun same =>
        late (List.mem_append_right _ (same ▸ List.mem_cons_self))
      rw [List.find?_cons_of_neg (by simpa using other)]
      exact ihRest later late

/-- A child of a node is the first of the items under that node with its id. -/
theorem find?_of_mem_nodes {node : α × Forest α}
    (shown : node ∈ (links.depthFirst key pending visited).nodes) {child : α}
    (below : child ∈ node.2.roots) :
    (links.under (key node.1)).find? (key · = key child) = some child := by
  fun_induction depthFirst links key pending visited with
  | case1 visited => cases shown
  | case2 a rest visited seen ih => exact ih shown
  | case3 a rest visited fresh children ihChildren ihRest =>
    rcases List.mem_cons.mp shown with rfl | shown
    · exact find?_of_mem_roots below
    rcases List.mem_append.mp shown with inner | outer
    · exact ihChildren inner
    · exact ihRest outer

/-- Only what can be reached from the pending items has to be known of what was visited. -/
theorem depthFirst_congr {P : Int → Prop} (closed : ∀ k, P k → ∀ a ∈ links.under k, P (key a))
    (pending : List α) (visited : List Int) :
    ∀ other, (∀ a ∈ pending, P (key a)) → (∀ k, P k → (k ∈ visited ↔ k ∈ other)) →
      links.depthFirst key pending visited = links.depthFirst key pending other := by
  fun_induction depthFirst links key pending visited with
  | case1 visited =>
    intro other start agree
    rw [depthFirst]
  | case2 a rest visited seen ih =>
    intro other start agree
    obtain ⟨here, later⟩ := List.forall_mem_cons.mp start
    rw [depthFirst, if_pos ((agree _ here).mp seen)]
    exact ih other later agree
  | case3 a rest visited fresh children ihChildren ihRest =>
    intro other start agree
    obtain ⟨here, later⟩ := List.forall_mem_cons.mp start
    have below : children = links.depthFirst key (links.under (key a)) (key a :: other) := by
      refine ihChildren _ (closed _ here) fun k inside => ?_
      rw [List.mem_cons, List.mem_cons, agree k inside]
    have beside := ihRest (children.labels.map key ++ key a :: other) later fun k inside => by
      rw [List.mem_append, List.mem_append, List.mem_cons, List.mem_cons, agree k inside]
    rw [depthFirst_of_fresh (mt (agree _ here).mpr fresh), beside, ← below]

/-- Roots from which nothing is reached twice have a tree each, as if there were no other roots. -/
theorem depthFirst_eq_ofTrees (region : α → Int → Prop) {roots : List α}
    (closed : ∀ a ∈ roots, ∀ k, region a k → ∀ b ∈ links.under k, region a (key b))
    (start : ∀ a ∈ roots, region a (key a))
    (apart : roots.Pairwise fun a b => ∀ k, region a k → ¬region b k)
    (untouched : ∀ a ∈ roots, ∀ k ∈ visited, ¬region a k) :
    links.depthFirst key roots visited =
      .ofTrees (roots.map fun a => (a, links.depthFirst key (links.under (key a)) [key a])) := by
  induction roots generalizing visited with
  | nil => exact depthFirst_nil links key visited
  | cons a rest ih =>
    obtain ⟨closedHere, closedLater⟩ := List.forall_mem_cons.mp closed
    obtain ⟨startHere, startLater⟩ := List.forall_mem_cons.mp start
    obtain ⟨apartHere, apartLater⟩ := List.pairwise_cons.mp apart
    obtain ⟨untouchedHere, untouchedLater⟩ := List.forall_mem_cons.mp untouched
    have fresh : key a ∉ visited := fun before => untouchedHere _ before startHere
    have below : links.depthFirst key (links.under (key a)) (key a :: visited) =
        links.depthFirst key (links.under (key a)) [key a] := by
      refine depthFirst_congr closedHere _ _ _ (closedHere _ startHere) fun k inside => ?_
      rw [List.mem_cons, List.mem_singleton,
        or_iff_left fun before => untouchedHere k before inside]
    have beside : links.depthFirst key rest
        ((links.depthFirst key (links.under (key a)) [key a]).labels.map key ++ key a :: visited) =
          .ofTrees (rest.map fun a => (a, links.depthFirst key (links.under (key a)) [key a])) := by
      refine ih closedLater startLater apartLater fun b later k before => ?_
      rcases List.mem_append.mp before with inside | here
      · obtain ⟨c, shown, rfl⟩ := List.mem_map.mp inside
        refine apartHere b later _ (of_mem_depthFirst (P := fun c => region a (key c)) ?_ ?_ shown)
        · exact fun c inside d under => closedHere _ inside d under
        · exact fun c under => closedHere _ startHere c under
      · rcases List.mem_cons.mp here with rfl | old
        · exact apartHere b later _ startHere
        · exact untouchedLater b later k old
    rw [depthFirst_of_fresh fresh, below, beside]
    rfl

end Links

end Tenancy
