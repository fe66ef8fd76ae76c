import Tenancy.Proofs.FirstLevelView
import Tenancy.Proofs.Siblings

/-!
# The order of the rows

The rows of a hierarchy are read in an order that no one has fixed, and the walks go through them in
that order. Where no id occurs twice, this shows in nothing but the order of what is listed.

* `firstLevelAncestor_congr`: what is looked up decides the climb, its bound does not.
* `Reorders.agree_resolveScope`: the scopes are the same sets, or fail for the same reason.
* `Proper.unfolds_forest`: in a forest below the first level, each node has all of its children.
* `Reorders.rearranged_view`: so the trees differ in the order of siblings only.
* `rows_in_any_order`: nothing but this order depends on that of the rows.
-/

namespace Tenancy

section Agree

variable {ε α β γ δ : Type} {R : α → β → Prop} {S : γ → δ → Prop}

/-- Both succeed, with results in the relation, or both fail for the same reason. -/
inductive Agree (R : α → β → Prop) : Except ε α → Except ε β → Prop
  | ok {a : α} {b : β} : R a b → Agree R (.ok a) (.ok b)
  | error (e : ε) : Agree R (.error e) (.error e)

theorem Agree.mono {T : α → β → Prop} {x : Except ε α} {y : Except ε β} (agree : Agree R x y)
    (weaker : ∀ a b, R a b → T a b) : Agree T x y := by
  cases agree with
  | ok related => exact .ok (weaker _ _ related)
  | error e => exact .error e

theorem Agree.refl (x : Except ε α) : Agree Eq x x := by
  cases x with
  | ok a => exact .ok rfl
  | error e => exact .error e

namespace Journal

/-- The same history, and outcomes that agree. -/
structure Agrees (R : α → β → Prop) (j : Journal α) (k : Journal β) : Prop where
  history : j.history = k.history
  outcome : Agree R j.outcome k.outcome

variable {j : Journal α} {k : Journal β}

theorem Agrees.eq {j k : Journal α} (agrees : j.Agrees Eq k) : j = k := by
  obtain ⟨history, x⟩ := j
  obtain ⟨other, y⟩ := k
  obtain ⟨rfl, same⟩ := agrees
  cases same with
  | ok same => rw [same]
  | error e => rfl

theorem Agrees.refl (j : Journal α) : j.Agrees Eq j :=
  ⟨rfl, .refl _⟩

theorem Agrees.bind (agrees : j.Agrees R k) {next : α → Journal γ} {other : β → Journal δ}
    (go : ∀ a b, R a b → (next a).Agrees S (other b)) :
    (j >>= next).Agrees S (k >>= other) := by
  obtain ⟨history, x⟩ := j
  obtain ⟨_, y⟩ := k
  obtain ⟨rfl, same⟩ := agrees
  cases same with
  | ok same =>
    obtain ⟨rest, outcome⟩ := go _ _ same
    exact ⟨congrArg (history ++ ·) rest, outcome⟩
  | error e => exact ⟨rfl, .error e⟩

end Journal

end Agree

namespace Hierarchy

variable {h g : Hierarchy} {x y : Int}

/-- The rows with an id are the same, in whatever order. -/
def Reorders (h g : Hierarchy) : Prop :=
  (h.filter (·.id.isSome)).Perm (g.filter (·.id.isSome))

theorem Reorders.of_perm (same : List.Perm h g) : h.Reorders g :=
  same.filter _

/-! ## Rows -/

/-- What is looked up decides the climb. -/
theorem firstLevelAncestor_congr (same : h.row? = g.row?) :
    h.firstLevelAncestor x = g.firstLevelAncestor x := by
  have known : h.contains = g.contains := by
    funext y
    rw [contains, contains, same]
  have above : h.parent? = g.parent? := by
    funext y
    rw [parent?, parent?, same]
  have climbs : ∀ steps y, h.climb x steps y = g.climb x steps y := by
    intro steps
    induction steps with
    | zero => exact fun _ => rfl
    | succ steps ih => simp only [climb, known, above, ih, implies_true]
  by_cases present : h.contains x = true
  · have still : g.contains x = true := known ▸ present
    rw [contains_iff] at present still
    -- the bounds of the two climbs may differ, but both are high enough
    rw [← climb_eq_firstLevelAncestor present (Nat.le_add_right h.size g.size),
      ← climb_eq_firstLevelAncestor still (Nat.le_add_left g.size h.size), climbs]
  · rw [firstLevelAncestor, firstLevelAncestor, ← known, if_neg present, if_neg present]

namespace Reorders

variable (same : h.Reorders g)
include same

theorem symm : g.Reorders h :=
  List.Perm.symm same

theorem mem_of_mem {row : HierarchyRow} (present : row ∈ h) (own : row.id = some x) :
    row ∈ g := by
  have listed : row ∈ h.filter (·.id.isSome) := List.mem_filter.mpr ⟨present, by rw [own]; rfl⟩
  exact List.mem_of_mem_filter (same.subset listed)

theorem perm_filterMap {α : Type} {f : HierarchyRow → Option α}
    (ignores : ∀ row, row.id = none → f row = none) : (h.filterMap f).Perm (g.filterMap f) := by
  have counts : ∀ rows : Hierarchy, rows.filterMap f = (rows.filter (·.id.isSome)).filterMap f := by
    intro rows
    rw [List.filterMap_filter]
    refine List.filterMap_congr fun row _ => ?_
    cases own : row.id with
    | none => simp [ignores row own]
    | some x => rfl
  rw [counts h, counts g]
  exact same.filterMap f

theorem perm_ids : h.ids.Perm g.ids :=
  same.perm_filterMap fun _ own => own

theorem perm_childrenOf (x : Int) : (h.childrenOf x).Perm (g.childrenOf x) := by
  have links : (h.links).Perm g.links := same.perm_filterMap fun row own => by simp [own]
  exact links.filterMap _

theorem child_eq : h.Child = g.Child := by
  funext p c
  rw [eq_iff_iff, ← mem_childrenOf, ← mem_childrenOf, (same.perm_childrenOf p).mem_iff]

theorem proper (proper : h.Proper) : g.Proper where
  nodup := same.perm_ids.nodup_iff.mp proper.nodup
  rootless := fun listed => proper.rootless (same.perm_ids.symm.subset listed)

theorem row?_eq (nodup : h.ids.Nodup) : h.row? = g.row? := by
  funext x
  by_cases known : x ∈ h.ids
  · obtain ⟨row, present, own⟩ := mem_ids.mp known
    rw [row?_eq_some nodup present own,
      row?_eq_some (same.perm_ids.nodup_iff.mp nodup) (same.mem_of_mem present own) own]
  · have unknown : x ∉ g.ids := fun listed => known (same.perm_ids.symm.subset listed)
    rw [← contains_iff, contains, Option.isSome_iff_ne_none, not_not] at known unknown
    rw [known, unknown]

/-! ## Scopes -/

theorem perm_descendants (x : Int) : (h.descendants x).Perm (g.descendants x) := by
  rw [List.perm_ext_iff_of_nodup (nodup_descendants h x) (nodup_descendants g x)]
  intro y
  rw [mem_descendants_iff, mem_descendants_iff, same.child_eq]

section Proper

variable (proper : h.Proper)
include proper

theorem firstLevelAncestor_eq (x : Int) : h.firstLevelAncestor x = g.firstLevelAncestor x :=
  firstLevelAncestor_congr (same.row?_eq proper.nodup)

theorem agree_resolveScope (target : Int) (isAdmin : Bool) (limit : LimitType) :
    Agree List.Perm (h.resolveScope target isAdmin limit)
      (g.resolveScope target isAdmin limit) := by
  have known : h.contains target = g.contains target := by
    rw [contains, contains, same.row?_eq proper.nodup]
  -- from the root there is all, and from what does not exist there is nothing
  have wherever : ∀ {x y : Except ScopeFault (List Int)}, Agree List.Perm x y →
      Agree List.Perm
        (if target = rootOrganizationId then .ok h.ids
          else if !h.contains target then .ok [] else x)
        (if target = rootOrganizationId then .ok g.ids
          else if !g.contains target then .ok [] else y) := by
    intro x y agree
    rw [known]
    split
    · exact .ok same.perm_ids
    split
    · exact .ok .nil
    · exact agree
  unfold resolveScope
  split
  · exact .ok (same.perm_ids.cons _)
  cases limit with
  | root | other => exact .error _
  | firstLevel =>
    refine wherever ?_
    simp only [same.firstLevelAncestor_eq proper target]
    cases g.firstLevelAncestor target with
    | error reason => exact .error _
    | ok a => exact .ok ((same.perm_descendants a).cons a)
  | subOrganization => exact wherever (.ok (same.perm_descendants target))
  | subOrganizationIncludeSelf => exact wherever (.ok ((same.perm_descendants target).cons target))

/-! ## The guard -/

theorem agrees_scopeOf (caller : Caller) (limit : LimitType) :
    (h.scopeOf caller limit).Agrees List.Perm (g.scopeOf caller limit) := by
  have scopes := same.agree_resolveScope proper caller.home (isSuperAdmin caller.id) limit
  unfold scopeOf
  generalize h.resolveScope caller.home (isSuperAdmin caller.id) limit = x at scopes
  generalize g.resolveScope caller.home (isSuperAdmin caller.id) limit = y at scopes
  cases scopes with
  | ok scope => exact ⟨rfl, .ok scope⟩
  | error fault => cases fault <;> exact ⟨rfl, .error _⟩

theorem checkScope_eq (caller : Caller) (target : Int) (limit : LimitType) :
    h.checkScope caller target limit = g.checkScope caller target limit := by
  unfold checkScope
  split
  · rfl
  split
  · rfl
  refine ((same.agrees_scopeOf proper caller _).bind fun scope other perm => ?_).eq
  simp only [perm.mem_iff]
  exact .refl _

theorem agrees_listingScope (caller : Caller) :
    (h.listingScope caller).Agrees (fun a b => a.1.Perm b.1 ∧ a.2.Perm b.2)
      (g.listingScope caller) := by
  unfold listingScope
  split
  · exact ⟨rfl, .ok ⟨.nil, same.perm_ids⟩⟩
  refine (same.agrees_scopeOf proper caller _).bind fun listing otherListing first => ?_
  refine (same.agrees_scopeOf proper caller _).bind fun authorized other second => ?_
  exact ⟨rfl, .ok ⟨first.cons _, second.cons _⟩⟩

end Proper

end Reorders

/-! ## Forests -/

section FirstLevel

variable {roots : List Int}

theorem child_of_hangs (child : (h.links.forest (fun id => id) roots).Hangs y x) :
    h.Child x y := by
  obtain ⟨node, shown, rfl, under⟩ := child
  have follows := Forest.follows_iff.mp (Links.follows_forest h.links (fun id => id) roots)
  exact mem_childrenOf.mp (mem_distinct.mp ((follows node shown).subset under))

variable (proper : h.Proper) (first : ∀ r ∈ roots, h.parent? r = some rootOrganizationId)
include proper first

theorem Proper.ne_root_of_shown (shown : x ∈ (h.links.forest (fun id => id) roots).labels) :
    x ≠ rootOrganizationId := by
  obtain ⟨r, root, below⟩ := mem_labels_forest.mp shown
  have top : r ∈ h.ids := mem_ids_of_parent? (first r root)
  rcases Relation.reflTransGen_iff_eq_or_transGen.mp below with rfl | below
  · exact proper.ne_root top
  · exact proper.ne_root (mem_ids_of_transGen below)

/-- Organizations of the first level are shown below nothing. -/
theorem Proper.perm_roots_forest (nodup : roots.Nodup) :
    (h.links.forest (fun id => id) roots).roots.Perm roots := by
  have ordered := Links.roots_forest h.links (fun id => id) roots
  rw [List.perm_ext_iff_of_nodup (ordered.nodup (nodup_distinct roots)) nodup]
  intro r
  refine ⟨fun top => mem_distinct.mp (ordered.subset top), fun root => ?_⟩
  refine (Forest.mem_roots_or_hangs (mem_labels_forest.mpr ⟨r, root, .refl⟩)).resolve_right ?_
  rintro ⟨p, child⟩
  have above := (child_of_hangs child).parent? proper.nodup
  rw [first r root, Option.some.injEq] at above
  exact proper.ne_root_of_shown first child.mem_labels above.symm

/-- Every node has all of its children below it: none of them is shown elsewhere. -/
theorem Proper.unfolds_forest :
    (h.links.forest (fun id => id) roots).Unfolds h.childrenOf := by
  intro node shown
  have follows := Forest.follows_iff.mp (Links.follows_forest h.links (fun id => id) roots)
  have ordered := follows node shown
  have nodup := (h.childrenOf_sublist_ids node.1).nodup proper.nodup
  rw [List.perm_ext_iff_of_nodup (ordered.nodup (nodup_distinct _)) nodup]
  intro y
  refine ⟨fun under => mem_distinct.mp (ordered.subset under), fun listed => ?_⟩
  have link := mem_childrenOf.mp listed
  have upper := Forest.label_mem_labels shown
  obtain ⟨r, root, below⟩ := mem_labels_forest.mp upper
  rcases Forest.mem_roots_or_hangs (mem_labels_forest.mpr ⟨r, root, below.tail link⟩) with
    top | ⟨p, child⟩
  · -- a root has the root of all above it, and this is not shown
    have asked := (Links.roots_forest h.links (fun id => id) roots).subset top
    have above := (first y (mem_distinct.mp asked)).symm.trans (link.parent? proper.nodup)
    exact absurd (Option.some.inj above).symm (proper.ne_root_of_shown first upper)
  · obtain rfl := (child_of_hangs child).unique proper.nodup link
    obtain ⟨other, otherShown, own, under⟩ := child
    have once : (h.links.forest (fun id => id) roots).labels.Nodup := by
      simpa using Links.nodup_labels_forest h.links (fun id => id) roots
    rwa [Forest.eq_of_same_label once shown otherShown own.symm]

end FirstLevel

/-- Marking goes by the nodes and not by their order. -/
theorem rearranged_authorize {t u : Forest Int} (same : t.Rearranged u) (target : Option Int)
    (inherited : Bool) :
    (authorize target inherited t).Rearranged (authorize target inherited u) := by
  induction same generalizing inherited with
  | nil => exact .nil
  | cons a _ _ ihChildren ihSiblings => exact .cons _ (ihChildren _) (ihSiblings _)
  | swap a b children others siblings => exact .swap _ _ _ _ _
  | trans _ _ ihFirst ihSecond => exact (ihFirst _).trans (ihSecond _)

/-! ## Views -/

section Views

variable (same : h.Reorders g) (proper : h.Proper)
include same proper

theorem Reorders.rearranged_view {roots others : List Int} (perm : roots.Perm others)
    (nodup : roots.Nodup) (first : ∀ r ∈ roots, h.parent? r = some rootOrganizationId)
    (target : Option Int) (inherited : Bool) :
    (h.view roots target inherited).Rearranged (g.view others target inherited) := by
  have otherFirst : ∀ r ∈ others, g.parent? r = some rootOrganizationId := by
    intro r root
    rw [parent?, ← same.row?_eq proper.nodup]
    exact first r (perm.symm.subset root)
  have otherProper := same.proper proper
  have otherUnfolds : (g.links.forest (fun id => id) others).Unfolds h.childrenOf :=
    fun node shown => (otherProper.unfolds_forest otherFirst node shown).trans
      (same.perm_childrenOf node.1).symm
  have forests : (h.links.forest (fun id => id) roots).Rearranged
      (g.links.forest (fun id => id) others) := by
    refine Forest.rearranged_of_unfolds (proper.unfolds_forest first) otherUnfolds ?_
    exact (proper.perm_roots_forest first nodup).trans
      (perm.trans (otherProper.perm_roots_forest otherFirst (perm.nodup_iff.mp nodup)).symm)
  have nodes : h.nodeOf = g.nodeOf := by
    funext marked
    simp only [nodeOf, name?, same.row?_eq proper.nodup]
  rw [view_eq_map, view_eq_map, nodes]
  exact (rearranged_authorize forests target inherited).map g.nodeOf

theorem Reorders.rearranged_view_root (target : Option Int) (inherited : Bool) :
    (h.view (h.childrenOf rootOrganizationId) target inherited).Rearranged
      (g.view (g.childrenOf rootOrganizationId) target inherited) :=
  same.rearranged_view proper (same.perm_childrenOf rootOrganizationId)
    ((h.childrenOf_sublist_ids rootOrganizationId).nodup proper.nodup)
    (fun _ under => (mem_childrenOf.mp under).parent? proper.nodup) target inherited

theorem Reorders.agree_firstLevelView (node authorized : Int) :
    Agree Forest.Rearranged (h.firstLevelView node authorized)
      (g.firstLevelView node authorized) := by
  unfold firstLevelView
  by_cases root : node = rootOrganizationId
  · simp only [root, ↓reduceIte]
    exact .ok (.cons _ (same.rearranged_view_root proper _ _) .nil)
  · simp only [root, ↓reduceIte, same.firstLevelAncestor_eq proper node]
    cases climbs : g.firstLevelAncestor node with
    | error reason => exact .error reason
    | ok a =>
      have top : h.parent? a = some rootOrganizationId := by
        rw [← same.firstLevelAncestor_eq proper node] at climbs
        exact (firstLevelAncestor_eq_ok_iff.mp climbs).parent?_last
      refine .ok (same.rearranged_view proper (.refl [a]) (List.nodup_singleton a) ?_ _ _)
      exact fun r single => List.mem_singleton.mp single ▸ top

end Views

end Hierarchy

open Hierarchy in
/-- Where no id occurs twice, the order in which the rows are read does not matter, with cycles and
parents that do not exist among them, and wherever the rows without an id stand. The climbs are the
same, and the scopes as sets, or they fail for the same reason; so the guard decides the same and
logs the same. The trees have the same nodes with the same marks, and each of them is under the same
node: only siblings may come in another order. -/
theorem rows_in_any_order {h g : Hierarchy} (proper : h.Proper) (same : h.Reorders g) :
    (∀ target isAdmin limit,
      Agree List.Perm (h.resolveScope target isAdmin limit)
        (g.resolveScope target isAdmin limit)) ∧
    (∀ x, h.firstLevelAncestor x = g.firstLevelAncestor x) ∧
    (∀ caller target limit, h.checkScope caller target limit = g.checkScope caller target limit) ∧
    (∀ caller, (h.listingScope caller).Agrees (fun a b => a.1.Perm b.1 ∧ a.2.Perm b.2)
      (g.listingScope caller)) ∧
    (∀ node authorized, Agree Forest.Alike (h.firstLevelView node authorized)
      (g.firstLevelView node authorized)) ∧
    h.fullForest.Alike g.fullForest := by
  refine ⟨same.agree_resolveScope proper, same.firstLevelAncestor_eq proper,
    same.checkScope_eq proper, same.agrees_listingScope proper, fun node authorized => ?_,
    (same.rearranged_view_root proper _ _).alike⟩
  exact (same.agree_firstLevelView proper node authorized).mono fun _ _ => Forest.Rearranged.alike

/-- Two tenants beside a cycle, an orphan and a row without an id. -/
def yard : Hierarchy := [
    ⟨some 1, some "headquarters", -1⟩, ⟨some 2, some "lab", 1⟩, ⟨some 3, some "sales", 1⟩,
    ⟨some 4, some "bench", 2⟩, ⟨some 5, some "branch", -1⟩, ⟨some 6, some "hen", 7⟩,
    ⟨some 7, some "egg", 6⟩, ⟨some 8, some "orphan", 9⟩, ⟨none, some "ghost", 1⟩]

/-- The organizations of the yard by their names. -/
def yardByName : Hierarchy := [
    ⟨some 4, some "bench", 2⟩, ⟨some 5, some "branch", -1⟩, ⟨some 7, some "egg", 6⟩,
    ⟨none, some "elf", 2⟩, ⟨some 1, some "headquarters", -1⟩, ⟨some 6, some "hen", 7⟩,
    ⟨some 8, some "orphan", 9⟩, ⟨some 3, some "sales", 1⟩, ⟨some 2, some "lab", 1⟩]

/-- The two orders give the headquarters different trees, which differ in nothing but the order of
the lab and the sales; the climbs and what the lab may act on are the same. -/
theorem yard_in_two_orders :
    yard.Proper ∧ yard.Reorders yardByName ∧
    Agree List.Perm (yard.resolveScope 4 false .firstLevel)
      (yardByName.resolveScope 4 false .firstLevel) ∧
    yardByName.firstLevelAncestor 6 = .error (.cycle 6) ∧
    yard.checkScope ⟨some 7, 2⟩ 3 .subOrganization =
      yardByName.checkScope ⟨some 7, 2⟩ 3 .subOrganization ∧
    (∃ t u, yard.firstLevelView 4 2 = .ok t ∧ yardByName.firstLevelView 4 2 = .ok u ∧
      t.labels.map (·.id) = [1, 2, 4, 3] ∧ u.labels.map (·.id) = [1, 3, 2, 4] ∧ t.Alike u) ∧
    yard.fullForest.Alike yardByName.fullForest := by
  have proper : yard.Proper := ⟨by decide, by decide⟩
  have same : yard.Reorders yardByName := by
    show List.Perm _ _
    decide
  obtain ⟨scopes, climbs, checks, -, views, forests⟩ := rows_in_any_order proper same
  have shown : (yard.firstLevelView 4 2).map (fun t => t.labels.map (·.id)) = .ok [1, 2, 4, 3] ∧
      (yardByName.firstLevelView 4 2).map (fun t => t.labels.map (·.id)) = .ok [1, 3, 2, 4] := by
    constructor <;> decide +kernel
  obtain ⟨t, found, order⟩ := map_eq_ok.mp shown.1
  obtain ⟨u, otherFound, otherOrder⟩ := map_eq_ok.mp shown.2
  have alike := views 4 2
  rw [found, otherFound] at alike
  cases alike with
  | ok alike =>
    refine ⟨proper, same, scopes 4 false .firstLevel, ?_, checks _ _ _,
      ⟨t, u, found, otherFound, order, otherOrder, alike⟩, forests⟩
    rw [← climbs 6]
    decide +kernel

/-- The audit trail reads the organizations in an order of its own. Whose entries an account sees
does not depend on it. -/
theorem State.overseen_reordered {s t : State} (proper : s.database.hierarchy.Proper)
    (organizations : s.database.organizations.Perm t.database.organizations)
    (accounts : s.database.accounts = t.database.accounts) (u : Account) :
    s.overseen u = t.overseen u := by
  have same : s.database.hierarchy.Reorders t.database.hierarchy :=
    .of_perm (organizations.map _)
  unfold overseen
  split
  · rfl
  refine Journal.read_bind_congr ?_
  refine ((same.agrees_scopeOf proper u.caller _).bind fun scope other perm => ?_).eq
  simp only [perm.mem_iff, accounts]
  exact .refl _

end Tenancy
