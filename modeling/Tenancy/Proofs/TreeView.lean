import Tenancy.Proofs.Guard
import Tenancy.Proofs.Nesting
import Tenancy.Proofs.Paging
import Tenancy.Proofs.Tenant
import Tenancy.State.Command

/-!
# What the trees show

The guard decides with sets of organizations, the trees are built by a walk that hands the mark of
authorization downwards, and a listing of accounts has marks of its own. For an account whose home
climbs to a first-level organization all three say the same (`tree_shows_what_guard_allows`),
whatever else is in the hierarchy.

* `authorized_iff`: where every organization has one parent, a node is marked if and only if it is
  at the authorized organization or below it.
* The second half of the proof is about members: the scopes of the guard and the nodes of the trees
  are both given by `Child`, and no member lies below itself.
-/

namespace Tenancy

namespace Forest

/-- There is a node for the organization. -/
def Shows (t : Forest TreeNode) (id : Int) : Prop :=
  ∃ n ∈ t.labels, n.id = id

/-- There is a node for the organization, and it is marked as authorized. -/
def Authorizes (t : Forest TreeNode) (id : Int) : Prop :=
  ∃ n ∈ t.labels, n.id = id ∧ n.authorized = true

end Forest

namespace Hierarchy

variable {h : Hierarchy} {p q x y a home target : Int} {roots : List Int}

/-! ## Marks -/

/-- A node is marked if and only if it is at the authorized organization or below it, provided that
the forest starts out with the right marks. -/
theorem authorized_iff (nodup : h.ids.Nodup) {t : Forest Int}
    (follows : t.Follows fun id => distinct (h.childrenOf id)) {inherited : Bool}
    (start : ∀ r ∈ t.roots, inherited = true ↔ Relation.TransGen h.Child home r) {mark : Bool}
    (labelled : (x, mark) ∈ (authorize (some home) inherited t).labels) :
    mark = true ↔ Relation.ReflTransGen h.Child home x := by
  induction t generalizing inherited with
  | nil => cases labelled
  | cons id children siblings ihChildren ihSiblings =>
    obtain ⟨ordered, below, beside⟩ := follows
    have here : (inherited || some home == some id) = true ↔
        Relation.ReflTransGen h.Child home id := by
      rw [Relation.reflTransGen_iff_eq_or_transGen, ← start id List.mem_cons_self, or_comm,
        eq_comm (a := id)]
      simp only [Bool.or_eq_true, beq_iff_eq, Option.some.injEq]
    rcases List.mem_cons.mp labelled with same | labelled
    · cases same
      exact here
    rcases List.mem_append.mp labelled with inner | outer
    · -- a child is strictly below `home` if and only if its only parent is at `home` or below
      refine ihChildren below (fun r child => here.trans ?_) inner
      have own : h.Child id r := mem_childrenOf.mp (mem_distinct.mp (ordered.subset child))
      constructor
      · exact fun above => .tail' above own
      · intro under
        obtain ⟨q, above, link⟩ := Relation.TransGen.tail'_iff.mp under
        rwa [Child.unique nodup own link]
    · exact ihSiblings beside (fun r sibling => start r (List.mem_cons_of_mem _ sibling)) outer

theorem shows_view {authorized : Option Int} {inherited : Bool} :
    (h.view roots authorized inherited).Shows x ↔
      ∃ r ∈ roots, Relation.ReflTransGen h.Child r x := by
  rw [← mem_labels_forest, ← map_fst_labels_authorize authorized inherited, view, Forest.Shows,
    Forest.labels_map]
  simp only [List.mem_map, exists_exists_and_eq_and]

/-- No two nodes of a view are for the same organization. -/
theorem nodup_view (h : Hierarchy) (roots : List Int) (authorized : Option Int) (inherited : Bool) :
    ((h.view roots authorized inherited).labels.map (·.id)).Nodup := by
  have once := Links.nodup_labels_forest h.links (fun id => id) roots
  rw [← map_fst_labels_authorize authorized inherited, List.map_map] at once
  rw [view, Forest.labels_map, List.map_map]
  exact once

/-- The marks of a view, provided that none of its roots is below the authorized organization. -/
theorem authorized_view_iff (nodup : h.ids.Nodup)
    (start : ∀ r ∈ roots, ¬Relation.TransGen h.Child home r) {node : TreeNode}
    (shown : node ∈ (h.view roots (some home) false).labels) :
    node.authorized = true ↔ Relation.ReflTransGen h.Child home node.id := by
  rw [view, Forest.labels_map] at shown
  obtain ⟨⟨id, mark⟩, labelled, rfl⟩ := List.mem_map.mp shown
  refine authorized_iff nodup (Links.follows_forest _ _ _) (fun r root => ?_) labelled
  simpa using start r (mem_distinct.mp ((Links.roots_forest _ _ _).subset root))

theorem authorizes_view (nodup : h.ids.Nodup)
    (start : ∀ r ∈ roots, ¬Relation.TransGen h.Child home r) :
    (h.view roots (some home) false).Authorizes x ↔
      (h.view roots (some home) false).Shows x ∧ Relation.ReflTransGen h.Child home x := by
  constructor
  · rintro ⟨node, shown, rfl, marked⟩
    exact ⟨⟨node, shown, rfl⟩, (authorized_view_iff nodup start shown).mp marked⟩
  · rintro ⟨⟨node, shown, rfl⟩, below⟩
    exact ⟨node, shown, rfl, (authorized_view_iff nodup start shown).mpr below⟩

/-! ## Members -/

theorem shows_firstLevel :
    (h.view [a] (some x) false).Shows y ↔ y ∈ a :: h.descendants a := by
  rw [shows_view, mem_cons_descendants_iff]
  simp

section Member

variable (proper : h.Proper) (member : h.Resolves x a)
include proper member

theorem homeView_firstLevel : h.homeView x .firstLevel = .ok (h.view [a] (some x) false) := by
  have inner := proper.ne_root member.mem_ids
  have restricted : (x == rootOrganizationId) = false := beq_false_of_ne inner
  have first : h.firstLevelAncestor x = .ok a := firstLevelAncestor_eq_ok_iff.mpr member
  simp [homeView, firstLevelView, inner, restricted, first]

theorem homeView_subOrganization :
    h.homeView x .subOrganization = .ok (h.view (h.childrenOf x) none false) := by
  simp [homeView, subtreeView, proper.ne_root member.mem_ids]

/-- The first-level tree marks the home and what is below it. -/
theorem authorizes_firstLevel :
    (h.view [a] (some x) false).Authorizes y ↔ y ∈ x :: h.descendants x := by
  rw [authorizes_view proper.nodup, shows_firstLevel,
    proper.mem_firstLevel_iff member.last, mem_cons_descendants_iff]
  · refine and_iff_right_of_imp fun below => ?_
    rcases Relation.reflTransGen_iff_eq_or_transGen.mp below with rfl | under
    · exact member
    · exact proper.resolves_of_transGen member under
  · intro r root above
    rw [List.mem_singleton.mp root] at above
    exact proper.ne_root member.mem_ids (proper.root_of_above member.last above)

theorem shows_subOrganization :
    (h.view (h.childrenOf x) none false).Shows y ↔ y ∈ h.descendants x := by
  have below : y ∈ h.descendants x ↔ Relation.TransGen h.Child x y := by
    rw [mem_descendants_iff]
    refine and_iff_right_of_imp fun under same => ?_
    exact proper.not_below_itself member (same ▸ under)
  rw [shows_view, below, Relation.TransGen.head'_iff]
  simp only [mem_childrenOf]

end Member

end Hierarchy

/-! ## The answers -/

namespace State

variable {s : State} {caller : Int} {current : Account}

theorem organizationTree_eq_ok (asking : s.database.account caller = .ok current)
    {limit : LimitType} {view : Forest TreeNode}
    (shown : s.database.hierarchy.homeView current.organizationId limit = .ok view) :
    (s.organizationTree caller limit).outcome = .ok view := by
  simp only [organizationTree, State.account, hierarchy, Journal.outcome_bind_eq_ok,
    Journal.outcome_query, Journal.outcome_read, asking, Except.ok.injEq, exists_eq_left', shown,
    Journal.outcome_pure_eq_ok]

/-- Every entry of a listing of accounts is for a row, and its mark is read off the scope. -/
theorem listed {page : Page} {filter : AccountFilter} {listing : Listing AccountEntry}
    (asking : s.database.account caller = .ok current) {visible authorized : List Int}
    (scope : (s.database.hierarchy.listingScope current.caller).outcome = .ok (visible, authorized))
    (done : (s.listAccounts caller page filter).outcome = .ok listing) :
    ∀ entry ∈ listing.rows, entry.account ∈ s.database.accounts ∧
      (entry.authorized = true ↔
        entry.account.organizationId ∈ authorized ∨ entry.account.id = current.id) := by
  obtain ⟨-, shown, found, rfl⟩ := (listAccounts_eq_ok asking scope).mp done
  intro entry listed
  obtain ⟨account, chosen, rfl⟩ := List.mem_map.mp listed
  have present := List.mem_reverse.mp (Page.mem_of_shown found chosen)
  refine ⟨(mem_matching.mp present).1, ?_⟩
  simp

end State

/-- For an account whose home climbs to a first-level organization: the first-level tree shows what
the first-level check lets it act on, each organization once, and marks what it may make
organizations at; the tree below its home shows what the check below its home lets it act on; and a
listing marks the accounts whose homes are marked in the tree. -/
theorem tree_shows_what_guard_allows {s : State} {caller a : Int} {current : Account}
    (organizations : (s.database.organizations.map (·.id)).Nodup)
    (rootless : rootOrganizationId ∉ s.database.organizations.map (·.id))
    (accounts : (s.database.accounts.map (·.id)).Nodup)
    (asking : s.database.account caller = .ok current) (ordinary : caller ≠ superAdminId)
    (home : s.database.hierarchy.firstLevelAncestor current.organizationId = .ok a) :
    ∃ tree below,
      (s.organizationTree caller .firstLevel).outcome = .ok tree ∧
      (s.organizationTree caller .subOrganization).outcome = .ok below ∧
      (tree.labels.map (·.id)).Nodup ∧
      (∀ target, (s.database.hierarchy.checkScope current.caller target .firstLevel).outcome =
        .ok () ↔ tree.Shows target) ∧
      (∀ target, (s.database.hierarchy.checkScope current.caller target
        .subOrganizationIncludeSelf).outcome = .ok () ↔ tree.Authorizes target) ∧
      (∀ target, (s.database.hierarchy.checkScope current.caller target .subOrganization).outcome =
        .ok () ↔ below.Shows target) ∧
      ∀ page filter listing, (s.listAccounts caller page filter).outcome = .ok listing →
        ∀ entry ∈ listing.rows,
          (entry.authorized = true ↔ tree.Authorizes entry.account.organizationId) := by
  have proper := Database.proper_hierarchy organizations rootless
  have member := Hierarchy.firstLevelAncestor_eq_ok_iff.mp home
  obtain ⟨present, own⟩ := Database.mem_of_lookup asking
  have member' : isSuperAdmin current.caller.id = false := by
    simpa [isSuperAdmin, Account.caller, own] using ordinary
  refine ⟨_, _, State.organizationTree_eq_ok asking (Hierarchy.homeView_firstLevel proper member),
    State.organizationTree_eq_ok asking (Hierarchy.homeView_subOrganization proper member),
    Hierarchy.nodup_view _ _ _ _, fun target => ?_, fun target => ?_, fun target => ?_,
    fun page filter listing done entry shown => ?_⟩
  · rw [Hierarchy.checkScope_firstLevel proper member member' rfl, Hierarchy.shows_firstLevel]
  · rw [Hierarchy.checkScope_subOrganizationIncludeSelf proper member member' rfl,
      Hierarchy.authorizes_firstLevel proper member]
  · rw [Hierarchy.checkScope_subOrganization proper member member' rfl,
      Hierarchy.shows_subOrganization proper member]
  · have scope := Hierarchy.listingScope_eq_ok proper member member' rfl
    obtain ⟨listed, mark⟩ := State.listed asking scope done entry shown
    rw [mark, Hierarchy.authorizes_firstLevel proper member]
    constructor
    · rintro (within | itself)
      · rcases List.mem_cons.mp within with here | inside
        · rw [here]
          exact List.mem_cons_self
        · exact inside
      · -- the account that asks is marked in any case, and so is its home
        rw [List.inj_on_of_nodup_map accounts listed present itself]
        exact List.mem_cons_self
    · exact fun inside => .inl (List.mem_cons_of_mem _ inside)

/-- An organization with a home in the middle of it, beside another tenant, a cycle and an
orphan. -/
def workshop : Database :=
  { organizations := [⟨1, "headquarters", -1, none⟩, ⟨2, "lab", 1, some "headquarters"⟩,
      ⟨3, "bench", 2, some "lab"⟩, ⟨4, "sales", 1, some "headquarters"⟩, ⟨5, "branch", -1, none⟩,
      ⟨6, "hen", 7, none⟩, ⟨7, "egg", 6, none⟩, ⟨8, "orphan", 9, none⟩]
    accounts := [
      ⟨2, "alice", "", none, none, 2, "lab", 1, "manager", true⟩,
      ⟨3, "bob", "", none, none, 3, "bench", 1, "manager", true⟩,
      ⟨4, "carol", "", none, none, 4, "sales", 1, "manager", true⟩] }

/-- The account in the middle sees its whole tenant, may act at its home and below, and cannot act
on what is beside it. -/
theorem workshop_tree_marks_lab_and_bench :
    ∃ tree below,
      (State.organizationTree { database := workshop } 2 .firstLevel).outcome = .ok tree ∧
      (State.organizationTree { database := workshop } 2 .subOrganization).outcome = .ok below ∧
      (tree.Shows 1 ∧ tree.Shows 4 ∧ ¬tree.Shows 5 ∧ ¬tree.Shows 6 ∧ ¬tree.Shows 8) ∧
      (¬tree.Authorizes 1 ∧ tree.Authorizes 2 ∧ tree.Authorizes 3 ∧ ¬tree.Authorizes 4) ∧
      (¬below.Shows 2 ∧ below.Shows 3) ∧
      ∃ listing, (State.listAccounts { database := workshop } 2 {} {}).outcome = .ok listing ∧
        listing.rows.map (·.account.id) = [4, 3, 2] ∧
        ∀ entry ∈ listing.rows,
          (entry.authorized = true ↔ tree.Authorizes entry.account.organizationId) := by
  obtain ⟨tree, below, shown, shownBelow, -, shows, marks, showsBelow, listed⟩ :=
    @tree_shows_what_guard_allows { database := workshop } 2 1
      ⟨2, "alice", "", none, none, 2, "lab", 1, "manager", true⟩ (by decide) (by decide)
      (by decide) (by decide +kernel) (by decide) (by decide +kernel)
  have found : ∃ listing,
      (State.listAccounts { database := workshop } 2 {} {}).outcome = .ok listing :=
    exists_of_isOk (by decide +kernel)
  obtain ⟨listing, done⟩ := found
  have rows : ((State.listAccounts { database := workshop } 2 {} {}).outcome.map
      fun l => l.rows.map (·.account.id)) = .ok [4, 3, 2] := by decide +kernel
  rw [done] at rows
  refine ⟨tree, below, shown, shownBelow, ?_, ?_, ?_, listing, done, Except.ok.inj rows,
    listed {} {} listing done⟩
  · simp only [← shows]
    decide +kernel
  · simp only [← marks]
    decide +kernel
  · simp only [← showsBelow]
    decide +kernel

end Tenancy
