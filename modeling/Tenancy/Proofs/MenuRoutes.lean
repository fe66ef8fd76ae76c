import Tenancy.Proofs.CheckBoxes
import Tenancy.Proofs.Openings
import Tenancy.Proofs.Permanence

/-!
# Menus and the routes behind them

The check boxes that an account is shown are worked out from the table of menus of its role, and so
is, on another way, the policy that decides its requests. Both ways come to the same: the boxes at
the ends of the tree of menus are authorized exactly where the account may use the routes behind
them (`authorized_menus_are_routes`).

* `Founded.exists_leaf`: every menu that has a route stands at an end of the tree, where a box shows
  whether its menu is selected.
* `Regular.exists_mayUse_iff`: an account may use a method on a path if and only if a menu of its
  role has a route that fits.
* `menu_eq_of_matches`: no path fits routes of two menus, so that a menu that the role lacks is not
  let in by another one.
-/

namespace Tenancy

/-! ## The tree of the catalogue -/

theorem Database.authorized_of_mem_leaves {db : Database} {selection : Selection}
    {leaf : TreeNode} (shown : leaf ∈ (db.menuForest selection).leaves) :
    leaf.authorized = selection leaf.id := by
  unfold menuForest at shown
  cases built : Menu.authTree (db.orderedMenus.map fun m => ⟨some m.id, some m.name, m.parentId⟩)
      selection with
  | none =>
    rw [built] at shown
    cases shown
  | some tree =>
    rw [built] at shown
    exact Menu.authorized_of_mem_leaves built shown

/-- The forest of the menus of the catalogue. -/
def foundedForest : Forest (Int × String) :=
  .cons (1, "system")
    (.cons (2, "accounts") .nil
      (.cons (3, "roles") .nil
        (.cons (4, "organizations") .nil
          (.cons (5, "operation logs") .nil .nil)))) .nil

/-- The rows of the catalogue that the forest is built from. -/
def foundedRows : List MenuRow :=
  foundedMenus.map fun m => ⟨some m.id, some m.name, m.parentId⟩

theorem authTree_foundedRows (selection : Selection) :
    Menu.authTree foundedRows selection = some (Menu.check selection foundedForest) := by
  -- the walk is no recursion that unfolds by itself, but all that it visits is known
  have walk : (Menu.links foundedRows).preorder (·.1)
      (((Menu.links foundedRows).under rootMenuId).map (0, ·)) [] =
        [(0, 1, some "system"), (1, 2, some "accounts"), (1, 3, some "roles"),
          (1, 4, some "organizations"), (1, 5, some "operation logs")] := by
    simp [Links.preorder, Links.under, Menu.links, foundedRows, foundedMenus, rootMenuId]
  rw [Menu.authTree, Links.forest, walk]
  rfl

namespace State

variable {s : State}

theorem Founded.menuForest (founded : s.Founded) (selection : Selection) :
    s.database.menuForest selection = Menu.check selection foundedForest := by
  have sorted : s.database.orderedMenus = foundedMenus := by
    rw [Database.orderedMenus, founded.menus]
    exact List.mergeSort_of_pairwise (by decide)
  rw [Database.menuForest, sorted]
  show (Menu.authTree foundedRows selection).getD .nil = _
  rw [authTree_foundedRows]
  rfl

/-- Every menu that has a route stands at an end of the tree. -/
theorem Founded.exists_leaf (founded : s.Founded) (selection : Selection) {route : Route}
    (listed : route ∈ s.database.routes) :
    ∃ leaf ∈ (s.database.menuForest selection).leaves, leaf.id = route.menuId := by
  rw [founded.routes] at listed
  have outer : ∀ r ∈ foundedRoutes, ∃ menu ∈ foundedForest.leaves, menu.1 = r.menuId := by decide
  obtain ⟨menu, last, own⟩ := outer route listed
  rw [founded.menuForest, Menu.leaves_check]
  exact ⟨Menu.leafBox selection menu, List.mem_map_of_mem last, own⟩

/-! ## What may be used -/

namespace Regular

variable (regular : s.Regular) {a : Account} (present : a ∈ s.database.accounts)
include regular present

/-- An ordinary account may use a method on a path if and only if a menu of its role has a route
that fits. -/
theorem exists_mayUse_iff (ordinary : a.id ≠ superAdminId) (path method : String) :
    ∃ allowed, (s.mayUse a.id path method).outcome = .ok allowed ∧
      (allowed = true ↔ ∃ route ∈ s.database.routes,
        route.menuId ∈ s.database.menusOf a.roleId ∧
        Access.Pattern.matchesPath route.name path = .ok true ∧
        Access.upperMethod method = Access.upperMethod route.method) := by
  obtain ⟨allowed, decided, iff⟩ :=
    Access.Policy.allows_iff path method (regular.compilesFor a.id)
  refine ⟨allowed, ?_, ?_⟩
  · rw [mayUse_outcome, decided]
    rfl
  rw [iff]
  constructor
  · rintro (admin | ⟨rule, held, role, found, sameMethod⟩)
    · exact absurd admin ordinary
    · obtain ⟨-, own⟩ := (regular.hasRole_iff present).mp role
      obtain ⟨menu, has, route, listed, owner, permission⟩ := regular.inStep.mem_rules_iff.mp held
      rw [permission] at found sameMethod
      rw [own] at has
      exact ⟨route, listed, owner ▸ has, found, sameMethod⟩
  · rintro ⟨route, listed, has, found, sameMethod⟩
    refine .inr ⟨⟨a.roleId, ⟨route.name, Access.upperMethod route.method⟩⟩, ?_, ?_, found,
      sameMethod⟩
    · exact regular.inStep.mem_rules_iff.mpr ⟨route.menuId, has, route, listed, rfl, rfl⟩
    · exact (regular.hasRole_iff present).mpr ⟨ordinary, rfl⟩

/-- What is behind a menu may be used by those accounts whose role has this menu. -/
theorem mayUse_route (ordinary : a.id ≠ superAdminId) {route : Route}
    (listed : route ∈ s.database.routes) {path : String}
    (found : Access.Pattern.matchesPath route.name path = .ok true) :
    (s.mayUse a.id path route.method).outcome =
      .ok (decide (route.menuId ∈ s.database.menusOf a.roleId)) := by
  obtain ⟨allowed, decided, iff⟩ := regular.exists_mayUse_iff present ordinary path route.method
  have founded := (regular.founded present).routes
  rw [decided, Except.ok.injEq, Bool.eq_iff_iff, iff, decide_eq_true_iff]
  constructor
  · -- whatever else lets the account in belongs to the same menu
    rintro ⟨other, otherListed, has, otherFound, -⟩
    rw [founded] at listed otherListed
    rw [menu_eq_of_matches listed otherListed found otherFound]
    exact has
  · exact fun has => ⟨route, listed, has, found, rfl⟩

/-! ## What is shown -/

/-- Whoever may be shown an account is shown the same. -/
theorem detail_eq {caller : Int} {detail : AccountDetail}
    (shown : (s.accountDetail caller a.id).outcome = .ok detail) :
    detail = ⟨a, s.database.menuForest (s.database.selectionOf a)⟩ := by
  unfold accountDetail at shown
  simp only [Journal.outcome_bind_eq_ok] at shown
  obtain ⟨current, -, target, asked, shown⟩ := shown
  have same : target = a := Database.eq_of_lookup regular.numbered.accounts.nodup present asked
  subst same
  rw [showAccount_outcome, map_eq_ok] at shown
  obtain ⟨-, -, rfl⟩ := shown
  rfl

/-- The role of an ordinary account is shown with the boxes that the account is shown. -/
theorem roleDetail_outcome (ordinary : a.id ≠ superAdminId) (fits : fits64 a.roleId = true) :
    ∃ role ∈ s.database.roles, role.id = a.roleId ∧ (s.roleDetail a.roleId).outcome =
      .ok ⟨role, s.database.menuForest (s.database.selectionOf a)⟩ := by
  obtain ⟨-, role, known, own, -⟩ := regular.consistent.members a present ordinary
  have asking : (s.role a.roleId).outcome = .ok role := by
    rw [← own] at fits ⊢
    show Database.lookup _ _ _ _ = _
    rw [Database.lookup_of_mem regular.numbered.roles.nodup known, if_pos fits]
  refine ⟨role, known, own, ?_⟩
  rw [roleDetail, Journal.outcome_bind, asking]
  have selection : s.database.selectionOf a =
      Selection.ofIds (s.database.menusOf a.roleId) := by
    rw [Database.selectionOf, isSuperAdmin_eq_false ordinary]
    rfl
  rw [selection, ← own]
  rfl

end Regular

end State

/-- An ordinary account is shown one tree of menus, whoever asks for it and also as that of its
role. Behind a menu at an end of the tree there are routes; what matches one of them may be used by
the account if the menu is authorized, and may not if it is not. The policy has to be in step with
the database; the database is one that can be reached. -/
theorem authorized_menus_are_routes {s : State} {former : Access.Policy}
    (reached : State.Reachable { s with policy := former }) (inStep : s.InStep) {a : Account}
    (present : a ∈ s.database.accounts) (ordinary : a.id ≠ superAdminId) :
    ∃ tree : Forest TreeNode,
      (fits64 a.id = true → (s.currentAccount a.id).outcome = .ok ⟨a, tree⟩) ∧
      (∀ caller detail, (s.accountDetail caller a.id).outcome = .ok detail → detail = ⟨a, tree⟩) ∧
      (fits64 a.roleId = true → ∃ role ∈ s.database.roles, role.id = a.roleId ∧
        (s.roleDetail a.roleId).outcome = .ok ⟨role, tree⟩) ∧
      (∀ route ∈ s.database.routes, ∃ leaf ∈ tree.leaves, leaf.id = route.menuId) ∧
      ∀ leaf ∈ tree.leaves,
        (leaf.authorized = true ↔ leaf.id ∈ s.database.menusOf a.roleId) ∧
        ∀ route ∈ s.database.routes, route.menuId = leaf.id →
          ∀ path, Access.Pattern.matchesPath route.name path = .ok true →
            (s.mayUse a.id path route.method).outcome = .ok leaf.authorized := by
  have regular := State.regular_of_database reached inStep
  refine ⟨s.database.menuForest (s.database.selectionOf a),
    regular.currentAccount_outcome present, fun _ _ => regular.detail_eq present,
    regular.roleDetail_outcome present ordinary,
    fun _ => (regular.founded present).exists_leaf _, fun leaf shown => ?_⟩
  have box : leaf.authorized = decide (leaf.id ∈ s.database.menusOf a.roleId) := by
    rw [Database.authorized_of_mem_leaves shown, Database.selectionOf,
      isSuperAdmin_eq_false ordinary]
    exact List.contains_eq_mem leaf.id _
  refine ⟨by rw [box, decide_eq_true_iff], fun route listed owner path found => ?_⟩
  rw [regular.mayUse_route present ordinary listed found, owner, box]

/-- Alice is shown the menu of accounts as authorized and that of the operation logs as not; any
account is open to her, the audit trail is not. -/
theorem alice_uses_what_she_is_shown :
    company.Reachable ∧ company.InStep ∧ ∃ alice ∈ company.database.accounts, ∃ tree,
      (company.currentAccount 2).outcome = .ok ⟨alice, tree⟩ ∧
      (∃ leaf ∈ tree.leaves, leaf.id = 2 ∧ leaf.authorized = true ∧
        (company.mayUse 2 "/api/accounts/7" "GET").outcome = .ok true) ∧
      ∃ leaf ∈ tree.leaves, leaf.id = 5 ∧ leaf.authorized = false ∧
        (company.mayUse 2 "/api/operation-logs" "GET").outcome = .ok false := by
  have inStep : company.InStep := State.Reachable.inStep reachable_company
  have reached : State.Reachable { company with policy := company.policy } := reachable_company
  have member : ∃ a ∈ company.database.accounts, a.id = 2 ∧
      2 ∈ company.database.menusOf a.roleId ∧ 5 ∉ company.database.menusOf a.roleId := by
    decide +kernel
  obtain ⟨alice, present, own, has, lacks⟩ := member
  have ordinary : alice.id ≠ superAdminId := by
    rw [own]
    decide
  obtain ⟨tree, shown, -, -, covered, boxes⟩ :=
    authorized_menus_are_routes reached inStep present ordinary
  rw [own] at shown boxes
  have accounts : ⟨3, "/api/accounts/:id", "GET", 2, "accounts"⟩ ∈ company.database.routes := by
    decide +kernel
  have logs : ⟨9, "/api/operation-logs", "GET", 5, "operation logs"⟩ ∈
      company.database.routes := by
    decide +kernel
  obtain ⟨leaf, last, (menu : leaf.id = 2)⟩ := covered _ accounts
  obtain ⟨other, otherLast, (otherMenu : other.id = 5)⟩ := covered _ logs
  have authorized : leaf.authorized = true := (boxes leaf last).1.mpr (menu ▸ has)
  have refused : other.authorized = false := by
    rw [Bool.eq_false_iff]
    exact fun yes => lacks (otherMenu ▸ (boxes other otherLast).1.mp yes)
  refine ⟨reachable_company, inStep, alice, present, tree, shown (by decide),
    ⟨leaf, last, menu, authorized, ?_⟩, ⟨other, otherLast, otherMenu, refused, ?_⟩⟩
  · rw [← authorized]
    exact (boxes leaf last).2 _ accounts menu.symm "/api/accounts/7" (by decide +kernel)
  · rw [← refused]
    exact (boxes other otherLast).2 _ logs otherMenu.symm "/api/operation-logs" (by decide +kernel)

end Tenancy
