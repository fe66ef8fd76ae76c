import Tenancy.Proofs.Founding
import Tenancy.Proofs.PolicyRelation

/-!
# The policy stays in step with the database

The policy is kept by grants and assignments along with the rows, and it can be rebuilt from the
rows at any time. Both hold the same, in every state that can be reached, and decide alike
(`policy_eq_rebuilt`).

* `InStep` is the invariant: the rules and the assignments are those that the rows give.
* No pattern can go wrong, as every rule comes from a route of the catalogue
  (`compiles_of_inStep`).
-/

namespace Tenancy

namespace Database

variable {db : Database}

theorem grants_policyRows {role : Int} {permission : Access.Permission} :
    db.policyRows.Grants role permission ↔
      ∃ row ∈ db.roleMenus, row.roleId = role ∧
        ∃ route ∈ db.routes, route.menuId = row.menuId ∧
          permission = ⟨route.name, Access.upperMethod route.method⟩ := by
  simp only [Access.PolicyRows.Grants, policyRows, List.mem_map, Prod.mk.injEq]
  constructor
  · rintro ⟨menu, pattern, method, ⟨row, has, rfl, rfl⟩, ⟨route, listed, rfl, rfl, own⟩, rfl⟩
    exact ⟨row, has, rfl, route, listed, own, rfl⟩
  · rintro ⟨row, has, rfl, route, listed, own, rfl⟩
    exact ⟨row.menuId, route.name, route.method, ⟨row, has, rfl, rfl⟩,
      ⟨route, listed, rfl, rfl, own⟩, rfl⟩

theorem mem_members_policyRows {account role : Int} :
    (account, role) ∈ db.policyRows.members ↔
      ∃ a ∈ db.accounts, a.id ≠ superAdminId ∧ a.id = account ∧ a.roleId = role := by
  simp only [Access.PolicyRows.mem_members, policyRows, List.mem_map, Prod.mk.injEq,
    Option.some.injEq]
  constructor
  · rintro ⟨ordinary, a, listed, rfl, rfl⟩
    exact ⟨a, listed, ordinary, rfl, rfl⟩
  · rintro ⟨a, listed, ordinary, rfl, rfl⟩
    exact ⟨ordinary, a, listed, rfl, rfl⟩

end Database

namespace State

variable {s t : State}

/-- The policy holds what the rows of the database give. -/
structure InStep (s : State) : Prop where
  rules : ∀ rule, rule ∈ s.policy.rules ↔
    s.database.policyRows.Grants rule.role rule.permission
  assignments : ∀ account role, (account, role) ∈ s.policy.assignments ↔
    (account, role) ∈ s.database.policyRows.members

theorem inStep_start (settings : Settings) : InStep { settings } := by
  constructor
  · intro rule
    simp [Database.grants_policyRows]
  · intro account role
    simp [Database.mem_members_policyRows]

/-- Only the tables that the policy is built from matter. -/
theorem InStep.of_same (inStep : s.InStep) (policy : t.policy = s.policy)
    (rows : t.database.policyRows = s.database.policyRows) : t.InStep := by
  constructor
  · rw [policy, rows]
    exact inStep.rules
  · rw [policy, rows]
    exact inStep.assignments

theorem inStep_loadPolicy (done : s.loadPolicy.outcome = .ok t) : t.InStep := by
  rw [loadPolicy_ok done]
  constructor
  · exact fun rule => Access.PolicyRows.mem_rules_policy
  · exact fun account role => Access.PolicyRows.mem_assignments_policy

/-- Before the first account there is no menu of a role, and the first account gets no role. -/
theorem Bootstrapped.inStep {c : Credentials} {a : Account} {db : Database}
    (bootstrapped : Bootstrapped s c t a db) (blank : s.Blank) (inStep : s.InStep) : t.InStep := by
  have seeded := blank.seeded bootstrapped.seeded
  have roleMenus : s.database.roleMenus = [] := by rw [blank]
  have accounts : s.database.accounts = [] := by rw [blank]
  rw [bootstrapped.state, seeded]
  constructor
  · intro rule
    rw [inStep.rules, Database.grants_policyRows, Database.grants_policyRows]
    simp [roleMenus]
  · intro account role
    rw [inStep.assignments, Database.mem_members_policyRows, Database.mem_members_policyRows]
    simp [accounts, bootstrapped.account, Database.place]

/-- A new role is granted the routes of the menus that it is given. -/
theorem RoleMade.inStep {caller : Int} {request : NewRole} {r : Role} {menus : List Menu}
    {current : Account} (made : RoleMade s caller request t r menus current)
    (inStep : s.InStep) : t.InStep := by
  have given : ∀ menu, (∃ row ∈ Database.roleMenuRows r
      (Database.nextId (s.database.roleMenus.map (·.id))) menus, row.menuId = menu) ↔
      menu ∈ distinct request.menuIds := by
    intro menu
    rw [← made.requested, ← Database.map_menuId_roleMenuRows r
      (Database.nextId (s.database.roleMenus.map (·.id))), List.mem_map]
  rw [made.state]
  constructor
  · intro rule
    rw [Access.Policy.mem_rules_grant, inStep.rules, Database.grants_policyRows,
      Database.grants_policyRows, Access.Policy.mem_permissionsOf]
    simp only [List.mem_append, or_and_right, exists_or]
    -- the new rows and the new rules come from the same menus
    refine or_congr_right ?_
    constructor
    · rintro ⟨own, pattern, method, listed, fits⟩
      obtain ⟨route, chosen, same⟩ := List.mem_map.mp listed
      cases same
      obtain ⟨listed, among⟩ := List.mem_filter.mp chosen
      obtain ⟨row, new, sameMenu⟩ := (given route.menuId).mpr (of_decide_eq_true among)
      exact ⟨row, new, (Database.roleId_of_mem_roleMenuRows new).trans own.symm, route, listed,
        sameMenu.symm, fits⟩
    · rintro ⟨row, new, own, route, listed, sameMenu, fits⟩
      have among : route.menuId ∈ distinct request.menuIds :=
        (given route.menuId).mp ⟨row, new, sameMenu.symm⟩
      refine ⟨own.symm.trans (Database.roleId_of_mem_roleMenuRows new), route.name, route.method,
        ?_, fits⟩
      exact List.mem_map_of_mem (List.mem_filter.mpr ⟨listed, decide_eq_true among⟩)
  · exact inStep.assignments

/-- A new account is assigned its role; it is not the super administrator's. -/
theorem AccountMade.inStep {caller : Int} {request : NewAccount} {a current : Account}
    (made : AccountMade s caller request t a current) (numbered : s.database.WellNumbered)
    (inStep : s.InStep) : t.InStep := by
  have ordinary := made.ordinary numbered
  rw [made.state]
  constructor
  · exact inStep.rules
  · intro account role
    rw [Access.Policy.mem_assignments_assign, inStep.assignments, Database.mem_members_policyRows,
      Database.mem_members_policyRows]
    simp only [List.mem_append, List.mem_singleton, or_and_right, exists_or, exists_eq_left]
    refine or_congr_right ?_
    simp [ordinary, eq_comm]

theorem inStep_moved {operation : Operation} (moved : Moved s operation t)
    (numbered : s.database.WellNumbered) (kind : s.Blank ∨ s.Founded) (inStep : s.InStep) :
    t.InStep := by
  cases moved with
  | still => exact inStep
  | bootstrap done =>
    obtain ⟨db, bootstrapped⟩ := bootstrapped done
    rcases kind with blank | founded
    · exact bootstrapped.inStep blank inStep
    · obtain ⟨a, rest, accounts, -⟩ := founded.first
      rw [bootstrapped.empty] at accounts
      cases accounts
  | account done =>
    obtain ⟨current, made⟩ := accountMade done
    exact made.inStep numbered inStep
  | role done =>
    obtain ⟨menus, current, made⟩ := roleMade done
    exact made.inStep inStep
  | organization done =>
    obtain ⟨current, made⟩ := organizationMade done
    exact inStep.of_same (by rw [made.state]) (by rw [made.state]; rfl)
  | policy done => exact inStep_loadPolicy done
  | entry done => exact inStep.of_same (by rw [(recorded done).2]) (by rw [(recorded done).2]; rfl)

theorem Reachable.inStep (reachable : s.Reachable) : s.InStep := by
  obtain ⟨settings, run⟩ := reachable
  induction run with
  | refl => exact inStep_start settings
  | step before _ ih =>
    have reached : Reachable _ := ⟨settings, before⟩
    exact inStep_moved (moved_step _ _) reached.wellNumbered reached.blank_or_founded ih

/-! ## Decisions -/

theorem compiles_foundedRoutes : ∀ route ∈ foundedRoutes, Access.Compiles route.name := by
  unfold Access.Compiles
  decide +kernel

/-- Every rule comes from a route of the catalogue, and the patterns of these are expressions. -/
theorem compiles_of_inStep (inStep : s.InStep) (kind : s.Blank ∨ s.Founded) {rule : Access.Rule}
    (held : rule ∈ s.policy.rules) : Access.Compiles rule.permission.pattern := by
  obtain ⟨row, -, -, route, listed, -, fits⟩ :=
    Database.grants_policyRows.mp ((inStep.rules rule).mp held)
  rcases kind with blank | founded
  · rw [blank] at listed
    cases listed
  · rw [founded.routes] at listed
    rw [fits]
    exact compiles_foundedRoutes route listed

theorem InStep.hasRole_eq (inStep : s.InStep) (account role : Int) :
    s.policy.hasRole account role = s.database.policyRows.policy.hasRole account role := by
  unfold Access.Policy.hasRole
  rw [decide_eq_decide, inStep.assignments, Access.PolicyRows.mem_assignments_policy]

end State

/-- In every state that can be reached, the policy and the one that is rebuilt from the rows decide
every request, and alike; the same accounts have the same roles, and every role has the same
permissions. -/
theorem policy_eq_rebuilt {s : State} (reachable : s.Reachable) :
    (∀ account path method, ∃ allowed,
      s.policy.allows account path method = .ok allowed ∧
      s.database.policyRows.policy.allows account path method = .ok allowed) ∧
    (∀ account role,
      s.policy.hasRole account role = s.database.policyRows.policy.hasRole account role) ∧
    ∀ role permission, permission ∈ s.policy.permissions role ↔
      permission ∈ s.database.policyRows.policy.permissions role := by
  have inStep := State.Reachable.inStep reachable
  have kind := State.Reachable.blank_or_founded reachable
  have rules : ∀ rule, rule ∈ s.policy.rules ↔ rule ∈ s.database.policyRows.policy.rules :=
    fun rule => (inStep.rules rule).trans Access.PolicyRows.mem_rules_policy.symm
  refine ⟨fun account path method => ?_, inStep.hasRole_eq, fun role permission => ?_⟩
  · have compiles : s.policy.CompilesFor account :=
      fun rule held _ => State.compiles_of_inStep inStep kind held
    obtain ⟨allowed, decided, -⟩ := Access.Policy.allows_iff path method compiles
    refine ⟨allowed, decided, ?_⟩
    rw [← decided]
    exact (Access.Policy.allows_congr compiles rules (inStep.hasRole_eq account)).symm
  · rw [Access.Policy.mem_permissions, Access.Policy.mem_permissions]
    exact rules _

/-- The super administrator of the company makes a role, with its menus not in ascending order, and
an account with it. -/
def audit : List Operation := [
    .perform 1 (.createRole
      { name := "auditor", description := none, isDeletable := true, menuIds := [5, 2] }),
    .perform 1 (.createAccount
      { name := "erin", password := "erin123456", email := none, organizationId := 2
        roleId := 2 })]

/-- The rules of the new role come in another order when the policy is rebuilt, which no decision
depends on. -/
theorem audit_keeps_decisions :
    (company.run audit).Reachable ∧
    (company.run audit).policy.rules ≠ (company.run audit).database.policyRows.policy.rules ∧
    (company.run audit).policy.hasRole 3 2 = true ∧
    ∀ account path method, ∃ allowed,
      (company.run audit).policy.allows account path method = .ok allowed ∧
      (company.run audit).database.policyRows.policy.allows account path method =
        .ok allowed := by
  have reachable : (company.run audit).Reachable :=
    (State.Reaches.run fun _ _ _ => trivial).reachable reachable_company
  exact ⟨reachable, by decide +kernel, by decide +kernel, (policy_eq_rebuilt reachable).1⟩

end Tenancy
