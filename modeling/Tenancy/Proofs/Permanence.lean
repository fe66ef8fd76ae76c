import Tenancy.Proofs.MenuCover
import Tenancy.Proofs.Regularity

/-!
# Permissions are fixed

What an account may do is settled when it is made. A role gets its menus once, before any account
can have it, and the routes of the menus never change; a new account and a new role have ids that
nothing refers to so far. So no run gives an account that exists anything, nor takes anything from
it, whoever issues its operations and however often the policy is rebuilt
(`permissions_are_fixed`).

* `menusOf_moved`, `Reaches.menusOf`: a role that exists gets no menu, neither by one operation nor
  by a run.
* `Reaches.hasRole`, `Reaches.mem_rules`: an account keeps its role, and the policy keeps the rules
  of this role.
* `Reaches.mayUse`, `Reaches.currentAccount`: so it is answered as before.
-/

namespace Tenancy

namespace State

variable {s t : State} {a : Account}

/-! ## What stays -/

/-- Menus are given to a new role only. -/
theorem menusOf_moved {operation : Operation} (moved : Moved s operation t) {role : Role}
    (known : role ∈ s.database.roles) :
    t.database.menusOf role.id = s.database.menusOf role.id := by
  cases moved with
  | still => rfl
  | bootstrap done =>
    obtain ⟨db, bootstrapped⟩ := bootstrapped done
    have frame := (seeds_of_seeded bootstrapped.seeded).frame
    rw [bootstrapped.state, frame]
    rfl
  | account done =>
    obtain ⟨current, made⟩ := accountMade done
    rw [made.state]
    rfl
  | role done =>
    obtain ⟨menus, current, made⟩ := roleMade done
    exact made.menusOf_of_ne (made.id_ne known)
  | organization done =>
    obtain ⟨current, made⟩ := organizationMade done
    rw [made.state]
    rfl
  | policy done =>
    rw [loadPolicy_ok done]
  | entry done =>
    rw [(recorded done).2]
    rfl

theorem Reaches.menusOf {allowed : State → Operation → Prop} (reaches : Reaches allowed s t)
    {role : Role} (known : role ∈ s.database.roles) :
    t.database.menusOf role.id = s.database.menusOf role.id := by
  induction reaches with
  | refl => rfl
  | step before _ ih =>
    rw [menusOf_moved (moved_step _ _) (before.extends.roles.subset known), ih]

/-- The policy holds, for every role, the routes of its menus. -/
theorem InStep.mem_rules_iff (inStep : s.InStep) {rule : Access.Rule} :
    rule ∈ s.policy.rules ↔ ∃ menu ∈ s.database.menusOf rule.role,
      ∃ route ∈ s.database.routes, route.menuId = menu ∧
        rule.permission = ⟨route.name, Access.upperMethod route.method⟩ := by
  rw [inStep.rules, Database.grants_policyRows]
  simp only [mem_menusOf]
  constructor
  · rintro ⟨row, has, own, route, listed, sameMenu, fits⟩
    exact ⟨_, ⟨row, has, own, rfl⟩, route, listed, sameMenu, fits⟩
  · rintro ⟨_, ⟨row, has, own, rfl⟩, route, listed, sameMenu, fits⟩
    exact ⟨row, has, own, route, listed, sameMenu, fits⟩

section Run

variable {allowed : State → Operation → Prop} (run : Reaches allowed s t) (regular : s.Regular)
  (present : a ∈ s.database.accounts)
include run regular present

theorem Reaches.menusOf_account (ordinary : a.id ≠ superAdminId) :
    t.database.menusOf a.roleId = s.database.menusOf a.roleId := by
  obtain ⟨-, role, known, own, -⟩ := regular.consistent.members a present ordinary
  rw [← own]
  exact run.menusOf known

/-- An account has the same roles later on. -/
theorem Reaches.hasRole (role : Int) :
    s.policy.hasRole a.id role = t.policy.hasRole a.id role := by
  have later := run.regular regular
  rw [Bool.eq_iff_iff, regular.hasRole_iff present,
    later.hasRole_iff (run.extends.accounts.subset present)]

/-- The roles of an account have the same rules later on. -/
theorem Reaches.mem_rules {rule : Access.Rule} (held : s.policy.hasRole a.id rule.role = true) :
    rule ∈ s.policy.rules ↔ rule ∈ t.policy.rules := by
  obtain ⟨ordinary, own⟩ := (regular.hasRole_iff present).mp held
  have later := run.regular regular
  rw [regular.inStep.mem_rules_iff, later.inStep.mem_rules_iff, own,
    run.menusOf_account regular present ordinary, (regular.founded present).routes,
    (later.founded (run.extends.accounts.subset present)).routes]

/-- The rules of other roles, which may have come in between, do not matter. -/
theorem Reaches.mayUse (path method : String) :
    t.mayUse a.id path method = s.mayUse a.id path method := by
  have same : s.policy.allows a.id path method = t.policy.allows a.id path method :=
    Access.Policy.allows_congr_of_held (regular.compilesFor a.id) (run.hasRole regular present)
      fun _ held => run.mem_rules regular present held
  unfold State.mayUse
  rw [same]

theorem Reaches.selectionOf : t.database.selectionOf a = s.database.selectionOf a := by
  have later := run.regular regular
  unfold Database.selectionOf
  -- the super administrator has all menus there are, anybody else those of a role
  by_cases admin : a.id = superAdminId
  · rw [(regular.founded present).menus,
      (later.founded (run.extends.accounts.subset present)).menus]
    simp [isSuperAdmin, admin]
  · rw [run.menusOf_account regular present admin]
    simp [isSuperAdmin, admin]

theorem Reaches.menuForest (selection : Selection) :
    t.database.menuForest selection = s.database.menuForest selection := by
  have later := (run.regular regular).founded (run.extends.accounts.subset present)
  unfold Database.menuForest Database.orderedMenus
  rw [later.menus, (regular.founded present).menus]

/-- An account is shown to itself with the same menus later on. -/
theorem Reaches.currentAccount : t.currentAccount a.id = s.currentAccount a.id := by
  have later := run.regular regular
  have remains := run.extends.accounts.subset present
  refine Journal.bind_congr ?_ fun current found => ?_
  · show Journal.query _ (Database.lookup _ _ _ _) = Journal.query _ (Database.lookup _ _ _ _)
    rw [Database.lookup_of_mem later.numbered.accounts.nodup remains,
      Database.lookup_of_mem regular.numbered.accounts.nodup present]
  · -- the account passes the check of its own home in both states, whatever the hierarchies are
    rw [Database.eq_of_lookup later.numbered.accounts.nodup remains found]
    refine Journal.read_bind_congr ?_
    rw [Hierarchy.checkScope_eq_done (later.checkScope_home remains),
      Hierarchy.checkScope_eq_done (regular.checkScope_home present)]
    refine Journal.bind_congr rfl fun _ _ => ?_
    unfold State.selectionOf State.menuForest
    simp only [run.selectionOf regular present, run.menuForest regular present]

end Run

end State

/-- Whatever is done after an account was made, by whom and with what success, the account may use
the same methods on the same paths as before and is shown the same menus. The policy has to be in
step with the database at the start; the database is one that can be reached. -/
theorem permissions_are_fixed {s t : State} {former : Access.Policy}
    (reached : State.Reachable { s with policy := former }) (inStep : s.InStep)
    (run : State.Reaches (fun _ _ => True) s t) {a : Account} (present : a ∈ s.database.accounts) :
    (∀ path method, t.mayUse a.id path method = s.mayUse a.id path method ∧
      ∃ allowed, (s.mayUse a.id path method).outcome = .ok allowed) ∧
    t.currentAccount a.id = s.currentAccount a.id ∧
    (fits64 a.id = true → ∃ menus, (s.currentAccount a.id).outcome = .ok ⟨a, menus⟩) := by
  have regular := State.regular_of_database reached inStep
  refine ⟨fun path method => ⟨run.mayUse regular present path method, ?_⟩,
    run.currentAccount regular present, fun fits => ?_⟩
  · obtain ⟨allowed, decided, -⟩ :=
      Access.Policy.allows_iff path method (regular.compilesFor a.id)
    refine ⟨allowed, ?_⟩
    rw [State.mayUse_outcome, decided]
    rfl
  · exact ⟨_, regular.currentAccount_outcome present fits⟩

/-- The promotion, an attempt on behalf of an account that there is not, and a rebuilding of the
policy. -/
def aftermath : List Operation :=
  promotion ++ [.perform 9 (.createRole chief), .loadPolicy]

/-- The manager of the company makes an account that may read the audit trail; the manager's own
account may not, then as before. -/
theorem promotion_gives_manager_nothing :
    company.Reachable ∧ company.InStep ∧
    ((company.run aftermath).mayUse 3 "/api/operation-logs" "GET").outcome = .ok true ∧
    ((company.run aftermath).mayUse 2 "/api/operation-logs" "GET").outcome = .ok false ∧
    ∃ manager ∈ company.database.accounts, manager.id = 2 ∧
      (∀ path method,
        (company.run aftermath).mayUse manager.id path method =
          company.mayUse manager.id path method ∧
        ∃ allowed, (company.mayUse manager.id path method).outcome = .ok allowed) ∧
      (company.run aftermath).currentAccount manager.id = company.currentAccount manager.id ∧
      ∃ menus, (company.currentAccount manager.id).outcome = .ok ⟨manager, menus⟩ := by
  have inStep : company.InStep := State.Reachable.inStep reachable_company
  have run : State.Reaches (fun _ _ => True) company (company.run aftermath) :=
    .run fun _ _ _ => trivial
  have member : ∃ a ∈ company.database.accounts, a.id = 2 := by decide +kernel
  obtain ⟨manager, present, own⟩ := member
  have reached : State.Reachable { company with policy := company.policy } := reachable_company
  obtain ⟨decisions, shown, detail⟩ := permissions_are_fixed reached inStep run present
  have fits : fits64 manager.id = true := by
    rw [own]
    decide
  exact ⟨reachable_company, inStep, by decide +kernel, by decide +kernel, manager, present, own,
    decisions, shown, detail fits⟩

end Tenancy
