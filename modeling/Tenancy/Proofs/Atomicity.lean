import Tenancy.Proofs.Integrity
import Tenancy.Proofs.PolicyStep

/-!
# All or nothing

A command that fails leaves nothing behind, neither in the tables nor in the policy, even if it has
already written something on its way. One that succeeds adds what it is for and changes nothing else
(`commands_are_all_or_nothing`).

The policy is added to at its end: a role is granted its permissions when it is new, so that none of
its rules can be there already (`rules_grant_of_fresh`), and likewise for accounts.
-/

namespace Tenancy

namespace Access

theorem Policy.foldl_addOnce {α : Type} [DecidableEq α] {l start : List α} (nodup : l.Nodup)
    (fresh : ∀ a ∈ l, a ∉ start) : l.foldl Policy.addOnce start = start ++ l := by
  induction l generalizing start with
  | nil => simp
  | cons a rest ih =>
    obtain ⟨once, others⟩ := List.nodup_cons.mp nodup
    have added : Policy.addOnce start a = start ++ [a] := if_neg (fresh a List.mem_cons_self)
    rw [List.foldl_cons, added, ih others, List.append_assoc, List.singleton_append]
    intro b listed present
    rcases List.mem_append.mp present with old | new
    · exact fresh b (List.mem_cons_of_mem _ listed) old
    · exact once (List.mem_singleton.mp new ▸ listed)

/-- A role without rules gets its permissions in order, after all other rules. -/
theorem Policy.rules_grant_of_fresh {p : Policy} {role : Int}
    (fresh : ∀ rule ∈ p.rules, rule.role ≠ role) (routes : List (String × String)) :
    (p.grant role routes).rules = p.rules ++ (permissionsOf routes).map (Rule.mk role) := by
  refine Policy.foldl_addOnce ?_ fun rule new old => ?_
  · refine (nodup_distinct _).map fun first second same => ?_
    cases same
    rfl
  · obtain ⟨permission, -, rfl⟩ := List.mem_map.mp new
    exact fresh _ old rfl

theorem Policy.assignments_assign_of_fresh {p : Policy} {account role : Int}
    (fresh : ∀ pair ∈ p.assignments, pair.1 ≠ account) :
    (p.assign account role).assignments = p.assignments ++ [(account, role)] :=
  if_neg fun present => fresh _ present rfl

end Access

namespace State

variable {s t : State} {caller : Int}

/-- What a command adds where it succeeds; everything else stays, and a command that only reads adds
nothing. -/
def Adds (s t : State) : Command → Prop
  | .bootstrap c =>
    ∃ a : Account, a.id = superAdminId ∧ a.name = c.username ∧
      t = { s with database := { s.database with
        menus := foundedMenus, routes := foundedRoutes, accounts := [a] } }
  | .createAccount request =>
    ∃ a : Account, a.id = Database.nextId (s.database.accounts.map (·.id)) ∧
      a.name = request.name ∧
      t =
        { s with
          database := { s.database with accounts := s.database.accounts ++ [a] }
          policy := { s.policy with
            assignments := s.policy.assignments ++ [(a.id, request.roleId)] } }
  | .createRole request =>
    ∃ (r : Role) (rows : List RoleMenu), r.id = Database.nextId (s.database.roles.map (·.id)) ∧
      r.name = request.name ∧ (∀ row ∈ rows, row.roleId = r.id) ∧
      rows.map (·.menuId) = distinct request.menuIds ∧
      t =
        { s with
          database := { s.database with
            roles := s.database.roles ++ [r], roleMenus := s.database.roleMenus ++ rows }
          policy := { s.policy with
            rules := s.policy.rules ++ (Access.permissionsOf
              (s.database.routesOf (distinct request.menuIds))).map (Access.Rule.mk r.id) } }
  | .createOrganization request =>
    ∃ o : Organization, o.id = Database.nextId (s.database.organizations.map (·.id)) ∧
      o.name = request.name ∧ o.parentId = request.parentId ∧
      t = { s with database :=
        { s.database with organizations := s.database.organizations ++ [o] } }
  | _ => t = s

/-- No rule is for a role that is still to be made. -/
theorem InStep.fresh_role (inStep : s.InStep) (consistent : s.database.Consistent) :
    ∀ rule ∈ s.policy.rules, rule.role ≠ Database.nextId (s.database.roles.map (·.id)) := by
  intro rule held next
  obtain ⟨row, present, own, -⟩ := Database.grants_policyRows.mp ((inStep.rules rule).mp held)
  obtain ⟨⟨r, listed, same, -⟩, -⟩ := consistent.roleMenus row present
  exact Database.id_ne_nextId listed (same.trans (own.trans next))

/-- No account that is still to be made has a role. -/
theorem InStep.fresh_account (inStep : s.InStep) :
    ∀ pair ∈ s.policy.assignments,
      pair.1 ≠ Database.nextId (s.database.accounts.map (·.id)) := by
  intro pair held next
  obtain ⟨a, listed, -, own, -⟩ :=
    Database.mem_members_policyRows.mp ((inStep.assignments pair.1 pair.2).mp held)
  exact Database.id_ne_nextId listed (own.trans next)

theorem Bootstrapped.adds {c : Credentials} {a : Account} {db : Database}
    (bootstrapped : Bootstrapped s c t a db) (blank : s.Blank) : Adds s t (.bootstrap c) := by
  have seeded := blank.seeded bootstrapped.seeded
  refine ⟨a, ?_, ?_, ?_⟩
  · rw [bootstrapped.account]
  · rw [bootstrapped.account]
  · rw [bootstrapped.state, seeded]
    simp only [bootstrapped.empty, Database.place]

theorem AccountMade.adds {request : NewAccount} {a current : Account}
    (made : AccountMade s caller request t a current) (inStep : s.InStep) :
    Adds s t (.createAccount request) := by
  have assigned : (s.policy.assign a.id a.roleId).assignments =
      s.policy.assignments ++ [(a.id, a.roleId)] :=
    Access.Policy.assignments_assign_of_fresh (made.id ▸ inStep.fresh_account)
  refine ⟨a, made.id, made.name, ?_⟩
  rw [made.state, ← made.roleId, ← assigned]
  rfl

theorem RoleMade.adds {request : NewRole} {r : Role} {menus : List Menu} {current : Account}
    (made : RoleMade s caller request t r menus current) (inStep : s.InStep)
    (consistent : s.database.Consistent) : Adds s t (.createRole request) := by
  have granted := Access.Policy.rules_grant_of_fresh (made.id ▸ inStep.fresh_role consistent)
    (s.database.routesOf (distinct request.menuIds))
  refine ⟨r, Database.roleMenuRows r (Database.nextId (s.database.roleMenus.map (·.id))) menus,
    made.id, made.name, fun row => Database.roleId_of_mem_roleMenuRows, ?_, ?_⟩
  · rw [Database.map_menuId_roleMenuRows, made.requested]
  · rw [made.state, ← granted]
    rfl

theorem OrganizationMade.adds {request : NewOrganization} {o : Organization} {current : Account}
    (made : OrganizationMade s caller request t o current) :
    Adds s t (.createOrganization request) :=
  ⟨o, made.id, made.name, made.parentId, made.state⟩

theorem adds_of_performed (reachable : s.Reachable) {command : Command} {answer : Answer}
    (done : (s.perform caller command).outcome = .ok (t, answer)) : Adds s t command := by
  have inStep := Reachable.inStep reachable
  cases command with
  | bootstrap c =>
    obtain ⟨a, made⟩ := written .account done
    obtain ⟨db, bootstrapped⟩ := bootstrapped made
    rcases Reachable.blank_or_founded reachable with blank | founded
    · exact bootstrapped.adds blank
    · -- there is a first account already, which the command would have been refused for
      obtain ⟨first, rest, accounts, -⟩ := founded.first
      rw [bootstrapped.empty] at accounts
      cases accounts
  | createAccount request =>
    obtain ⟨a, made⟩ := written (fun row : Account => .created row.id) done
    obtain ⟨current, made⟩ := accountMade made
    exact made.adds inStep
  | createRole request =>
    obtain ⟨r, made⟩ := written (fun row : Role => .created row.id) done
    obtain ⟨menus, current, made⟩ := roleMade made
    exact made.adds inStep (Reachable.consistent reachable)
  | createOrganization request =>
    obtain ⟨o, made⟩ := written (fun row : Organization => .created row.id) done
    obtain ⟨current, made⟩ := organizationMade made
    exact made.adds
  | _ => exact eq_of_read done

end State

/-- A command that fails leaves every table, hence every id that is to be given out, and the policy
as they were; one that succeeds adds what it is for and nothing else. -/
theorem commands_are_all_or_nothing {s : State} (reachable : s.Reachable) (caller : Int)
    (command : Command) :
    (∀ f, (s.perform caller command).outcome = .error f → s.step (.perform caller command) = s) ∧
    ∀ t answer, (s.perform caller command).outcome = .ok (t, answer) →
      s.step (.perform caller command) = t ∧ State.Adds s t command := by
  refine ⟨fun f failed => State.step_of_failed failed, fun t answer done => ⟨?_, ?_⟩⟩
  · simp only [State.step, done]
  · exact State.adds_of_performed reachable done

/-- A role with the name of the one that the company has. -/
def secondManager : NewRole :=
  { name := "manager", description := none, isDeletable := true, menuIds := [5] }

/-- A role with a new name, and with one of its menus twice. -/
def newAuditor : NewRole :=
  { name := "auditor", description := none, isDeletable := true, menuIds := [5, 2, 5] }

/-- The company refuses a second manager, which changes nothing, and takes an auditor. -/
theorem company_refuses_second_manager :
    company.Reachable ∧
    (∃ f, (company.perform 1 (.createRole secondManager)).outcome = .error f ∧
      company.step (.perform 1 (.createRole secondManager)) = company) ∧
    ∃ t answer, (company.perform 1 (.createRole newAuditor)).outcome = .ok (t, answer) ∧
      State.Adds company t (.createRole newAuditor) := by
  have refused : ∃ f, (company.perform 1 (.createRole secondManager)).outcome = .error f :=
    exists_of_isOk_eq_false (by decide +kernel)
  have taken : ∃ made, (company.perform 1 (.createRole newAuditor)).outcome = .ok made :=
    exists_of_isOk (by decide +kernel)
  obtain ⟨f, failed⟩ := refused
  obtain ⟨⟨t, answer⟩, done⟩ := taken
  have unchanged := (commands_are_all_or_nothing reachable_company 1 _).1 f failed
  have added := (commands_are_all_or_nothing reachable_company 1 _).2 t answer done
  exact ⟨reachable_company, ⟨f, failed, unchanged⟩, t, answer, done, added.2⟩

end Tenancy
