import Tenancy.Proofs.Growth

/-!
# Menus that are handed on

An account that makes a role, or makes an account with a role, has to cover the menus of its own
role. The gate bounds the menus that are handed on from below and not from above:

* `makers_menus_are_covered`: a new role, and the role of a new account, has all menus of the role
  of its maker. So a menu that all members hold who act in a run is held by every role and every
  account that the run makes.
* `menus_exceed_makers`: it may have any others besides, also ones that its maker does not hold.
-/

namespace Tenancy

namespace Access

variable {assigner assignee : List Int}

theorem missingMenus_eq_nil_iff :
    missingMenus assigner assignee = [] ↔ ∀ menu ∈ assigner, menu ∈ assignee := by
  have empty : ∀ l : List Int, ascending l = [] ↔ l = [] := by
    intro l
    rw [ascending, List.eq_nil_iff_forall_not_mem, List.eq_nil_iff_forall_not_mem]
    simp
  rw [missingMenus, empty, List.filter_eq_nil_iff]
  simp

theorem checkMenuSubset_eq_ok {u : Unit} :
    (checkMenuSubset assigner assignee).outcome = .ok u ↔ ∀ menu ∈ assigner, menu ∈ assignee := by
  rw [← missingMenus_eq_nil_iff, checkMenuSubset]
  split
  · next covered => simp [covered, Journal.done]
  · next missing => simp [missing]

end Access

namespace State

variable {s t u : State} {menu : Int}

/-- The gate lets a member pass only with all menus of its own role. -/
theorem covered_of_requireCover {current : Account} {menus : Journal (List Int)} {l : List Int}
    {done : Unit} (passed : (s.requireCover current menus).outcome = .ok done)
    (member : current.id ≠ superAdminId) (chosen : menus.outcome = .ok l) :
    ∀ menu ∈ s.database.menusOf current.roleId, menu ∈ l := by
  simp only [requireCover, isSuperAdmin_eq_false member, Bool.false_eq_true, ↓reduceIte,
    Journal.outcome_bind_eq_ok, chosen, Except.ok.injEq, exists_eq_left'] at passed
  obtain ⟨own, read, covered⟩ := passed
  cases read
  exact Access.checkMenuSubset_eq_ok.mp covered

theorem mem_menusOf {db : Database} {role : Int} :
    menu ∈ db.menusOf role ↔ ∃ row ∈ db.roleMenus, row.roleId = role ∧ row.menuId = menu := by
  simp [Database.menusOf, and_assoc]

/-- A role loses no menu. -/
theorem menusOf_mono {former db : Database} (grown : former.Extends db) {role : Int}
    (held : menu ∈ former.menusOf role) : menu ∈ db.menusOf role := by
  obtain ⟨row, present, fits⟩ := mem_menusOf.mp held
  exact mem_menusOf.mpr ⟨row, grown.roleMenus.subset present, fits⟩

/-- A role is made with the menus that were asked for. -/
theorem RoleMade.mem_menusOf {caller : Int} {request : NewRole} {r : Role} {menus : List Menu}
    {current : Account} (made : RoleMade s caller request t r menus current)
    (asked : menu ∈ request.menuIds) : menu ∈ t.database.menusOf r.id := by
  have listed : menu ∈ distinct request.menuIds := mem_distinct.mpr asked
  rw [← made.requested, ← Database.map_menuId_roleMenuRows r
    (Database.nextId (s.database.roleMenus.map (·.id)))] at listed
  obtain ⟨row, new, sameMenu⟩ := List.mem_map.mp listed
  refine State.mem_menusOf.mpr ⟨row, ?_, Database.roleId_of_mem_roleMenuRows new, sameMenu⟩
  rw [made.state]
  exact List.mem_append_right _ new

/-- No other role gets a menu when a role is made. -/
theorem RoleMade.menusOf_of_ne {caller : Int} {request : NewRole} {r : Role} {menus : List Menu}
    {current : Account} (made : RoleMade s caller request t r menus current) {role : Int}
    (other : role ≠ r.id) : t.database.menusOf role = s.database.menusOf role := by
  have none : (Database.roleMenuRows r (Database.nextId (s.database.roleMenus.map (·.id)))
      menus).filter (·.roleId = role) = [] := by
    rw [List.filter_eq_nil_iff]
    intro row new
    rw [Database.roleId_of_mem_roleMenuRows new]
    simpa using other.symm
  rw [made.state, Database.menusOf, List.filter_append, none, List.append_nil]
  rfl

/-- The role of the account has the menu, as far as there is such an account. -/
def Holds (s : State) (account menu : Int) : Prop :=
  ∀ a ∈ s.database.accounts, a.id = account → menu ∈ s.database.menusOf a.roleId

/-- The operation is issued by a member who held the menu in the state `s`, if it was there
already. -/
def IssuedByHolder (s : State) (menu : Int) (_ : State) (operation : Operation) : Prop :=
  operation.IssuedBy fun id => id ≠ superAdminId ∧ s.Holds id menu

/-- All roles and accounts that are in `t` and not in `s` have the menu. -/
structure NewcomersHold (s t : State) (menu : Int) : Prop where
  roles : ∀ r ∈ t.database.roles, r ∉ s.database.roles → menu ∈ t.database.menusOf r.id
  accounts :
    ∀ a ∈ t.database.accounts, a ∉ s.database.accounts → menu ∈ t.database.menusOf a.roleId

theorem NewcomersHold.holds (newcomers : NewcomersHold s t menu)
    (grown : s.database.Extends t.database) {id : Int} (held : s.Holds id menu) :
    t.Holds id menu := by
  intro a present asked
  by_cases old : a ∈ s.database.accounts
  · exact menusOf_mono grown (held a old asked)
  · exact newcomers.accounts a present old

/-- What is new after a step was new before it or is the row that the step made. -/
theorem NewcomersHold.extend (newcomers : NewcomersHold s t menu)
    (grown : t.database.Extends u.database)
    (role : ∀ r ∈ u.database.roles, r ∉ t.database.roles → menu ∈ u.database.menusOf r.id)
    (account : ∀ a ∈ u.database.accounts, a ∉ t.database.accounts →
      menu ∈ u.database.menusOf a.roleId) : NewcomersHold s u menu := by
  constructor
  · intro r present new
    by_cases old : r ∈ t.database.roles
    · exact menusOf_mono grown (newcomers.roles r old new)
    · exact role r present old
  · intro a present new
    by_cases old : a ∈ t.database.accounts
    · exact menusOf_mono grown (newcomers.accounts a old new)
    · exact account a present old

theorem newcomersHold_moved (newcomers : NewcomersHold s t menu)
    (grown : s.database.Extends t.database) {operation : Operation}
    (moved : Moved t operation u) (issued : IssuedByHolder s menu t operation) :
    NewcomersHold s u menu := by
  have grows := extends_of_moved moved
  cases moved with
  | still => exact newcomers
  | bootstrap => exact issued.elim
  | account done =>
    obtain ⟨current, made⟩ := accountMade done
    obtain ⟨asking, own⟩ := mem_of_account made.asking
    obtain ⟨member, held⟩ := issued
    have makerHolds := newcomers.holds grown held current asking own
    have covers := covered_of_requireCover made.covered (own ▸ member) rfl menu makerHolds
    refine newcomers.extend grows (fun r present new => ?_) fun a present new => ?_
    · rw [made.state] at present
      exact absurd present new
    · rw [made.state] at present
      rcases List.mem_append.mp present with old | last
      · exact absurd old new
      · rw [List.mem_singleton.mp last]
        exact menusOf_mono grows covers
  | @role caller request _ row done =>
    obtain ⟨menus, current, made⟩ := roleMade done
    obtain ⟨asking, own⟩ := mem_of_account made.asking
    obtain ⟨member, held⟩ := issued
    have makerHolds := newcomers.holds grown held current asking own
    have covers := covered_of_requireCover made.covered (own ▸ member) rfl menu makerHolds
    refine newcomers.extend grows (fun r present new => ?_) fun a present new => ?_
    · have rows : r ∈ t.database.roles ++ [row] := by simpa [made.state] using present
      rcases List.mem_append.mp rows with old | last
      · exact absurd old new
      · rw [List.mem_singleton.mp last]
        exact made.mem_menusOf (mem_distinct.mp covers)
    · rw [made.state] at present
      exact absurd present new
  | organization done =>
    obtain ⟨current, made⟩ := organizationMade done
    rw [made.state] at grows ⊢
    exact newcomers.extend grows (fun r present new => absurd present new)
      fun a present new => absurd present new
  | policy done =>
    rw [loadPolicy_ok done] at grows ⊢
    exact ⟨newcomers.roles, newcomers.accounts⟩
  | entry done =>
    rw [(recorded done).2] at grows ⊢
    exact newcomers.extend grows (fun r present new => absurd present new)
      fun a present new => absurd present new

theorem newcomersHold_of_reaches (run : Reaches (IssuedByHolder s menu) s t) :
    NewcomersHold s t menu := by
  induction run with
  | refl => exact ⟨fun r old new => absurd old new, fun a old new => absurd old new⟩
  | step before issued ih =>
    exact newcomersHold_moved ih before.extends (moved_step _ _) issued

end State

/-- What the gate guarantees. The last part is about runs: in a run issued only by members who held
a menu at its start, if they were there already, every new role and every new account has it. -/
theorem makers_menus_are_covered (s : State) :
    (∀ caller request t r, caller ≠ superAdminId →
      (s.createRole caller request).outcome = .ok (t, r) →
      ∃ maker ∈ s.database.accounts, maker.id = caller ∧
        ∀ menu ∈ s.database.menusOf maker.roleId, menu ∈ request.menuIds) ∧
    (∀ caller request t a, caller ≠ superAdminId →
      (s.createAccount caller request).outcome = .ok (t, a) →
      ∃ maker ∈ s.database.accounts, maker.id = caller ∧
        ∀ menu ∈ s.database.menusOf maker.roleId, menu ∈ s.database.menusOf request.roleId) ∧
    ∀ menu t, State.Reaches (State.IssuedByHolder s menu) s t →
      (∀ r ∈ t.database.roles, r ∉ s.database.roles → menu ∈ t.database.menusOf r.id) ∧
      ∀ a ∈ t.database.accounts, a ∉ s.database.accounts →
        menu ∈ t.database.menusOf a.roleId := by
  refine ⟨fun caller request t r member done => ?_, fun caller request t a member done => ?_,
    fun menu t run => ?_⟩
  · obtain ⟨menus, maker, made⟩ := State.roleMade done
    obtain ⟨present, own⟩ := State.mem_of_account made.asking
    refine ⟨maker, present, own, fun menu held => mem_distinct.mp ?_⟩
    exact State.covered_of_requireCover made.covered (own ▸ member) rfl menu held
  · obtain ⟨maker, made⟩ := State.accountMade done
    obtain ⟨present, own⟩ := State.mem_of_account made.asking
    refine ⟨maker, present, own, fun menu held => ?_⟩
    rw [← made.roleId]
    exact State.covered_of_requireCover made.covered (own ▸ member) rfl menu held
  · have newcomers := State.newcomersHold_of_reaches run
    exact ⟨newcomers.roles, newcomers.accounts⟩

/-- A role with the menus of the manager and one more. -/
def chief : NewRole :=
  { name := "chief", description := none, isDeletable := true, menuIds := [2, 3, 4, 5] }

/-- An account with that role. -/
def mallory : NewAccount :=
  { name := "mallory", password := "mallory123", email := none, organizationId := 1, roleId := 2 }

/-- The manager of the company makes the role and an account with it. -/
def promotion : List Operation :=
  [.perform 2 (.createRole chief), .perform 2 (.createAccount mallory)]

/-- The manager can make the role, and can make an account with its own role; and as it holds menu 2
and acts alone, every account that comes of the promotion has that menu. -/
theorem promotion_keeps_managers_menus :
    ((∃ t r, (company.createRole 2 chief).outcome = .ok (t, r)) ∧
      ∃ maker ∈ company.database.accounts, maker.id = 2 ∧
        ∀ menu ∈ company.database.menusOf maker.roleId, menu ∈ chief.menuIds) ∧
    ((∃ t a, (company.createAccount 2 { mallory with roleId := 1 }).outcome = .ok (t, a)) ∧
      ∃ maker ∈ company.database.accounts, maker.id = 2 ∧
        ∀ menu ∈ company.database.menusOf maker.roleId, menu ∈ company.database.menusOf 1) ∧
    State.Reaches (State.IssuedByHolder company 2) company (company.run promotion) ∧
      (∃ a ∈ (company.run promotion).database.accounts, a ∉ company.database.accounts) ∧
      ∀ a ∈ (company.run promotion).database.accounts, a ∉ company.database.accounts →
        2 ∈ (company.run promotion).database.menusOf a.roleId := by
  obtain ⟨forRoles, forAccounts, forRuns⟩ := makers_menus_are_covered company
  obtain ⟨⟨t, r⟩, role⟩ : ∃ made, (company.createRole 2 chief).outcome = .ok made :=
    exists_of_isOk (by decide +kernel)
  obtain ⟨⟨u, a⟩, account⟩ :
      ∃ made, (company.createAccount 2 { mallory with roleId := 1 }).outcome = .ok made :=
    exists_of_isOk (by decide +kernel)
  have holds : company.Holds 2 2 := by unfold State.Holds; decide +kernel
  have run : State.Reaches (State.IssuedByHolder company 2) company (company.run promotion) := by
    refine .run fun operation listed _ => ?_
    rcases List.mem_pair.mp listed with rfl | rfl
    · exact ⟨by decide, holds⟩
    · exact ⟨by decide, holds⟩
  exact ⟨⟨⟨t, r, role⟩, forRoles 2 chief t r (by decide) role⟩,
    ⟨⟨u, a, account⟩, forAccounts 2 _ u a (by decide) account⟩,
    run, by decide +kernel, (forRuns 2 _ run).2⟩

/-- The gate bounds neither a new role, nor the role of a new account, nor what a run of members can
hand on, by the menus of the makers: the manager of the company has no menu 5. -/
theorem menus_exceed_makers :
    (¬ ∀ (s : State) (caller : Int) (request : NewRole) (t : State) (r : Role),
      s.Reachable → caller ≠ superAdminId → (s.createRole caller request).outcome = .ok (t, r) →
      ∀ maker ∈ s.database.accounts, maker.id = caller →
        ∀ menu ∈ request.menuIds, menu ∈ s.database.menusOf maker.roleId) ∧
    (¬ ∀ (s : State) (caller : Int) (request : NewAccount) (t : State) (a : Account),
      s.Reachable → caller ≠ superAdminId → (s.createAccount caller request).outcome = .ok (t, a) →
      ∀ maker ∈ s.database.accounts, maker.id = caller →
        ∀ menu ∈ s.database.menusOf request.roleId, menu ∈ s.database.menusOf maker.roleId) ∧
    ¬ ∀ (s t : State) (menu : Int),
      s.Reachable →
      State.Reaches (fun _ operation => operation.IssuedBy (· ≠ superAdminId)) s t →
      (∀ a ∈ s.database.accounts, menu ∉ s.database.menusOf a.roleId) →
      ∀ a ∈ t.database.accounts, menu ∉ t.database.menusOf a.roleId := by
  let later := company.step (.perform 2 (.createRole chief))
  have once : State.Reaches (fun _ _ => True) company later := .step .refl trivial
  have promoted : later.Reachable := once.reachable reachable_company
  refine ⟨fun bounded => ?_, fun bounded => ?_, fun bounded => ?_⟩
  · obtain ⟨⟨t, r⟩, made⟩ : ∃ made, (company.createRole 2 chief).outcome = .ok made :=
      exists_of_isOk (by decide +kernel)
    have held := bounded company 2 chief t r reachable_company (by decide) made
    exact absurd held (by decide +kernel)
  · obtain ⟨⟨t, a⟩, made⟩ : ∃ made, (later.createAccount 2 mallory).outcome = .ok made :=
      exists_of_isOk (by decide +kernel)
    have held := bounded later 2 mallory t a promoted (by decide) made
    exact absurd held (by decide +kernel)
  · have run : State.Reaches (fun _ operation => operation.IssuedBy (· ≠ superAdminId)) company
        (company.run promotion) := by
      refine .run fun operation listed _ => ?_
      rcases List.mem_pair.mp listed with rfl | rfl
      · show (2 : Int) ≠ superAdminId
        decide
      · show (2 : Int) ≠ superAdminId
        decide
    have held := bounded company _ 5 reachable_company run (by decide +kernel)
    exact absurd held (by decide +kernel)

end Tenancy
