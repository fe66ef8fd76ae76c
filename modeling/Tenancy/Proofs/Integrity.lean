import Tenancy.Proofs.Numbering
import Tenancy.Proofs.Refusal

/-!
# The rows fit together

Names and references are stored more than once: a row holds the id and the name of the rows it
belongs to. `Database.Consistent` says that they all fit, for five tables at once. Every operation
keeps it (`consistent_moved`), so that it holds in every state that can be reached.

In such a state every organization has a parent that was made before it, hence a first-level
organization above it (`Consistent.resolves`), and no account that exists is told that its scope
cannot be resolved.
-/

namespace Tenancy

namespace Database

variable {former db : Database} {id : Int} {name : String}

/-- There is an organization with this id and this name. -/
def HasOrganization (db : Database) (id : Int) (name : String) : Prop :=
  ∃ o ∈ db.organizations, o.id = id ∧ o.name = name

/-- There is a role with this id and this name. -/
def HasRole (db : Database) (id : Int) (name : String) : Prop :=
  ∃ r ∈ db.roles, r.id = id ∧ r.name = name

/-- There is a menu with this id and this name. -/
def HasMenu (db : Database) (id : Int) (name : String) : Prop :=
  ∃ m ∈ db.menus, m.id = id ∧ m.name = name

/-- The parent of the organization is the root, or it was made before and is stored by its name. -/
def HasParent (db : Database) (o : Organization) : Prop :=
  (o.parentId = rootOrganizationId ∧ o.parentName = none) ∨
    ∃ p ∈ db.organizations, p.id = o.parentId ∧ p.id < o.id ∧ o.parentName = some p.name

/-- The rows of the database fit together. -/
structure Consistent (db : Database) : Prop where
  parents : ∀ o ∈ db.organizations, db.HasParent o
  homes : ∀ a ∈ db.accounts, a.organizationId = rootOrganizationId ↔ a.id = superAdminId
  members : ∀ a ∈ db.accounts, a.id ≠ superAdminId →
    db.HasOrganization a.organizationId a.organizationName ∧ db.HasRole a.roleId a.roleName
  roleMenus : ∀ row ∈ db.roleMenus,
    db.HasRole row.roleId row.roleName ∧ db.HasMenu row.menuId row.menuName
  pairs : (db.roleMenus.map fun row => (row.roleId, row.menuId)).Nodup
  organizationNames : (db.organizations.map (·.name)).Nodup
  roleNames : (db.roles.map (·.name)).Nodup
  accountNames : (db.accounts.map (·.name)).Nodup

theorem consistent_empty : Consistent {} := by
  constructor <;> simp

section Extends

variable (grown : former.Extends db)
include grown

theorem HasOrganization.mono (has : former.HasOrganization id name) :
    db.HasOrganization id name := by
  obtain ⟨o, present, fits⟩ := has
  exact ⟨o, grown.organizations.subset present, fits⟩

theorem HasRole.mono (has : former.HasRole id name) : db.HasRole id name := by
  obtain ⟨r, present, fits⟩ := has
  exact ⟨r, grown.roles.subset present, fits⟩

theorem HasMenu.mono (has : former.HasMenu id name) : db.HasMenu id name := by
  obtain ⟨m, present, fits⟩ := has
  exact ⟨m, grown.menus.subset present, fits⟩

theorem HasParent.mono {o : Organization} (has : former.HasParent o) : db.HasParent o := by
  rcases has with top | ⟨p, present, fits⟩
  · exact .inl top
  · exact .inr ⟨p, grown.organizations.subset present, fits⟩

end Extends

/-- A new row with a value that no other row has. -/
theorem nodup_map_append {α β : Type} {f : α → β} {rows : List α} {row : α}
    (nodup : (rows.map f).Nodup) (unique : ∀ other ∈ rows, f other ≠ f row) :
    ((rows ++ [row]).map f).Nodup := by
  rw [List.map_append, List.nodup_append]
  refine ⟨nodup, List.nodup_singleton _, fun b old c new => ?_⟩
  obtain ⟨other, present, rfl⟩ := List.mem_map.mp old
  rw [List.mem_singleton.mp new]
  exact unique other present

end Database

namespace State

variable {s t : State} {caller : Int}

/-! ## One step -/

/-- The super administrator is the only account that there is. -/
theorem Bootstrapped.consistent {c : Credentials} {a : Account} {db : Database}
    (bootstrapped : Bootstrapped s c t a db) (grown : s.database.Extends t.database)
    (consistent : s.database.Consistent) : t.database.Consistent := by
  have frame := (seeds_of_seeded bootstrapped.seeded).frame
  have accounts : t.database.accounts = [a] := by
    rw [bootstrapped.state, frame, bootstrapped.empty]
    rfl
  have organizations : t.database.organizations = s.database.organizations := by
    rw [bootstrapped.state, frame]
  have roles : t.database.roles = s.database.roles := by rw [bootstrapped.state, frame]
  have roleMenus : t.database.roleMenus = s.database.roleMenus := by
    rw [bootstrapped.state, frame]
  constructor
  · rw [organizations]
    exact fun o present => (consistent.parents o present).mono grown
  · rw [accounts, bootstrapped.account]
    simp
  · rw [accounts, bootstrapped.account]
    simp
  · rw [roleMenus]
    intro row present
    obtain ⟨role, menu⟩ := consistent.roleMenus row present
    exact ⟨role.mono grown, menu.mono grown⟩
  · exact roleMenus ▸ consistent.pairs
  · exact organizations ▸ consistent.organizationNames
  · exact roles ▸ consistent.roleNames
  · rw [accounts]
    exact List.nodup_singleton _

theorem OrganizationMade.consistent {request : NewOrganization} {o : Organization}
    {current : Account} (made : OrganizationMade s caller request t o current)
    (grown : s.database.Extends t.database) (consistent : s.database.Consistent) :
    t.database.Consistent := by
  have parent : s.database.HasParent o := by
    have named := made.parent
    unfold parentName at named
    rw [← made.parentId] at named
    split at named
    · next top => exact .inl ⟨top, (Except.ok.inj named).symm⟩
    split at named
    · next p found =>
      have present := List.mem_of_find?_eq_some found
      have own : p.id = o.parentId := by simpa using List.find?_some found
      have below : p.id < o.id := by
        rw [made.id]
        exact Database.lt_nextId (List.mem_map_of_mem present)
      exact .inr ⟨p, present, own, below, (Except.ok.inj named).symm⟩
    · cases named
  rw [made.state] at grown ⊢
  refine { consistent with
    parents := fun x listed => ?_
    members := fun a listed ordinary => ?_
    organizationNames := Database.nodup_map_append consistent.organizationNames made.unique }
  · rcases List.mem_append.mp listed with old | new
    · exact (consistent.parents x old).mono grown
    · rw [List.mem_singleton.mp new]
      exact parent.mono grown
  · obtain ⟨home, role⟩ := consistent.members a listed ordinary
    exact ⟨home.mono grown, role.mono grown⟩

theorem AccountMade.consistent {request : NewAccount} {a current : Account}
    (made : AccountMade s caller request t a current) (numbered : s.database.WellNumbered)
    (consistent : s.database.Consistent) : t.database.Consistent := by
  have ordinary := made.ordinary numbered
  have inner : a.organizationId ≠ rootOrganizationId := by
    obtain ⟨o, present, own, -⟩ := made.home
    have positive := numbered.organizations.positive _ (List.mem_map_of_mem present)
    rw [← own]
    show o.id ≠ -1
    omega
  rw [made.state]
  refine { consistent with
    homes := fun x listed => ?_
    members := fun x listed other => ?_
    accountNames := Database.nodup_map_append consistent.accountNames made.unique }
  · rcases List.mem_append.mp listed with old | new
    · exact consistent.homes x old
    · rw [List.mem_singleton.mp new]
      exact iff_of_false inner ordinary
  · rcases List.mem_append.mp listed with old | new
    · exact consistent.members x old other
    · rw [List.mem_singleton.mp new]
      exact ⟨made.home, made.role⟩

/-- The new role is not among those that had menus before, and it gets every menu once. -/
theorem RoleMade.consistent {request : NewRole} {r : Role} {menus : List Menu} {current : Account}
    (made : RoleMade s caller request t r menus current) (grown : s.database.Extends t.database)
    (consistent : s.database.Consistent) : t.database.Consistent := by
  have fresh : ∀ row ∈ s.database.roleMenus, row.roleId ≠ r.id := by
    intro row present same
    obtain ⟨⟨other, listed, own, -⟩, -⟩ := consistent.roleMenus row present
    exact made.id_ne listed (own.trans same)
  have role : t.database.HasRole r.id r.name := by
    refine ⟨r, ?_, rfl, rfl⟩
    rw [made.state]
    exact List.mem_append_right _ List.mem_cons_self
  rw [made.state] at grown role ⊢
  refine { consistent with
    members := fun a listed ordinary => ?_
    roleMenus := fun row listed => ?_
    pairs := ?_
    roleNames := Database.nodup_map_append consistent.roleNames made.unique }
  · obtain ⟨home, former⟩ := consistent.members a listed ordinary
    exact ⟨home, former.mono grown⟩
  · rcases List.mem_append.mp listed with old | new
    · obtain ⟨former, menu⟩ := consistent.roleMenus row old
      exact ⟨former.mono grown, menu⟩
    · obtain ⟨⟨own, named⟩, menu, chosen, fits⟩ := Database.of_mem_roleMenuRows new
      rw [own, named]
      exact ⟨role, menu, made.known menu chosen, fits⟩
  · rw [List.map_append, List.nodup_append]
    refine ⟨consistent.pairs, ?_, fun pair old other new => ?_⟩
    · -- the pairs of the new rows differ in their menus
      refine List.Nodup.of_map Prod.snd ?_
      rw [List.map_map]
      show (List.map RoleMenu.menuId _).Nodup
      rw [Database.map_menuId_roleMenuRows, made.requested]
      exact nodup_distinct _
    · obtain ⟨row, present, rfl⟩ := List.mem_map.mp old
      obtain ⟨newRow, given, rfl⟩ := List.mem_map.mp new
      intro same
      refine fresh row present ?_
      rw [← Database.roleId_of_mem_roleMenuRows given]
      exact congrArg Prod.fst same

theorem consistent_moved {operation : Operation} (moved : Moved s operation t)
    (numbered : s.database.WellNumbered) (consistent : s.database.Consistent) :
    t.database.Consistent := by
  have grown := extends_of_moved moved
  cases moved with
  | still => exact consistent
  | bootstrap done =>
    obtain ⟨db, bootstrapped⟩ := bootstrapped done
    exact bootstrapped.consistent grown consistent
  | account done =>
    obtain ⟨current, made⟩ := accountMade done
    exact made.consistent numbered consistent
  | role done =>
    obtain ⟨menus, current, made⟩ := roleMade done
    exact made.consistent grown consistent
  | organization done =>
    obtain ⟨current, made⟩ := organizationMade done
    exact made.consistent grown consistent
  | policy done =>
    rw [loadPolicy_ok done]
    exact consistent
  | entry done =>
    rw [(recorded done).2]
    exact { consistent with }

theorem Reachable.consistent (reachable : s.Reachable) : s.database.Consistent := by
  obtain ⟨settings, run⟩ := reachable
  induction run with
  | refl => exact Database.consistent_empty
  | step before _ ih =>
    have reached : Reachable _ := ⟨settings, before⟩
    exact consistent_moved (moved_step _ _) reached.wellNumbered ih

end State

/-! ## Climbs -/

namespace Database

variable {db : Database}

/-- From every organization the climb ends, as it goes to smaller ids. -/
theorem Consistent.resolves (consistent : db.Consistent) (numbered : db.WellNumbered)
    {o : Organization} (present : o ∈ db.organizations) :
    ∃ a, db.hierarchy.firstLevelAncestor o.id = .ok a := by
  simp only [Hierarchy.firstLevelAncestor_eq_ok_iff]
  -- the induction is on the id: a parent was made before, so that its id is smaller
  induction height : o.id.toNat using Nat.strongRecOn generalizing o with
  | ind n ih =>
    have under : db.hierarchy.Child o.parentId o.id :=
      ⟨_, List.mem_map_of_mem present, rfl, rfl⟩
    have above := under.parent? numbered.proper.nodup
    rcases consistent.parents o present with ⟨top, -⟩ | ⟨p, listed, own, below, -⟩
    · exact ⟨o.id, .top (top ▸ above)⟩
    · have positive := numbered.organizations.positive _ (List.mem_map_of_mem listed)
      have inner : o.parentId ≠ rootOrganizationId := by
        rw [← own]
        show p.id ≠ -1
        omega
      obtain ⟨a, climbs⟩ := ih p.id.toNat (by omega) listed rfl
      exact ⟨a, .up above inner (own ▸ climbs)⟩

theorem Consistent.not_stray (consistent : db.Consistent) (numbered : db.WellNumbered)
    {a : Account} (present : a ∈ db.accounts) : ¬db.hierarchy.Stray a.organizationId := by
  rintro ⟨inner, lost⟩
  have ordinary : a.id ≠ superAdminId := fun admin => inner ((consistent.homes a present).mpr admin)
  obtain ⟨⟨o, listed, own, -⟩, -⟩ := consistent.members a present ordinary
  obtain ⟨first, climbs⟩ := consistent.resolves numbered listed
  exact lost first (own ▸ climbs)

end Database

/-- In every state that can be reached, the rows of the database fit together. Every organization
has a first-level organization above it, and no account that exists is told that its scope cannot
be resolved. -/
theorem reachable_rows_fit {s : State} (reachable : s.Reachable) :
    s.database.Consistent ∧
    (∀ o ∈ s.database.organizations, ∃ a, s.database.hierarchy.firstLevelAncestor o.id = .ok a) ∧
    ∀ caller ∈ s.database.accounts, ∀ command,
      (s.perform caller.id command).outcome ≠ .error .scopeUnresolved := by
  have numbered := State.Reachable.wellNumbered reachable
  have consistent := State.Reachable.consistent reachable
  refine ⟨consistent, fun o present => consistent.resolves numbered present,
    fun caller present command failed => ?_⟩
  obtain ⟨current, asking, stray⟩ := State.perform_failsOnly command _ failed
  exact consistent.not_stray numbered (State.mem_of_account asking).1 stray

/-- The manager of the company makes an organization below its first one. -/
def labSetup : List Operation := [
    .perform 2 (.createOrganization { name := "lab", parentId := 1 })]

/-- In the company with the new organization the rows fit, and the manager gets its tree. -/
theorem company_rows_fit :
    (company.run labSetup).Reachable ∧ (company.run labSetup).database.Consistent ∧
      (company.run labSetup).database.hierarchy.firstLevelAncestor 3 = .ok 1 ∧
      ((company.run labSetup).perform 2 (.organizationTree .firstLevel)).outcome ≠
        .error .scopeUnresolved := by
  have reachable : (company.run labSetup).Reachable :=
    (State.Reaches.run fun _ _ _ => trivial).reachable reachable_company
  obtain ⟨consistent, -, answered⟩ := reachable_rows_fit reachable
  have member : ∃ a ∈ (company.run labSetup).database.accounts, a.id = 2 := by decide +kernel
  obtain ⟨a, present, own⟩ := member
  exact ⟨reachable, consistent, by decide +kernel, own ▸ answered a present _⟩

end Tenancy
