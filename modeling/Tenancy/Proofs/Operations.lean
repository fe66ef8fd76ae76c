import Tenancy.Proofs.Insertion
import Tenancy.State.Command

/-!
# What the operations do

For each operation that writes, one structure says what its success establishes: who asked, which
gates were passed, and what the state is afterwards.
-/

namespace Tenancy

/-- What is noted of a recorded request. -/
def RecordedRequest.info (request : RecordedRequest) : OperationInfo :=
  OperationInfo.ofRequest request.method request.path

namespace State

variable {s t : State} {caller : Int}

/-- The super administrator's account has been made, with the catalogue in `db`. -/
structure Bootstrapped (s : State) (c : Credentials) (t : State) (a : Account) (db : Database) :
    Prop where
  empty : s.database.accounts = []
  seeded : s.seeded.outcome = .ok db
  account : a = ⟨superAdminId, c.username, passwordHash s.settings.salt c.password, none, none,
    rootOrganizationId, rootOrganizationName, superAdminRoleId, superAdminRoleName, false⟩
  state : t = { s with database := { db with accounts := Database.place (·.id) a db.accounts } }

theorem bootstrapped {c : Credentials} {a : Account}
    (done : (s.bootstrap c).outcome = .ok (t, a)) : ∃ db, Bootstrapped s c t a db := by
  unfold bootstrap at done
  rw [Journal.outcome_bind_eq_ok] at done
  obtain ⟨accounts, read, done⟩ := done
  cases read
  split at done
  · cases done
  · next empty =>
    simp only [Journal.outcome_bind_eq_ok, Journal.outcome_pure_eq_ok] at done
    obtain ⟨db, seeded, ⟨db', _⟩, inserted, _, _, made⟩ := done
    cases made
    have row := conflictAs_eq_ok.mp inserted
    simp only [Database.insertAccount, superAdminDraft, Database.newId, bind_eq_ok, pure_eq_ok,
      Database.required_eq_ok, Option.some.injEq, exists_eq_left'] at row
    obtain ⟨_, _, id, given, _, _, same⟩ := row
    split at given
    · cases given
    · cases given
      cases same
      exact ⟨db, by simpa using empty, seeded, rfl, rfl⟩

/-- The making of an organization has succeeded for `current`. -/
structure OrganizationMade (s : State) (caller : Int) (request : NewOrganization) (t : State)
    (o : Organization) (current : Account) : Prop where
  asking : s.database.account caller = .ok current
  parent : s.parentName request.parentId = .ok o.parentName
  permitted :
    (s.database.hierarchy.checkParent current.caller request.parentId).outcome = .ok ()
  unique : ∀ other ∈ s.database.organizations, other.name ≠ o.name
  id : o.id = Database.nextId (s.database.organizations.map (·.id))
  name : o.name = request.name
  parentId : o.parentId = request.parentId
  state : t = { s with database :=
    { s.database with organizations := s.database.organizations ++ [o] } }

theorem organizationMade {request : NewOrganization} {o : Organization}
    (done : (s.createOrganization caller request).outcome = .ok (t, o)) :
    ∃ current, OrganizationMade s caller request t o current := by
  unfold createOrganization at done
  simp only [Journal.outcome_bind_eq_ok, Journal.outcome_pure_eq_ok] at done
  obtain ⟨current, asking, _, read, _, parent, _, permitted, ⟨db, _⟩, inserted, _, _, made⟩ := done
  cases read
  cases made
  obtain ⟨-, ⟨_, named, unique, rfl⟩, rfl⟩ :=
    (Database.insertOrganization_eq_ok rfl).mp (conflictAs_eq_ok.mp inserted)
  cases named
  exact ⟨current, asking, parent, permitted, unique, rfl, rfl, rfl, rfl⟩

/-- The making of an account has succeeded for `current`. -/
structure AccountMade (s : State) (caller : Int) (request : NewAccount) (t : State) (a : Account)
    (current : Account) : Prop where
  asking : s.database.account caller = .ok current
  permitted : (s.database.hierarchy.checkScope current.caller a.organizationId
    .firstLevel).outcome = .ok ()
  covered : (s.requireCover current (s.menusOf a.roleId)).outcome = .ok ()
  home : ∃ o ∈ s.database.organizations, o.id = a.organizationId ∧ o.name = a.organizationName
  role : ∃ r ∈ s.database.roles, r.id = a.roleId ∧ r.name = a.roleName
  unique : ∀ other ∈ s.database.accounts, other.name ≠ a.name
  id : a.id = Database.nextId (s.database.accounts.map (·.id))
  name : a.name = request.name
  hash : a.passwordHash = passwordHash s.settings.salt request.password
  organizationId : a.organizationId = request.organizationId
  roleId : a.roleId = request.roleId
  state : t =
    { s with
      database := { s.database with accounts := s.database.accounts ++ [a] }
      policy := s.policy.assign a.id a.roleId }

theorem accountMade {request : NewAccount} {a : Account}
    (done : (s.createAccount caller request).outcome = .ok (t, a)) :
    ∃ current, AccountMade s caller request t a current := by
  unfold createAccount at done
  simp only [Journal.outcome_bind_eq_ok, Journal.outcome_pure_eq_ok] at done
  obtain ⟨current, asking, _, read, _, permitted, o, homeFound, r, roleFound, _, covered, ⟨db, _⟩,
    inserted, _, _, _, _, made⟩ := done
  cases read
  cases made
  obtain ⟨home, homeId⟩ := Database.mem_of_lookup homeFound
  obtain ⟨role, roleId⟩ := Database.mem_of_lookup roleFound
  obtain ⟨-, ⟨_, _, _, _, _, named, hashed, homed, homeNamed, roled, unique, rfl⟩, rfl⟩ :=
    (Database.insertAccount_eq_ok rfl).mp (conflictAs_eq_ok.mp inserted)
  cases named; cases hashed; cases homed; cases homeNamed; cases roled
  rw [← homeId] at permitted
  exact ⟨current, asking, permitted, covered, ⟨o, home, rfl, rfl⟩, ⟨r, role, rfl, rfl⟩, unique, rfl,
    rfl, rfl, homeId, roleId, rfl⟩

/-- The making of a role has succeeded for `current`. -/
structure RoleMade (s : State) (caller : Int) (request : NewRole) (t : State) (r : Role)
    (menus : List Menu) (current : Account) : Prop where
  asking : s.database.account caller = .ok current
  requested : menus.map (·.id) = distinct request.menuIds
  known : ∀ menu ∈ menus, menu ∈ s.database.menus
  covered : (s.requireCover current (.done (distinct request.menuIds))).outcome = .ok ()
  unique : ∀ other ∈ s.database.roles, other.name ≠ r.name
  id : r.id = Database.nextId (s.database.roles.map (·.id))
  name : r.name = request.name
  maker : r.createdBy = current.id ∧ r.createdByName = current.name
  state : t =
    { s with
      database := { s.database with
        roles := s.database.roles ++ [r]
        roleMenus := s.database.roleMenus ++
          Database.roleMenuRows r (Database.nextId (s.database.roleMenus.map (·.id))) menus }
      policy := s.policy.grant r.id (s.database.routesOf (distinct request.menuIds)) }

/-- The menus that are found are those of the ids that were asked for. -/
theorem requestedMenus_ok {db : Database} {ids : List Int} {menus : List Menu}
    (found : db.requestedMenus ids = .ok menus) :
    menus.map (·.id) = ids ∧ ∀ menu ∈ menus, menu ∈ db.menus := by
  induction ids generalizing menus with
  | nil =>
    cases found
    simp
  | cons id rest ih =>
    unfold Database.requestedMenus at found ih
    rw [List.mapM_cons, bind_eq_ok] at found
    obtain ⟨menu, first, found⟩ := found
    rw [bind_eq_ok] at found
    obtain ⟨others, later, made⟩ := found
    cases made
    obtain ⟨sameIds, known⟩ := ih later
    cases here : db.menus.find? (·.id = id) with
    | none => simp [here] at first
    | some found =>
      simp only [here, Except.ok.injEq] at first
      subst first
      have hasId : found.id = id := by simpa using List.find?_some here
      have present : found ∈ db.menus := List.mem_of_find?_eq_some here
      refine ⟨by simp [hasId, sameIds], fun menu chosen => ?_⟩
      rcases List.mem_cons.mp chosen with rfl | chosen
      · exact present
      · exact known menu chosen

theorem roleMade {request : NewRole} {r : Role}
    (done : (s.createRole caller request).outcome = .ok (t, r)) :
    ∃ menus current, RoleMade s caller request t r menus current := by
  unfold createRole at done
  simp only [Journal.outcome_bind_eq_ok, Journal.outcome_pure_eq_ok] at done
  obtain ⟨current, asking, menus, found, _, covered, ⟨db, _⟩, inserted, db', added, _, _, _, read,
    _, _, _, _, made⟩ := done
  cases read
  cases made
  obtain ⟨requested, known⟩ := requestedMenus_ok found
  obtain ⟨-, ⟨_, _, _, named, maker, makerName, unique, rfl⟩, rfl⟩ :=
    (Database.insertRole_eq_ok rfl).mp (conflictAs_eq_ok.mp inserted)
  cases named; cases maker; cases makerName
  have rows := Database.addRoleMenus_ok added
  subst rows
  exact ⟨menus, current, asking, requested, known, covered, unique, rfl, rfl, ⟨rfl, rfl⟩, rfl⟩

/-- The entry that a recorded request gets. -/
def entryOf (s : State) (request : RecordedRequest) : OperationLog :=
  { id := Database.nextId (s.database.operationLogs.map (·.id))
    accountId := request.accountId
    accountName := request.accountName
    ipAddress := orElse request.ipAddress noAddress
    userAgent := orElse request.userAgent noAgent
    type := request.info.type.name
    area := request.info.area
    description := request.info.description
    result := (OperationResult.ofStatus request.status).name }

theorem entryOf_type (request : RecordedRequest) :
    (s.entryOf request).type = request.info.type.name := rfl

theorem entryOf_area (request : RecordedRequest) :
    (s.entryOf request).area = request.info.area := rfl

theorem entryOf_result (request : RecordedRequest) :
    (s.entryOf request).result = (OperationResult.ofStatus request.status).name := rfl

/-- A request is recorded as long as the id of its account fits into the database. -/
theorem record_eq_ok {request : RecordedRequest} {l : OperationLog} :
    (s.record request).outcome = .ok (t, l) ↔
      fits64 request.accountId = true ∧ l = s.entryOf request ∧
        t = { s with database :=
          { s.database with operationLogs := s.database.operationLogs ++ [l] } } := by
  unfold record
  simp only [Journal.outcome_bind_eq_ok, Journal.outcome_query, Journal.outcome_pure_eq_ok,
    Prod.exists, Prod.mk.injEq, Database.insertOperationLog_eq_ok (d := request.draft) rfl]
  constructor
  · rintro ⟨db, _, ⟨fits, ⟨_, _, _, _, owned, named, typed, resulted, rfl⟩, rfl⟩, rfl, rfl⟩
    cases owned; cases named; cases typed; cases resulted
    exact ⟨fits _ rfl, rfl, rfl⟩
  · rintro ⟨fits, rfl, rfl⟩
    refine ⟨_, _, ⟨?_, ⟨_, _, _, _, rfl, rfl, rfl, rfl, rfl⟩, rfl⟩, rfl, rfl⟩
    rintro n ⟨⟩
    exact fits

/-- The entry of a recorded request has been written. -/
theorem recorded {request : RecordedRequest} {l : OperationLog}
    (done : (s.record request).outcome = .ok (t, l)) :
    l.id = Database.nextId (s.database.operationLogs.map (·.id)) ∧
      t = { s with database :=
        { s.database with operationLogs := s.database.operationLogs ++ [l] } } := by
  obtain ⟨-, rfl, made⟩ := record_eq_ok.mp done
  exact ⟨rfl, made⟩

theorem loadPolicy_ok (done : s.loadPolicy.outcome = .ok t) :
    t = { s with policy := s.database.policyRows.policy } := by
  unfold loadPolicy at done
  simp only [Journal.outcome_bind_eq_ok, Journal.outcome_pure_eq_ok] at done
  obtain ⟨_, read, _, _, made⟩ := done
  cases read
  exact made.symm

/-- What may be used is what the policy allows; a request that is denied is also logged. -/
theorem mayUse_outcome (s : State) (account : Int) (path method : String) :
    (s.mayUse account path method).outcome =
      (s.policy.allows account path method).mapError .badExpression := by
  unfold mayUse
  cases s.policy.allows account path method with
  | error e => rfl
  | ok allowed => cases allowed <;> rfl

/-- Whoever asks has a row under its id. -/
theorem mem_of_account {id : Int} {a : Account} (found : s.database.account id = .ok a) :
    a ∈ s.database.accounts ∧ a.id = id :=
  Database.mem_of_lookup found

end State

end Tenancy
