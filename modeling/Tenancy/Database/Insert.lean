import Tenancy.Database.Basic

/-!
# Inserting rows

A draft is a row to be inserted. It may lack its id, and it may lack values that the table
requires. The insertion of a draft fails, and changes nothing, if an integer does not fit, if a
required value is absent, if its id or a name that has to be unique is taken, or if it refers to a
row that does not exist. A row without a wanted id gets the id above all others.
-/

namespace Tenancy

/-- A draft of an organization. -/
structure Organization.Draft where
  id : Option Int := none
  name : Option String := none
  parentId : Int := rootOrganizationId
  parentName : Option String := none

/-- A draft of a menu. -/
structure Menu.Draft where
  id : Option Int := none
  name : Option String := none
  parentId : Int := rootMenuId
  parentName : Option String := none
  orderIndex : Int := 0

/-- A draft of a route. -/
structure Route.Draft where
  id : Option Int := none
  name : Option String := none
  method : Option String := none
  menuId : Option Int := none
  menuName : Option String := none

/-- A draft of a role. -/
structure Role.Draft where
  id : Option Int := none
  name : Option String := none
  description : String := ""
  createdBy : Option Int := none
  createdByName : Option String := none
  isDeletable : Bool := true

/-- A draft of a menu of a role. -/
structure RoleMenu.Draft where
  id : Option Int := none
  roleId : Option Int := none
  roleName : Option String := none
  menuId : Option Int := none
  menuName : Option String := none

/-- A draft of an account. -/
structure Account.Draft where
  id : Option Int := none
  name : Option String := none
  passwordHash : Option String := none
  email : Option String := none
  phone : Option String := none
  organizationId : Option Int := none
  organizationName : Option String := none
  roleId : Option Int := none
  roleName : String := ""
  isDeletable : Bool := true

/-- The address of a request that comes from nowhere. -/
def noAddress : String := "0.0.0.0"

/-- The agent of a request that names none. -/
def noAgent : String := "unknown"

/-- A draft of an entry of the audit trail. -/
structure OperationLog.Draft where
  id : Option Int := none
  accountId : Option Int := none
  accountName : Option String := none
  ipAddress : String := noAddress
  userAgent : String := noAgent
  type : Option String := none
  area : String := "system"
  description : String := "unknown"
  result : Option String := none

namespace Database

/-- A value that the table requires. -/
def required {α : Type} : Option α → Except Fault α
  | some a => .ok a
  | none => .error .integrityViolated

/-- Requires a condition of the table. -/
def require (condition : Bool) : Except Fault Unit :=
  if condition then .ok () else .error .integrityViolated

/-- The id above all others. -/
def nextId (ids : List Int) : Int :=
  match ids.max? with
  | some highest => highest + 1
  | none => 1

theorem lt_nextId {ids : List Int} {id : Int} (taken : id ∈ ids) : id < nextId ids := by
  unfold nextId
  cases highest : ids.max? with
  | none => simp [List.max?_eq_none_iff.1 highest] at taken
  | some top =>
    have := (List.max?_eq_some_iff.1 highest).2 id taken
    simp only
    omega

/-- The id of a new row: the wanted one, if it is free, or the next one. -/
def newId (ids : List Int) (wanted : Option Int) : Except Fault Int :=
  match wanted with
  | none => .ok (nextId ids)
  | some id => if id ∈ ids then .error .integrityViolated else .ok id

/-- Puts a row in front of the first one with a higher id. -/
def place {α : Type} (idOf : α → Int) (row : α) : List α → List α
  | [] => [row]
  | first :: rest => if idOf row < idOf first then row :: first :: rest
    else first :: place idOf row rest

@[simp] theorem mem_place {α : Type} {idOf : α → Int} {row other : α} {rows : List α} :
    other ∈ place idOf row rows ↔ other = row ∨ other ∈ rows := by
  induction rows with
  | nil => simp [place]
  | cons first rest ih =>
    by_cases before : idOf row < idOf first
    · simp [place, before]
    · simp only [place, before, ↓reduceIte, List.mem_cons, ih]
      exact or_left_comm

/-- A row with the highest id goes to the end. -/
theorem place_eq_append {α : Type} {idOf : α → Int} {row : α} {rows : List α}
    (above : ∀ other ∈ rows, idOf other < idOf row) : place idOf row rows = rows ++ [row] := by
  induction rows with
  | nil => rfl
  | cons first rest ih =>
    have notBefore : ¬idOf row < idOf first := by
      have := above first (by simp)
      omega
    simp [place, notBefore, ih fun other present => above other (by simp [present])]

variable (db : Database)

/-- Inserts an organization. -/
def insertOrganization (d : Organization.Draft) : Except Fault (Database × Organization) := do
  checkWidth (d.id.toList ++ [d.parentId])
  let name ← required d.name
  let id ← newId (db.organizations.map (·.id)) d.id
  require (db.organizations.all (·.name ≠ name))
  let row : Organization := { id, name, parentId := d.parentId, parentName := d.parentName }
  return ({ db with organizations := place (·.id) row db.organizations }, row)

/-- Inserts a menu. -/
def insertMenu (d : Menu.Draft) : Except Fault (Database × Menu) := do
  checkWidth (d.id.toList ++ [d.parentId, d.orderIndex])
  let name ← required d.name
  let id ← newId (db.menus.map (·.id)) d.id
  let row : Menu :=
    { id, name, parentId := d.parentId, parentName := d.parentName, orderIndex := d.orderIndex }
  return ({ db with menus := place (·.id) row db.menus }, row)

/-- Inserts a route. -/
def insertRoute (d : Route.Draft) : Except Fault (Database × Route) := do
  checkWidth (d.id.toList ++ d.menuId.toList)
  let name ← required d.name
  let method ← required d.method
  let menuId ← required d.menuId
  let menuName ← required d.menuName
  let id ← newId (db.routes.map (·.id)) d.id
  require (db.menus.any (·.id = menuId))
  let row : Route := { id, name, method, menuId, menuName }
  return ({ db with routes := place (·.id) row db.routes }, row)

/-- Inserts a role. -/
def insertRole (d : Role.Draft) : Except Fault (Database × Role) := do
  checkWidth (d.id.toList ++ d.createdBy.toList)
  let name ← required d.name
  let createdBy ← required d.createdBy
  let createdByName ← required d.createdByName
  let id ← newId (db.roles.map (·.id)) d.id
  require (db.roles.all (·.name ≠ name))
  let row : Role :=
    { id, name, description := d.description, createdBy, createdByName
      isDeletable := d.isDeletable }
  return ({ db with roles := place (·.id) row db.roles }, row)

/-- Inserts a menu of a role. -/
def insertRoleMenu (d : RoleMenu.Draft) : Except Fault (Database × RoleMenu) := do
  checkWidth (d.id.toList ++ d.roleId.toList ++ d.menuId.toList)
  let roleId ← required d.roleId
  let roleName ← required d.roleName
  let menuId ← required d.menuId
  let menuName ← required d.menuName
  let id ← newId (db.roleMenus.map (·.id)) d.id
  require (db.roles.any (·.id = roleId) && db.menus.any (·.id = menuId))
  let row : RoleMenu := { id, roleId, roleName, menuId, menuName }
  return ({ db with roleMenus := place (·.id) row db.roleMenus }, row)

/-- Inserts an account. -/
def insertAccount (d : Account.Draft) : Except Fault (Database × Account) := do
  checkWidth (d.id.toList ++ d.organizationId.toList ++ d.roleId.toList)
  let name ← required d.name
  let passwordHash ← required d.passwordHash
  let organizationId ← required d.organizationId
  let organizationName ← required d.organizationName
  let roleId ← required d.roleId
  let id ← newId (db.accounts.map (·.id)) d.id
  require (db.accounts.all (·.name ≠ name))
  let row : Account :=
    { id, name, passwordHash, email := d.email, phone := d.phone, organizationId, organizationName,
      roleId, roleName := d.roleName, isDeletable := d.isDeletable }
  return ({ db with accounts := place (·.id) row db.accounts }, row)

/-- Inserts an entry of the audit trail. -/
def insertOperationLog (d : OperationLog.Draft) : Except Fault (Database × OperationLog) := do
  checkWidth (d.id.toList ++ d.accountId.toList)
  let accountId ← required d.accountId
  let accountName ← required d.accountName
  let type ← required d.type
  let result ← required d.result
  let id ← newId (db.operationLogs.map (·.id)) d.id
  let row : OperationLog :=
    { id, accountId, accountName, ipAddress := d.ipAddress, userAgent := d.userAgent, type
      area := d.area, description := d.description, result }
  return ({ db with operationLogs := place (·.id) row db.operationLogs }, row)

end Database

end Tenancy
