import Tenancy.State.Account

/-!
# Roles

A role is made with its menus, and the policy grants it the routes of these menus.
-/

namespace Tenancy

/-- A role and its menus. -/
structure RoleDetail where
  role : Role
  menus : Forest TreeNode

namespace Database

/-- Gives a role a menu. -/
def addRoleMenu (role : Role) (db : Database) (menu : Menu) : Except Fault Database := do
  let (db, _) ← db.insertRoleMenu
    { roleId := role.id, roleName := role.name, menuId := menu.id, menuName := menu.name }
  return db

/-- The menus with the given ids, or the first id that no menu has. -/
def requestedMenus (db : Database) (ids : List Int) : Except Fault (List Menu) :=
  ids.mapM fun id =>
    match db.menus.find? (·.id = id) with
    | some menu => .ok menu
    | none => .error (.menuNotFound id)

/-- The routes of some menus. -/
def routesOf (db : Database) (menuIds : List Int) : List (String × String) :=
  (db.routes.filter (·.menuId ∈ menuIds)).map fun r => (r.name, r.method)

end Database

namespace State

variable (s : State)

/-- Makes a role. The account that asks has to have a role whose menus are covered by the new
role's. A role stays even if its routes cannot be read. -/
def createRole (caller : Int) (request : NewRole) : Journal (State × Role) := do
  let current ← s.account caller
  let menuIds := distinct request.menuIds
  let menus ← .query [.menu] (s.database.requestedMenus menuIds)
  s.requireCover current (.done menuIds)
  let (db, role) ← .query [.role] (conflictAs .roleNameTaken (s.database.insertRole
    { name := request.name
      description := request.description.getD ""
      createdBy := current.id
      createdByName := current.name
      isDeletable := request.isDeletable }))
  let tables := if menus = [] then [] else TableName.roleMenu.written
  let db ← .query tables (menus.foldlM (Database.addRoleMenu role) db)
  .keep db
  let routes ← .read [.route] (db.routesOf menuIds)
  .note (Access.grantLine role.id routes)
  .note ⟨.info, adminSource,
    "[create_role] role created | 'role_id': " ++ Text.decimal role.id ++ ", 'menus': " ++
      Text.decimal menuIds.length⟩
  return ({ s with database := db, policy := s.policy.grant role.id routes }, role)

/-- Lists the roles, the latest first. -/
def listRoles (page : Page) (name : Option String) : Journal (Listing Role) :=
  let rows := s.database.roles.filter fun r => !isSearch name || found name r.name
  .query [.role] (page.of rows.reverse)

/-- Shows a role. -/
def roleDetail (id : Int) : Journal RoleDetail := do
  let role ← s.role id
  let menuIds ← s.menusOf role.id
  return { role, menus := ← s.menuForest (Selection.ofIds menuIds) }

end State

end Tenancy
