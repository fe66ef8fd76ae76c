import Tenancy.Access.Policy
import Tenancy.Database.Row
import Tenancy.Fault
import Tenancy.Menu.Basic
import Tenancy.Number.Width

/-!
# The database

Seven tables, each a list of rows in ascending order of ids. A row is looked up by its id, and an
id beyond 64 bits cannot be looked up at all.
-/

namespace Tenancy

/-- The tables of the database. -/
structure Database where
  organizations : List Organization := []
  menus : List Menu := []
  routes : List Route := []
  roles : List Role := []
  roleMenus : List RoleMenu := []
  accounts : List Account := []
  operationLogs : List OperationLog := []
  deriving DecidableEq, Repr

namespace Database

/-- Requires that integers fit into the database. -/
def checkWidth (l : List Int) : Except Fault Unit :=
  if l.all fits64 then .ok () else .error .integerTooLarge

/-- The row with an id, or the fault that tells of its absence. -/
def lookup {α : Type} (idOf : α → Int) (absent : Fault) (rows : List α) (id : Int) :
    Except Fault α := do
  checkWidth [id]
  match rows.find? (idOf · = id) with
  | some row => return row
  | none => .error absent

variable (db : Database)

/-- The account with an id. -/
def account (id : Int) : Except Fault Account :=
  lookup (·.id) .accountNotFound db.accounts id

/-- The organization with an id. -/
def organization (id : Int) : Except Fault Organization :=
  lookup (·.id) .organizationNotFound db.organizations id

/-- The role with an id. -/
def role (id : Int) : Except Fault Role :=
  lookup (·.id) .roleNotFound db.roles id

/-- The hierarchy of the organizations. -/
def hierarchy : Hierarchy :=
  db.organizations.map fun o => ⟨some o.id, some o.name, o.parentId⟩

/-- The menus by their places, menus of the same place by their ids. -/
def orderedMenus : List Menu :=
  db.menus.mergeSort fun a b => a.orderIndex ≤ b.orderIndex

/-- The menus of a role, in the order in which it got them. -/
def menusOf (roleId : Int) : List Int :=
  (db.roleMenus.filter (·.roleId = roleId)).map (·.menuId)

/-- The forest of all menus under a selection. -/
def menuForest (selection : Selection) : Forest TreeNode :=
  (Menu.authTree (db.orderedMenus.map fun m => ⟨some m.id, some m.name, m.parentId⟩)
    selection).getD .nil

/-- The menus that an account has; the super administrator has all. -/
def selectionOf (account : Account) : Selection :=
  if isSuperAdmin (some account.id) then Selection.ofIds (db.menus.map (·.id))
  else Selection.ofIds (db.menusOf account.roleId)

/-- The rows that the access policy is built from. -/
def policyRows : Access.PolicyRows :=
  { roleMenus := db.roleMenus.map fun m => (m.roleId, m.menuId)
    routes := db.routes.map fun r => (r.name, r.method, r.menuId)
    accounts := db.accounts.map fun a => (some a.id, a.roleId) }

end Database

end Tenancy
