import Tenancy.Access.MenuSubset
import Tenancy.Database.Insert
import Tenancy.Journal
import Tenancy.Organization.Guard
import Tenancy.Settings
import Tenancy.Validation.Request

/-!
# The state of the system

The database and the access policy that is kept beside it. The policy can be rebuilt from the rows
of the database at any time; the operations that make roles and accounts keep it in step. What the
system is set to stays the same.
-/

namespace Tenancy

/-- The database, the policy beside it, and the settings. -/
structure State where
  database : Database := {}
  policy : Access.Policy := {}
  settings : Settings := {}

/-- One page of a listing, and the number of rows of the whole listing. -/
structure Listing (α : Type) where
  total : Nat
  rows : List α
  deriving Repr

/-- The rows of a page. The number of rows before it has to fit into 64 bits. -/
def Page.of {α : Type} (p : Page) (rows : List α) : Except Fault (Listing α) := do
  Database.checkWidth [p.offset]
  return { total := rows.length, rows := (rows.drop p.offset.toNat).take p.size.toNat }

/-- The logger of the operations. -/
def adminSource : String := "orgadmin.services.admin_service"

/-- The outcome of an insertion, with `taken` as the fault when the table forbids it. -/
def conflictAs {α : Type} (taken : Fault) : Except Fault α → Except Fault α
  | .error .integrityViolated => .error taken
  | outcome => outcome

namespace Access

/-- The line for permissions granted to a role. -/
def grantLine (role : Int) (routes : List (String × String)) : LogLine :=
  ⟨.info, policySource,
    "[grant_role_permissions] granted | 'role_id': " ++ Text.decimal role ++ ", 'count': " ++
      Text.decimal (permissionsOf routes).length⟩

/-- The line for a role assigned to an account. -/
def assignLine (account role : Int) : LogLine :=
  ⟨.info, policySource,
    "[assign_role_to_user] assigned | 'user_id': " ++ Text.decimal account ++ ", 'role_id': " ++
      Text.decimal role⟩

/-- The lines for a policy built from rows. -/
def PolicyRows.lines (rows : PolicyRows) : List LogLine :=
  (rows.roles.map fun role => grantLine role (rows.routesOf role)) ++
    (rows.members.map fun (account, role) => assignLine account role) ++
    [⟨.info, policySource,
      "[load_from_rows] policy store rebuilt | 'roles': " ++ Text.decimal rows.roles.length ++
        ", 'accounts': " ++ Text.decimal rows.accounts.length⟩]

end Access

namespace State

variable (s : State)

/-! ## Statements -/

/-- Reads the account with an id. -/
def account (id : Int) : Journal Account :=
  .query [.account] (s.database.account id)

/-- Reads the organization with an id. -/
def organization (id : Int) : Journal Organization :=
  .query [.organization] (s.database.organization id)

/-- Reads the role with an id. -/
def role (id : Int) : Journal Role :=
  .query [.role] (s.database.role id)

/-- Reads the hierarchy of the organizations. -/
def hierarchy : Journal Hierarchy :=
  .read [.organization] s.database.hierarchy

/-- Reads the menus of a role. -/
def menusOf (roleId : Int) : Journal (List Int) :=
  .read [.roleMenu] (s.database.menusOf roleId)

/-- Reads the forest of all menus under a selection. -/
def menuForest (selection : Selection) : Journal (Forest TreeNode) :=
  .read [.menu] (s.database.menuForest selection)

/-- Lets an account hand on some menus if they cover those of its own role; the super administrator
hands on any. -/
def requireCover (current : Account) (menus : Journal (List Int)) : Journal Unit :=
  if isSuperAdmin (some current.id) then .done ()
  else do
    Access.checkMenuSubset (← s.menusOf current.roleId) (← menus)

/-! ## The policy -/

/-- Rebuilds the policy from the rows of the database. -/
def loadPolicy : Journal State := do
  let rows ← .read [.roleMenu, .route, .account] s.database.policyRows
  .notes rows.lines
  return { s with policy := rows.policy }

/-- Whether the policy lets an account use a method on a path. -/
def mayUse (account : Int) (path method : String) : Journal Bool := do
  let allowed ← .ofExcept ((s.policy.allows account path method).mapError .badExpression)
  if allowed then return true
  else
    .note ⟨.warning, Access.policySource,
      "[check_permission] denied | 'user_id': " ++ Text.decimal account ++ ", 'path': " ++ path ++
        ", 'method': " ++ method⟩
    return false

end State

/-- An account as the guard sees it. -/
def Account.caller (a : Account) : Caller :=
  { id := some a.id, home := a.organizationId }

end Tenancy
