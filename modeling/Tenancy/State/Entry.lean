import Tenancy.Database.Catalogue
import Tenancy.Password
import Tenancy.State.Basic

/-!
# Entering the system

The first account is the super administrator's: it is made once, together with the catalogue of
menus. From then on an account enters with its name and its password.
-/

namespace Tenancy

/-- The logger of the catalogue. -/
def catalogueSource : String := "orgadmin.infra.seed"

/-- The draft of the super administrator's account. -/
def superAdminDraft (salt : String) (credentials : Credentials) : Account.Draft :=
  { id := superAdminId
    name := credentials.username
    passwordHash := passwordHash salt credentials.password
    organizationId := rootOrganizationId
    organizationName := rootOrganizationName
    roleId := superAdminRoleId
    roleName := superAdminRoleName
    isDeletable := false }

namespace State

variable (s : State)

/-- The database with the catalogue, if it has no menus. The catalogue stays, whatever comes
after. -/
def seeded : Journal Database := do
  let menus ← .read [.menu] s.database.menus
  if menus = [] then
    let db ← .query TableName.route.written s.database.seed
    .keep db
    .note ⟨.info, catalogueSource,
      "[seed_menu_catalogue] default menus created | 'routes': " ++ Text.decimal catalogueRoutes⟩
    return db
  else return s.database

/-- Makes the super administrator's account, as long as there is no account. -/
def bootstrap (credentials : Credentials) : Journal (State × Account) := do
  let accounts ← .read [.account] s.database.accounts
  if accounts ≠ [] then .fail .alreadyInitialized
  else
    let db ← s.seeded
    let (db, account) ← .query [.account]
      (conflictAs .alreadyInitialized
        (db.insertAccount (superAdminDraft s.settings.salt credentials)))
    .note ⟨.info, adminSource,
      "[bootstrap_admin] super admin created | 'name': " ++ account.name⟩
    return ({ s with database := db }, account)

/-- The account with the name and the password of the credentials. -/
def login (credentials : Credentials) : Journal Account := do
  let found ← .read [.account] (s.database.accounts.find? (·.name = credentials.username))
  match found with
  | some account =>
    if account.passwordHash = passwordHash s.settings.salt credentials.password then return account
    else refuse
  | none => refuse
where
  refuse : Journal Account := do
    .note ⟨.warning, adminSource,
      "[login] rejected credentials | 'name': " ++ credentials.username⟩
    .fail .invalidCredentials

end State

end Tenancy
