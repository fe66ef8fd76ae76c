import Tenancy.Database.Like
import Tenancy.Password
import Tenancy.State.Basic

/-!
# Accounts

Accounts are made, listed and shown within the first-level organization of the account that asks.
-/

namespace Tenancy

/-- A part of a name, or an organization, that a listing of accounts is limited to. -/
structure AccountFilter where
  name : Option String := none
  organizationId : Option Int := none
  deriving DecidableEq, Repr

/-- The search text of a filter: without blanks at its ends and in lower case. -/
def searchText (s : String) : String :=
  String.ofList (Text.lower Text.edition14 (Text.strip s.toList))

/-- Whether a filter by name is in use. -/
def isSearch (name : Option String) : Bool :=
  name.any (!·.isEmpty)

/-- Whether a name is found. -/
def found (name : Option String) (text : String) : Bool :=
  name.all fun part => containsLike (searchText part) text

/-- Whether an account passes a filter. The organization counts only without a name. -/
def AccountFilter.accepts (f : AccountFilter) (a : Account) : Bool :=
  if isSearch f.name then found f.name a.name
  else f.organizationId.all (a.organizationId = ·)

/-- The integers that a filter hands to the database. -/
def AccountFilter.integers (f : AccountFilter) : List Int :=
  if isSearch f.name then [] else f.organizationId.toList

/-- An account in a listing, and whether the account that asks may act on it. -/
structure AccountEntry where
  account : Account
  authorized : Bool
  deriving Repr

/-- An account and its menus. -/
structure AccountDetail where
  account : Account
  menus : Forest TreeNode

namespace State

variable (s : State)

/-- Makes an account. Its home has to be within the first-level organization of the account that
asks, and its role has to cover the menus of that account's role. -/
def createAccount (caller : Int) (request : NewAccount) : Journal (State × Account) := do
  let current ← s.account caller
  let hierarchy ← s.hierarchy
  hierarchy.checkScope current.caller request.organizationId .firstLevel
  let organization ← s.organization request.organizationId
  let role ← s.role request.roleId
  s.requireCover current (s.menusOf role.id)
  let (db, account) ← .query [.account] (conflictAs .accountNameTaken (s.database.insertAccount
    { name := request.name
      passwordHash := passwordHash s.settings.salt request.password
      email := request.email
      organizationId := organization.id
      organizationName := organization.name
      roleId := role.id
      roleName := role.name }))
  .note (Access.assignLine account.id account.roleId)
  .note ⟨.info, adminSource,
    "[create_account] account created | 'account_id': " ++ Text.decimal account.id ++
      ", 'organization_id': " ++ Text.decimal account.organizationId ++ ", 'role_id': " ++
      Text.decimal account.roleId⟩
  return ({ s with database := db, policy := s.policy.assign account.id account.roleId }, account)

/-- Lists the accounts that the account that asks may see, the latest first. -/
def listAccounts (caller : Int) (page : Page) (filter : AccountFilter) :
    Journal (Listing AccountEntry) := do
  let current ← s.account caller
  let hierarchy ← s.hierarchy
  let (visible, authorized) ← hierarchy.listingScope current.caller
  .query [.account] (Database.checkWidth filter.integers)
  let rows := s.database.accounts.filter fun a =>
    (visible = [] || a.organizationId ∈ visible) && filter.accepts a
  let listing ← .query [.account] (page.of rows.reverse)
  return {
    total := listing.total
    rows := listing.rows.map fun a =>
      { account := a, authorized := a.organizationId ∈ authorized || a.id = current.id } }

/-- Reads the menus that an account has. -/
def selectionOf (account : Account) : Journal Selection :=
  let table : TableName := if isSuperAdmin (some account.id) then .menu else .roleMenu
  .read [table] (s.database.selectionOf account)

/-- Shows an account to `current`, within the first-level organization of the latter. -/
def showAccount (current target : Account) : Journal AccountDetail := do
  let hierarchy ← s.hierarchy
  hierarchy.checkScope current.caller target.organizationId .firstLevel
  let selection ← s.selectionOf target
  return { account := target, menus := ← s.menuForest selection }

/-- Shows the account that asks. -/
def currentAccount (caller : Int) : Journal AccountDetail := do
  let current ← s.account caller
  s.showAccount current current

/-- Shows an account. -/
def accountDetail (caller target : Int) : Journal AccountDetail := do
  let current ← s.account caller
  let target ← s.account target
  s.showAccount current target

end State

end Tenancy
