import Tenancy.Organization.View
import Tenancy.State.Basic

/-!
# Organizations

Organizations are made below the home of the account that asks, or at it, and shown below it.
-/

namespace Tenancy.State

variable (s : State)

/-- The name of the parent of a new organization; the root has no name. -/
def parentName (parentId : Int) : Except Fault (Option String) :=
  if parentId = rootOrganizationId then .ok none
  else
    match s.database.organizations.find? (·.id = parentId) with
    | some parent => .ok (some parent.name)
    | none => .error .parentNotFound

/-- Makes an organization. -/
def createOrganization (caller : Int) (request : NewOrganization) :
    Journal (State × Organization) := do
  let current ← s.account caller
  let hierarchy ← s.hierarchy
  let parentName ← .ofExcept (s.parentName request.parentId)
  hierarchy.checkParent current.caller request.parentId
  let (db, organization) ← .query [.organization]
    (conflictAs .organizationNameTaken (s.database.insertOrganization
      { name := request.name, parentId := request.parentId, parentName }))
  .note ⟨.info, adminSource,
    "[create_organization] organization created | 'organization_id': " ++
      Text.decimal organization.id ++ ", 'parent_id': " ++ Text.decimal organization.parentId⟩
  return ({ s with database := db }, organization)

/-- Shows an organization below the home of the account that asks. -/
def organizationDetail (caller id : Int) : Journal Organization := do
  let current ← s.account caller
  let organization ← s.organization id
  let hierarchy ← s.hierarchy
  hierarchy.checkScope current.caller id .subOrganization
  return organization

/-- Shows the tree of organizations that the account that asks gets under a limit. -/
def organizationTree (caller : Int) (limit : LimitType) : Journal (Forest TreeNode) := do
  let current ← s.account caller
  let hierarchy ← s.hierarchy
  match hierarchy.homeView current.organizationId limit with
  | .ok view => return view
  | .error _ =>
    .note ⟨.warning, adminSource,
      "[organization_tree] ancestor chain unresolved | 'organization_id': " ++
        Text.decimal current.organizationId⟩
    .fail .scopeUnresolved

end Tenancy.State
