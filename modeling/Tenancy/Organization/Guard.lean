import Tenancy.Identity
import Tenancy.Journal

/-!
# The scope guard

The guard decides on which organizations an account may act, by its id and its home organization
and one reading of the hierarchy. Its scopes fail closed: when the home has no first-level
ancestor, the scope cannot be resolved and the account is denied.
-/

namespace Tenancy

/-- The account that asks: its id, if it has one, and its home organization. -/
structure Caller where
  id : Option Int
  home : Int
  deriving DecidableEq, Repr

/-- The id of an account in log lines. -/
def Caller.idText (caller : Caller) : String :=
  (caller.id.map Text.decimal).getD "None"

namespace Hierarchy

variable (h : Hierarchy)

/-- The logger of the guard. -/
def guardSource : String := "orgadmin.services.scope_guard"

/-- The scope of the caller under a limit; an unresolved chain of parents is a denial. -/
def scopeOf (caller : Caller) (limit : LimitType) : Journal (List Int) :=
  match h.resolveScope caller.home (isSuperAdmin caller.id) limit with
  | .ok scope => .done scope
  | .error (.invalidLimit limit) => .fail (.invalidLimit limit)
  | .error (.unresolved _) => do
    .note ⟨.warning, guardSource,
      "[ScopeGuard.organization_scope] ancestor chain unresolved | 'account_id': " ++
        caller.idText ++ ", 'organization_id': " ++ Text.decimal caller.home⟩
    .fail .scopeUnresolved

/-- Lets the caller act on `target`, or denies it. An account homed at the root passes every
first-level check, and an account passes the check of its own home if the limit includes it. The
limit `root` is checked like the first level. -/
def checkScope (caller : Caller) (target : Int) (limit : LimitType) : Journal Unit :=
  if caller.home = rootOrganizationId ∧ limit = .firstLevel then .done ()
  else if limit = .subOrganizationIncludeSelf ∧ target = caller.home then .done ()
  else do
    let limit := if limit = .root then .firstLevel else limit
    let scope ← h.scopeOf caller limit
    if target ∈ scope then .done ()
    else
      .note ⟨.warning, guardSource,
        "[check_organization_user_creation_permission] out of scope | 'account_id': " ++
          caller.idText ++ ", 'target_org_id': " ++ Text.decimal target ++ ", 'limit_type': " ++
          limit.word⟩
      .fail .outsideScope

/-- Lets the caller make an organization directly under `parent`: at its own home or below, or
anywhere if it is the super administrator. -/
def checkParent (caller : Caller) (parent : Int) : Journal Unit :=
  if isSuperAdmin caller.id then .done ()
  else h.checkScope caller parent .subOrganizationIncludeSelf

/-- The organizations whose accounts are listed, and those among them that the caller may act on.
No organization in the first list means that the listing is not restricted, which only the super
administrator gets; every other account sees at least its own organization. -/
def listingScope (caller : Caller) : Journal (List Int × List Int) :=
  if isSuperAdmin caller.id then .done ([], h.ids)
  else do
    let listing ← h.scopeOf caller .firstLevel
    let authorized ← h.scopeOf caller .subOrganizationIncludeSelf
    return (caller.home :: listing, caller.home :: authorized)

end Hierarchy

end Tenancy
