import Tenancy.Access.Pattern
import Tenancy.Identity
import Tenancy.Text.LetterCase

/-!
# The access policy

The policy holds rules, each of which permits a role to use a method on the paths of a pattern,
and assignments of roles to accounts. Rules and assignments are held at most once, in the order in
which they came. A request is allowed if the first rule that decides it does: the rules are tried
in order, and of each the role is looked at first, then the path, then the method. A pattern that
is no expression is noticed only when its rule's role was found.
-/

namespace Tenancy.Access

/-- A path pattern and a method in upper case. -/
structure Permission where
  pattern : String
  method : String
  deriving DecidableEq, Repr

/-- A permission of a role. -/
structure Rule where
  role : Int
  permission : Permission
  deriving DecidableEq, Repr

/-- The rules, and the assignments as pairs of account and role. -/
structure Policy where
  rules : List Rule := []
  assignments : List (Int × Int) := []
  deriving DecidableEq, Repr

/-- A method in upper case. -/
def upperMethod (method : String) : String :=
  String.ofList (Text.upper method.toList)

/-- The permissions of routes, given by pattern and method, in the order of their first
occurrences. -/
def permissionsOf (routes : List (String × String)) : List Permission :=
  distinct (routes.map fun (pattern, method) => ⟨pattern, upperMethod method⟩)

namespace Policy

/-- Adds `a` to the end unless it is there. -/
def addOnce {α : Type} [DecidableEq α] (l : List α) (a : α) : List α :=
  if a ∈ l then l else l ++ [a]

/-- Gives a role the permissions of some routes. -/
def grant (p : Policy) (role : Int) (routes : List (String × String)) : Policy :=
  { p with rules := ((permissionsOf routes).map (Rule.mk role)).foldl addOnce p.rules }

/-- Gives an account a role. -/
def assign (p : Policy) (account role : Int) : Policy :=
  { p with assignments := addOnce p.assignments (account, role) }

/-- Whether the account has the role. -/
def hasRole (p : Policy) (account role : Int) : Bool :=
  (account, role) ∈ p.assignments

/-- The permissions of a role, in the order in which they came. -/
def permissions (p : Policy) (role : Int) : List Permission :=
  (p.rules.filter (·.role = role)).map (·.permission)

/-- Tries rules in order. -/
def verdict (holds : Int → Bool) (path method : String) : List Rule → Except ExpressionError Bool
  | [] => .ok false
  | rule :: rest =>
    if holds rule.role then do
      let found ← Pattern.matchesPath rule.permission.pattern path
      if found && method == rule.permission.method then return true
      else verdict holds path method rest
    else verdict holds path method rest

/-- Whether an account may use a method on a path; the super administrator always may. -/
def allows (p : Policy) (account : Int) (path method : String) : Except ExpressionError Bool :=
  if isSuperAdmin (some account) then .ok true
  else verdict (p.hasRole account) path (upperMethod method) p.rules

end Policy

/-- What a policy is built from: which role has which menu, which routes belong to which menu, and
which account has which role. -/
structure PolicyRows where
  /-- Pairs of role and menu. -/
  roleMenus : List (Int × Int)
  /-- Pattern, method and menu. -/
  routes : List (String × String × Int)
  /-- Pairs of account, which may lack an id, and role. -/
  accounts : List (Option Int × Int)

namespace PolicyRows

/-- The roles that have a menu, in the order of their first menus. -/
def roles (rows : PolicyRows) : List Int :=
  distinct (rows.roleMenus.map (·.1))

/-- The routes of a role: for each of its menus in order, the routes of that menu in order. -/
def routesOf (rows : PolicyRows) (role : Int) : List (String × String) :=
  (rows.roleMenus.filter (·.1 = role)).flatMap fun (_, menu) =>
    rows.routes.filterMap fun (pattern, method, owner) =>
      if owner = menu then some (pattern, method) else none

/-- The accounts that get a role: those with an id, except the super administrator. -/
def members (rows : PolicyRows) : List (Int × Int) :=
  rows.accounts.filterMap fun (id, role) =>
    if isSuperAdmin id then none else id.map (·, role)

/-- The policy built from rows. -/
def policy (rows : PolicyRows) : Policy :=
  let granted := rows.roles.foldl (fun p role => p.grant role (rows.routesOf role)) {}
  rows.members.foldl (fun p (account, role) => p.assign account role) granted

end PolicyRows

end Tenancy.Access
