import Tenancy.Http.Message

/-!
# Endpoints

The endpoints in the order in which a path is compared with them. The form of a path is a text, or
two texts around a part that is not empty and has no slash. A line end after the path is overlooked.
-/

namespace Tenancy.Http

/-- The endpoints. -/
inductive Endpoint where
  | bootstrap
  | login
  | createAccount
  | listAccounts
  | currentAccount
  | accountDetail
  | createRole
  | listRoles
  | roleDetail
  | createOrganization
  | organizationTree
  | organizationDetail
  | menus
  | listOperationLogs
  | health
  | readiness
  deriving DecidableEq, Repr

/-- The form of a path. -/
inductive PathForm where
  | fixed (path : String)
  | around (front behind : String)
  deriving DecidableEq, Repr

/-- Whether a text is empty but for a line end. -/
def isEnd (s : List Char) : Bool :=
  s == [] || s == ['\n']

/-- The text behind another one. -/
def behind? (front s : List Char) : Option (List Char) :=
  if front.isPrefixOf s then some (s.drop front.length) else none

/-- The part of a path that its form leaves open; it is empty if the form leaves none open. -/
def PathForm.part? (path : List Char) : PathForm → Option (List Char)
  | fixed text => do
    let rest ← behind? text.toList path
    if isEnd rest then some [] else none
  | around front behind => do
    let rest ← behind? front.toList path
    let part := rest.takeWhile (· ≠ '/')
    let tail := rest.drop part.length
    if part = [] then none
    else if behind.isEmpty then if tail = [] then some part else none
    else do
      let tail ← behind? behind.toList tail
      if isEnd tail then some part else none

/-- Who may use an endpoint: everybody, every account, or the accounts that the policy permits. -/
inductive Entrance where
  | everybody
  | account
  | permitted
  deriving DecidableEq, Repr

namespace Endpoint

/-- All endpoints. -/
def all : List Endpoint :=
  [bootstrap, login, createAccount, listAccounts, currentAccount, accountDetail, createRole,
    listRoles, roleDetail, createOrganization, organizationTree, organizationDetail, menus,
    listOperationLogs, health, readiness]

/-- The method of an endpoint. -/
def method : Endpoint → String
  | bootstrap | login | createAccount | createRole | createOrganization => "POST"
  | _ => "GET"

/-- The form of the paths of an endpoint. -/
def form : Endpoint → PathForm
  | bootstrap => .fixed "/api/bootstrap-admin"
  | login => .fixed "/api/login"
  | createAccount | listAccounts => .fixed "/api/accounts"
  | currentAccount => .fixed "/api/accounts/current"
  | accountDetail => .around "/api/accounts/" ""
  | createRole | listRoles => .fixed "/api/roles"
  | roleDetail => .around "/api/roles/" "/detail"
  | createOrganization => .fixed "/api/organizations"
  | organizationTree => .fixed "/api/organizations/tree"
  | organizationDetail => .around "/api/organizations/" ""
  | menus => .fixed "/api/menus"
  | listOperationLogs => .fixed "/api/operation-logs"
  | health => .fixed "/healthz"
  | readiness => .fixed "/readyz"

/-- Who may use an endpoint. -/
def entrance : Endpoint → Entrance
  | bootstrap | login | health | readiness => .everybody
  | currentAccount | organizationTree | menus => .account
  | _ => .permitted

/-- Whether an endpoint reads a body. -/
def readsBody (e : Endpoint) : Bool :=
  e.method == "POST"

end Endpoint

/-- What a target leads to. -/
inductive Target where
  | found (endpoint : Endpoint) (part : List Char)
  | otherMethod
  | redirect (path : List Char)
  | unknown
  deriving DecidableEq, Repr

/-- The path without slashes at its end. -/
def withoutSlashes (path : List Char) : List Char :=
  (path.reverse.dropWhile (· = '/')).reverse

/-- What a method and a path lead to: an endpoint of both, a path that has endpoints of other
methods only, or a path that is known without the slashes at its end. -/
def Target.of (method : String) (path : List Char) : Target :=
  match Endpoint.all.findSome? fun e =>
      if e.method = method then (e.form.part? path).map (e, ·) else none with
  | some (e, part) => .found e part
  | none =>
    let known (p : List Char) := Endpoint.all.any fun e => (e.form.part? p).isSome
    if known path then .otherMethod
    else if path.getLast? = some '/' ∧ known (withoutSlashes path) then
      .redirect (withoutSlashes path)
    else .unknown

end Tenancy.Http
