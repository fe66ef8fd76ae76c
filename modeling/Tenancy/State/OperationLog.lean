import Tenancy.State.Basic

/-!
# Operation logs

Every recorded request leaves an entry. An account sees its own entries and those of the accounts
in the organizations below its home; the super administrator sees all.
-/

namespace Tenancy

/-- A request as it is recorded. -/
structure RecordedRequest where
  accountId : Int
  accountName : String
  ipAddress : Option String
  userAgent : Option String
  method : String
  path : String
  status : Int
  deriving DecidableEq, Repr

/-- The text, unless there is none or an empty one. -/
def orElse (text : Option String) (absent : String) : String :=
  match text with
  | some s => if s.isEmpty then absent else s
  | none => absent

/-- The entry for a request. -/
def RecordedRequest.draft (r : RecordedRequest) : OperationLog.Draft :=
  let info := OperationInfo.ofRequest r.method r.path
  { accountId := r.accountId
    accountName := r.accountName
    ipAddress := orElse r.ipAddress noAddress
    userAgent := orElse r.userAgent noAgent
    type := info.type.name
    area := info.area
    description := info.description
    result := (OperationResult.ofStatus r.status).name }

/-- The entry as it is read back. -/
def OperationLog.reading (l : OperationLog) : Except Fault OperationLog :=
  if l.type ∉ OperationType.names then .error (.unknownType l.type)
  else if l.result ∉ OperationResult.names then .error (.unknownResult l.result)
  else .ok l

namespace State

variable (s : State)

/-- Records a request. -/
def record (r : RecordedRequest) : Journal (State × OperationLog) := do
  let (db, entry) ← .query [.operationLog] (s.database.insertOperationLog r.draft)
  return ({ s with database := db }, entry)

/-- The accounts whose entries an account sees, or `none` for all accounts. -/
def overseen (current : Account) : Journal (Option (List Int)) :=
  if isSuperAdmin (some current.id) then .done none
  else do
    let hierarchy ← s.hierarchy
    let scope ← hierarchy.scopeOf current.caller .subOrganization
    let below ← .read [.account] (s.database.accounts.filter (·.organizationId ∈ scope))
    return some (current.id :: below.map (·.id))

/-- Lists the entries that the account that asks sees, the latest first. -/
def listOperationLogs (caller : Int) (page : Page) : Journal (Listing OperationLog) := do
  let current ← s.account caller
  let seen ← s.overseen current
  let rows := s.database.operationLogs.filter fun l => seen.all (l.accountId ∈ ·)
  let listing ← .query [.operationLog] (page.of rows.reverse)
  let shown ← .ofExcept (listing.rows.mapM OperationLog.reading)
  return { listing with rows := shown }

end State

end Tenancy
