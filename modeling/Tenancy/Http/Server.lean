import Tenancy.Http.Input
import Tenancy.Http.View
import Tenancy.Json.Display
import Tenancy.Token.Subject

/-!
# The server

A request goes through these gates, each of which may answer it:

1. its target leads to an endpoint;
2. its body can be read;
3. its token names an account, if the endpoint asks for one;
4. the policy permits the account, if the endpoint asks for that;
5. its path, query and body give a command;
6. the command succeeds.

A request with any method but `GET` that names an account, by its token or by entering the system,
leaves an entry in the audit trail once it is answered, unless its path is one of those that ask for
the health of the server. A request that fails for a reason which is not answered leaves none, and a
failure to record does not change the answer.

The policy and the audit trail go by the path of the URL, and the target by the path of the request.
A URL without a path fails at the policy, or after the last gate if the policy is not asked.
-/

namespace Tenancy.Http

/-- The server: the state of the system, whether the database can be opened, which tables are gone,
and the time, in seconds. -/
structure Server where
  state : State := {}
  online : Bool := true
  dropped : List TableName := []
  clock : Int

/-- What was done about a request. No response stands for a failure that is not answered. -/
structure Turn where
  state : State
  account : Option (Int × Json.Str) := none
  lines : List LogLine := []
  response : Option Response

/-- The token of a request: its bearer credentials. -/
def Request.token? (r : Request) : Option (List Char) := do
  let value := headerText (← r.authorization)
  let scheme := value.takeWhile (· ≠ ' ')
  if Text.lower Text.edition14 scheme = "bearer".toList then
    some (Text.strip (value.drop (scheme.length + 1)))
  else none

/-- The account that the token of a request names, and its name in the token. -/
def Request.account (settings : Settings) (now : Int) (r : Request) :
    Except Response (Int × Json.Str) :=
  match r.token? with
  | none => .error .notAuthenticated
  | some token =>
    match Token.verify settings now (Text.Utf8.encode token) with
    | .error _ => .error .invalidToken
    | .ok claims =>
      match subjectOf claims with
      | .error _ => .error .invalidToken
      | .ok id => .ok (id, ((claims.get? "name").map Json.display).getD (.sound ""))

/-- The response to a fault, if it is answered. -/
def faultResponse (f : Fault) : Option Response :=
  f.kind.status?.map fun status => .detail status (.str f.message)

namespace Server

variable (s : Server)

/-- Whether a table can be used. -/
def usable (table : TableName) : Bool :=
  s.online && table ∉ s.dropped

/-- Carries out a command; an account that enters the system by it becomes that of the request. An
answer that does not fit into a response is none. -/
def carryOut (account : Option (Int × Json.Str)) (command : Command) : Turn :=
  let j := (s.state.perform ((account.map (·.1)).getD 0) command).within s.usable
  match j.outcome with
  | .error f =>
    let database := j.kept s.state.database
    { state := { s.state with database }, account, lines := j.lines, response := faultResponse f }
  | .ok (state, answer) =>
    let account := match answer with
      | .entered a => some (a.id, .sound a.name)
      | _ => account
    let response :=
      if answer.fits state.settings s.clock then
        some (.ok answer.status (answer.toJson state.settings s.clock))
      else none
    { state, account, lines := j.lines, response }

/-- Whether the server is well, and whether its database is. -/
def wellness : Endpoint → Response
  | .readiness =>
    let checks (word : String) : Json.Str × Json := ("checks", .obj [("db", .str word)])
    if s.online then .ok 200 (.obj [("status", .str "ready"), checks "ok"])
    else .detail 503 (.obj [("status", .str "not_ready"), checks "fail"])
  | _ => .ok 200 (.obj [("status", .str "ok")])

/-- The last two gates. -/
def serve (endpoint : Endpoint) (part : List Char) (r : Request) (body : Payload)
    (account : Option (Int × Json.Str)) : Turn :=
  match endpoint.command part r.parameters body with
  | .error issues =>
    let response := if issues.all (·.echoed) then some (Response.invalid issues) else none
    { state := s.state, account, response }
  | .ok none => { state := s.state, account, response := some (s.wellness endpoint) }
  | .ok (some command) => s.carryOut account command

/-- The gates of the token and the policy, and what follows. -/
def enter (endpoint : Endpoint) (part : List Char) (r : Request) (body : Payload) : Turn :=
  if endpoint.entrance = .everybody then s.serve endpoint part r body none
  else
    match r.account s.state.settings s.clock with
    | .error response => { state := s.state, response := some response }
    | .ok account =>
      if endpoint.entrance = .account then s.serve endpoint part r body account
      else
        match r.urlPath? with
        | none => { state := s.state, account, response := none }
        | some path =>
          let j := s.state.mayUse account.1 path r.method
          let turn : Turn := match j.outcome with
            | .error f => { state := s.state, account, response := faultResponse f }
            | .ok false =>
              { state := s.state, account, response := some (.missingPermission r.method path) }
            | .ok true => s.serve endpoint part r body account
          { turn with lines := j.lines ++ turn.lines }

/-- The location that a request is sent on to, if it can be told. -/
def location? (r : Request) (path : List Char) : Option String :=
  let scheme := if r.secure then "https://" else "http://"
  (r.addressWith? path).map fun address => String.ofList (escape (scheme.toList ++ address))

/-- Takes a request through all gates. -/
def take (r : Request) : Turn :=
  match Target.of r.method r.plainPath with
  | .unknown => { state := s.state, response := some .notFound }
  | .otherMethod => { state := s.state, response := some .methodNotAllowed }
  | .redirect path => { state := s.state, response := (location? r path).map .redirect }
  | .found endpoint part =>
    if endpoint.readsBody then
      match r.payload s.state.settings.bodyDepth with
      | .error response => { state := s.state, response := some response }
      | .ok body => s.enter endpoint part r body
    else s.enter endpoint part r .absent

/-- The logger of the audit trail. -/
def auditSource : String := "orgadmin.infra.audit"

/-- Records a request of an account under a path in the audit trail, or logs that this failed. A
name that is not made of characters cannot be recorded. -/
def record (r : Request) (path : String) (id : Int) (name : Json.Str) (status : Nat) :
    Server × List LogLine :=
  let recorded : Journal (State × OperationLog) :=
    match name with
    | .unsound _ => .fail .textRefused
    | .sound name =>
      s.state.record
        { accountId := id, accountName := name, ipAddress := r.client
          userAgent := r.userAgent.map fun agent => String.ofList (headerText agent)
          method := r.method, path, status }
  match (recorded.within s.usable).outcome with
  | .ok (state, _) => ({ s with state }, [])
  | .error _ =>
    (s, [⟨.error, auditSource, "[OperationLogMiddleware] failed to record | 'path': " ++ path ++
      ", 'method': " ++ r.method⟩])

/-- The paths that the audit trail passes over. -/
def skippedPaths : List String :=
  ["/healthz", "/readyz"]

/-- Answers a request. The path of the URL is looked at once more, and without one there is no
answer, whatever has been done. -/
def answer (r : Request) : Server × List LogLine × Response :=
  let turn := s.take r
  let after := { s with state := turn.state }
  match turn.response, r.urlPath? with
  | some response, some path =>
    match turn.account with
    | none => (after, turn.lines, response)
    | some (id, name) =>
      if r.method = "GET" ∨ path ∈ skippedPaths then (after, turn.lines, response)
      else
        let (after, lines) := after.record r path id name response.status
        (after, turn.lines ++ lines, response)
  | _, _ => (after, turn.lines, .internalError)

/-- Rebuilds the policy. -/
def loadPolicy : Journal Server := do
  let state ← s.state.loadPolicy.within s.usable
  return { s with state }

/-- The logger of the server. -/
def serverSource : String := "orgadmin.main"

/-- Starts the server anew: the policy is rebuilt, or stays empty if the database cannot be
used. -/
def restart : Server × List LogLine :=
  let fresh := { s with state.policy := {} }
  let j := fresh.loadPolicy
  match j.outcome with
  | .ok server => (server, j.lines)
  | .error _ =>
    (fresh, [⟨.error, serverSource,
      "[lifespan] policy store not loaded, database unavailable"⟩])

/-- Removes a table, unless rows of other tables refer to its rows. -/
def drop (table : TableName) : Except Fault Server := do
  let db := s.state.database
  let gone (db : Database) : Server :=
    { s with state.database := db, dropped := table :: s.dropped }
  if table ∈ s.dropped then .error .databaseUnavailable
  else
    match table with
    | .organization => return gone { db with organizations := [] }
    | .menu =>
      Database.require (db.routes = [] && db.roleMenus = [])
      return gone { db with menus := [] }
    | .route => return gone { db with routes := [] }
    | .role =>
      Database.require (db.roleMenus = [])
      return gone { db with roles := [] }
    | .roleMenu => return gone { db with roleMenus := [] }
    | .account => return gone { db with accounts := [] }
    | .operationLog => return gone { db with operationLogs := [] }

end Server

end Tenancy.Http
