import Tenancy.Http.Authority
import Tenancy.Http.Url
import Tenancy.Json.Basic
import Tenancy.Validation.Issue

/-!
# Requests and responses

A request as it comes in, and the responses of fixed form.
-/

namespace Tenancy.Http

/-- A request: its method and target, the headers that count, its body and the address of its
sender. The path comes with percent escapes; the query, the headers and the body are octets. -/
structure Request where
  method : String
  path : String
  query : List UInt8 := []
  /-- The host that is asked, as the sender names it, or the address of the server if the sender
  names none. -/
  host : List UInt8
  authorization : Option (List UInt8) := none
  contentType : Option (List UInt8) := none
  userAgent : Option (List UInt8) := none
  client : Option String := none
  /-- Whether the connection is encrypted. -/
  secure : Bool := false
  body : List UInt8 := []
  deriving DecidableEq, Repr

namespace Request

/-- The path without percent escapes. -/
def plainPath (r : Request) : List Char :=
  unescape r.path.toList

/-- The URL of a request behind its scheme and two slashes, with `path` for its path. There is none
if the query is no text. -/
def addressWith? (r : Request) (path : List Char) : Option (List Char) :=
  if r.query.isEmpty then some (headerText r.host ++ path)
  else
    match Text.Utf8.decode r.query with
    | .error _ => none
    | .ok query => some (headerText r.host ++ path ++ '?' :: query)

/-- The path by which permissions and the audit trail know a request: that of its URL. The host is
part of it, so that it need not be the path that leads to the endpoint. -/
def urlPath? (r : Request) : Option String := do
  let address ← r.addressWith? r.plainPath
  let path ← pathBehind? address
  return String.ofList path

/-- The names and values of the query. -/
def parameters (r : Request) : List (String × String) :=
  Http.parameters (headerText r.query)

end Request

/-- The body of a response. -/
inductive Body where
  | empty
  | json (value : Json)
  | text (s : String)

/-- A response. -/
structure Response where
  status : Nat
  body : Body
  location : Option String := none
  /-- Whether the sender is asked for a token. -/
  challenge : Bool := false

namespace Response

/-- A JSON value. -/
def ok (status : Nat) (value : Json) : Response :=
  { status, body := .json value }

/-- A reason in a word or a value. -/
def detail (status : Nat) (reason : Json) : Response :=
  ok status (.obj [("detail", reason)])

/-- No such path. -/
def notFound : Response :=
  detail 404 (.str "Not Found")

/-- No such method on the path. -/
def methodNotAllowed : Response :=
  detail 405 (.str "Method Not Allowed")

/-- The path to go to instead. -/
def redirect (location : String) : Response :=
  { status := 307, body := .empty, location := some location }

/-- A token is asked for. -/
def notAuthenticated : Response :=
  { detail 401 (.str "Not authenticated") with challenge := true }

/-- The token is refused. -/
def invalidToken : Response :=
  detail 401 (.str "Invalid token")

/-- The policy does not let the account use the method on the path. -/
def missingPermission (method path : String) : Response :=
  detail 403 (.str ("Missing permission: " ++ method ++ " " ++ path))

/-- The input has issues. -/
def invalid (issues : List Issue) : Response :=
  detail 422 (.arr (issues.map Issue.toJson))

/-- The body cannot be read. -/
def unreadableBody : Response :=
  detail 400 (.str "There was an error parsing the body")

/-- Something failed that is not answered. -/
def internalError : Response :=
  { status := 500, body := .text "Internal Server Error" }

end Response

end Tenancy.Http
