import Tenancy.Http.Endpoint
import Tenancy.Json.Octets
import Tenancy.State.Command

/-!
# From requests to commands

The body of a request is read first, as JSON if its content type says so. The path, the query and
the body then give a command, or the issues of all three.
-/

namespace Tenancy.Http

open Validation

/-- The body of a request once it is read. -/
inductive Payload where
  | absent
  | unread (octets : List UInt8)
  | value (j : Json)

/-- Whether a content type is JSON, or something written in JSON. -/
def isJsonType (contentType : List UInt8) : Bool :=
  let value := (headerText contentType).takeWhile (· ≠ ';')
  match Text.splitAt '/' (Text.lower Text.edition14 (Text.strip value)) with
  | [main, sub] =>
    main == "application".toList &&
      (sub == "json".toList || "+json".toList.isSuffixOf sub)
  | _ => false

/-- Reads the body of a request, whose values are as deep as `depth` at most, or answers that it
cannot be read. -/
def Request.payload (depth : Nat) (r : Request) : Except Response Payload :=
  if r.body.isEmpty then .ok .absent
  else if (r.contentType.any isJsonType) then
    match Json.readOctets depth r.body with
    | .ok j => .ok (.value j)
    | .error (.text e s) =>
      match e.flaw with
      | .longNumeral _ => .error .unreadableBody
      | _ =>
        .error (.invalid
          [{ place := [.name "body", .index (e.offset s)], complaint := .brokenJson }])
    | .error _ => .error .unreadableBody
  else .ok (.unread r.body)

/-- Reads the object in the body. Octets that have not been read can be sent back as a text. -/
def Payload.read {α : Type} (reader : Json.Members → Checked α) : Payload → Checked α
  | .absent => .error [{ place := [.name "body"], complaint := .missing }]
  | .value (.obj members) => (reader members).within [.name "body"]
  | .value other => (whole (fun _ => .error .bodyType) other).within [.name "body"]
  | .unread octets =>
    .error [{ place := [.name "body"], complaint := .bodyType
              echoed := (Text.Utf8.decode octets).isOk }]

/-- Reads the part that the form of the path leaves open as an integer. -/
def readPart (name : String) (part : List Char) : Checked Int :=
  (whole readInt (.str (String.ofList part))).within [.name "path", .name name]

/-- The parameters of a request. -/
abbrev Parameters := List (String × String)

namespace Parameters

variable (ps : Parameters)

/-- Reads a parameter that may be absent. -/
def read {α : Type} (name : String) (absent : Checked α) (reader : Json → Except Complaint α) :
    Checked α :=
  (match parameter? ps name with
    | none => absent
    | some text => whole reader (.str text)).within [.name "query", .name name]

/-- Reads a text. -/
def plainText : Json → Except Complaint String
  | .str s => .ok s
  | _ => .error .stringType

/-- Reads a text of limited length. -/
def text (name : String) (most : Nat) : Checked (Option String) :=
  read ps name (.ok none) fun value => do
    let s ← plainText value
    if most < s.length then .error (.tooLong most) else return some s

/-- Reads a page. -/
def page : Checked Page :=
  ((read ps "page_no" (.ok 1) (readIntIn 1 none)).both
    (read ps "page_size" (.ok 10) (readIntIn 1 (some 100)))).map
    fun (number, size) => { number, size }

/-- Reads a filter of accounts. -/
def accountFilter : Checked AccountFilter :=
  ((text ps "account_name" 20).both
    (read ps "organization_id" (.ok none) fun value => some <$> readInt value)).map
    fun (name, organizationId) => { name, organizationId }

/-- Reads a limit, which has to be there. -/
def limit : Checked LimitType :=
  read ps "limit_type" (.error [{ place := [], complaint := .missing }]) fun value => do
    match LimitType.ofWord (← plainText value) with
    | .other _ => .error .limitType
    | limit => return limit

end Parameters

/-- The command for an endpoint; the last two endpoints ask for none. -/
def Endpoint.command (part : List Char) (ps : Parameters) (body : Payload) :
    Endpoint → Checked (Option Command)
  | .bootstrap => (body.read Credentials.read).map (some ∘ .bootstrap)
  | .login => (body.read Credentials.read).map (some ∘ .login)
  | .createAccount => (body.read NewAccount.read).map (some ∘ .createAccount)
  | .listAccounts =>
    (ps.accountFilter.both ps.page).map fun (filter, page) => some (.listAccounts page filter)
  | .currentAccount => .ok (some .currentAccount)
  | .accountDetail => (readPart "target_account_id" part).map (some ∘ .accountDetail)
  | .createRole => (body.read NewRole.read).map (some ∘ .createRole)
  | .listRoles => ((ps.text "name" 10).both ps.page).map fun (name, page) =>
    some (.listRoles page name)
  | .roleDetail => (readPart "role_id" part).map (some ∘ .roleDetail)
  | .createOrganization => (body.read NewOrganization.read).map (some ∘ .createOrganization)
  | .organizationTree => ps.limit.map (some ∘ .organizationTree)
  | .organizationDetail => (readPart "organization_id" part).map (some ∘ .organizationDetail)
  | .menus => .ok (some .menus)
  | .listOperationLogs => ps.page.map (some ∘ .listOperationLogs)
  | .health | .readiness => .ok none

end Tenancy.Http
