import Tenancy.Http.Message
import Tenancy.State.Command
import Tenancy.Token.Basic
import Tenancy.Token.Lifetime

/-!
# Answers as responses

The JSON form of what the system answers.
-/

namespace Tenancy

/-- The nodes of a forest as nested objects. -/
def Forest.toJson : Forest TreeNode → List Json
  | .nil => []
  | .cons n children siblings =>
    .obj [("id", .int n.id), ("name", .str n.name), ("selected", .bool n.selected),
      ("partial_selected", .bool n.partlySelected), ("is_authorized", .bool n.authorized),
      ("children", .arr children.toJson)] :: siblings.toJson

/-- What is shown of an account. -/
def Account.shown (a : Account) : Json.Members :=
  [("id", .int a.id), ("name", .str a.name), ("email", Json.ofText? a.email),
    ("phone", Json.ofText? a.phone), ("organization_id", .int a.organizationId),
    ("organization_name", .str a.organizationName), ("role_id", .int a.roleId),
    ("role_name", .str a.roleName), ("is_deletable", .bool a.isDeletable)]

/-- What is shown of a role. -/
def Role.shown (r : Role) : Json.Members :=
  [("id", .int r.id), ("name", .str r.name), ("description", .str r.description),
    ("created_by", .int r.createdBy), ("created_by_name", .str r.createdByName),
    ("is_deletable", .bool r.isDeletable)]

/-- What is shown of an organization. -/
def Organization.shown (o : Organization) : Json.Members :=
  [("id", .int o.id), ("name", .str o.name), ("parent_id", .int o.parentId),
    ("parent_name", Json.ofText? o.parentName)]

/-- What is shown of an entry of the audit trail. -/
def OperationLog.shown (l : OperationLog) : Json.Members :=
  [("id", .int l.id), ("account_id", .int l.accountId), ("account_name", .str l.accountName),
    ("ip_address", .str l.ipAddress), ("user_agent", .str l.userAgent),
    ("operation_type", .str l.type), ("operation_module", .str l.area),
    ("operation_description", .str l.description), ("operation_result", .str l.result)]

/-- A page of a listing. -/
def Listing.toJson {α : Type} (shown : α → Json.Members) (l : Listing α) : Json :=
  .obj [("total", .int l.total), ("data", .arr (l.rows.map fun row => .obj (shown row)))]

/-- An answer as an object; a token that it contains is issued at the given time. -/
def Answer.toJson (settings : Settings) (now : Int) : Answer → Json
  | .account a => .obj a.shown
  | .entered a =>
    let token := Token.sign settings (Token.claimsFor now a.id a.name settings.lifetime)
    .obj [("token", .str (String.ofList (Http.headerText token))), ("user_id", .int a.id),
      ("expires_in", .int settings.lifetime)]
  | .created id => .obj [("id", .int id)]
  | .accounts l =>
    l.toJson fun entry =>
      entry.account.shown ++ ([("is_authorized", .bool entry.authorized)] : Json.Members)
  | .accountDetail d =>
    .obj (d.account.shown ++ ([("menus", .arr d.menus.toJson)] : Json.Members))
  | .roles l => l.toJson Role.shown
  | .roleDetail d =>
    .obj [("id", .int d.role.id), ("name", .str d.role.name),
      ("description", .str d.role.description), ("menus", .arr d.menus.toJson)]
  | .organization o => .obj o.shown
  | .organizations f => .obj [("organizations", .arr f.toJson)]
  | .menus f => .obj [("menus", .arr f.toJson)]
  | .operationLogs l => l.toJson OperationLog.shown

/-- The greatest number of levels of a forest in a response. -/
def maxLevels : Nat := 254

/-- Whether an answer contains a token without a lifetime. -/
def Answer.isUndated (settings : Settings) (now : Int) : Answer → Bool
  | .entered _ => !(Token.lifetime settings now .null).isOk
  | _ => false

/-- Whether an answer fits into a response. -/
def Answer.fits (settings : Settings) (now : Int) (a : Answer) : Bool :=
  a.forest.height ≤ maxLevels && !a.isUndated settings now

/-- The status of an answer: something was made, or shown. -/
def Answer.status : Answer → Nat
  | .account _ | .created _ => 201
  | _ => 200

end Tenancy
