import Tenancy.Validation.Email
import Tenancy.Validation.Scalar

/-!
# Requests

The bodies of requests and the rules of their fields. A request is read from the members of an
object; members that it does not know are ignored.
-/

namespace Tenancy

open Validation

/-- The name of an account: 4 to 20 characters in lower case. -/
def accountNameRule : TextRule := { least := 4, most := 20, lower := true }

/-- A password: 8 to 128 characters. -/
def passwordRule : TextRule := { least := 8, most := 128 }

/-- The name of an organization: 3 to 20 characters. -/
def organizationNameRule : TextRule := { least := 3, most := 20 }

/-- The name of a role: 3 to 10 characters in lower case. -/
def roleNameRule : TextRule := { least := 3, most := 10, lower := true }

/-- The description of a role: 3 to 20 characters. -/
def roleDescriptionRule : TextRule := { least := 3, most := 20 }

namespace Validation

variable {α : Type}

/-- Reads a member that has to be there. -/
def required (members : Json.Members) (name : String) (reader : Json → Checked α) : Checked α :=
  match members.get? name with
  | some value => (reader value).within [.name name]
  | none =>
    .error [{ place := [.name name], complaint := .missing, echoed := (Json.obj members).isPlain }]

/-- Reads a member that may be absent. -/
def optional (members : Json.Members) (name : String) (absent : α)
    (reader : Json → Checked α) : Checked α :=
  match members.get? name with
  | some value => (reader value).within [.name name]
  | none => .ok absent

/-- Reads a value that may be `null`. -/
def nullable (reader : Json → Checked α) : Json → Checked (Option α)
  | .null => .ok none
  | value => (reader value).map some

end Validation

/-- A user name and a password. -/
structure Credentials where
  username : String
  password : String
  deriving DecidableEq, Repr

/-- An account to be created. -/
structure NewAccount where
  name : String
  password : String
  email : Option String
  organizationId : Int
  roleId : Int
  deriving DecidableEq, Repr

/-- A role to be created. -/
structure NewRole where
  name : String
  description : Option String
  isDeletable : Bool
  menuIds : List Int
  deriving DecidableEq, Repr

/-- An organization to be created. -/
structure NewOrganization where
  name : String
  parentId : Int
  deriving DecidableEq, Repr

/-- A page of a listing: its number from 1 on, and its size from 1 to 100. -/
structure Page where
  number : Int := 1
  size : Int := 10
  deriving DecidableEq, Repr

/-- The number of rows before the page. -/
def Page.offset (p : Page) : Int :=
  (p.number - 1) * p.size

namespace Credentials

/-- Reads credentials. -/
def read (m : Json.Members) : Checked Credentials :=
  ((required m "username" (whole (readText accountNameRule))).both
    (required m "password" (whole (readText passwordRule)))).map
    fun (username, password) => { username, password }

/-- Credentials as an object. -/
def toJson (c : Credentials) : Json :=
  .obj [("username", .str c.username), ("password", .str c.password)]

end Credentials

namespace NewAccount

/-- Reads an account to be created. -/
def read (m : Json.Members) : Checked NewAccount :=
  ((required m "name" (whole (readText accountNameRule))).both
    ((required m "password" (whole (readText passwordRule))).both
      ((optional m "email" none (whole Email.read)).both
        ((required m "organization_id" (whole readInt)).both
          (required m "role_id" (whole readInt)))))).map
    fun (name, password, email, organizationId, roleId) =>
      { name, password, email, organizationId, roleId }

/-- An account to be created as an object. -/
def toJson (a : NewAccount) : Json :=
  .obj [("name", .str a.name), ("password", .str a.password), ("email", Json.ofText? a.email),
    ("organization_id", .int a.organizationId), ("role_id", .int a.roleId)]

end NewAccount

namespace NewRole

/-- Reads a role to be created. -/
def read (m : Json.Members) : Checked NewRole :=
  ((required m "name" (whole (readText roleNameRule))).both
    ((optional m "description" none
      (nullable (whole (readText roleDescriptionRule)))).both
      ((optional m "is_deletable" true (whole readBool)).both
        (optional m "menu_ids" [] readInts)))).map
    fun (name, description, isDeletable, menuIds) => { name, description, isDeletable, menuIds }

/-- A role to be created as an object. -/
def toJson (r : NewRole) : Json :=
  .obj [("name", .str r.name), ("description", Json.ofText? r.description),
    ("is_deletable", .bool r.isDeletable), ("menu_ids", .arr (r.menuIds.map .int))]

end NewRole

namespace NewOrganization

/-- Reads an organization to be created; without a parent it stands on the first level. -/
def read (m : Json.Members) : Checked NewOrganization :=
  ((required m "name" (whole (readText organizationNameRule))).both
    (optional m "parent_id" (-1) (whole readInt))).map
    fun (name, parentId) => { name, parentId }

/-- An organization to be created as an object. -/
def toJson (o : NewOrganization) : Json :=
  .obj [("name", .str o.name), ("parent_id", .int o.parentId)]

end NewOrganization

namespace Page

/-- Reads a page. -/
def read (m : Json.Members) : Checked Page :=
  ((optional m "page_no" 1 (whole (readIntIn 1 none))).both
    (optional m "page_size" 10 (whole (readIntIn 1 (some 100))))).map
    fun (number, size) => { number, size }

/-- A page as an object, with the number of rows before it. -/
def toJson (p : Page) : Json :=
  .obj [("page_no", .int p.number), ("page_size", .int p.size), ("offset", .int p.offset)]

end Page

/-- Reads a request from a value that has to be an object; `model` names what is read. -/
def readModel {α : Type} (model : String) (read : Json.Members → Checked α) : Json → Checked α
  | .obj members => read members
  | value => whole (fun _ => .error (.modelType model)) value

end Tenancy
