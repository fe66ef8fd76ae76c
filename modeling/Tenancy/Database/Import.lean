import Tenancy.Database.Insert
import Tenancy.Journal
import Tenancy.Json.Display

/-!
# Rows from outside

A row from outside is an object that gives some columns of a row a value. A column without a value,
or with `null`, gets its default.

* A truth value must be a boolean or one of the numbers 0 and 1, the name of a type or a result must
  be a text, and times cannot be given. This is checked first.
* An integer may be given as a boolean, as a number without a fraction or as a numeral, and a text
  as a number. This is checked once the tables are there.
-/

namespace Tenancy

namespace Json

/-- The value that a row gives a column. -/
def Members.given? (row : Members) (column : String) : Option Json :=
  match row.get? column with
  | some .null => none
  | value => value

/-- The integer that a numeral in a text stands for. -/
def ofNumeral? (s : List Char) : Option Int :=
  let (negative, digits) := match Text.trim s with
    | '-' :: rest => (true, rest)
    | '+' :: rest => (false, rest)
    | rest => (false, rest)
  let n := Nat.ofDigitChars 10 digits 0
  if digits = [] ∨ digits.any (!·.isDigit) then none
  else some (if negative then -(n : Int) else n)

/-- A value as an integer. -/
def asInteger : Json → Except Fault Int
  | .int n => .ok n
  | .bool b => .ok (if b then 1 else 0)
  | .real d => Database.required (Binary64.ofDecimal d).toInt?
  | .str s => Database.required (ofNumeral? s.toList)
  | .string _ => .error .textRefused
  | _ => .error .shapeRefused

/-- A value as a text. -/
def asText : Json → Except Fault String
  | .str s => .ok s
  | .int n => do
    Database.checkWidth [n]
    return Text.decimal n
  | .bool b => .ok (if b then "1" else "0")
  | .real d => .ok (String.ofList (Binary64.ofDecimal d).text)
  | .string _ => .error .textRefused
  | _ => .error .shapeRefused

/-- A value as a truth value. -/
def asTruth : Json → Except Fault Bool
  | .bool b => .ok b
  | .int 0 => .ok false
  | .int 1 => .ok true
  | .real d =>
    match (Binary64.ofDecimal d).toInt? with
    | some 0 => .ok false
    | some 1 => .ok true
    | _ => .error .valueRefused
  | _ => .error .valueRefused

/-- A value as a name. -/
def asName : Json → Except Fault String
  | .string t => .ok t.masked
  | _ => .error .valueRefused

namespace Members

variable (row : Members)

/-- The integer that a row gives a column. -/
def integer (column : String) : Except Fault (Option Int) :=
  (row.given? column).mapM asInteger

/-- The text that a row gives a column. -/
def text (column : String) : Except Fault (Option String) :=
  (row.given? column).mapM asText

/-- The truth value that a row gives a column, or the default. -/
def truth (column : String) (absent : Bool) : Except Fault Bool := do
  return (← (row.given? column).mapM asTruth).getD absent

/-- The name that a row gives a column. -/
def name (column : String) : Except Fault (Option String) :=
  (row.given? column).mapM asName

/-- Requires that a row gives some columns no value. -/
def noneOf (columns : List String) : Except Fault Unit :=
  if columns.all fun column => (row.given? column).isNone then .ok () else .error .valueRefused

end Members

end Json

namespace Database

variable (db : Database)

/-- Inserts an organization from outside. -/
def importOrganization (row : Json.Members) : Journal Database := do
  let base : Organization.Draft := {}
  .ofExcept (row.noneOf ["created_at"])
  .query TableName.organization.written do
    let draft : Organization.Draft :=
      { id := ← row.integer "id"
        name := ← row.text "name"
        parentId := (← row.integer "parent_id").getD base.parentId
        parentName := ← row.text "parent_name" }
    return (← db.insertOrganization draft).1

/-- Inserts a menu from outside. -/
def importMenu (row : Json.Members) : Journal Database :=
  let base : Menu.Draft := {}
  .query TableName.menu.written do
    let draft : Menu.Draft :=
      { id := ← row.integer "id"
        name := ← row.text "name"
        parentId := (← row.integer "parent_id").getD base.parentId
        parentName := ← row.text "parent_name"
        orderIndex := (← row.integer "order_index").getD base.orderIndex }
    return (← db.insertMenu draft).1

/-- Inserts a route from outside. -/
def importRoute (row : Json.Members) : Journal Database :=
  .query TableName.route.written do
    let draft : Route.Draft :=
      { id := ← row.integer "id"
        name := ← row.text "name"
        method := ← row.text "method"
        menuId := ← row.integer "menu_id"
        menuName := ← row.text "menu_name" }
    return (← db.insertRoute draft).1

/-- Inserts a role from outside. -/
def importRole (row : Json.Members) : Journal Database := do
  let base : Role.Draft := {}
  let isDeletable ← .ofExcept (row.truth "is_deletable" base.isDeletable)
  .ofExcept (row.noneOf ["created_at", "updated_at"])
  .query TableName.role.written do
    let draft : Role.Draft :=
      { id := ← row.integer "id"
        name := ← row.text "name"
        description := (← row.text "description").getD base.description
        createdBy := ← row.integer "created_by"
        createdByName := ← row.text "created_by_name"
        isDeletable }
    return (← db.insertRole draft).1

/-- Inserts a menu of a role from outside. -/
def importRoleMenu (row : Json.Members) : Journal Database :=
  .query TableName.roleMenu.written do
    let draft : RoleMenu.Draft :=
      { id := ← row.integer "id"
        roleId := ← row.integer "role_id"
        roleName := ← row.text "role_name"
        menuId := ← row.integer "menu_id"
        menuName := ← row.text "menu_name" }
    return (← db.insertRoleMenu draft).1

/-- Inserts an account from outside. -/
def importAccount (row : Json.Members) : Journal Database := do
  let base : Account.Draft := {}
  let isDeletable ← .ofExcept (row.truth "is_deletable" base.isDeletable)
  .ofExcept (row.noneOf ["created_at"])
  .query TableName.account.written do
    let draft : Account.Draft :=
      { id := ← row.integer "id"
        name := ← row.text "name"
        passwordHash := ← row.text "password_hash"
        email := ← row.text "email"
        phone := ← row.text "phone"
        organizationId := ← row.integer "organization_id"
        organizationName := ← row.text "organization_name"
        roleId := ← row.integer "role_id"
        roleName := (← row.text "role_name").getD base.roleName
        isDeletable }
    return (← db.insertAccount draft).1

/-- Inserts an entry of the audit trail from outside. -/
def importOperationLog (row : Json.Members) : Journal Database := do
  let base : OperationLog.Draft := {}
  let type ← .ofExcept (row.name "operation_type")
  let result ← .ofExcept (row.name "operation_result")
  .ofExcept (row.noneOf ["created_at"])
  .query TableName.operationLog.written do
    let draft : OperationLog.Draft :=
      { id := ← row.integer "id"
        accountId := ← row.integer "account_id"
        accountName := ← row.text "account_name"
        ipAddress := (← row.text "ip_address").getD base.ipAddress
        userAgent := (← row.text "user_agent").getD base.userAgent
        type
        area := (← row.text "operation_module").getD base.area
        description := (← row.text "operation_description").getD base.description
        result }
    return (← db.insertOperationLog draft).1

/-- Inserts a row from outside. -/
def importRow (table : TableName) (row : Json.Members) : Journal Database :=
  match table with
  | .organization => db.importOrganization row
  | .menu => db.importMenu row
  | .route => db.importRoute row
  | .role => db.importRole row
  | .roleMenu => db.importRoleMenu row
  | .account => db.importAccount row
  | .operationLog => db.importOperationLog row

end Database

end Tenancy
