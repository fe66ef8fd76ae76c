import Tenancy.Audit

/-!
# Rows

The rows of the seven tables. Next to an id, a row holds the name that belonged to it when the row
was made.
-/

namespace Tenancy

/-- An organization and its parent. -/
structure Organization where
  id : Int
  name : String
  parentId : Int
  parentName : Option String
  deriving DecidableEq, Repr

/-- A menu, its parent and its place among the menus. -/
structure Menu where
  id : Int
  name : String
  parentId : Int
  parentName : Option String
  orderIndex : Int
  deriving DecidableEq, Repr

/-- A route, given by a path pattern and a method, that belongs to a menu. -/
structure Route where
  id : Int
  name : String
  method : String
  menuId : Int
  menuName : String
  deriving DecidableEq, Repr

/-- A role and the account that made it. -/
structure Role where
  id : Int
  name : String
  description : String
  createdBy : Int
  createdByName : String
  isDeletable : Bool
  deriving DecidableEq, Repr

/-- A menu that a role has. -/
structure RoleMenu where
  id : Int
  roleId : Int
  roleName : String
  menuId : Int
  menuName : String
  deriving DecidableEq, Repr

/-- An account, its home organization and its role. -/
structure Account where
  id : Int
  name : String
  passwordHash : String
  email : Option String
  phone : Option String
  organizationId : Int
  organizationName : String
  roleId : Int
  roleName : String
  isDeletable : Bool
  deriving DecidableEq, Repr

/-- An entry of the audit trail. The table takes any text for the type and the result; an entry can
be read back if these are the names of a type and of a result. -/
structure OperationLog where
  id : Int
  accountId : Int
  accountName : String
  ipAddress : String
  userAgent : String
  type : String
  area : String
  description : String
  result : String
  deriving DecidableEq, Repr

/-- The tables. -/
inductive TableName where
  | organization
  | menu
  | route
  | role
  | roleMenu
  | account
  | operationLog
  deriving DecidableEq, Repr

namespace TableName

/-- The tables to which the rows of a table refer. -/
def parents : TableName → List TableName
  | route => [menu]
  | roleMenu => [role, menu]
  | _ => []

/-- The tables that are used when a row is put into a table. -/
def written (t : TableName) : List TableName :=
  t :: t.parents

end TableName

end Tenancy
