import Tenancy.Text.LetterCase

/-!
# The audit trail

What the audit trail notes of a request: the type of the operation, which follows from the method,
the module, which follows from a word in the path, and a description made of the two.
-/

namespace Tenancy

/-- The types of operations in the audit trail. -/
inductive OperationType where
  | create
  | update
  | delete
  | login
  | logout
  | view
  | exported
  | imported
  | other
  deriving DecidableEq, Repr

namespace OperationType

/-- All types. -/
def all : List OperationType :=
  [create, update, delete, login, logout, view, exported, imported, other]

/-- The name of a type. -/
def name : OperationType → String
  | create => "CREATE"
  | update => "UPDATE"
  | delete => "DELETE"
  | login => "LOGIN"
  | logout => "LOGOUT"
  | view => "VIEW"
  | exported => "EXPORT"
  | imported => "IMPORT"
  | other => "OTHER"

/-- The names of all types. -/
def names : List String :=
  all.map name

end OperationType

/-- How an operation ended. -/
inductive OperationResult where
  | success
  | failed
  deriving DecidableEq, Repr

namespace OperationResult

/-- Both results. -/
def all : List OperationResult :=
  [success, failed]

/-- The name of a result. -/
def name : OperationResult → String
  | success => "SUCCESS"
  | failed => "FAILED"

/-- The names of both results. -/
def names : List String :=
  all.map name

/-- The result that a status stands for: a status from 400 on is a failure. -/
def ofStatus (status : Int) : OperationResult :=
  if status < 400 then success else failed

end OperationResult

/-- What the audit trail notes of an operation. -/
structure OperationInfo where
  type : OperationType
  area : String
  description : String
  deriving DecidableEq, Repr

/-- Whether a text occurs in another one. -/
def occursIn (part : List Char) : List Char → Bool
  | [] => part.isEmpty
  | c :: rest => part.isPrefixOf (c :: rest) || occursIn part rest

namespace OperationInfo

/-- The words in paths that name an area, with the areas; the first word found counts. -/
def areas : List (String × String) :=
  [("/accounts", "account"), ("/roles", "role"), ("/organizations", "organization"),
    ("/menus", "menu")]

/-- Whether a path is that of a login. -/
def isLogin (path : List Char) : Bool :=
  occursIn "/login".toList path

/-- The type of an operation; the method is in capitals. -/
def typeOf (method : String) (path : List Char) : OperationType :=
  match method with
  | "POST" => if isLogin path then .login else .create
  | "PUT" | "PATCH" => .update
  | "DELETE" => .delete
  | "GET" => .view
  | _ => .other

/-- What is noted of a method, in any case, and a path. -/
def ofRequest (method path : String) : OperationInfo :=
  let type := typeOf (String.ofList (Text.upper method.toList)) path.toList
  match areas.find? fun entry => occursIn entry.1.toList path.toList with
  | some (_, area) => { type, area, description := type.name ++ " " ++ area }
  | none =>
    if isLogin path.toList then { type, area := "auth", description := "User login" }
    else { type, area := "system", description := type.name ++ " operation" }

end OperationInfo

end Tenancy
