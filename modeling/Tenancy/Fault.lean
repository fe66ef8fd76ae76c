import Tenancy.Access.Expression.Flaw
import Tenancy.Audit
import Tenancy.Organization.Hierarchy

/-!
# Faults

Why an operation fails. A fault belongs to a kind, and the kinds that an operation is meant to
answer with have an HTTP status.
-/

namespace Tenancy

/-- The kinds of faults. -/
inductive FaultKind where
  | admin
  | notFound
  | conflict
  | authentication
  | permissionDenied
  | hierarchy
  | invalidLimitType
  | unresolvedAncestor
  | value
  | unavailable
  | integrity
  | overflow
  | statement
  | encoding
  | binding
  | lookup
  | expression
  deriving DecidableEq, Repr

/-- The status that answers a fault of this kind; a kind without one is not answered. -/
def FaultKind.status? : FaultKind → Option Nat
  | .notFound => some 404
  | .conflict => some 409
  | .authentication => some 401
  | .permissionDenied | .unresolvedAncestor => some 403
  | .invalidLimitType => some 422
  | _ => none

/-- The causes of failure. -/
inductive Fault where
  | accountNotFound
  | organizationNotFound
  | parentNotFound
  | roleNotFound
  | menuNotFound (id : Int)
  | alreadyInitialized
  | accountNameTaken
  | roleNameTaken
  | organizationNameTaken
  | invalidCredentials
  | outsideScope
  | scopeUnresolved
  | menusNotCovered
  | invalidLimit (limit : LimitType)
  | unresolvedAncestor (reason : Unresolved)
  | databaseUnavailable
  | integrityViolated
  | integerTooLarge
  | textRefused
  | valueRefused
  | shapeRefused
  | unknownType (name : String)
  | unknownResult (name : String)
  | badExpression (error : Access.ExpressionError)
  deriving DecidableEq, Repr

namespace Fault

/-- The kind of a fault. -/
def kind : Fault → FaultKind
  | accountNotFound | organizationNotFound | parentNotFound | roleNotFound | menuNotFound _ =>
    .notFound
  | alreadyInitialized | accountNameTaken | roleNameTaken | organizationNameTaken => .conflict
  | invalidCredentials => .authentication
  | outsideScope | scopeUnresolved | menusNotCovered => .permissionDenied
  | invalidLimit _ => .invalidLimitType
  | unresolvedAncestor _ => .unresolvedAncestor
  | databaseUnavailable => .unavailable
  | integrityViolated => .integrity
  | integerTooLarge => .overflow
  | textRefused => .encoding
  | valueRefused => .statement
  | shapeRefused => .binding
  | unknownType _ | unknownResult _ => .lookup
  | badExpression error =>
    match error.flaw with
    | .repetitionTooLarge => .overflow
    | .longBound _ => .value
    | _ => .expression

/-- Some names with commas between them; of more than four, the first three and the last. -/
def listed (names : List String) : String :=
  let shown := if names.length ≤ 4 then names else names.take 3 ++ ["..."] ++ names.getLast?.toList
  String.intercalate ", " shown

/-- Wording for a name that is none of the known ones. -/
def unknownName (name kind : String) (known : List String) : String :=
  "'" ++ name ++ "' is not among the defined enum values. Enum name: " ++ kind ++
    ". Possible values: " ++ listed known

/-- Wording of a fault. -/
def message : Fault → String
  | accountNotFound => "account not found"
  | organizationNotFound => "organization not found"
  | parentNotFound => "parent organization not found"
  | roleNotFound => "role not found"
  | menuNotFound id => "menu not found: " ++ Text.decimal id
  | alreadyInitialized => "system already initialized"
  | accountNameTaken => "account name already exists"
  | roleNameTaken => "role name already exists"
  | organizationNameTaken => "organization name already exists"
  | invalidCredentials => "invalid credentials"
  | outsideScope => "organization is outside of your scope"
  | scopeUnresolved => "organization scope cannot be resolved"
  | menusNotCovered => "role menus are not a subset of the assignee menus"
  | invalidLimit limit => "limit type " ++ limit.word ++ " cannot be resolved to a scope"
  | unresolvedAncestor reason => reason.message
  | databaseUnavailable => "database unavailable"
  | integrityViolated => "integrity violated"
  | integerTooLarge => "integer does not fit into 64 bits"
  | textRefused => "text is not made of characters"
  | valueRefused => "value does not belong to the column"
  | shapeRefused => "value cannot be put into a column"
  | unknownType name => unknownName name "operationtype" OperationType.names
  | unknownResult name => unknownName name "operationresult" OperationResult.names
  | badExpression error => error.message

end Fault

end Tenancy
