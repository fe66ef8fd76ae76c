import Tenancy.Audit
import Tenancy.Fault

/-!
# The schema of the database

Seven tables, made in one of two ways: by the revision, which is then on record, or directly.
The ways differ in what happens to rows that refer to a deleted one, and in the columns that hold
one of a few names: made directly, such a column is as wide as the longest name.
-/

namespace Tenancy.Schema

/-- The way the tables were made. -/
inductive Origin where
  | revision
  | direct
  deriving DecidableEq, Repr

/-- The types of columns. -/
inductive ColumnType where
  | integer
  | text (width : Option Nat)
  | boolean
  | time
  deriving DecidableEq, Repr

/-- The declared name of a type. -/
def ColumnType.name : ColumnType → String
  | integer => "INTEGER"
  | text none => "VARCHAR"
  | text (some width) => "VARCHAR(" ++ Text.decimal width ++ ")"
  | boolean => "BOOLEAN"
  | time => "DATETIME"

/-- A column. -/
structure Column where
  name : String
  type : ColumnType
  required : Bool := true
  isKey : Bool := false
  deriving DecidableEq, Repr

/-- An index on one column. -/
structure Index where
  name : String
  unique : Bool
  column : String
  deriving DecidableEq, Repr

/-- A column that refers to the rows of another table. -/
structure Reference where
  column : String
  table : String
  target : String := "id"
  onDelete : String
  deriving DecidableEq, Repr

/-- A table. -/
structure Table where
  name : String
  columns : List Column
  indexes : List Index
  references : List Reference := []
  deriving DecidableEq, Repr

/-- The column of the ids. -/
def idColumn : Column :=
  { name := "id", type := .integer, isKey := true }

/-- A required integer. -/
def integer (name : String) : Column :=
  { name, type := .integer }

/-- A required text. -/
def text (name : String) : Column :=
  { name, type := .text none }

/-- A text that may be absent. -/
def optionalText (name : String) : Column :=
  { name, type := .text none, required := false }

/-- A required boolean. -/
def boolean (name : String) : Column :=
  { name, type := .boolean }

/-- A required time. -/
def time (name : String) : Column :=
  { name, type := .time }

/-- A required text that is one of some names. -/
def oneOf (origin : Origin) (name : String) (names : List String) : Column :=
  match origin with
  | .revision => text name
  | .direct => { name, type := .text (some ((names.map (·.length)).foldl max 0)) }

/-- A table whose indexes are given by their columns, in ascending order; `unique` lists the
columns without repetitions and `parents` the tables that columns refer to. -/
def table (origin : Origin) (name : String) (columns : List Column) (indexed : List String)
    (unique : List String := []) (parents : List (String × String) := []) : Table :=
  { name
    columns := idColumn :: columns
    indexes := indexed.map fun column =>
      { name := "ix_" ++ name ++ "_" ++ column, unique := column ∈ unique, column }
    references := parents.map fun (column, table) =>
      { column, table
        onDelete := match origin with
          | .revision => "CASCADE"
          | .direct => "NO ACTION" } }

/-- The tables. -/
def tables (origin : Origin) : List Table := [
    table origin "organization"
      [text "name", integer "parent_id", optionalText "parent_name", time "created_at"]
      ["created_at", "name", "parent_id"] ["name"],
    table origin "menu"
      [text "name", integer "parent_id", optionalText "parent_name", integer "order_index"]
      ["name", "order_index", "parent_id"],
    table origin "route"
      [text "name", text "method", integer "menu_id", text "menu_name"]
      ["menu_id", "name"] [] [("menu_id", "menu")],
    table origin "role"
      [text "name", text "description", integer "created_by", text "created_by_name",
        boolean "is_deletable", time "created_at", time "updated_at"]
      ["created_at", "created_by", "name"] ["name"],
    table origin "role_menu"
      [integer "role_id", text "role_name", integer "menu_id", text "menu_name"]
      ["menu_id", "role_id"] [] [("menu_id", "menu"), ("role_id", "role")],
    table origin "account"
      [text "name", text "password_hash", optionalText "email", optionalText "phone",
        integer "organization_id", text "organization_name", integer "role_id", text "role_name",
        boolean "is_deletable", time "created_at"]
      ["created_at", "name", "organization_id", "role_id"] ["name"],
    table origin "operation_log"
      [integer "account_id", text "account_name", text "ip_address", text "user_agent",
        oneOf origin "operation_type" OperationType.names, text "operation_module",
        text "operation_description",
        oneOf origin "operation_result" OperationResult.names, time "created_at"]
      ["account_id", "created_at"]]

/-- The revision that makes the tables. -/
def revision : String := "202610190001"

/-- The state of a schema: no tables, or the tables made one way or the other. -/
abbrev State := Option Origin

namespace State

/-- The revisions on record. -/
def revisions : State → List String
  | some .revision => [revision]
  | _ => []

/-- The tables that there are. -/
def tables (s : State) : List Table :=
  (s.map Schema.tables).getD []

/-- Goes to the revision; tables that were made directly are in its way. -/
def upgrade : State → Except Fault State
  | some .direct => .error .databaseUnavailable
  | _ => .ok (some .revision)

/-- Goes back to before the revision, if it is on record. -/
def downgrade : State → State
  | some .revision => none
  | s => s

/-- Makes the tables directly, unless they are there. -/
def create : State → State
  | none => some .direct
  | s => s

end State

end Tenancy.Schema
