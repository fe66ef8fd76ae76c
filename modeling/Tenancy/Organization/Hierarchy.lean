import Tenancy.Forest.Links
import Tenancy.Text.Numeral

/-!
# The organization hierarchy

A hierarchy is read from flat rows with parent ids. Rows without an id count for nothing. If an id
occurs in several rows, the last one gives its name and its parent, while each of them puts the id
under its own parent. A parent need not exist and chains of parents may run in a circle.

* `firstLevelAncestor` climbs from an organization to the one directly under the root;
* `descendants` collects what lies below an organization;
* `resolveScope` is the set of organizations that an account may act on.
-/

namespace Tenancy

/-- The id that stands for the root of all organizations. No organization has it. -/
def rootOrganizationId : Int := -1

/-- The name of the root in tree views. -/
def rootOrganizationName : String := "root"

/-- One row of a hierarchy. -/
structure HierarchyRow where
  id : Option Int
  name : Option String
  parent : Int
  deriving DecidableEq, Repr

/-- How far a scope reaches. `other` is a word that names no limit. -/
inductive LimitType where
  | root
  | firstLevel
  | subOrganization
  | subOrganizationIncludeSelf
  | other (word : String)
  deriving DecidableEq, Repr

/-- The word for a limit. -/
def LimitType.word : LimitType → String
  | .root => "root"
  | .firstLevel => "first_level"
  | .subOrganization => "sub_organization"
  | .subOrganizationIncludeSelf => "sub_organization_include_self"
  | .other word => word

/-- The limit that a word names. -/
def LimitType.ofWord (word : String) : LimitType :=
  if word = "root" then .root
  else if word = "first_level" then .firstLevel
  else if word = "sub_organization" then .subOrganization
  else if word = "sub_organization_include_self" then .subOrganizationIncludeSelf
  else .other word

/-- Why an organization has no first-level ancestor. -/
inductive Unresolved where
  | absent (id : Int)
  | dangling (id parent : Int)
  | cycle (id : Int)
  deriving DecidableEq, Repr

/-- Wording of the reason. -/
def Unresolved.message : Unresolved → String
  | .absent id => "organization " ++ Text.decimal id ++ " not in snapshot"
  | .dangling id parent =>
    "organization " ++ Text.decimal id ++ " has dangling parent " ++ Text.decimal parent
  | .cycle id => "organization " ++ Text.decimal id ++ " is part of a parent cycle"

/-- Why there is no scope. -/
inductive ScopeFault where
  | invalidLimit (limit : LimitType)
  | unresolved (reason : Unresolved)
  deriving DecidableEq, Repr

/-- The rows of a hierarchy, in the order in which they were read. -/
abbrev Hierarchy := List HierarchyRow

namespace Hierarchy

variable (h : Hierarchy)

/-- The ids of the rows, in order, with repetitions. -/
def ids : List Int :=
  h.filterMap (·.id)

/-- The row that gives the name and the parent of an organization: its last one. -/
def row? (id : Int) : Option HierarchyRow :=
  h.reverse.find? (·.id == some id)

/-- Whether the organization exists. -/
def contains (id : Int) : Bool :=
  (h.row? id).isSome

/-- The parent of an organization. -/
def parent? (id : Int) : Option Int :=
  (h.row? id).map (·.parent)

/-- The name of an organization. -/
def name? (id : Int) : Option String :=
  (h.row? id).bind (·.name)

/-- The links from parents to organizations, one for every row with an id. -/
def links : Links Int :=
  h.filterMap fun row => row.id.map (row.parent, ·)

/-- The organizations directly under an id, in row order, with repetitions. -/
def childrenOf (id : Int) : List Int :=
  h.links.under id

/-- The number of different ids. -/
def size : Nat :=
  (h.ids.foldr List.insert []).length

/-- Climbs from `current` towards the root, at most as many steps as given; `start` is where the
climb began. -/
def climb (start : Int) : Nat → Int → Except Unresolved Int
  | 0, _ => .error (.cycle start)
  | steps + 1, current =>
    match h.parent? current with
    | none => .error (.absent current)
    | some parent =>
      if parent = rootOrganizationId then .ok current
      else if h.contains parent then climb start steps parent
      else .error (.dangling current parent)

/-- The organization on the first level under the root above `id`, or `id` itself. -/
def firstLevelAncestor (id : Int) : Except Unresolved Int :=
  if h.contains id then h.climb id h.size id else .error (.absent id)

/-- The organizations below `id`, each once and never `id` itself. -/
def descendants (id : Int) : List Int :=
  (h.links.preorder (fun child => child) ((h.childrenOf id).map (0, ·)) [id]).map (·.2)

/-- The organizations that an account homed at `target` may act on: everything and the root for
the administrator, everything for an account homed at the root, and otherwise what the limit says.
`root` is no limit of a scope. -/
def resolveScope (target : Int) (isAdmin : Bool) (limit : LimitType) :
    Except ScopeFault (List Int) :=
  if isAdmin then .ok (rootOrganizationId :: h.ids)
  else
    match limit with
    | .root | .other _ => .error (.invalidLimit limit)
    | limit =>
      if target = rootOrganizationId then .ok h.ids
      else if !h.contains target then .ok []
      else
        match limit with
        | .firstLevel =>
          match h.firstLevelAncestor target with
          | .error reason => .error (.unresolved reason)
          | .ok ancestor => .ok (ancestor :: h.descendants ancestor)
        | .subOrganization => .ok (h.descendants target)
        | _ => .ok (target :: h.descendants target)

end Hierarchy

end Tenancy
