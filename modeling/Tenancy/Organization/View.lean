import Tenancy.Organization.Hierarchy

/-!
# Tree views of the hierarchy

A view is the forest of the organizations under some ids, with names and with the mark whether the
account that looks at it is authorized. A node is authorized if its parent is, or if it is the
authorized organization itself.
-/

namespace Tenancy.Hierarchy

variable (h : Hierarchy)

/-- Marks the nodes below an authorized one: `inherited` holds for the roots, and `target` begins
an authorized branch wherever it occurs. -/
def authorize (target : Option Int) : Bool → Forest Int → Forest (Int × Bool)
  | _, .nil => .nil
  | inherited, .cons id children siblings =>
    let authorized := inherited || target == some id
    .cons (id, authorized) (authorize target authorized children)
      (authorize target inherited siblings)

/-- The view of the organizations under `roots`. -/
def view (roots : List Int) (target : Option Int) (inherited : Bool) : Forest TreeNode :=
  (authorize target inherited (h.links.forest (fun id => id) roots)).map fun (id, authorized) =>
    { id, name := (h.name? id).getD "", authorized }

/-- Everything under the root, all of it authorized. -/
def fullForest : Forest TreeNode :=
  h.view (h.childrenOf rootOrganizationId) none true

/-- The tree of the first-level organization above `node`, with the branch of `authorized` marked;
for the root, the tree of everything. An authorized root marks all nodes. -/
def firstLevelView (node authorized : Int) : Except Unresolved (Forest TreeNode) :=
  let unrestricted := authorized == rootOrganizationId
  if node = rootOrganizationId then
    .ok (.cons
      { id := rootOrganizationId, name := rootOrganizationName, authorized := unrestricted }
      (h.view (h.childrenOf rootOrganizationId) none unrestricted) .nil)
  else
    match h.firstLevelAncestor node with
    | .error reason => .error reason
    | .ok ancestor => .ok (h.view [ancestor] (some authorized) unrestricted)

/-- The organizations below `node`, none of them authorized. -/
def subtreeView (node : Int) : Forest TreeNode :=
  h.view (h.childrenOf node) none false

/-- The view that an account homed at `home` gets under a limit. -/
def homeView (home : Int) (limit : LimitType) : Except Unresolved (Forest TreeNode) :=
  if limit = .root then h.firstLevelView home home
  else if home = rootOrganizationId then .ok h.fullForest
  else if limit = .firstLevel then h.firstLevelView home home
  else .ok (h.subtreeView home)

end Tenancy.Hierarchy
