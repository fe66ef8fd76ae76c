/-!
# Ordered forests

A forest is empty, or it is a first tree, given by the label of its root and the forest of its
children, followed by the forest of the remaining trees. `rows` lists a forest in pre-order with
depths and `ofRows` builds it back from such a list.
-/

namespace Tenancy

/-- An ordered forest with labelled nodes. -/
inductive Forest (α : Type) where
  | nil
  | cons (label : α) (children : Forest α) (siblings : Forest α)
  deriving DecidableEq, Repr

namespace Forest

variable {α β : Type}

/-- The labels in pre-order. -/
def labels : Forest α → List α
  | nil => []
  | cons a children siblings => a :: (children.labels ++ siblings.labels)

/-- The labels of the roots. -/
def roots : Forest α → List α
  | nil => []
  | cons a _ siblings => a :: siblings.roots

/-- The labels in pre-order with their depths; the roots have depth `depth`. -/
def rowsFrom (depth : Nat) : Forest α → List (Nat × α)
  | nil => []
  | cons a children siblings =>
    (depth, a) :: (children.rowsFrom (depth + 1) ++ siblings.rowsFrom depth)

/-- The labels in pre-order with their depths; the roots have depth 0. -/
def rows (f : Forest α) : List (Nat × α) :=
  f.rowsFrom 0

/-- The number of levels. -/
def height : Forest α → Nat
  | nil => 0
  | cons _ children siblings => max (children.height + 1) siblings.height

/-- The same forest with other labels. -/
def map (g : α → β) : Forest α → Forest β
  | nil => nil
  | cons a children siblings => cons (g a) (children.map g) (siblings.map g)

/-- The same forest with other labels, if every label has one. -/
def mapOption (g : α → Option β) : Forest α → Option (Forest β)
  | nil => some nil
  | cons a children siblings => do
    return cons (← g a) (← children.mapOption g) (← siblings.mapOption g)

/-- The forest of trees that are given by root label and children. -/
def ofTrees (trees : List (α × Forest α)) : Forest α :=
  trees.foldr (fun t siblings => cons t.1 t.2 siblings) nil

/-- Puts a node in front of the trees that follow it in pre-order: those deeper than the node, up
to the first that is not, become its children. -/
def graft (row : Nat × α) (trees : List (Nat × α × Forest α)) : List (Nat × α × Forest α) :=
  (row.1, row.2, ofTrees ((trees.takeWhile (row.1 < ·.1)).map (·.2))) ::
    trees.dropWhile (row.1 < ·.1)

/-- The forest with the given pre-order list of depths and labels. -/
def ofRows (rows : List (Nat × α)) : Forest α :=
  ofTrees ((rows.foldr graft []).map (·.2))

end Forest

/-- What a tree view shows of a node: its name, the state of its check box, and whether it is
authorized. -/
structure TreeNode where
  id : Int
  name : String
  selected : Bool := false
  partlySelected : Bool := false
  authorized : Bool := false
  deriving DecidableEq, Repr

end Tenancy
