import Tenancy.Forest.Links
import Tenancy.Validation.Issue

/-!
# The menu forest with check boxes

A selection says which menus are chosen. Only menus without children take their state from it. A
menu with children is selected if all children are, partly selected if the children disagree or
one of them is partly selected, and authorized if one of them is.
-/

namespace Tenancy

/-- The parent id of the menus on the first level. -/
def rootMenuId : Int := -1

/-- One menu; rows without an id count for nothing. -/
structure MenuRow where
  id : Option Int
  name : Option String
  parent : Int
  deriving DecidableEq, Repr

/-- Which menus are chosen. -/
abbrev Selection := Int → Bool

/-- The selection of the given menus and no others. -/
def Selection.ofIds (ids : List Int) : Selection :=
  fun id => ids.contains id

namespace Menu

/-- The links from parents to menus. -/
def links (menus : List MenuRow) : Links (Int × Option String) :=
  menus.filterMap fun m => m.id.map fun id => (m.parent, id, m.name)

/-- Computes the states of the check boxes from the leaves upwards. -/
def check (selection : Selection) : Forest (Int × String) → Forest TreeNode
  | .nil => .nil
  | .cons (id, name) .nil siblings =>
    .cons { id, name, selected := selection id, authorized := selection id } .nil
      (check selection siblings)
  | .cons (id, name) (.cons child grandchildren others) siblings =>
    let children := check selection (.cons child grandchildren others)
    let boxes := children.roots
    .cons
      { id, name
        selected := boxes.all (·.selected)
        partlySelected :=
          (boxes.any (·.selected) && boxes.any (!·.selected)) || boxes.any (·.partlySelected)
        authorized := boxes.any (·.authorized) }
      children (check selection siblings)

/-- The menus under `parent` with their check boxes, or `none` if one of them has no name. -/
def authTree (menus : List MenuRow) (selection : Selection) (parent : Int := rootMenuId) :
    Option (Forest TreeNode) := do
  let shape := (links menus).forest (·.1) ((links menus).under parent)
  let named ← shape.mapOption fun (id, name) => name.map fun text => (id, text)
  return check selection named

/-- The issue with a menu that has no name. -/
def unnamed : Issue :=
  { place := [.name "name"], complaint := .stringType }

/-- The menus under `parent` with their check boxes, as long as each of them has a name. -/
def checkedTree (menus : List MenuRow) (selection : Selection) (parent : Int := rootMenuId) :
    Checked (Forest TreeNode) :=
  match authTree menus selection parent with
  | some tree => .ok tree
  | none => .error [unnamed]

end Menu

end Tenancy
