import Tenancy.Forest.Basic

/-!
# Parent-child links

Links say which items stand under which parent id, in an order. They may contain cycles, repeated
items and parents that do not exist. `Links.preorder` walks them depth first and visits every id
at most once, so that the walk ends on any links and its result is a forest.

The walk keeps a list of pending items and a list of visited ids. A step takes the first pending
item: if its id was visited it is dropped, otherwise it is recorded and the items under it are put
in front. Every step removes a pending item, and the items it adds are paid for by the links under
the newly visited id, which no later step can use: `links.unspent visited` counts the links that
are still to be paid out.
-/

namespace Tenancy

/-- Items under parent ids: `(parent, item)`, in order. -/
abbrev Links (α : Type) := List (Int × α)

namespace Links

variable {α : Type}

/-- The items under a parent, in order. -/
def under (links : Links α) (parent : Int) : List α :=
  links.filterMap fun l => if l.1 = parent then some l.2 else none

/-- The number of links under ids that are not visited. -/
def unspent (links : Links α) (visited : List Int) : Nat :=
  links.countP (·.1 ∉ visited)

theorem length_under_add_unspent (links : Links α) {k : Int} {visited : List Int}
    (fresh : k ∉ visited) :
    (links.under k).length + links.unspent (k :: visited) = links.unspent visited := by
  induction links with
  | nil => rfl
  | cons l rest ih =>
    by_cases here : l.1 = k
    · subst here
      simp [under, unspent, fresh] at ih ⊢
      omega
    · by_cases seen : l.1 ∈ visited <;> simp [under, unspent, here, seen] at ih ⊢ <;> omega

/-- Visits the pending items, given with their depths, and everything under them, depth first;
`key` is the id of an item. -/
def preorder (links : Links α) (key : α → Int) :
    List (Nat × α) → List Int → List (Nat × α)
  | [], _ => []
  | (depth, a) :: rest, visited =>
    if key a ∈ visited then
      preorder links key rest visited
    else
      (depth, a) ::
        preorder links key ((links.under (key a)).map (depth + 1, ·) ++ rest) (key a :: visited)
  termination_by pending visited => pending.length + links.unspent visited
  decreasing_by
    · simp
    · rename_i fresh
      have := links.length_under_add_unspent fresh
      simp
      omega

/-- The forest under the given items: every id that can be reached occurs once, under the parent
from which the depth-first walk meets it first. -/
def forest (links : Links α) (key : α → Int) (roots : List α) : Forest α :=
  Forest.ofRows (links.preorder key (roots.map (0, ·)) [])

end Links

end Tenancy
