import Tenancy.Distinct
import Tenancy.Journal

/-!
# Menus of the assigner

A role may only be handed on if its menus cover all menus of the role of the account that hands it
on.
-/

namespace Tenancy.Access

/-- The logger of the access policy. -/
def policySource : String := "orgadmin.services.rbac"

/-- The menus of the assigner that the assignee lacks, in ascending order. -/
def missingMenus (assigner assignee : List Int) : List Int :=
  ascending (assigner.filter (· ∉ assignee))

/-- Numbers between brackets. -/
def bracketed (l : List Int) : String :=
  "[" ++ String.intercalate ", " (l.map Text.decimal) ++ "]"

/-- Passes if every menu of the assigner is one of the assignee's. -/
def checkMenuSubset (assigner assignee : List Int) : Journal Unit :=
  if missingMenus assigner assignee = [] then .done ()
  else do
    .note ⟨.warning, policySource,
      "[check_role_menu_subset] menus not covered | 'missing': " ++
        bracketed (missingMenus assigner assignee)⟩
    .fail .menusNotCovered

end Tenancy.Access
