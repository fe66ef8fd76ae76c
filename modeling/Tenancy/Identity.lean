import Tenancy.Text.Numeral

/-!
# Who is who

The super administrator is the account with id 1. Accounts and roles appear in the policy under
subject names.
-/

namespace Tenancy

/-- The id of the super administrator. -/
def superAdminId : Int := 1

/-- The role id of the super administrator; no role has it. -/
def superAdminRoleId : Int := 0

/-- The role name of the super administrator. -/
def superAdminRoleName : String := "super admin"

/-- Whether an account id is that of the super administrator; an account without id is not. -/
def isSuperAdmin (id : Option Int) : Bool :=
  id == some superAdminId

theorem isSuperAdmin_iff {id : Int} : isSuperAdmin (some id) = true ↔ id = superAdminId := by
  simp [isSuperAdmin]

theorem isSuperAdmin_eq_false {id : Int} (ordinary : id ≠ superAdminId) :
    isSuperAdmin (some id) = false := by
  simpa [isSuperAdmin] using ordinary

/-- The subject name of an account. -/
def userSubject (id : Int) : String :=
  "user:" ++ Text.decimal id

/-- The subject name of a role. -/
def roleSubject (id : Int) : String :=
  "role:" ++ Text.decimal id

end Tenancy
