import Tenancy.Proofs.Run

/-!
# Tables only grow

No operation changes or removes a row, and new rows come after all others. `Database.Extends` says
so of two databases; it holds between the database before an operation and the one after
(`extends_of_moved`), hence along every run (`Reaches.extends`). The audit trail grows by the
entries of recorded requests only (`operationLogs_moved`).
-/

namespace Tenancy

namespace Database

/-- Every table of `former` is the beginning of the same table of `db`. -/
structure Extends (former db : Database) : Prop where
  organizations : former.organizations <+: db.organizations
  menus : former.menus <+: db.menus
  routes : former.routes <+: db.routes
  roles : former.roles <+: db.roles
  roleMenus : former.roleMenus <+: db.roleMenus
  accounts : former.accounts <+: db.accounts
  operationLogs : former.operationLogs <+: db.operationLogs

variable {former middle db : Database}

theorem Extends.refl (db : Database) : Extends db db := by
  constructor <;> exact List.prefix_rfl

theorem Extends.trans (first : Extends former middle) (second : Extends middle db) :
    Extends former db where
  organizations := first.organizations.trans second.organizations
  menus := first.menus.trans second.menus
  routes := first.routes.trans second.routes
  roles := first.roles.trans second.roles
  roleMenus := first.roleMenus.trans second.roleMenus
  accounts := first.accounts.trans second.accounts
  operationLogs := first.operationLogs.trans second.operationLogs

theorem Seeds.extends (seeds : Seeds former db) : Extends former db := by
  induction seeds with
  | refl => exact .refl _
  | @menu db m _ _ ih =>
    exact ih.trans { Extends.refl db with menus := List.prefix_append _ _ }
  | @route db r _ _ ih =>
    exact ih.trans { Extends.refl db with routes := List.prefix_append _ _ }

end Database

namespace State

variable {s t : State}

/-- An operation changes no row and removes none. -/
theorem extends_of_moved {operation : Operation} (moved : Moved s operation t) :
    s.database.Extends t.database := by
  have refl := Database.Extends.refl s.database
  cases moved with
  | still => exact refl
  | bootstrap done =>
    obtain ⟨db, bootstrapped⟩ := bootstrapped done
    have grown := (seeds_of_seeded bootstrapped.seeded).extends
    rw [bootstrapped.state]
    exact { grown with accounts := bootstrapped.empty ▸ List.nil_prefix }
  | account done =>
    obtain ⟨current, made⟩ := accountMade done
    rw [made.state]
    exact { refl with accounts := List.prefix_append _ _ }
  | role done =>
    obtain ⟨menus, current, made⟩ := roleMade done
    rw [made.state]
    exact { refl with roles := List.prefix_append _ _, roleMenus := List.prefix_append _ _ }
  | organization done =>
    obtain ⟨current, made⟩ := organizationMade done
    rw [made.state]
    exact { refl with organizations := List.prefix_append _ _ }
  | policy done =>
    rw [loadPolicy_ok done]
    exact refl
  | entry done =>
    rw [(recorded done).2]
    exact { refl with operationLogs := List.prefix_append _ _ }

/-- Nothing comes into the audit trail but the entry of a recorded request. -/
theorem operationLogs_moved {operation : Operation} (moved : Moved s operation t) :
    t.database.operationLogs = s.database.operationLogs ∨
      ∃ request, operation = .record request ∧
        t.database.operationLogs = s.database.operationLogs ++ [s.entryOf request] := by
  cases moved with
  | still => exact .inl rfl
  | bootstrap done =>
    obtain ⟨db, bootstrapped⟩ := bootstrapped done
    have frame := (seeds_of_seeded bootstrapped.seeded).frame
    rw [bootstrapped.state, frame]
    exact .inl rfl
  | account done =>
    obtain ⟨current, made⟩ := accountMade done
    rw [made.state]
    exact .inl rfl
  | role done =>
    obtain ⟨menus, current, made⟩ := roleMade done
    rw [made.state]
    exact .inl rfl
  | organization done =>
    obtain ⟨current, made⟩ := organizationMade done
    rw [made.state]
    exact .inl rfl
  | policy done =>
    rw [loadPolicy_ok done]
    exact .inl rfl
  | entry done =>
    obtain ⟨-, rfl, state⟩ := record_eq_ok.mp done
    rw [state]
    exact .inr ⟨_, rfl, rfl⟩

theorem Reaches.extends {allowed : State → Operation → Prop} (reaches : Reaches allowed s t) :
    s.database.Extends t.database := by
  induction reaches with
  | refl => exact .refl _
  | step _ _ ih => exact ih.trans (extends_of_moved (moved_step _ _))

end State

end Tenancy
