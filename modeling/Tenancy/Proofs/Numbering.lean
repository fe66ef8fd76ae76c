import Tenancy.Proofs.Growth
import Tenancy.Proofs.Tenant

/-!
# Ids

In every state that can be reached, the ids of each table are positive and ascend
(`Reaches.wellNumbered`). In particular no organization occurs twice and none is the root, so that
the hierarchy is proper.
-/

namespace Tenancy

namespace Database

variable {former db : Database}

/-- The ids of every table are as the table gives them out. -/
structure WellNumbered (db : Database) : Prop where
  organizations : Numbered (db.organizations.map (·.id))
  menus : Numbered (db.menus.map (·.id))
  routes : Numbered (db.routes.map (·.id))
  roles : Numbered (db.roles.map (·.id))
  roleMenus : Numbered (db.roleMenus.map (·.id))
  accounts : Numbered (db.accounts.map (·.id))
  operationLogs : Numbered (db.operationLogs.map (·.id))

theorem wellNumbered_empty : WellNumbered {} := by
  constructor <;> exact .nil

/-- A new row with the next id keeps the numbering of its table. -/
theorem numbered_append {α : Type} {idOf : α → Int} {rows : List α} {row : α}
    (numbered : Numbered (rows.map idOf)) (next : idOf row = nextId (rows.map idOf)) :
    Numbered ((rows ++ [row]).map idOf) := by
  rw [List.map_append, List.map_singleton, next]
  exact numbered.append_nextId

theorem Seeds.wellNumbered (seeds : Seeds former db) (numbered : former.WellNumbered) :
    db.WellNumbered := by
  induction seeds with
  | refl => exact numbered
  | menu _ next ih => exact { ih with menus := numbered_append ih.menus next }
  | route _ next ih => exact { ih with routes := numbered_append ih.routes next }

/-! ## The hierarchy of a database -/

theorem WellNumbered.proper (numbered : db.WellNumbered) : db.hierarchy.Proper := by
  refine proper_hierarchy numbered.organizations.nodup fun root => ?_
  exact absurd (numbered.organizations.positive _ root) (by decide)

end Database

namespace State

variable {s t : State}

/-- Whoever asks has an id already, so that a new account is not the super administrator's. -/
theorem AccountMade.ordinary {caller : Int} {request : NewAccount} {a current : Account}
    (made : AccountMade s caller request t a current) (numbered : s.database.WellNumbered) :
    a.id ≠ superAdminId := by
  have present := List.mem_map_of_mem (f := (·.id)) (mem_of_account made.asking).1
  have positive := numbered.accounts.positive _ present
  have above := Database.lt_nextId present
  rw [made.id]
  show Database.nextId _ ≠ 1
  omega

/-- A new role has none of the ids that are there. -/
theorem RoleMade.id_ne {caller : Int} {request : NewRole} {r role : Role} {menus : List Menu}
    {current : Account} (made : RoleMade s caller request t r menus current)
    (known : role ∈ s.database.roles) : role.id ≠ r.id := by
  rw [made.id]
  exact Database.id_ne_nextId known

theorem wellNumbered_moved {operation : Operation} (moved : Moved s operation t)
    (numbered : s.database.WellNumbered) : t.database.WellNumbered := by
  cases moved with
  | still => exact numbered
  | bootstrap done =>
    obtain ⟨db, bootstrapped⟩ := bootstrapped done
    have seeds := seeds_of_seeded bootstrapped.seeded
    have none : db.accounts = [] := by rw [seeds.frame, bootstrapped.empty]
    rw [bootstrapped.state, bootstrapped.account, none]
    exact { seeds.wellNumbered numbered with
      accounts := ⟨by simp [Database.place, superAdminId], by simp [Database.place]⟩ }
  | account done =>
    obtain ⟨current, made⟩ := accountMade done
    rw [made.state]
    exact { numbered with accounts := Database.numbered_append numbered.accounts made.id }
  | role done =>
    obtain ⟨menus, current, made⟩ := roleMade done
    rw [made.state]
    exact { numbered with
      roles := Database.numbered_append numbered.roles made.id
      roleMenus := Database.append_roleMenuRows Database.numbered_append numbered.roleMenus }
  | organization done =>
    obtain ⟨current, made⟩ := organizationMade done
    rw [made.state]
    exact { numbered with
      organizations := Database.numbered_append numbered.organizations made.id }
  | policy done =>
    rw [loadPolicy_ok done]
    exact numbered
  | entry done =>
    obtain ⟨next, state⟩ := recorded done
    rw [state]
    exact { numbered with
      operationLogs := Database.numbered_append numbered.operationLogs next }

theorem Reaches.wellNumbered {allowed : State → Operation → Prop} (reaches : Reaches allowed s t)
    (numbered : s.database.WellNumbered) : t.database.WellNumbered := by
  induction reaches with
  | refl => exact numbered
  | step _ _ ih => exact wellNumbered_moved (moved_step _ _) ih

theorem Reachable.wellNumbered (reachable : s.Reachable) : s.database.WellNumbered := by
  obtain ⟨settings, run⟩ := reachable
  exact run.wellNumbered Database.wellNumbered_empty

end State

end Tenancy
