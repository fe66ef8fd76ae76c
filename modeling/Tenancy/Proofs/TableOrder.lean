import Tenancy.Database.Import
import Tenancy.Proofs.Numbering

/-!
# Tables in order

Every table is kept in the order of its ids, whatever ids the rows have that come from outside.

* `InOrder.place`: a row is put where it belongs.
* `Inserts`: what an import of a row comes down to, one case for each table (`inserts_of_import`).
* `ordered_moved`, `Inserts.ordered`: neither operations nor imports disturb the order, so that no
  state lacks it that they lead to (`Stocked.ordered`).
-/

namespace Tenancy

section Order

variable {α : Type} {idOf : α → Int} {row : α} {rows : List α}

/-- The rows are in ascending order of their ids. -/
def InOrder (idOf : α → Int) (rows : List α) : Prop :=
  rows.Pairwise fun a b => idOf a < idOf b

/-- A row with a new id is put where it belongs. -/
theorem InOrder.place (ordered : InOrder idOf rows) (free : idOf row ∉ rows.map idOf) :
    InOrder idOf (Database.place idOf row rows) := by
  induction rows with
  | nil => exact List.pairwise_singleton _ _
  | cons first rest ih =>
    obtain ⟨above, later⟩ := List.pairwise_cons.mp ordered
    rw [List.map_cons, List.mem_cons, not_or] at free
    unfold Database.place
    split
    · next before =>
      refine List.pairwise_cons.mpr ⟨fun other listed => ?_, ordered⟩
      rcases List.mem_cons.mp listed with rfl | listed
      · exact before
      · exact Int.lt_trans before (above other listed)
    · next notBefore =>
      refine List.pairwise_cons.mpr ⟨fun other listed => ?_, ih later free.2⟩
      rcases Database.mem_place.mp listed with rfl | listed
      · have different := free.1
        omega
      · exact above other listed

theorem InOrder.append (ordered : InOrder idOf rows)
    (next : idOf row = Database.nextId (rows.map idOf)) : InOrder idOf (rows ++ [row]) := by
  rw [← Database.place_nextId next]
  exact ordered.place (next ▸ Database.nextId_not_mem _)

/-- A part of a table, read backwards, descends. -/
theorem InOrder.descending (ordered : InOrder idOf rows) (selected : α → Bool) :
    (rows.filter selected).reverse.Pairwise fun a b => idOf b < idOf a :=
  List.pairwise_reverse.mpr (List.Pairwise.filter selected ordered)

end Order

namespace Database

variable {db after former : Database}

theorem newId_not_mem {ids : List Int} {wanted : Option Int} {id : Int}
    (free : newId ids wanted = .ok id) : id ∉ ids := by
  unfold newId at free
  split at free
  · cases free
    exact nextId_not_mem ids
  · split at free
    · cases free
    · next fresh =>
      cases free
      exact fresh

/-- All tables are in order. -/
structure Ordered (db : Database) : Prop where
  organizations : InOrder (·.id) db.organizations
  menus : InOrder (·.id) db.menus
  routes : InOrder (·.id) db.routes
  roles : InOrder (·.id) db.roles
  roleMenus : InOrder (·.id) db.roleMenus
  accounts : InOrder (·.id) db.accounts
  operationLogs : InOrder (·.id) db.operationLogs

/-! ## Rows from outside -/

/-- One row is inserted, with an id that is given or a new one. -/
inductive Inserts (db : Database) : Database → Prop
  | organization {after : Database} {d : Organization.Draft} {o : Organization} :
      db.insertOrganization d = .ok (after, o) → Inserts db after
  | menu {after : Database} {d : Menu.Draft} {m : Menu} :
      db.insertMenu d = .ok (after, m) → Inserts db after
  | route {after : Database} {d : Route.Draft} {r : Route} :
      db.insertRoute d = .ok (after, r) → Inserts db after
  | role {after : Database} {d : Role.Draft} {r : Role} :
      db.insertRole d = .ok (after, r) → Inserts db after
  | roleMenu {after : Database} {d : RoleMenu.Draft} {r : RoleMenu} :
      db.insertRoleMenu d = .ok (after, r) → Inserts db after
  | account {after : Database} {d : Account.Draft} {a : Account} :
      db.insertAccount d = .ok (after, a) → Inserts db after
  | operationLog {after : Database} {d : OperationLog.Draft} {l : OperationLog} :
      db.insertOperationLog d = .ok (after, l) → Inserts db after

/-- A draft is read from the row, column by column, and then inserted. -/
theorem inserts_of_import {table : TableName} {row : Json.Members}
    (done : (db.importRow table row).outcome = .ok after) : Inserts db after := by
  cases table with
  | organization =>
    simp only [importRow, importOrganization, Journal.outcome_bind_eq_ok, Journal.outcome_query,
      bind_eq_ok, pure_eq_ok] at done
    obtain ⟨_, -, _, -, _, -, _, -, _, -, ⟨_, o⟩, done, rfl⟩ := done
    exact .organization done
  | menu =>
    simp only [importRow, importMenu, Journal.outcome_query, bind_eq_ok, pure_eq_ok] at done
    obtain ⟨_, -, _, -, _, -, _, -, _, -, ⟨_, m⟩, done, rfl⟩ := done
    exact .menu done
  | route =>
    simp only [importRow, importRoute, Journal.outcome_query, bind_eq_ok, pure_eq_ok] at done
    obtain ⟨_, -, _, -, _, -, _, -, _, -, ⟨_, r⟩, done, rfl⟩ := done
    exact .route done
  | role =>
    simp only [importRow, importRole, Journal.outcome_bind_eq_ok, Journal.outcome_query,
      bind_eq_ok, pure_eq_ok] at done
    obtain ⟨_, -, _, -, _, -, _, -, _, -, _, -, _, -, ⟨_, r⟩, done, rfl⟩ := done
    exact .role done
  | roleMenu =>
    simp only [importRow, importRoleMenu, Journal.outcome_query, bind_eq_ok, pure_eq_ok] at done
    obtain ⟨_, -, _, -, _, -, _, -, _, -, ⟨_, r⟩, done, rfl⟩ := done
    exact .roleMenu done
  | account =>
    simp only [importRow, importAccount, Journal.outcome_bind_eq_ok, Journal.outcome_query,
      bind_eq_ok, pure_eq_ok] at done
    obtain ⟨_, -, _, -, _, -, _, -, _, -, _, -, _, -, _, -, _, -, _, -, _, -, ⟨_, a⟩, done, rfl⟩ :=
      done
    exact .account done
  | operationLog =>
    simp only [importRow, importOperationLog, Journal.outcome_bind_eq_ok, Journal.outcome_query,
      bind_eq_ok, pure_eq_ok] at done
    obtain ⟨_, -, _, -, _, -, _, -, _, -, _, -, _, -, _, -, _, -, _, -, ⟨_, l⟩, done, rfl⟩ := done
    exact .operationLog done

theorem Inserts.ordered (inserts : Inserts db after) (ordered : db.Ordered) : after.Ordered := by
  cases inserts with
  | organization done =>
    simp only [insertOrganization, bind_eq_ok, pure_eq_ok, Prod.mk.injEq] at done
    obtain ⟨_, -, _, -, id, free, _, -, rfl, rfl⟩ := done
    exact { ordered with organizations := ordered.organizations.place (newId_not_mem free) }
  | menu done =>
    simp only [insertMenu, bind_eq_ok, pure_eq_ok, Prod.mk.injEq] at done
    obtain ⟨_, -, _, -, id, free, rfl, rfl⟩ := done
    exact { ordered with menus := ordered.menus.place (newId_not_mem free) }
  | route done =>
    simp only [insertRoute, bind_eq_ok, pure_eq_ok, Prod.mk.injEq] at done
    obtain ⟨_, -, _, -, _, -, _, -, _, -, id, free, _, -, rfl, rfl⟩ := done
    exact { ordered with routes := ordered.routes.place (newId_not_mem free) }
  | role done =>
    simp only [insertRole, bind_eq_ok, pure_eq_ok, Prod.mk.injEq] at done
    obtain ⟨_, -, _, -, _, -, _, -, id, free, _, -, rfl, rfl⟩ := done
    exact { ordered with roles := ordered.roles.place (newId_not_mem free) }
  | roleMenu done =>
    simp only [insertRoleMenu, bind_eq_ok, pure_eq_ok, Prod.mk.injEq] at done
    obtain ⟨_, -, _, -, _, -, _, -, _, -, id, free, _, -, rfl, rfl⟩ := done
    exact { ordered with roleMenus := ordered.roleMenus.place (newId_not_mem free) }
  | account done =>
    simp only [insertAccount, bind_eq_ok, pure_eq_ok, Prod.mk.injEq] at done
    obtain ⟨_, -, _, -, _, -, _, -, _, -, _, -, id, free, _, -, rfl, rfl⟩ := done
    exact { ordered with accounts := ordered.accounts.place (newId_not_mem free) }
  | operationLog done =>
    simp only [insertOperationLog, bind_eq_ok, pure_eq_ok, Prod.mk.injEq] at done
    obtain ⟨_, -, _, -, _, -, _, -, _, -, id, free, rfl, rfl⟩ := done
    exact { ordered with operationLogs := ordered.operationLogs.place (newId_not_mem free) }

/-! ## Operations -/

theorem ordered_empty : Ordered {} := by
  constructor <;> exact .nil

theorem Seeds.ordered (seeds : Seeds former db) (ordered : former.Ordered) : db.Ordered := by
  induction seeds with
  | refl => exact ordered
  | menu _ next ih => exact { ih with menus := ih.menus.append next }
  | route _ next ih => exact { ih with routes := ih.routes.append next }

end Database

namespace State

variable {s t : State}

theorem ordered_moved {operation : Operation} (moved : Moved s operation t)
    (ordered : s.database.Ordered) : t.database.Ordered := by
  cases moved with
  | still => exact ordered
  | bootstrap done =>
    obtain ⟨db, bootstrapped⟩ := bootstrapped done
    have seeds := seeds_of_seeded bootstrapped.seeded
    have none : db.accounts = [] := by rw [seeds.frame, bootstrapped.empty]
    rw [bootstrapped.state, none]
    exact { seeds.ordered ordered with accounts := List.pairwise_singleton _ _ }
  | account done =>
    obtain ⟨current, made⟩ := accountMade done
    rw [made.state]
    exact { ordered with accounts := ordered.accounts.append made.id }
  | role done =>
    obtain ⟨menus, current, made⟩ := roleMade done
    rw [made.state]
    exact { ordered with
      roles := ordered.roles.append made.id
      roleMenus := Database.append_roleMenuRows InOrder.append ordered.roleMenus }
  | organization done =>
    obtain ⟨current, made⟩ := organizationMade done
    rw [made.state]
    exact { ordered with organizations := ordered.organizations.append made.id }
  | policy done =>
    rw [loadPolicy_ok done]
    exact ordered
  | entry done =>
    obtain ⟨next, state⟩ := recorded done
    rw [state]
    exact { ordered with operationLogs := ordered.operationLogs.append next }

/-- A state that operations and rows from outside lead to. -/
inductive Stocked : State → Prop
  | empty (settings : Settings) : Stocked { settings }
  | step {s : State} (operation : Operation) : Stocked s → Stocked (s.step operation)
  | row {s : State} {table : TableName} {row : Json.Members} {db : Database} : Stocked s →
      (s.database.importRow table row).outcome = .ok db → Stocked { s with database := db }

theorem Reachable.stocked (reachable : s.Reachable) : s.Stocked := by
  obtain ⟨settings, run⟩ := reachable
  induction run with
  | refl => exact .empty settings
  | step _ _ ih => exact ih.step _

theorem Stocked.ordered (stocked : s.Stocked) : s.database.Ordered := by
  induction stocked with
  | empty => exact Database.ordered_empty
  | step operation _ ih => exact ordered_moved (moved_step _ operation) ih
  | row _ done ih => exact (Database.inserts_of_import done).ordered ih

end State

end Tenancy
