import Tenancy.Proofs.Widths

/-!
# Room for the ids

An id is the highest one of its table and one more, and an operation gives out at most one to each
of the organizations, the roles, the accounts and the entries of the audit trail. So their ids do
not exceed the number of operations, and only a system that has seen `2 ^ 63 - 1` of them may have
an id that the database cannot hold.

* `RunsTo s n t`: at most `n` operations lead from `s` to `t`.
* `idsUpTo_moved`: an operation raises the bound of the ids by one at most.
* `RunsTo.roomy`, `RunsTo.held`: what is asked of the ids where integers are too wide
  (`wide_handed_iff`) or where pages are shown (`oversight_is_strict_order`) is so in every state
  that fewer operations lead to.
-/

namespace Tenancy

namespace Database

variable {db : Database} {ids : List Int} {m n : Int}

theorem nextId_le (bounded : ∀ id ∈ ids, id ≤ n) (start : 0 ≤ n) : nextId ids ≤ n + 1 := by
  unfold nextId
  cases highest : ids.max? with
  | none =>
    show 1 ≤ n + 1
    omega
  | some top =>
    have listed := (List.max?_eq_some_iff.mp highest).1
    have below := bounded top listed
    show top + 1 ≤ n + 1
    omega

/-- A new row with the next id is above the bound of its table by one at most. -/
theorem bounded_append {α : Type} {idOf : α → Int} {rows : List α} {row : α}
    (bounded : ∀ id ∈ rows.map idOf, id ≤ n) (start : 0 ≤ n)
    (next : idOf row = nextId (rows.map idOf)) :
    ∀ id ∈ (rows ++ [row]).map idOf, id ≤ n + 1 := by
  intro id listed
  rw [List.map_append, List.map_singleton, List.mem_append, List.mem_singleton] at listed
  rcases listed with old | rfl
  · have below := bounded id old
    omega
  · rw [next]
    exact nextId_le bounded start

/-- No organization, role, account or entry of the audit trail has an id above `n`. -/
structure IdsUpTo (db : Database) (n : Int) : Prop where
  organizations : ∀ id ∈ db.organizations.map (·.id), id ≤ n
  roles : ∀ id ∈ db.roles.map (·.id), id ≤ n
  accounts : ∀ id ∈ db.accounts.map (·.id), id ≤ n
  operationLogs : ∀ id ∈ db.operationLogs.map (·.id), id ≤ n

theorem idsUpTo_empty : IdsUpTo {} 0 := by
  constructor <;> exact nofun

theorem IdsUpTo.mono (bounded : db.IdsUpTo m) (le : m ≤ n) : db.IdsUpTo n where
  organizations id listed := Int.le_trans (bounded.organizations id listed) le
  roles id listed := Int.le_trans (bounded.roles id listed) le
  accounts id listed := Int.le_trans (bounded.accounts id listed) le
  operationLogs id listed := Int.le_trans (bounded.operationLogs id listed) le

end Database

namespace State

variable {s t u : State} {m n : Nat}

/-! ## What one operation adds -/

theorem idsUpTo_moved {operation : Operation} (moved : Moved s operation t)
    (bounded : s.database.IdsUpTo n) : t.database.IdsUpTo (n + 1) := by
  have start : (0 : Int) ≤ n := Int.natCast_nonneg n
  have later : s.database.IdsUpTo (n + 1) := bounded.mono (by omega)
  cases moved with
  | still => exact later
  | bootstrap done =>
    obtain ⟨db, bootstrapped⟩ := bootstrapped done
    have frame := (seeds_of_seeded bootstrapped.seeded).frame
    have none : db.accounts = [] := by rw [frame, bootstrapped.empty]
    rw [bootstrapped.state, bootstrapped.account, none, frame]
    -- the only account is the super administrator's
    refine { later with accounts := fun id listed => ?_ }
    obtain rfl : id = superAdminId := List.mem_singleton.mp listed
    show 1 ≤ (n : Int) + 1
    omega
  | account done =>
    obtain ⟨current, made⟩ := accountMade done
    rw [made.state]
    exact { later with
      accounts := Database.bounded_append bounded.accounts start made.id }
  | role done =>
    obtain ⟨menus, current, made⟩ := roleMade done
    rw [made.state]
    exact { later with
      roles := Database.bounded_append bounded.roles start made.id }
  | organization done =>
    obtain ⟨current, made⟩ := organizationMade done
    rw [made.state]
    exact { later with
      organizations := Database.bounded_append bounded.organizations start made.id }
  | policy done =>
    rw [loadPolicy_ok done]
    exact later
  | entry done =>
    obtain ⟨next, state⟩ := recorded done
    rw [state]
    exact { later with
      operationLogs := Database.bounded_append bounded.operationLogs start next }

/-! ## Several operations -/

theorem idsUpTo_run (operations : List Operation) (bounded : s.database.IdsUpTo m) :
    (s.run operations).database.IdsUpTo (m + operations.length : Nat) := by
  induction operations generalizing s m with
  | nil => exact bounded
  | cons operation rest ih =>
    have one : (s.step operation).database.IdsUpTo (m + 1 : Nat) :=
      idsUpTo_moved (moved_step s operation) bounded
    have all := ih one
    rwa [Nat.add_assoc, Nat.add_comm 1] at all

/-- At most `n` operations lead from one state to another. -/
def RunsTo (s : State) (n : Nat) (t : State) : Prop :=
  ∃ operations : List Operation, operations.length ≤ n ∧ t = s.run operations

namespace RunsTo

theorem refl (s : State) (n : Nat) : s.RunsTo n s :=
  ⟨[], Nat.zero_le n, rfl⟩

theorem step (s : State) (operation : Operation) : s.RunsTo 1 (s.step operation) :=
  ⟨[operation], Nat.le_refl 1, rfl⟩

theorem run (s : State) (operations : List Operation) :
    s.RunsTo operations.length (s.run operations) :=
  ⟨operations, Nat.le_refl _, rfl⟩

theorem mono (runs : s.RunsTo m t) (le : m ≤ n) : s.RunsTo n t := by
  obtain ⟨operations, few, rfl⟩ := runs
  exact ⟨operations, Nat.le_trans few le, rfl⟩

theorem trans (first : s.RunsTo m t) (second : t.RunsTo n u) : s.RunsTo (m + n) u := by
  obtain ⟨before, few, rfl⟩ := first
  obtain ⟨after, fewer, rfl⟩ := second
  refine ⟨before ++ after, ?_, ?_⟩
  · rw [List.length_append]
    exact Nat.add_le_add few fewer
  · exact (List.foldl_append ..).symm

theorem reachable (runs : s.RunsTo n t) (reachable : s.Reachable) : t.Reachable := by
  obtain ⟨operations, -, rfl⟩ := runs
  have steps : Reaches (fun _ _ => True) s (s.run operations) := .run fun _ _ _ => trivial
  exact steps.reachable reachable

theorem idsUpTo (runs : s.RunsTo n t) (bounded : s.database.IdsUpTo m) :
    t.database.IdsUpTo (m + n : Nat) := by
  obtain ⟨operations, few, rfl⟩ := runs
  exact (idsUpTo_run operations bounded).mono (by omega)

end RunsTo

/-! ## Ids that the database can hold -/

/-- Ids of rows are positive, so that they fit if they are not too high. -/
theorem fits_of_bounded {α : Type} {idOf : α → Int} {rows : List α}
    (numbered : Numbered (rows.map idOf)) (bounded : ∀ id ∈ rows.map idOf, id ≤ n)
    (few : n < 0x8000000000000000) : ∀ row ∈ rows, fits64 (idOf row) = true := by
  intro row present
  have listed := List.mem_map_of_mem (f := idOf) present
  have low := numbered.positive _ listed
  have high := bounded _ listed
  simp only [fits64, Bool.and_eq_true, decide_eq_true_iff]
  omega

section Empty

variable {settings : Settings} (runs : State.RunsTo { settings } n t)
include runs

theorem RunsTo.idsUpTo_of_empty : t.database.IdsUpTo n := by
  have bounded := runs.idsUpTo (m := 0) Database.idsUpTo_empty
  rwa [Nat.zero_add] at bounded

/-- The ids of accounts and entries fit as long as there are fewer than `2 ^ 63` operations. -/
theorem RunsTo.held (few : n < 0x8000000000000000) : t.Held := by
  have bounded := runs.idsUpTo_of_empty
  have numbered := Reachable.wellNumbered (runs.reachable (reachable_start settings))
  exact {
    accounts := fits_of_bounded numbered.accounts bounded.accounts few
    operationLogs := fits_of_bounded numbered.operationLogs bounded.operationLogs few }

/-- There is even room for one more role if there is one operation less. -/
theorem RunsTo.roomy (few : n < 0x7fffffffffffffff) : t.Roomy := by
  have bounded := runs.idsUpTo_of_empty
  have numbered := Reachable.wellNumbered (runs.reachable (reachable_start settings))
  have fewer : n < 0x8000000000000000 := by omega
  refine {
    accounts := fits_of_bounded numbered.accounts bounded.accounts fewer
    organizations := fits_of_bounded numbered.organizations bounded.organizations fewer
    role := ?_ }
  have low := numbered.roles.nextId_pos
  have high := Database.nextId_le bounded.roles (Int.natCast_nonneg n)
  simp only [fits64, Bool.and_eq_true, decide_eq_true_iff]
  omega

end Empty

end State

end Tenancy
