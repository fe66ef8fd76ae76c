import Tenancy.Proofs.Guard
import Tenancy.Proofs.Integrity
import Tenancy.Proofs.PolicyStep

/-!
# Regular states

What holds of every state that can be reached, in one place: ids, rows and policy are as the
operations leave them (`Regular`). Every operation keeps a state regular (`regular_moved`). A
policy that is in step need not be the one that was kept along with the rows: the state is regular
as long as its database can be reached (`regular_of_database`).

In a regular state an account

* has the role of its row and no other, and none if it is the super administrator's
  (`Regular.hasRole_iff`);
* passes the first-level check to what is within its reach, which includes its home, and is denied
  all else (`Regular.checkScope_of_inReach`, `Regular.checkScope_of_not_inReach`).
-/

namespace Tenancy

/-- The home of an account is the root, or it belongs to a first-level organization. -/
theorem Database.Consistent.home {db : Database} (consistent : db.Consistent)
    (numbered : db.WellNumbered) {a : Account} (present : a ∈ db.accounts) :
    a.id = superAdminId ∧ a.organizationId = rootOrganizationId ∨
      a.id ≠ superAdminId ∧ ∃ first, db.hierarchy.Resolves a.organizationId first := by
  by_cases admin : a.id = superAdminId
  · exact .inl ⟨admin, (consistent.homes a present).mpr admin⟩
  · obtain ⟨⟨o, listed, own, -⟩, -⟩ := consistent.members a present admin
    obtain ⟨first, climbs⟩ := consistent.resolves numbered listed
    rw [own, Hierarchy.firstLevelAncestor_eq_ok_iff] at climbs
    exact .inr ⟨admin, first, climbs⟩

namespace State

variable {s t : State}

/-- Ids, rows and policy are as the operations leave them. -/
structure Regular (s : State) : Prop where
  numbered : s.database.WellNumbered
  kind : s.Blank ∨ s.Founded
  consistent : s.database.Consistent
  inStep : s.InStep

/-! ## Runs -/

theorem regular_start (settings : Settings) : Regular { settings } where
  numbered := Database.wellNumbered_empty
  kind := .inl rfl
  consistent := Database.consistent_empty
  inStep := inStep_start settings

theorem regular_moved {operation : Operation} (moved : Moved s operation t)
    (regular : s.Regular) : t.Regular where
  numbered := wellNumbered_moved moved regular.numbered
  kind := blank_or_founded_moved moved regular.kind
  consistent := consistent_moved moved regular.numbered regular.consistent
  inStep := inStep_moved moved regular.numbered regular.kind regular.inStep

theorem Reaches.regular {allowed : State → Operation → Prop} (reaches : Reaches allowed s t)
    (regular : s.Regular) : t.Regular := by
  induction reaches with
  | refl => exact regular
  | step _ _ ih => exact regular_moved (moved_step _ _) ih

theorem Reachable.regular (reachable : s.Reachable) : s.Regular := by
  obtain ⟨settings, run⟩ := reachable
  exact run.regular (regular_start settings)

/-- Any policy will do that is in step with a database that can be reached. -/
theorem regular_of_database {former : Access.Policy}
    (reached : Reachable { s with policy := former }) (inStep : s.InStep) : s.Regular := by
  obtain ⟨numbered, kind, consistent, -⟩ := Reachable.regular reached
  refine ⟨numbered, ?_, consistent, inStep⟩
  rcases kind with blank | founded
  · exact .inl blank
  · exact .inr ⟨founded.menus, founded.routes, founded.first⟩

/-- Whether an account is shown depends on the first-level check only. -/
theorem showAccount_outcome (current target : Account) :
    (s.showAccount current target).outcome =
      (s.database.hierarchy.checkScope current.caller target.organizationId
        .firstLevel).outcome.map fun _ =>
          ⟨target, s.database.menuForest (s.database.selectionOf target)⟩ := by
  simp only [showAccount, hierarchy, selectionOf, menuForest, Journal.outcome_bind,
    Journal.outcome_read, Journal.outcome_pure, ok_bind]
  cases (s.database.hierarchy.checkScope current.caller target.organizationId
    .firstLevel).outcome with
  | ok _ => rfl
  | error f => rfl

/-- All patterns of a regular state are expressions. -/
theorem Regular.compilesFor (regular : s.Regular) (account : Int) :
    s.policy.CompilesFor account :=
  fun _ held _ => compiles_of_inStep regular.inStep regular.kind held

/-- The organization belongs to the tenant of the account. Everything is within reach of the super
administrator. -/
def InReach (s : State) (a : Account) (x : Int) : Prop :=
  a.id = superAdminId ∨ ∃ first, s.database.hierarchy.Resolves a.organizationId first ∧
    s.database.hierarchy.Resolves x first

theorem inReach_iff_resolves {a : Account} {first x : Int} (ordinary : a.id ≠ superAdminId)
    (home : s.database.hierarchy.Resolves a.organizationId first) :
    s.InReach a x ↔ s.database.hierarchy.Resolves x first := by
  constructor
  · rintro (admin | ⟨other, own, within⟩)
    · exact absurd admin ordinary
    · exact own.unique home ▸ within
  · exact fun within => .inr ⟨first, home, within⟩

namespace Regular

variable (regular : s.Regular) {a : Account} (present : a ∈ s.database.accounts)
include regular present

/-! ## Accounts -/

/-- Where there is an account, the first one has been made. -/
theorem founded : s.Founded := by
  rcases regular.kind with blank | founded
  · rw [blank] at present
    cases present
  · exact founded

/-- An account is found under its id, as long as this fits into the database. -/
theorem account_eq : (s.account a.id).outcome =
    if fits64 a.id then .ok a else .error .integerTooLarge :=
  Database.lookup_of_mem regular.numbered.accounts.nodup present

theorem account_of_fits (fits : fits64 a.id = true) : (s.account a.id).outcome = .ok a := by
  rw [regular.account_eq present, if_pos fits]

/-- No two accounts have the same id. -/
theorem eq_of_id {b : Account} (listed : b ∈ s.database.accounts) (same : b.id = a.id) : b = a :=
  List.inj_on_of_nodup_map regular.numbered.accounts.nodup listed present same

/-- The home of an ordinary account belongs to a first-level organization. -/
theorem exists_first (ordinary : a.id ≠ superAdminId) :
    ∃ first, s.database.hierarchy.Resolves a.organizationId first := by
  rcases regular.consistent.home regular.numbered present with ⟨admin, -⟩ | ⟨-, home⟩
  · exact absurd admin ordinary
  · exact home

/-- An ordinary account has the role of its row and no other. -/
theorem hasRole_iff {role : Int} :
    s.policy.hasRole a.id role = true ↔ a.id ≠ superAdminId ∧ role = a.roleId := by
  rw [Access.Policy.hasRole, decide_eq_true_iff, regular.inStep.assignments,
    Database.mem_members_policyRows]
  constructor
  · rintro ⟨b, listed, ordinary, sameId, sameRole⟩
    obtain rfl : b = a := regular.eq_of_id present listed sameId
    exact ⟨ordinary, sameRole.symm⟩
  · rintro ⟨ordinary, rfl⟩
    exact ⟨a, present, ordinary, rfl, rfl⟩

theorem inReach_home : s.InReach a a.organizationId := by
  rcases regular.consistent.home regular.numbered present with ⟨admin, -⟩ | ⟨-, first, home⟩
  · exact .inl admin
  · exact .inr ⟨first, home, home⟩

/-- The first-level check lets an account pass to what is within its reach. -/
theorem checkScope_of_inReach {x : Int} (within : s.InReach a x) :
    (s.database.hierarchy.checkScope a.caller x .firstLevel).outcome = .ok () := by
  rcases regular.consistent.home regular.numbered present with ⟨-, root⟩ | ⟨ordinary, first, home⟩
  · exact Hierarchy.checkScope_eq_ok.mpr (.inl ⟨root, rfl⟩)
  · have proper := regular.numbered.proper
    rw [inReach_iff_resolves ordinary home, ← proper.mem_firstLevel_iff home.last] at within
    rw [Hierarchy.checkScope_firstLevel proper home (isSuperAdmin_eq_false ordinary) rfl]
    exact within

theorem checkScope_of_not_inReach {x : Int} (beyond : ¬s.InReach a x) :
    (s.database.hierarchy.checkScope a.caller x .firstLevel).outcome = .error .outsideScope := by
  rcases regular.consistent.home regular.numbered present with ⟨admin, -⟩ | ⟨ordinary, first, home⟩
  · exact absurd (.inl admin) beyond
  · have proper := regular.numbered.proper
    rw [inReach_iff_resolves ordinary home, ← proper.mem_firstLevel_iff home.last] at beyond
    exact Hierarchy.checkScope_outside proper home (isSuperAdmin_eq_false ordinary) rfl beyond

/-- An account passes the first-level check of its own home. -/
theorem checkScope_home :
    (s.database.hierarchy.checkScope a.caller a.organizationId .firstLevel).outcome = .ok () :=
  regular.checkScope_of_inReach present (regular.inReach_home present)

/-- An account is shown to itself. -/
theorem currentAccount_outcome (fits : fits64 a.id = true) :
    (s.currentAccount a.id).outcome =
      .ok ⟨a, s.database.menuForest (s.database.selectionOf a)⟩ := by
  rw [currentAccount, Journal.outcome_bind, regular.account_of_fits present fits]
  show (s.showAccount a a).outcome = _
  rw [showAccount_outcome, regular.checkScope_home present]
  rfl

end Regular

end State

end Tenancy
