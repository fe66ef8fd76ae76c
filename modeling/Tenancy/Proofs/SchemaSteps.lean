import Mathlib.Data.List.Induction
import Tenancy.Database.Row
import Tenancy.Schema

/-!
# The schema under all steps

Which tables there are depends on the steps that were taken, and `schema_follows_steps` says how:
tables that were made directly are there for good, and the revision counts as long as no step back
follows it. Whatever the steps, the tables fit together (`tables_fit`).

* `run_eq_iff`: a schema was entered by some step and is kept by all steps since.
* `InOrder.take`: tables that can be made one after the other have all of their references resolved
  at every moment, as well if they are dropped from the last one on.
-/

namespace Tenancy

namespace TableName

/-- The name of a table in the schema. -/
def name : TableName → String
  | organization => "organization"
  | menu => "menu"
  | route => "route"
  | role => "role"
  | roleMenu => "role_menu"
  | account => "account"
  | operationLog => "operation_log"

/-- The tables in the order in which they are made. -/
def all : List TableName :=
  [organization, menu, route, role, roleMenu, account, operationLog]

end TableName

namespace Schema

/-! ## Tables -/

/-- Every reference of the table leads from one of its columns to the key of a known table. -/
def Resolves (known : List Table) (t : Table) : Prop :=
  ∀ r ∈ t.references, (∃ c ∈ t.columns, c.name = r.column ∧ c.type = .integer) ∧
    ∃ parent ∈ known, parent.name = r.table ∧
      ∃ c ∈ parent.columns, c.name = r.target ∧ c.isKey = true ∧ c.type = .integer

instance (known : List Table) : DecidablePred (Resolves known) :=
  fun t => inferInstanceAs (Decidable (∀ r ∈ t.references, _ ∧ _))

/-- The tables can be made one after the other, if some are known before. -/
def InOrder : List Table → List Table → Prop
  | _, [] => True
  | known, t :: rest => Resolves known t ∧ InOrder (t :: known) rest

instance decidableInOrder : (known ts : List Table) → Decidable (InOrder known ts)
  | _, [] => isTrue trivial
  | known, t :: rest =>
    let := decidableInOrder (t :: known) rest
    inferInstanceAs (Decidable (Resolves known t ∧ InOrder (t :: known) rest))

theorem InOrder.take {known ts : List Table} (ordered : InOrder known ts) (n : Nat) :
    InOrder known (ts.take n) := by
  induction ts generalizing known n with
  | nil =>
    rw [List.take_nil]
    trivial
  | cons t rest ih =>
    cases n with
    | zero => trivial
    | succ n => exact ⟨ordered.1, ih ordered.2 n⟩

/-- The table without what the ways of making it differ in: the rules on deletion, and the widths of
texts. -/
def Table.bare (t : Table) : Table :=
  { t with
    columns := t.columns.map fun c =>
      match c.type with
      | .text _ => { c with type := .text none }
      | _ => c
    references := t.references.map fun r => { r with onDelete := "" } }

/-- The tables of a schema fit together. -/
structure Fit (ts : List Table) : Prop where
  /-- However many of them are there, their references resolve. -/
  ordered : ∀ n, InOrder [] (ts.take n)
  names_nodup : (ts.map (·.name)).Nodup
  columns_nodup : ∀ t ∈ ts, (t.columns.map (·.name)).Nodup
  indexes_nodup : (ts.flatMap fun t => t.indexes.map (·.name)).Nodup
  indexed : ∀ t ∈ ts, ∀ i ∈ t.indexes, i.column ∈ t.columns.map (·.name)
  /-- The references lead to the tables that rows are checked against. -/
  parents : ∀ table ∈ TableName.all, ∀ t ∈ ts, t.name = table.name →
    (t.references.map (·.table)).Perm (table.parents.map (·.name))

theorem fit_tables (origin : Origin) : Fit (tables origin) where
  ordered := InOrder.take (by cases origin <;> decide +kernel)
  names_nodup := by cases origin <;> decide +kernel
  columns_nodup := by cases origin <;> decide +kernel
  indexes_nodup := by cases origin <;> decide +kernel
  indexed := by cases origin <;> decide +kernel
  parents := by cases origin <;> decide +kernel

theorem fit_nil : Fit [] where
  ordered n := by
    rw [List.take_nil]
    trivial
  names_nodup := .nil
  columns_nodup := nofun
  indexes_nodup := .nil
  indexed := nofun
  parents _ _ := nofun

/-! ## Steps -/

/-- A step that is taken with the schema. -/
inductive Step where
  | upgrade
  | downgrade
  | create
  deriving DecidableEq, Repr

namespace State

variable {s t : State} {steps back : List Step}

/-- The schema after a step. One that fails leaves it as it is. -/
def step (s : State) : Step → State
  | .upgrade => s.upgrade.toOption.getD s
  | .downgrade => s.downgrade
  | .create => s.create

/-- The schema after some steps. -/
def run (s : State) (steps : List Step) : State :=
  steps.foldl step s

theorem run_append (s : State) (front back : List Step) :
    s.run (front ++ back) = (s.run front).run back :=
  List.foldl_append

theorem run_of_kept (kept : ∀ x ∈ back, s.step x = s) : s.run back = s := by
  induction back with
  | nil => rfl
  | cons x rest ih =>
    obtain ⟨first, kept⟩ := List.forall_mem_cons.mp kept
    show (s.step x).run rest = s
    rw [first, ih kept]

/-- A schema that was not there at first was entered by some step and is kept by all steps since. -/
theorem run_eq_iff (other : s ≠ t) :
    s.run steps = t ↔ ∃ front x back, steps = front ++ x :: back ∧ s.run front ≠ t ∧
      (s.run front).step x = t ∧ ∀ y ∈ back, t.step y = t := by
  constructor
  · intro arrived
    -- from behind, as the last step that enters the schema is asked for
    induction steps using List.reverseRecOn with
    | nil => exact absurd arrived other
    | append_singleton steps last ih =>
      rw [run_append] at arrived
      change (s.run steps).step last = t at arrived
      by_cases there : s.run steps = t
      · obtain ⟨front, x, back, rfl, before, entered, kept⟩ := ih there
        rw [there] at arrived
        refine ⟨front, x, back ++ [last], by simp, before, entered, ?_⟩
        simpa [or_imp, forall_and] using ⟨kept, arrived⟩
      · exact ⟨steps, last, [], rfl, there, arrived, nofun⟩
  · rintro ⟨front, x, back, rfl, -, entered, kept⟩
    rw [run_append]
    show ((s.run front).step x).run back = t
    rw [entered, run_of_kept kept]

/-- Tables that are made directly are made where there are none. -/
theorem step_eq_direct_iff (other : s ≠ some .direct) (x : Step) :
    s.step x = some .direct ↔ s = none ∧ x = .create := by
  revert other
  rcases s with - | - | - <;> cases x <;> decide

theorem step_direct (x : Step) : step (some .direct) x = some .direct := by
  cases x <;> rfl

/-- The revision is entered by going to it, unless tables are in the way. -/
theorem step_eq_revision_iff (other : s ≠ some .revision) (x : Step) :
    s.step x = some .revision ↔ s ≠ some .direct ∧ x = .upgrade := by
  revert other
  rcases s with - | - | - <;> cases x <;> decide

theorem step_revision_iff (x : Step) :
    step (some .revision) x = some .revision ↔ x ≠ .downgrade := by
  cases x <;> decide

theorem upgrade_fails_iff : (∃ f, s.upgrade = .error f) ↔ s = some .direct := by
  rcases s with - | - | - <;> simp [upgrade]

end State

/-- Whatever steps were taken, the tables that there are fit together. Rows go with the ones they
refer to just if the revision is on record, and nothing else but the widths of two columns depends
on how the tables were made. -/
theorem tables_fit (s : State) :
    Fit s.tables ∧
    (s.tables = [] ∨ s.tables.map Table.bare = (tables .revision).map Table.bare) ∧
    ∀ t ∈ s.tables, ∀ r ∈ t.references, r.onDelete = "CASCADE" ↔ revision ∈ s.revisions := by
  cases s with
  | none => exact ⟨fit_nil, .inl rfl, nofun⟩
  | some origin =>
    refine ⟨fit_tables origin, .inr ?_, ?_⟩
    · cases origin <;> rfl
    · cases origin <;> decide +kernel

open Schema.State in
/-- Beginning without tables, there are those of the revision just if a step to it met no tables
made directly and no step back came after it. There are tables made directly just if they were once
made where there were none: they stay, and no step to the revision succeeds any more. -/
theorem schema_follows_steps (steps : List Step) :
    (run none steps = some .revision ↔ ∃ front back, steps = front ++ .upgrade :: back ∧
      run none front ≠ some .direct ∧ Step.downgrade ∉ back) ∧
    (run none steps = some .direct ↔ ∃ front back, steps = front ++ .create :: back ∧
      run none front = none) ∧
    ((∃ f, (run none steps).upgrade = .error f) ↔ run none steps = some .direct) := by
  refine ⟨⟨fun revised => ?_, ?_⟩, ⟨fun made => ?_, ?_⟩, upgrade_fails_iff⟩
  · have other : none ≠ some Origin.revision := nofun
    obtain ⟨front, x, back, rfl, before, entered, kept⟩ := (run_eq_iff other).mp revised
    obtain ⟨free, rfl⟩ := (step_eq_revision_iff before x).mp entered
    refine ⟨front, back, rfl, free, fun undone => ?_⟩
    exact (step_revision_iff .downgrade).mp (kept _ undone) rfl
  · rintro ⟨front, back, rfl, free, kept⟩
    have entered : (run none front).step .upgrade = some .revision := by
      by_cases there : run none front = some .revision
      · rw [there]
        rfl
      · exact (step_eq_revision_iff there .upgrade).mpr ⟨free, rfl⟩
    rw [run_append]
    show ((run none front).step .upgrade).run back = _
    rw [entered]
    refine run_of_kept fun y listed => (step_revision_iff y).mpr ?_
    rintro rfl
    exact kept listed
  · have other : none ≠ some Origin.direct := nofun
    obtain ⟨front, x, back, rfl, before, entered, -⟩ := (run_eq_iff other).mp made
    obtain ⟨empty, rfl⟩ := (step_eq_direct_iff before x).mp entered
    exact ⟨front, back, rfl, empty⟩
  · rintro ⟨front, back, rfl, empty⟩
    rw [run_append, empty]
    exact run_of_kept fun y _ => step_direct y

end Schema

end Tenancy
