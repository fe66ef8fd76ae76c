import Tenancy.Database.Basic
import Tenancy.Log

/-!
# Outcomes with a history

A journal is the outcome of an operation together with its history: the lines that it logged, the
tables that its statements used, and the databases that it left for good.

* The history up to a failure stays.
* What an operation answers does not depend on its history: `outcome` turns the steps of a journal
  into those of `Except` (`outcome_bind`).
* A journal is written as if every table were there. `within` says how the operation ends when some
  tables cannot be used: the first statement that needs one of them fails.
-/

namespace Tenancy

/-- What happens in the course of an operation. -/
inductive Event where
  /-- A line is logged. -/
  | line (line : LogLine)
  /-- A statement needs some tables. -/
  | uses (tables : List TableName)
  /-- What was done so far stays, even if the rest fails. -/
  | keeps (database : Database)

namespace Event

/-- The line of the event. -/
def line? : Event → Option LogLine
  | line l => some l
  | _ => none

/-- The database that stays. -/
def database? : Event → Option Database
  | keeps database => some database
  | _ => none

/-- Whether the event can happen when some tables can be used and others cannot. -/
def isPossible (usable : TableName → Bool) : Event → Bool
  | uses tables => tables.all usable
  | _ => true

end Event

/-- An outcome and what happened on the way to it. -/
structure Journal (α : Type) where
  history : List Event
  outcome : Except Fault α

namespace Journal

variable {α β : Type}

/-- Succeeds at once. -/
def done (a : α) : Journal α :=
  ⟨[], .ok a⟩

/-- Fails at once. -/
def fail (f : Fault) : Journal α :=
  ⟨[], .error f⟩

/-- Logs one line. -/
def note (line : LogLine) : Journal Unit :=
  ⟨[.line line], .ok ()⟩

/-- Logs several lines. -/
def notes (lines : List LogLine) : Journal Unit :=
  ⟨lines.map .line, .ok ()⟩

/-- Keeps what was done so far. -/
def keep (database : Database) : Journal Unit :=
  ⟨[.keeps database], .ok ()⟩

/-- An outcome without a history. -/
def ofExcept (outcome : Except Fault α) : Journal α :=
  ⟨[], outcome⟩

/-- The outcome of a statement that uses some tables. -/
def query (tables : List TableName) (outcome : Except Fault α) : Journal α :=
  ⟨[.uses tables], outcome⟩

/-- What is read from some tables. -/
def read (tables : List TableName) (a : α) : Journal α :=
  query tables (.ok a)

/-- Goes on after a success; a failure ends the journal. -/
def andThen (x : Journal α) (next : α → Journal β) : Journal β :=
  match x.outcome with
  | .error f => ⟨x.history, .error f⟩
  | .ok a => ⟨x.history ++ (next a).history, (next a).outcome⟩

instance : Monad Journal where
  pure := done
  bind := andThen

/-- The lines that were logged. -/
def lines (j : Journal α) : List LogLine :=
  j.history.filterMap Event.line?

/-- The database that a failure leaves: the last one that was kept, or the one before. -/
def kept (j : Journal α) (former : Database) : Database :=
  (j.history.filterMap Event.database?).getLast?.getD former

/-- The journal when some tables can be used and others cannot. -/
def within (usable : TableName → Bool) (j : Journal α) : Journal α :=
  if j.history.all (·.isPossible usable) then j
  else ⟨j.history.takeWhile (·.isPossible usable), .error .databaseUnavailable⟩

@[simp] theorem outcome_pure (a : α) : (pure a : Journal α).outcome = .ok a := rfl

@[simp] theorem outcome_fail (f : Fault) : (fail f : Journal α).outcome = .error f := rfl

@[simp] theorem outcome_note (line : LogLine) : (note line).outcome = .ok () := rfl

@[simp] theorem outcome_keep (database : Database) : (keep database).outcome = .ok () := rfl

@[simp] theorem outcome_ofExcept (x : Except Fault α) : (ofExcept x).outcome = x := rfl

@[simp] theorem outcome_query (tables : List TableName) (x : Except Fault α) :
    (query tables x).outcome = x := rfl

@[simp] theorem outcome_read (tables : List TableName) (a : α) :
    (read tables a).outcome = .ok a := rfl

@[simp] theorem outcome_bind (x : Journal α) (next : α → Journal β) :
    (x >>= next).outcome = x.outcome >>= fun a => (next a).outcome := by
  cases h : x.outcome <;> simp [bind, andThen, Except.bind, h]

/-- Nothing changes as long as every table can be used. -/
theorem within_all (j : Journal α) : j.within (fun _ => true) = j := by
  have possible : j.history.all (·.isPossible fun _ => true) = true := by
    simp only [List.all_eq_true]
    intro event _
    cases event <;> simp [Event.isPossible]
  simp [within, possible]

end Journal

end Tenancy
