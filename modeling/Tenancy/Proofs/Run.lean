import Tenancy.Proofs.Failure

/-!
# Runs

The system moves by operations: a command on behalf of an account, a rebuilding of the policy, or a
new entry of the audit trail. An operation may fail, and then nothing changes.

* `step` is the state after one operation and `run` the state after several.
* `Moved` says once and for all what an operation can do, so that what every step preserves is
  shown by its cases (`moved_step`).
* `Reaches allowed s t`: operations, each of them allowed where it is carried out, lead from `s`
  to `t`. What a step preserves is carried over to runs by induction on it.
-/

namespace Tenancy

/-- What the system can be made to do. -/
inductive Operation where
  | perform (caller : Int) (command : Command)
  | loadPolicy
  | record (request : RecordedRequest)

/-- Whether the account on whose behalf the operation is carried out is one of the issuers. A login,
a rebuilding of the policy and an entry of the audit trail are on nobody's behalf, and the making of
the first account is excluded. -/
def Operation.IssuedBy (issuer : Int → Prop) : Operation → Prop
  | .perform _ (.bootstrap _) => False
  | .perform _ (.login _) | .loadPolicy | .record _ => True
  | .perform caller _ => issuer caller

namespace State

/-- The state after an operation; a failure leaves what was kept on the way to it. -/
def step (s : State) : Operation → State
  | .perform caller command =>
    match (s.perform caller command).outcome with
    | .ok (t, _) => t
    | .error _ => { s with database := (s.perform caller command).kept s.database }
  | .loadPolicy =>
    match s.loadPolicy.outcome with
    | .ok t => t
    | .error _ => s
  | .record request =>
    match (s.record request).outcome with
    | .ok (t, _) => t
    | .error _ => s

/-- The state after several operations. -/
def run (s : State) (operations : List Operation) : State :=
  operations.foldl step s

/-- What an operation can do: nothing, or what one of the writing operations does. -/
inductive Moved (s : State) : Operation → State → Prop
  | still (operation : Operation) : Moved s operation s
  | bootstrap {caller : Int} {c : Credentials} {t : State} {a : Account} :
      (s.bootstrap c).outcome = .ok (t, a) → Moved s (.perform caller (.bootstrap c)) t
  | account {caller : Int} {request : NewAccount} {t : State} {a : Account} :
      (s.createAccount caller request).outcome = .ok (t, a) →
      Moved s (.perform caller (.createAccount request)) t
  | role {caller : Int} {request : NewRole} {t : State} {r : Role} :
      (s.createRole caller request).outcome = .ok (t, r) →
      Moved s (.perform caller (.createRole request)) t
  | organization {caller : Int} {request : NewOrganization} {t : State} {o : Organization} :
      (s.createOrganization caller request).outcome = .ok (t, o) →
      Moved s (.perform caller (.createOrganization request)) t
  | policy {t : State} : s.loadPolicy.outcome = .ok t → Moved s .loadPolicy t
  | entry {request : RecordedRequest} {t : State} {l : OperationLog} :
      (s.record request).outcome = .ok (t, l) → Moved s (.record request) t

/-- What a command that writes leaves is what the operation behind it leaves. -/
theorem written {α : Type} (shown : α → Answer) {operation : Journal (State × α)} {t : State}
    {answer : Answer}
    (done : (do let (u, a) ← operation; return (u, shown a)).outcome = .ok (t, answer)) :
    ∃ a, operation.outcome = .ok (t, a) := by
  simp only [Journal.outcome_bind_eq_ok, Journal.outcome_pure_eq_ok] at done
  obtain ⟨⟨u, a⟩, made, same⟩ := done
  cases same
  exact ⟨a, made⟩

/-- A command that only reads leaves the state as it is. -/
theorem eq_of_read {α : Type} {reading : Journal α} {shown : α → Answer} {s t : State}
    {answer : Answer} (done : (do return (s, shown (← reading))).outcome = .ok (t, answer)) :
    t = s := by
  simp only [Journal.outcome_bind_eq_ok, Journal.outcome_pure_eq_ok] at done
  obtain ⟨_, _, same⟩ := done
  cases same
  rfl

theorem moved_perform {s t : State} {caller : Int} {command : Command} {answer : Answer}
    (done : (s.perform caller command).outcome = .ok (t, answer)) :
    Moved s (.perform caller command) t := by
  cases command with
  | bootstrap c =>
    obtain ⟨a, made⟩ := written .account done
    exact .bootstrap made
  | createAccount request =>
    obtain ⟨a, made⟩ := written (fun row : Account => .created row.id) done
    exact .account made
  | createRole request =>
    obtain ⟨r, made⟩ := written (fun row : Role => .created row.id) done
    exact .role made
  | createOrganization request =>
    obtain ⟨o, made⟩ := written (fun row : Organization => .created row.id) done
    exact .organization made
  | _ =>
    obtain rfl := eq_of_read done
    exact .still _

/-- A command that fails leaves the state as it was. -/
theorem step_of_failed {s : State} {caller : Int} {command : Command} {f : Fault}
    (failed : (s.perform caller command).outcome = .error f) :
    s.step (.perform caller command) = s := by
  have kept := Journal.kept_of_failsClean (perform_failsClean command) failed s.database
  simp only [step, failed, kept]

theorem moved_step (s : State) (operation : Operation) : Moved s operation (s.step operation) := by
  cases operation with
  | perform caller command =>
    cases done : (s.perform caller command).outcome with
    | error f =>
      rw [step_of_failed done]
      exact .still _
    | ok result =>
      simp only [step, done]
      exact moved_perform done
  | loadPolicy =>
    cases done : s.loadPolicy.outcome with
    | error f =>
      simp only [step, done]
      exact .still _
    | ok t =>
      simp only [step, done]
      exact .policy done
  | record request =>
    cases done : (s.record request).outcome with
    | error f =>
      simp only [step, done]
      exact .still _
    | ok result =>
      simp only [step, done]
      exact .entry done

/-- Operations that are allowed where they are carried out lead from one state to another. -/
inductive Reaches (allowed : State → Operation → Prop) (s : State) : State → Prop
  | refl : Reaches allowed s s
  | step {t : State} {operation : Operation} :
      Reaches allowed s t → allowed t operation → Reaches allowed s (t.step operation)

namespace Reaches

variable {allowed : State → Operation → Prop} {s t u : State}

theorem trans (first : Reaches allowed s t) (second : Reaches allowed t u) :
    Reaches allowed s u := by
  induction second with
  | refl => exact first
  | step _ permitted ih => exact ih.step permitted

theorem mono {wider : State → Operation → Prop} (reaches : Reaches allowed s t)
    (weaker : ∀ u operation, allowed u operation → wider u operation) : Reaches wider s t := by
  induction reaches with
  | refl => exact .refl
  | step _ permitted ih => exact ih.step (weaker _ _ permitted)

theorem run_cons {operation : Operation} {rest : List Operation} (permitted : allowed s operation)
    (later : Reaches allowed (s.step operation) ((s.step operation).run rest)) :
    Reaches allowed s (s.run (operation :: rest)) :=
  (Reaches.refl.step permitted).trans later

theorem run {operations : List Operation}
    (permitted : ∀ operation ∈ operations, ∀ u, allowed u operation) :
    Reaches allowed s (s.run operations) := by
  induction operations generalizing s with
  | nil => exact .refl
  | cons operation rest ih =>
    refine .run_cons (permitted operation List.mem_cons_self s) (ih fun later listed => ?_)
    exact permitted later (List.mem_cons_of_mem _ listed)

end Reaches

/-- A state that some operations lead to from the empty database, whatever the settings. -/
def Reachable (s : State) : Prop :=
  ∃ settings, Reaches (fun _ _ => True) { settings } s

theorem reachable_start (settings : Settings) : Reachable { settings } :=
  ⟨settings, .refl⟩

theorem Reaches.reachable {allowed : State → Operation → Prop} {s t : State}
    (reaches : Reaches allowed s t) (reachable : Reachable s) : Reachable t := by
  obtain ⟨settings, run⟩ := reachable
  exact ⟨settings, run.trans (reaches.mono fun _ _ _ => trivial)⟩

/-- The settings stay the same. -/
theorem settings_moved {s t : State} {operation : Operation} (moved : Moved s operation t) :
    t.settings = s.settings := by
  cases moved with
  | still => rfl
  | bootstrap done =>
    obtain ⟨db, bootstrapped⟩ := bootstrapped done
    rw [bootstrapped.state]
  | account done =>
    obtain ⟨current, made⟩ := accountMade done
    rw [made.state]
  | role done =>
    obtain ⟨menus, current, made⟩ := roleMade done
    rw [made.state]
  | organization done =>
    obtain ⟨current, made⟩ := organizationMade done
    rw [made.state]
  | policy done => rw [loadPolicy_ok done]
  | entry done => rw [(recorded done).2]

theorem Reaches.settings {allowed : State → Operation → Prop} {s t : State}
    (reaches : Reaches allowed s t) : t.settings = s.settings := by
  induction reaches with
  | refl => rfl
  | step _ _ ih => exact (settings_moved (moved_step _ _)).trans ih

end State

/-! ## A company

Two first-level organizations, and one manager, account 2, in the first of them. -/

/-- The operations that set up the company. -/
def companySetup : List Operation := [
    .perform 0 (.bootstrap { username := "admin", password := "admin12345" }),
    .perform 1 (.createOrganization { name := "headquarters", parentId := -1 }),
    .perform 1 (.createOrganization { name := "branch", parentId := -1 }),
    .perform 1 (.createRole
      { name := "manager", description := none, isDeletable := true, menuIds := [2, 3, 4] }),
    .perform 1 (.createAccount
      { name := "alice", password := "alice12345", email := none, organizationId := 1
        roleId := 1 })]

/-- The company after its setup. -/
def company : State :=
  ({} : State).run companySetup

theorem reachable_company : company.Reachable :=
  ⟨{}, .run fun _ _ _ => trivial⟩

end Tenancy
