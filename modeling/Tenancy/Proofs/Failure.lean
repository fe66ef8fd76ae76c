import Tenancy.Proofs.Operations
import Tenancy.Proofs.Seeding

/-!
# What a failure leaves

A journal that is `Quiet` leaves no database for good, and one that `FailsClean` fails only before
it does. Every command fails clean (`perform_failsClean`): the two that keep something on their way,
the making of the first account and that of a role, cannot fail from there on. So a command that
fails leaves the database as it was.
-/

namespace Tenancy

namespace Journal

variable {α β : Type}

/-- The databases that were left for good. -/
def keeps (j : Journal α) : List Database :=
  j.history.filterMap Event.database?

/-- Nothing was left for good. -/
def Quiet (j : Journal α) : Prop :=
  j.keeps = []

/-- A failure comes before anything was left for good. -/
def FailsClean (j : Journal α) : Prop :=
  ∀ f, j.outcome = .error f → j.Quiet

theorem keeps_bind (x : Journal α) (next : α → Journal β) :
    (x >>= next).keeps = x.keeps ++ match x.outcome with
      | .ok a => (next a).keeps
      | .error _ => [] := by
  cases h : x.outcome <;> simp [keeps, bind, andThen, h]

theorem quiet_bind {x : Journal α} {next : α → Journal β} (quiet : x.Quiet)
    (quietNext : ∀ a, (next a).Quiet) : (x >>= next).Quiet := by
  unfold Quiet at quiet ⊢
  rw [keeps_bind, quiet]
  cases x.outcome with
  | error f => rfl
  | ok a => exact quietNext a

/-- Nothing comes after a failure. -/
theorem quiet_bind_of_error {x : Journal α} {next : α → Journal β} (quiet : x.Quiet) {f : Fault}
    (failed : x.outcome = .error f) : (x >>= next).Quiet := by
  unfold Quiet at quiet ⊢
  rw [keeps_bind, quiet, failed]
  rfl

theorem quiet_bind_of_ok {x : Journal α} {next : α → Journal β} (quiet : x.Quiet) {a : α}
    (done : x.outcome = .ok a) (rest : (next a).Quiet) : (x >>= next).Quiet := by
  unfold Quiet at quiet ⊢
  rw [keeps_bind, quiet, done]
  exact rest

theorem quiet_pure (a : α) : (pure a : Journal α).Quiet := rfl

theorem quiet_done (a : α) : (done a).Quiet := rfl

theorem quiet_fail (f : Fault) : (fail f : Journal α).Quiet := rfl

theorem quiet_note (line : LogLine) : (note line).Quiet := rfl

theorem quiet_query (tables : List TableName) (x : Except Fault α) : (query tables x).Quiet := rfl

theorem quiet_ofExcept (x : Except Fault α) : (ofExcept x).Quiet := rfl

theorem Quiet.kept {j : Journal α} (quiet : j.Quiet) (former : Database) :
    j.kept former = former := by
  unfold Quiet keeps at quiet
  simp [Journal.kept, quiet]

/-- What cannot be used ends a journal, and it keeps no more than before. -/
theorem Quiet.within {j : Journal α} (quiet : j.Quiet) (usable : TableName → Bool) :
    (j.within usable).Quiet := by
  unfold Journal.within
  split
  · exact quiet
  · have none : ∀ event ∈ j.history, event.database? = .none := List.filterMap_eq_nil_iff.mp quiet
    exact List.filterMap_eq_nil_iff.mpr fun event early =>
      none event (List.takeWhile_subset _ early)

theorem ok_of_within {j : Journal α} {usable : TableName → Bool} {a : α}
    (done : (j.within usable).outcome = .ok a) : j.outcome = .ok a := by
  unfold Journal.within at done
  split at done
  · exact done
  · cases done

theorem Quiet.failsClean {j : Journal α} (quiet : j.Quiet) : j.FailsClean :=
  fun _ _ => quiet

theorem failsClean_of_ok {j : Journal α} {a : α} (done : j.outcome = .ok a) : j.FailsClean := by
  intro f failed
  rw [done] at failed
  cases failed

theorem failsClean_bind {x : Journal α} {next : α → Journal β} (quiet : x.Quiet)
    (clean : ∀ a, x.outcome = .ok a → (next a).FailsClean) : (x >>= next).FailsClean := by
  intro f failed
  unfold Quiet at quiet ⊢
  rw [keeps_bind, quiet]
  cases done : x.outcome with
  | error g => rfl
  | ok a =>
    rw [outcome_bind, done] at failed
    exact clean a done f failed

/-- What comes after the first part may keep more, as it cannot fail. -/
theorem FailsClean.bind_ok {x : Journal α} {next : α → Journal β} (clean : x.FailsClean)
    (succeeds : ∀ a, x.outcome = .ok a → ∃ b, (next a).outcome = .ok b) :
    (x >>= next).FailsClean := by
  intro f failed
  cases done : x.outcome with
  | error g =>
    unfold Quiet
    rw [keeps_bind, clean g done, done]
    rfl
  | ok a =>
    obtain ⟨b, succeeded⟩ := succeeds a done
    rw [outcome_bind, done] at failed
    cases succeeded.symm.trans failed

theorem kept_of_failsClean {j : Journal α} {f : Fault} (clean : j.FailsClean)
    (failed : j.outcome = .error f) (former : Database) : j.kept former = former :=
  (clean f failed).kept former

end Journal

/-- Whether the command keeps something on its way: the making of the first account keeps the
catalogue, and that of a role the rows of the role. -/
def Command.keeps : Command → Bool
  | .bootstrap _ | .createRole _ => true
  | _ => false

namespace State

open Journal

variable {s : State} {caller : Int}

theorem quiet_checkMenuSubset (assigner assignee : List Int) :
    (Access.checkMenuSubset assigner assignee).Quiet := by
  unfold Access.checkMenuSubset
  split
  · exact quiet_done ()
  · exact quiet_bind (quiet_note _) fun _ => quiet_fail _

theorem quiet_requireCover (current : Account) {menus : Journal (List Int)} (quiet : menus.Quiet) :
    (s.requireCover current menus).Quiet := by
  unfold requireCover
  split
  · exact quiet_done ()
  · exact quiet_bind (quiet_query _ _) fun _ => quiet_bind quiet fun _ => quiet_checkMenuSubset _ _

theorem quiet_scopeOf (h : Hierarchy) (c : Caller) (limit : LimitType) :
    (h.scopeOf c limit).Quiet := by
  unfold Hierarchy.scopeOf
  split
  · exact quiet_done _
  · exact quiet_fail _
  · exact quiet_bind (quiet_note _) fun _ => quiet_fail _

theorem quiet_checkScope (h : Hierarchy) (c : Caller) (target : Int) (limit : LimitType) :
    (h.checkScope c target limit).Quiet := by
  unfold Hierarchy.checkScope
  split
  · exact quiet_done ()
  · split
    · exact quiet_done ()
    · refine quiet_bind (quiet_scopeOf _ _ _) fun scope => ?_
      split
      · exact quiet_done ()
      · exact quiet_bind (quiet_note _) fun _ => quiet_fail _

theorem quiet_checkParent (h : Hierarchy) (c : Caller) (parent : Int) :
    (h.checkParent c parent).Quiet := by
  unfold Hierarchy.checkParent
  split
  · exact quiet_done ()
  · exact quiet_checkScope _ _ _ _

theorem quiet_listingScope (h : Hierarchy) (c : Caller) : (h.listingScope c).Quiet := by
  unfold Hierarchy.listingScope
  split
  · exact quiet_done _
  · exact quiet_bind (quiet_scopeOf _ _ _) fun _ => quiet_bind (quiet_scopeOf _ _ _) fun _ =>
      quiet_pure _

/-! ## The commands -/

theorem quiet_login (c : Credentials) : (s.login c).Quiet := by
  have refused : (login.refuse c).Quiet := quiet_bind (quiet_note _) fun _ => quiet_fail _
  unfold login
  refine quiet_bind (quiet_query _ _) fun found => ?_
  split
  · split
    · exact quiet_pure _
    · exact refused
  · exact refused

theorem quiet_createAccount (r : NewAccount) : (s.createAccount caller r).Quiet := by
  unfold createAccount
  refine quiet_bind (quiet_query _ _) fun current => quiet_bind (quiet_query _ _) fun h => ?_
  refine quiet_bind (quiet_checkScope _ _ _ _) fun _ => ?_
  refine quiet_bind (quiet_query _ _) fun o => quiet_bind (quiet_query _ _) fun role => ?_
  refine quiet_bind (quiet_requireCover _ (quiet_query _ _)) fun _ => ?_
  exact quiet_bind (quiet_query _ _) fun _ => quiet_bind (quiet_note _) fun _ =>
    quiet_bind (quiet_note _) fun _ => quiet_pure _

theorem quiet_listAccounts (page : Page) (filter : AccountFilter) :
    (s.listAccounts caller page filter).Quiet := by
  unfold listAccounts
  refine quiet_bind (quiet_query _ _) fun current => quiet_bind (quiet_query _ _) fun h => ?_
  exact quiet_bind (quiet_listingScope _ _) fun _ => quiet_bind (quiet_query _ _) fun _ =>
    quiet_bind (quiet_query _ _) fun _ => quiet_pure _

theorem quiet_showAccount (current target : Account) : (s.showAccount current target).Quiet := by
  unfold showAccount
  refine quiet_bind (quiet_query _ _) fun h => quiet_bind (quiet_checkScope _ _ _ _) fun _ => ?_
  exact quiet_bind (quiet_query _ _) fun _ => quiet_bind (quiet_query _ _) fun _ => quiet_pure _

theorem quiet_currentAccount : (s.currentAccount caller).Quiet :=
  quiet_bind (quiet_query _ _) fun _ => quiet_showAccount _ _

theorem quiet_accountDetail (id : Int) : (s.accountDetail caller id).Quiet :=
  quiet_bind (quiet_query _ _) fun _ => quiet_bind (quiet_query _ _) fun _ => quiet_showAccount _ _

theorem quiet_roleDetail (id : Int) : (s.roleDetail id).Quiet :=
  quiet_bind (quiet_query _ _) fun _ => quiet_bind (quiet_query _ _) fun _ =>
    quiet_bind (quiet_query _ _) fun _ => quiet_pure _

theorem quiet_createOrganization (r : NewOrganization) :
    (s.createOrganization caller r).Quiet := by
  unfold createOrganization
  refine quiet_bind (quiet_query _ _) fun current => quiet_bind (quiet_query _ _) fun h => ?_
  refine quiet_bind (quiet_ofExcept _) fun _ => quiet_bind (quiet_checkParent _ _ _) fun _ => ?_
  exact quiet_bind (quiet_query _ _) fun _ => quiet_bind (quiet_note _) fun _ => quiet_pure _

theorem quiet_organizationDetail (id : Int) : (s.organizationDetail caller id).Quiet :=
  quiet_bind (quiet_query _ _) fun _ => quiet_bind (quiet_query _ _) fun _ =>
    quiet_bind (quiet_query _ _) fun _ => quiet_bind (quiet_checkScope _ _ _ _) fun _ =>
      quiet_pure _

theorem quiet_organizationTree (limit : LimitType) : (s.organizationTree caller limit).Quiet := by
  unfold organizationTree
  refine quiet_bind (quiet_query _ _) fun current => quiet_bind (quiet_query _ _) fun h => ?_
  split
  · exact quiet_pure _
  · exact quiet_bind (quiet_note _) fun _ => quiet_fail _

theorem quiet_listOperationLogs (page : Page) : (s.listOperationLogs caller page).Quiet := by
  unfold listOperationLogs overseen
  refine quiet_bind (quiet_query _ _) fun current => quiet_bind ?_ fun seen => ?_
  · split
    · exact quiet_done _
    · exact quiet_bind (quiet_query _ _) fun _ => quiet_bind (quiet_scopeOf _ _ _) fun _ =>
        quiet_bind (quiet_query _ _) fun _ => quiet_pure _
  · exact quiet_bind (quiet_query _ _) fun _ => quiet_bind (quiet_ofExcept _) fun _ => quiet_pure _

/-- The making of a role keeps its rows before it reads the routes, but that reading succeeds. -/
theorem failsClean_createRole (r : NewRole) : (s.createRole caller r).FailsClean := by
  unfold createRole
  refine failsClean_bind (quiet_query _ _) fun current _ => ?_
  refine failsClean_bind (quiet_query _ _) fun menus _ => ?_
  refine failsClean_bind (quiet_requireCover _ (quiet_done _)) fun _ _ => ?_
  refine failsClean_bind (quiet_query _ _) fun made _ => ?_
  refine failsClean_bind (quiet_query _ _) fun db _ => ?_
  exact failsClean_of_ok rfl

theorem failsClean_seeded : s.seeded.FailsClean := by
  unfold seeded
  refine failsClean_bind (quiet_query _ _) fun menus _ => ?_
  split
  · exact failsClean_bind (quiet_query _ _) fun db _ => failsClean_of_ok rfl
  · exact failsClean_of_ok rfl

/-- Nothing stands in the way of the first account. -/
theorem insertAccount_superAdminDraft {db : Database} (empty : db.accounts = [])
    (salt : String) (c : Credentials) :
    ∃ after, db.insertAccount (superAdminDraft salt c) = .ok after := by
  cases db
  cases empty
  exact ⟨_, rfl⟩

/-- The making of the first account keeps the catalogue before it inserts the account, but that
insertion succeeds: the catalogue leaves the accounts alone, and there are none. -/
theorem failsClean_bootstrap (c : Credentials) : (s.bootstrap c).FailsClean := by
  unfold bootstrap
  refine failsClean_bind (quiet_query _ _) fun accounts read => ?_
  cases read
  split
  · exact (quiet_fail _).failsClean
  next absent =>
  refine failsClean_seeded.bind_ok fun db seeded => ?_
  have empty : db.accounts = [] := by
    rw [(seeds_of_seeded seeded).frame]
    simpa using absent
  obtain ⟨after, inserted⟩ := insertAccount_superAdminDraft empty s.settings.salt c
  rw [outcome_bind, outcome_query, conflictAs_eq_ok.mpr inserted]
  exact ⟨_, rfl⟩

theorem quiet_perform {command : Command} (plain : command.keeps = false) :
    (s.perform caller command).Quiet := by
  cases command with
  | bootstrap c => cases plain
  | login c => exact quiet_bind (quiet_login c) fun _ => quiet_pure _
  | createAccount r => exact quiet_bind (quiet_createAccount r) fun _ => quiet_pure _
  | listAccounts page filter =>
    exact quiet_bind (quiet_listAccounts page filter) fun _ => quiet_pure _
  | currentAccount => exact quiet_bind quiet_currentAccount fun _ => quiet_pure _
  | accountDetail id => exact quiet_bind (quiet_accountDetail id) fun _ => quiet_pure _
  | createRole r => cases plain
  | listRoles page name => exact quiet_bind (quiet_query _ _) fun _ => quiet_pure _
  | roleDetail id => exact quiet_bind (quiet_roleDetail id) fun _ => quiet_pure _
  | createOrganization r => exact quiet_bind (quiet_createOrganization r) fun _ => quiet_pure _
  | organizationTree limit => exact quiet_bind (quiet_organizationTree limit) fun _ => quiet_pure _
  | organizationDetail id => exact quiet_bind (quiet_organizationDetail id) fun _ => quiet_pure _
  | menus => exact quiet_bind (quiet_query _ _) fun _ => quiet_pure _
  | listOperationLogs page =>
    exact quiet_bind (quiet_listOperationLogs page) fun _ => quiet_pure _

theorem perform_failsClean (command : Command) : (s.perform caller command).FailsClean := by
  cases command with
  | bootstrap c => exact (failsClean_bootstrap c).bind_ok fun _ _ => ⟨_, rfl⟩
  | createRole r => exact (failsClean_createRole r).bind_ok fun _ _ => ⟨_, rfl⟩
  | _ => exact (quiet_perform rfl).failsClean

end State

end Tenancy
