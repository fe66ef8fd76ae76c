import Tenancy.Proofs.Outcome
import Tenancy.State.Command

/-!
# What an operation can fail with

Two faults have to do with climbs. Why a climb ends nowhere is never what a command answers, and
that a scope cannot be resolved is answered only if the home of the account that asks has no
first-level organization above it (`perform_failsOnly`).

`FailsOnly` limits the faults of an outcome. It is kept when statements are put together, so that
there is one lemma for each kind of statement and a few lines for each command.
-/

namespace Tenancy

/-- Every failure is by a fault that meets the condition. -/
def FailsOnly {α : Type} (P : Fault → Prop) (x : Except Fault α) : Prop :=
  ∀ f, x = .error f → P f

section Except

variable {α β : Type} {P Q : Fault → Prop} {x : Except Fault α}

@[simp] theorem failsOnly_ok (a : α) : FailsOnly P (.ok a : Except Fault α) := nofun

@[simp] theorem failsOnly_pure (a : α) : FailsOnly P (pure a : Except Fault α) := nofun

@[simp] theorem failsOnly_error {f : Fault} : FailsOnly P (.error f : Except Fault α) ↔ P f := by
  simp [FailsOnly]

@[simp] theorem failsOnly_bind {x : Except Fault α} {next : α → Except Fault β} :
    FailsOnly P (x >>= next) ↔ FailsOnly P x ∧ ∀ a, x = .ok a → FailsOnly P (next a) := by
  cases x with
  | error f => simp [FailsOnly]
  | ok a => simp [FailsOnly]

@[simp] theorem failsOnly_map {g : α → β} {x : Except Fault α} :
    FailsOnly P (g <$> x) ↔ FailsOnly P x := by
  cases x with
  | error f => simp [FailsOnly]
  | ok a => simp [FailsOnly]

theorem FailsOnly.mono (only : FailsOnly P x) (weaker : ∀ f, P f → Q f) : FailsOnly Q x :=
  fun f failed => weaker f (only f failed)

theorem FailsOnly.foldlM {act : β → α → Except Fault β} {l : List α} {start : β}
    (each : ∀ b a, FailsOnly P (act b a)) : FailsOnly P (l.foldlM act start) := by
  induction l generalizing start with
  | nil => exact failsOnly_pure start
  | cons a rest ih =>
    rw [List.foldlM_cons, failsOnly_bind]
    exact ⟨each start a, fun _ _ => ih⟩

theorem FailsOnly.mapM {act : α → Except Fault β} {l : List α}
    (each : ∀ a, FailsOnly P (act a)) : FailsOnly P (l.mapM act) := by
  induction l with
  | nil => exact failsOnly_pure []
  | cons a rest ih =>
    rw [List.mapM_cons, failsOnly_bind]
    exact ⟨each a, fun _ _ => failsOnly_bind.mpr ⟨ih, fun _ _ => failsOnly_pure _⟩⟩

theorem FailsOnly.conflictAs {taken : Fault} {x : Except Fault α} (conflict : P taken)
    (only : FailsOnly P x) : FailsOnly P (conflictAs taken x) := by
  intro f failed
  cases x with
  | ok a => cases failed
  | error g =>
    cases g with
    | integrityViolated =>
      cases failed
      exact conflict
    | _ =>
      cases failed
      exact only _ rfl

/-- A journal fails where its first part fails, or where the rest of it does. -/
theorem FailsOnly.andThen {x : Journal α} {next : α → Journal β} (first : FailsOnly P x.outcome)
    (rest : ∀ a, x.outcome = .ok a → FailsOnly P (next a).outcome) :
    FailsOnly P (x >>= next).outcome := by
  rw [Journal.outcome_bind, failsOnly_bind]
  exact ⟨first, rest⟩

/-- What is read at first does not fail. -/
theorem FailsOnly.read {tables : List TableName} {a : α} {next : α → Journal β}
    (rest : FailsOnly P (next a).outcome) :
    FailsOnly P (Journal.read tables a >>= next).outcome := by
  rwa [Journal.outcome_bind, Journal.outcome_read, ok_bind]

end Except

/-! ## Faults of climbs -/

/-- The home is not the root, and climbing from it ends at no first-level organization. -/
def Hierarchy.Stray (h : Hierarchy) (home : Int) : Prop :=
  home ≠ rootOrganizationId ∧ ∀ a, h.firstLevelAncestor home ≠ .ok a

/-- Whether a command may fail with a fault: never with the reason why a climb ends nowhere, and
with an unresolved scope only under the condition. -/
def Fault.MayArise (stray : Prop) : Fault → Prop
  | scopeUnresolved => stray
  | unresolvedAncestor _ => False
  | _ => True

theorem Fault.MayArise.mono {stray wider : Prop} (implies : stray → wider) {f : Fault}
    (arises : f.MayArise stray) : f.MayArise wider := by
  cases f with
  | scopeUnresolved => exact implies arises
  | unresolvedAncestor reason => exact arises.elim
  | _ => trivial

@[simp] theorem Fault.mayArise_integrityViolated (stray : Prop) :
    Fault.integrityViolated.MayArise stray :=
  trivial

section Database

variable {α : Type} {stray : Prop} {db : Database} {P : Fault → Prop}

@[simp] theorem failsOnly_checkWidth (l : List Int) :
    FailsOnly (Fault.MayArise stray) (Database.checkWidth l) := by
  unfold Database.checkWidth
  split
  · exact failsOnly_ok ()
  · exact failsOnly_error.mpr trivial

@[simp] theorem failsOnly_required (violated : P .integrityViolated) (o : Option α) :
    FailsOnly P (Database.required o) := by
  cases o with
  | none => exact failsOnly_error.mpr violated
  | some a => exact failsOnly_ok a

@[simp] theorem failsOnly_require (violated : P .integrityViolated) (condition : Bool) :
    FailsOnly P (Database.require condition) := by
  unfold Database.require
  split
  · exact failsOnly_ok ()
  · exact failsOnly_error.mpr violated

@[simp] theorem failsOnly_newId (violated : P .integrityViolated) (ids : List Int)
    (given : Option Int) : FailsOnly P (Database.newId ids given) := by
  unfold Database.newId
  split
  · exact failsOnly_ok _
  split
  · exact failsOnly_error.mpr violated
  · exact failsOnly_ok _

theorem failsOnly_lookup {idOf : α → Int} {absent : Fault} (tells : absent.MayArise stray)
    (rows : List α) (id : Int) :
    FailsOnly (Fault.MayArise stray) (Database.lookup idOf absent rows id) := by
  refine failsOnly_bind.mpr ⟨failsOnly_checkWidth _, fun _ _ => ?_⟩
  split
  · exact failsOnly_pure _
  · exact failsOnly_error.mpr tells

theorem failsOnly_account (id : Int) :
    FailsOnly (Fault.MayArise stray) (db.account id) := by
  refine failsOnly_lookup ?_ _ _
  trivial

theorem failsOnly_organization (id : Int) :
    FailsOnly (Fault.MayArise stray) (db.organization id) := by
  refine failsOnly_lookup ?_ _ _
  trivial

theorem failsOnly_role (id : Int) :
    FailsOnly (Fault.MayArise stray) (db.role id) := by
  refine failsOnly_lookup ?_ _ _
  trivial

theorem failsOnly_requestedMenus (unknown : ∀ id, P (.menuNotFound id)) (ids : List Int) :
    FailsOnly P (db.requestedMenus ids) := by
  refine .mapM fun id => ?_
  split
  · exact failsOnly_ok _
  · exact failsOnly_error.mpr (unknown id)

theorem failsOnly_page (page : Page) (rows : List α) :
    FailsOnly (Fault.MayArise stray) (page.of rows) :=
  failsOnly_bind.mpr ⟨failsOnly_checkWidth _, fun _ _ => failsOnly_pure _⟩

/-! An insertion fails with what its checks fail with. -/

theorem failsOnly_insertOrganization (d : Organization.Draft) :
    FailsOnly (Fault.MayArise stray) (db.insertOrganization d) := by
  simp [Database.insertOrganization]

theorem failsOnly_insertMenu (d : Menu.Draft) :
    FailsOnly (Fault.MayArise stray) (db.insertMenu d) := by
  simp [Database.insertMenu]

theorem failsOnly_insertRoute (d : Route.Draft) :
    FailsOnly (Fault.MayArise stray) (db.insertRoute d) := by
  simp [Database.insertRoute]

theorem failsOnly_insertRole (d : Role.Draft) :
    FailsOnly (Fault.MayArise stray) (db.insertRole d) := by
  simp [Database.insertRole]

theorem failsOnly_addRoleMenu (role : Role) (menu : Menu) :
    FailsOnly (Fault.MayArise stray) (Database.addRoleMenu role db menu) := by
  simp [Database.addRoleMenu, Database.insertRoleMenu]

theorem failsOnly_insertAccount (d : Account.Draft) :
    FailsOnly (Fault.MayArise stray) (db.insertAccount d) := by
  simp [Database.insertAccount]

theorem failsOnly_seed : FailsOnly (Fault.MayArise stray) db.seed := by
  refine failsOnly_bind.mpr ⟨failsOnly_insertMenu _, fun _ _ => .foldlM fun db entry => ?_⟩
  refine failsOnly_bind.mpr ⟨failsOnly_insertMenu _, fun _ _ => .foldlM fun db route => ?_⟩
  exact failsOnly_bind.mpr ⟨failsOnly_insertRoute _, fun _ _ => failsOnly_pure _⟩

end Database

/-! ## The guard -/

namespace Hierarchy

variable {h : Hierarchy} {caller : Caller}

theorem stray_of_firstLevelAncestor {home : Int} {reason : Unresolved}
    (inner : home ≠ rootOrganizationId) (ends : h.firstLevelAncestor home = .error reason) :
    h.Stray home := by
  refine ⟨inner, fun a climbs => ?_⟩
  rw [ends] at climbs
  cases climbs

theorem stray_of_resolveScope {home : Int} {isAdmin : Bool} {limit : LimitType}
    {reason : Unresolved}
    (failed : h.resolveScope home isAdmin limit = .error (.unresolved reason)) : h.Stray home := by
  unfold resolveScope at failed
  -- a climb is tried for homes other than the root only, and nothing but a climb can fail so
  split at failed
  · cases failed
  split at failed
  · cases failed
  · cases failed
  split at failed
  · cases failed
  next inner =>
  split at failed
  · cases failed
  split at failed
  · split at failed
    · next ends => exact stray_of_firstLevelAncestor inner ends
    · cases failed
  · cases failed
  · cases failed

theorem stray_of_homeView {home : Int} {limit : LimitType} {reason : Unresolved}
    (failed : h.homeView home limit = .error reason) : h.Stray home := by
  have first : h.firstLevelView home home = .error reason := by
    unfold homeView at failed
    split at failed
    · exact failed
    split at failed
    · cases failed
    split at failed
    · exact failed
    · cases failed
  unfold firstLevelView at first
  split at first
  · cases first
  next inner =>
  split at first
  · next ends => exact stray_of_firstLevelAncestor inner ends
  · cases first

/-- The faults of the guard. A scope cannot be resolved only if the home is a stray one. -/
inductive GuardFault (h : Hierarchy) (home : Int) : Fault → Prop
  | outside : GuardFault h home .outsideScope
  | unresolved : h.Stray home → GuardFault h home .scopeUnresolved
  | limit (limit : LimitType) : GuardFault h home (.invalidLimit limit)

theorem GuardFault.mayArise {home : Int} {f : Fault} (fault : h.GuardFault home f) :
    f.MayArise (h.Stray home) := by
  cases fault with
  | outside => trivial
  | unresolved stray => exact stray
  | limit limit => trivial

theorem failsOnly_scopeOf (limit : LimitType) :
    FailsOnly (h.GuardFault caller.home) (h.scopeOf caller limit).outcome := by
  unfold scopeOf
  split
  · exact failsOnly_ok _
  · exact failsOnly_error.mpr (.limit _)
  · next failed =>
    refine .andThen (failsOnly_ok ()) fun _ _ => failsOnly_error.mpr ?_
    exact .unresolved (stray_of_resolveScope failed)

theorem failsOnly_checkScope (target : Int) (limit : LimitType) :
    FailsOnly (h.GuardFault caller.home) (h.checkScope caller target limit).outcome := by
  unfold checkScope
  split
  · exact failsOnly_ok ()
  split
  · exact failsOnly_ok ()
  refine .andThen (failsOnly_scopeOf _) fun scope _ => ?_
  split
  · exact failsOnly_ok ()
  · exact .andThen (failsOnly_ok ()) fun _ _ => failsOnly_error.mpr .outside

theorem failsOnly_checkParent (parent : Int) :
    FailsOnly (h.GuardFault caller.home) (h.checkParent caller parent).outcome := by
  unfold checkParent
  split
  · exact failsOnly_ok ()
  · exact failsOnly_checkScope _ _

theorem failsOnly_listingScope :
    FailsOnly (h.GuardFault caller.home) (h.listingScope caller).outcome := by
  unfold listingScope
  split
  · exact failsOnly_ok _
  · exact .andThen (failsOnly_scopeOf _) fun _ _ =>
      .andThen (failsOnly_scopeOf _) fun _ _ => failsOnly_ok _

end Hierarchy

/-! ## The commands -/

namespace State

variable {s : State} {caller : Int} {stray : Prop} {P : Fault → Prop}

/-- The account that asks exists, and its home is a stray one. -/
def StrayCaller (s : State) (caller : Int) : Prop :=
  ∃ current, s.database.account caller = .ok current ∧
    s.database.hierarchy.Stray current.organizationId

theorem guarded {α : Type} {home : Int} {x : Except Fault α}
    (only : FailsOnly (s.database.hierarchy.GuardFault home) x) :
    FailsOnly (Fault.MayArise (s.database.hierarchy.Stray home)) x :=
  only.mono fun _ fault => fault.mayArise

/-- Once it is known who asks, only the home matters. -/
theorem failsOnly_asking {α : Type} {next : Account → Journal α}
    (rest : ∀ current, FailsOnly
      (Fault.MayArise (s.database.hierarchy.Stray current.organizationId)) (next current).outcome) :
    FailsOnly (Fault.MayArise (s.StrayCaller caller)) (s.account caller >>= next).outcome := by
  refine .andThen (failsOnly_account _) fun current asking f failed => ?_
  exact (rest current f failed).mono fun lost => ⟨current, asking, lost⟩

theorem failsOnly_requireCover (uncovered : P .menusNotCovered) (current : Account)
    (menus : Journal (List Int)) (known : FailsOnly P menus.outcome) :
    FailsOnly P (s.requireCover current menus).outcome := by
  unfold requireCover
  split
  · exact failsOnly_ok ()
  refine .andThen (failsOnly_ok _) fun _ _ => .andThen known fun _ _ => ?_
  unfold Access.checkMenuSubset
  split
  · exact failsOnly_ok ()
  · exact .andThen (failsOnly_ok ()) fun _ _ => failsOnly_error.mpr uncovered

theorem failsOnly_parentName (absent : P .parentNotFound) (parentId : Int) :
    FailsOnly P (s.parentName parentId) := by
  unfold parentName
  split
  · exact failsOnly_ok _
  split
  · exact failsOnly_ok _
  · exact failsOnly_error.mpr absent

theorem failsOnly_bootstrap (c : Credentials) :
    FailsOnly (Fault.MayArise stray) (s.bootstrap c).outcome := by
  have seeded : FailsOnly (Fault.MayArise stray) s.seeded.outcome := by
    refine .read ?_
    split
    · exact .andThen failsOnly_seed fun _ _ => failsOnly_ok _
    · exact failsOnly_ok _
  refine .read ?_
  split
  · exact failsOnly_error.mpr trivial
  · exact .andThen seeded fun _ _ =>
      .andThen (.conflictAs trivial (failsOnly_insertAccount _)) fun _ _ => failsOnly_ok _

theorem failsOnly_login (unknown : P .invalidCredentials) (c : Credentials) :
    FailsOnly P (s.login c).outcome := by
  have refused : FailsOnly P (login.refuse c).outcome :=
    .andThen (failsOnly_ok ()) fun _ _ => failsOnly_error.mpr unknown
  refine .read ?_
  split
  · split
    · exact failsOnly_ok _
    · exact refused
  · exact refused

theorem failsOnly_createAccount (r : NewAccount) :
    FailsOnly (Fault.MayArise (s.StrayCaller caller)) (s.createAccount caller r).outcome := by
  refine failsOnly_asking fun current => .read ?_
  refine .andThen (guarded (Hierarchy.failsOnly_checkScope _ _)) fun _ _ => ?_
  refine .andThen (failsOnly_organization _) fun home _ => ?_
  refine .andThen (failsOnly_role _) fun role _ => ?_
  refine .andThen (failsOnly_requireCover trivial _ _ (failsOnly_ok _)) fun _ _ => ?_
  exact .andThen (.conflictAs trivial (failsOnly_insertAccount _)) fun _ _ => failsOnly_ok _

theorem failsOnly_listAccounts (page : Page) (filter : AccountFilter) :
    FailsOnly (Fault.MayArise (s.StrayCaller caller))
      (s.listAccounts caller page filter).outcome := by
  refine failsOnly_asking fun current => .read ?_
  refine .andThen (guarded Hierarchy.failsOnly_listingScope) fun _ _ => ?_
  refine .andThen (failsOnly_checkWidth _) fun _ _ => ?_
  exact .andThen (failsOnly_page _ _) fun _ _ => failsOnly_ok _

theorem failsOnly_showAccount (current target : Account) :
    FailsOnly (s.database.hierarchy.GuardFault current.organizationId)
      (s.showAccount current target).outcome :=
  .read (.andThen (Hierarchy.failsOnly_checkScope _ _) fun _ _ => failsOnly_ok _)

theorem failsOnly_overseen (current : Account) :
    FailsOnly (s.database.hierarchy.GuardFault current.organizationId)
      (s.overseen current).outcome := by
  unfold overseen
  split
  · exact failsOnly_ok _
  · exact .read (.andThen (Hierarchy.failsOnly_scopeOf _) fun _ _ => failsOnly_ok _)

theorem failsOnly_createRole (r : NewRole) :
    FailsOnly (Fault.MayArise (s.StrayCaller caller)) (s.createRole caller r).outcome := by
  refine failsOnly_asking fun current => ?_
  refine .andThen (failsOnly_requestedMenus (fun _ => trivial) _) fun menus _ => ?_
  refine .andThen (failsOnly_requireCover trivial _ _ (failsOnly_ok _)) fun _ _ => ?_
  refine .andThen (.conflictAs trivial (failsOnly_insertRole _)) fun _ _ => ?_
  exact .andThen (.foldlM fun _ _ => failsOnly_addRoleMenu _ _) fun _ _ => failsOnly_ok _

theorem failsOnly_createOrganization (r : NewOrganization) :
    FailsOnly (Fault.MayArise (s.StrayCaller caller)) (s.createOrganization caller r).outcome := by
  refine failsOnly_asking fun current => .read ?_
  refine .andThen (failsOnly_parentName trivial _) fun _ _ => ?_
  refine .andThen (guarded (Hierarchy.failsOnly_checkParent _)) fun _ _ => ?_
  exact .andThen (.conflictAs trivial (failsOnly_insertOrganization _)) fun _ _ => failsOnly_ok _

theorem failsOnly_organizationDetail (id : Int) :
    FailsOnly (Fault.MayArise (s.StrayCaller caller)) (s.organizationDetail caller id).outcome := by
  refine failsOnly_asking fun current => .andThen (failsOnly_organization _) fun o _ => ?_
  exact .read (.andThen (guarded (Hierarchy.failsOnly_checkScope _ _)) fun _ _ => failsOnly_ok _)

theorem failsOnly_organizationTree (limit : LimitType) :
    FailsOnly (Fault.MayArise (s.StrayCaller caller))
      (s.organizationTree caller limit).outcome := by
  refine failsOnly_asking fun current => .read ?_
  split
  · exact failsOnly_ok _
  · next failed =>
    exact .andThen (failsOnly_ok ()) fun _ _ =>
      failsOnly_error.mpr (Hierarchy.stray_of_homeView failed)

theorem failsOnly_listOperationLogs (page : Page) :
    FailsOnly (Fault.MayArise (s.StrayCaller caller))
      (s.listOperationLogs caller page).outcome := by
  have reading : ∀ {stray : Prop} (l : OperationLog),
      FailsOnly (Fault.MayArise stray) l.reading := by
    intro stray l
    unfold OperationLog.reading
    split
    · exact failsOnly_error.mpr trivial
    split
    · exact failsOnly_error.mpr trivial
    · exact failsOnly_ok l
  refine failsOnly_asking fun current =>
    .andThen (guarded (failsOnly_overseen current)) fun seen _ => ?_
  refine .andThen (failsOnly_page _ _) fun listing _ => ?_
  exact .andThen (.mapM reading) fun _ _ => failsOnly_ok _

/-- No command answers why a climb ends nowhere, and none fails for want of a scope unless the home
of the account that asks is a stray one. -/
theorem perform_failsOnly (command : Command) :
    FailsOnly (Fault.MayArise (s.StrayCaller caller)) (s.perform caller command).outcome := by
  cases command with
  | bootstrap c => exact .andThen (failsOnly_bootstrap c) fun _ _ => failsOnly_ok _
  | login c => exact .andThen (failsOnly_login trivial c) fun _ _ => failsOnly_ok _
  | createAccount r => exact .andThen (failsOnly_createAccount r) fun _ _ => failsOnly_ok _
  | listAccounts page filter =>
    exact .andThen (failsOnly_listAccounts page filter) fun _ _ => failsOnly_ok _
  | currentAccount =>
    refine .andThen (failsOnly_asking fun current => ?_) fun _ _ => failsOnly_ok _
    exact guarded (failsOnly_showAccount current current)
  | accountDetail id =>
    refine .andThen (failsOnly_asking fun current => ?_) fun _ _ => failsOnly_ok _
    exact .andThen (failsOnly_account _) fun target _ =>
      guarded (failsOnly_showAccount current target)
  | createRole r => exact .andThen (failsOnly_createRole r) fun _ _ => failsOnly_ok _
  | listRoles page name => exact .andThen (failsOnly_page _ _) fun _ _ => failsOnly_ok _
  | roleDetail id =>
    exact .andThen (.andThen (failsOnly_role _) fun _ _ => failsOnly_ok _) fun _ _ =>
      failsOnly_ok _
  | createOrganization r =>
    exact .andThen (failsOnly_createOrganization r) fun _ _ => failsOnly_ok _
  | organizationTree limit =>
    exact .andThen (failsOnly_organizationTree limit) fun _ _ => failsOnly_ok _
  | organizationDetail id =>
    exact .andThen (failsOnly_organizationDetail id) fun _ _ => failsOnly_ok _
  | menus => exact failsOnly_ok _
  | listOperationLogs page =>
    exact .andThen (failsOnly_listOperationLogs page) fun _ _ => failsOnly_ok _

end State

end Tenancy
