import Tenancy.Proofs.Oversight

/-!
# Integers that are too wide

The integers of a request are not bounded, and those of the database are. Some of them are compared
with what is in the tables before they get there, others are handed over as they are.

* `State.handed` lists the integers that a command hands to the database, as far as it gets.
* `Hands x l` says that `x` fails for the width of an integer just if one in `l` is too wide, and
  that everything else it may fail with is answered. `Hands.bind` puts statements together.
* `hands_perform`: that is so of every command, with the integers that it hands over.
-/

namespace Tenancy

/-- Faults of this kind are answered. -/
def Fault.Answered (f : Fault) : Prop :=
  f.kind.status?.isSome = true

/-- One of the integers does not fit into 64 bits. -/
def Wide (l : List Int) : Prop :=
  ∃ n ∈ l, fits64 n = false

theorem not_wide_nil : ¬Wide [] :=
  nofun

theorem wide_append {l m : List Int} : Wide (l ++ m) ↔ Wide l ∨ Wide m := by
  simp only [Wide, List.mem_append, or_and_right, exists_or]

theorem wide_singleton {n : Int} : Wide [n] ↔ fits64 n = false := by
  simp [Wide]

theorem not_wide_iff {l : List Int} : ¬Wide l ↔ ∀ n ∈ l, fits64 n = true := by
  simp [Wide]

/-- The integers that come up after a success; after a failure there are none. -/
def onSuccess {α : Type} (x : Except Fault α) (rest : α → List Int) : List Int :=
  match x with
  | .ok a => rest a
  | .error _ => []

/-- The outcome is a failure for the width of an integer just if one of the integers is too wide,
and every other failure is answered. -/
structure Hands {α : Type} (x : Except Fault α) (l : List Int) : Prop where
  tooLarge : x = .error .integerTooLarge ↔ Wide l
  answered : ∀ f, x = .error f → f = .integerTooLarge ∨ f.Answered

section Statements

variable {α β : Type} {x : Except Fault α} {l : List Int}

theorem hands_of_answered (only : FailsOnly Fault.Answered x) : Hands x [] where
  tooLarge := by
    refine iff_of_false (fun failed => ?_) not_wide_nil
    have answered := only _ failed
    cases answered
  answered f failed := .inr (only f failed)

theorem Hands.of_not_wide (hands : Hands x []) (narrow : ¬Wide l) : Hands x l where
  tooLarge := hands.tooLarge.trans (iff_of_false not_wide_nil narrow)
  answered := hands.answered

theorem Hands.answered_of_not_wide (hands : Hands x l) (narrow : ¬Wide l) :
    FailsOnly Fault.Answered x := by
  intro f failed
  rcases hands.answered f failed with rfl | answered
  · exact absurd (hands.tooLarge.mp failed) narrow
  · exact answered

/-- The widths are tested at once, whatever comes afterwards. -/
theorem hands_checkWidth {next : Unit → Except Fault β} {m : List Int}
    (rest : Hands (next ()) m) : Hands (Database.checkWidth l >>= next) (l ++ m) := by
  by_cases wide : Wide l
  · have failed : Database.checkWidth l >>= next = .error .integerTooLarge := by
      rw [Database.checkWidth_eq_error.mpr ⟨rfl, wide⟩, error_bind]
    refine ⟨iff_of_true failed (wide_append.mpr (.inl wide)), fun f same => .inl ?_⟩
    rw [failed] at same
    exact (Except.error.inj same).symm
  · have passed : Database.checkWidth l = .ok () :=
      Database.checkWidth_eq_ok.mpr (not_wide_iff.mp wide)
    rw [passed, ok_bind]
    exact ⟨rest.tooLarge.trans (wide_append.trans (or_iff_right wide)).symm, rest.answered⟩

theorem hands_lookup {idOf : α → Int} {absent : Fault} (answered : absent.Answered)
    (rows : List α) (id : Int) : Hands (Database.lookup idOf absent rows id) [id] := by
  refine hands_checkWidth (hands_of_answered ?_)
  cases rows.find? (idOf · = id) with
  | some row => exact failsOnly_ok row
  | none => exact failsOnly_error.mpr answered

theorem hands_page (p : Page) (rows : List α) : Hands (p.of rows) [p.offset] :=
  hands_checkWidth (hands_of_answered (failsOnly_pure _))

end Statements

section Journals

variable {α β : Type} {j : Journal α} {next : α → Journal β} {l : List Int} {m : α → List Int}

/-- What comes after a failure is not reached. -/
theorem Hands.bind (first : Hands j.outcome l)
    (rest : ∀ a, j.outcome = .ok a → Hands (next a).outcome (m a)) :
    Hands (j >>= next).outcome (l ++ onSuccess j.outcome m) := by
  rw [Journal.outcome_bind]
  cases done : j.outcome with
  | error f =>
    have width : f = .integerTooLarge ↔ Wide l := by
      rw [← first.tooLarge, done, Except.error.injEq]
    rw [error_bind, onSuccess, List.append_nil]
    constructor
    · rw [Except.error.injEq]
      exact width
    · intro g same
      exact Except.error.inj same ▸ first.answered f done
  | ok a =>
    have narrow : ¬Wide l := by
      rw [← first.tooLarge, done]
      exact nofun
    rw [ok_bind, onSuccess]
    exact ⟨(rest a done).tooLarge.trans (wide_append.trans (or_iff_right narrow)).symm,
      (rest a done).answered⟩

/-- A check comes before anything is handed over. -/
theorem Hands.check (only : FailsOnly Fault.Answered j.outcome)
    (rest : ∀ a, j.outcome = .ok a → Hands (next a).outcome (m a)) :
    Hands (j >>= next).outcome (onSuccess j.outcome m) :=
  (hands_of_answered only).bind rest

/-- Nothing is handed over later. -/
theorem Hands.last (first : Hands j.outcome l)
    (rest : ∀ a, j.outcome = .ok a → FailsOnly Fault.Answered (next a).outcome) :
    Hands (j >>= next).outcome l := by
  have whole := first.bind fun a done => hands_of_answered (rest a done)
  have none : onSuccess j.outcome (fun _ => []) = [] := by
    cases j.outcome <;> rfl
  rwa [none, List.append_nil] at whole

/-- What is read at first hands over nothing. -/
theorem Hands.read {tables : List TableName} {a : α} (rest : Hands (next a).outcome l) :
    Hands (Journal.read tables a >>= next).outcome l := by
  rwa [Journal.outcome_bind, Journal.outcome_read, ok_bind]

end Journals

/-! ## Writing -/

namespace Database

variable {db : Database}

/-- An insertion whose violations are conflicts hands over the integers whose widths it tests. -/
theorem hands_conflictAs {α : Type} {taken : Fault} {l : List Int} {next : Unit → Except Fault α}
    (conflict : taken.Answered) (only : FailsOnly (· = .integrityViolated) (next ())) :
    Hands (conflictAs taken (checkWidth l >>= next)) l := by
  have later : Hands (conflictAs taken (next ())) [] := by
    refine hands_of_answered fun f failed => ?_
    cases done : next () with
    | ok a =>
      rw [done] at failed
      cases failed
    | error g =>
      rw [done, only g done] at failed
      cases failed
      exact conflict
  have split : conflictAs taken (checkWidth l >>= next) =
      checkWidth l >>= fun u => conflictAs taken (next u) := by
    unfold checkWidth
    split <;> rfl
  have whole : Hands (checkWidth l >>= fun u => conflictAs taken (next u)) (l ++ []) :=
    hands_checkWidth later
  rwa [List.append_nil, ← split] at whole

theorem hands_insertAccount {taken : Fault} (conflict : taken.Answered) (d : Account.Draft) :
    Hands (conflictAs taken (db.insertAccount d))
      (d.id.toList ++ d.organizationId.toList ++ d.roleId.toList) :=
  hands_conflictAs conflict (by simp)

theorem hands_insertRole {taken : Fault} (conflict : taken.Answered) (d : Role.Draft) :
    Hands (conflictAs taken (db.insertRole d)) (d.id.toList ++ d.createdBy.toList) :=
  hands_conflictAs conflict (by simp)

theorem hands_insertOrganization {taken : Fault} (conflict : taken.Answered)
    (d : Organization.Draft) :
    Hands (conflictAs taken (db.insertOrganization d)) (d.id.toList ++ [d.parentId]) :=
  hands_conflictAs conflict (by simp)

/-- A role that is there gets menus that are there, as long as the ids fit. -/
theorem exists_addRoleMenus {role : Role} {menus : List Menu} (fits : fits64 role.id = true)
    (present : role ∈ db.roles) (known : ∀ menu ∈ menus, menu ∈ db.menus)
    (narrow : ∀ menu ∈ menus, fits64 menu.id = true) :
    ∃ after, menus.foldlM (addRoleMenu role) db = .ok after := by
  induction menus generalizing db with
  | nil => exact ⟨db, rfl⟩
  | cons menu rest ih =>
    have first := addRoleMenu_eq_ok.mpr ⟨⟨fits, narrow menu List.mem_cons_self⟩,
      ⟨⟨role, present, rfl⟩, menu, known menu List.mem_cons_self, rfl⟩, rfl⟩
    rw [List.foldlM_cons, first, ok_bind]
    -- the row that is added changes neither the roles nor the menus
    exact ih present (fun other later => known other (List.mem_cons_of_mem _ later))
      fun other later => narrow other (List.mem_cons_of_mem _ later)

end Database

/-! ## Commands -/

theorem Hierarchy.GuardFault.answered {h : Hierarchy} {home : Int} {f : Fault}
    (fault : h.GuardFault home f) : f.Answered := by
  cases fault <;> rfl

namespace State

variable {s : State} {caller : Int}

/-- The integers that a command hands to the database, as far as it gets. -/
def handed (s : State) (caller : Int) : Command → List Int
  | .bootstrap _ | .login _ | .menus => []
  | .currentAccount | .organizationTree _ => [caller]
  | .listRoles page _ => [page.offset]
  | .roleDetail id => [id]
  | .accountDetail id | .organizationDetail id => [caller] ++ asked fun _ => [id]
  | .listAccounts page filter => [caller] ++ asked fun current =>
      onSuccess (s.database.hierarchy.listingScope current.caller).outcome fun _ =>
        filter.integers ++ [page.offset]
  | .listOperationLogs page => [caller] ++ asked fun current =>
      onSuccess (s.overseen current).outcome fun _ => [page.offset]
  | .createAccount request => [caller] ++ asked fun current =>
      onSuccess (s.database.hierarchy.checkScope current.caller request.organizationId
        .firstLevel).outcome fun _ => [request.organizationId] ++
          onSuccess (s.organization request.organizationId).outcome fun _ => [request.roleId]
  | .createRole request => [caller] ++ asked fun _ =>
      onSuccess (s.database.requestedMenus (distinct request.menuIds)) fun menus =>
        menus.map (·.id)
  | .createOrganization request => [caller] ++ asked fun current =>
      onSuccess (s.parentName request.parentId) fun _ =>
        onSuccess (s.database.hierarchy.checkParent current.caller request.parentId).outcome
          fun _ => [request.parentId]
where
  /-- What comes up once it is known who asks. -/
  asked (rest : Account → List Int) : List Int :=
    onSuccess (s.account caller).outcome rest

theorem hands_account (id : Int) : Hands (s.account id).outcome [id] :=
  @hands_lookup Account (·.id) .accountNotFound rfl s.database.accounts id

theorem hands_organization (id : Int) : Hands (s.organization id).outcome [id] :=
  @hands_lookup Organization (·.id) .organizationNotFound rfl s.database.organizations id

theorem hands_role (id : Int) : Hands (s.role id).outcome [id] :=
  @hands_lookup Role (·.id) .roleNotFound rfl s.database.roles id

/-- What the guard refuses is answered. -/
theorem answered_of_guard {α : Type} {h : Hierarchy} {home : Int} {x : Except Fault α}
    (only : FailsOnly (h.GuardFault home) x) : FailsOnly Fault.Answered x :=
  only.mono fun _ fault => fault.answered

theorem answered_requireCover (current : Account) (menus : Journal (List Int))
    (known : FailsOnly Fault.Answered menus.outcome) :
    FailsOnly Fault.Answered (s.requireCover current menus).outcome := by
  refine failsOnly_requireCover ?_ _ _ known
  rfl

theorem hands_createAccount (request : NewAccount) :
    Hands (s.createAccount caller request).outcome
      (s.handed caller (.createAccount request)) := by
  refine .bind (hands_account _) fun current _ => .read ?_
  refine .check (answered_of_guard (Hierarchy.failsOnly_checkScope _ _)) fun _ _ => ?_
  refine .bind (hands_organization _) fun o home => ?_
  refine .last (hands_role _) fun r role => ?_
  refine .andThen (answered_requireCover _ _ (failsOnly_ok _)) fun _ _ => ?_
  -- both ids have been looked up, so that the insertion does not find them too wide
  refine .andThen ?_ fun _ _ => failsOnly_ok _
  have conflict : Fault.accountNameTaken.Answered := rfl
  refine (Database.hands_insertAccount conflict _).answered_of_not_wide (not_wide_iff.mpr ?_)
  simp [Database.fits_of_lookup home, Database.fits_of_lookup role]

theorem hands_createOrganization (request : NewOrganization) :
    Hands (s.createOrganization caller request).outcome
      (s.handed caller (.createOrganization request)) := by
  refine .bind (hands_account _) fun current _ => .read ?_
  refine .check (failsOnly_parentName ?_ _) fun name _ => ?_
  · rfl
  refine .check (answered_of_guard (Hierarchy.failsOnly_checkParent _)) fun _ _ => ?_
  have conflict : Fault.organizationNameTaken.Answered := rfl
  exact .last (Database.hands_insertOrganization conflict _) fun _ _ => failsOnly_ok _

theorem hands_listAccounts (page : Page) (filter : AccountFilter) :
    Hands (s.listAccounts caller page filter).outcome
      (s.handed caller (.listAccounts page filter)) := by
  refine .bind (hands_account _) fun current _ => .read ?_
  refine .check (answered_of_guard Hierarchy.failsOnly_listingScope) fun _ _ => ?_
  rw [Journal.outcome_bind]
  exact hands_checkWidth (.last (hands_page _ _) fun _ _ => failsOnly_ok _)

theorem hands_listOperationLogs (readable : s.Readable) (page : Page) :
    Hands (s.listOperationLogs caller page).outcome
      (s.handed caller (.listOperationLogs page)) := by
  refine .bind (hands_account _) fun current asking => ?_
  refine .check (answered_of_guard (failsOnly_overseen _)) fun seen _ => ?_
  refine .last (hands_page _ _) fun listing shown => ?_
  have read : listing.rows.mapM OperationLog.reading = .ok listing.rows :=
    reading_page readable shown
  refine .andThen ?_ fun _ _ => failsOnly_ok _
  rw [Journal.outcome_ofExcept, read]
  exact failsOnly_ok _

/-- The menus that are found for the ids in a request are those of the catalogue. -/
theorem Founded.fits_of_requested (founded : s.Founded) {ids : List Int} {menus : List Menu}
    (found : s.database.requestedMenus ids = .ok menus) :
    ∀ menu ∈ menus, fits64 menu.id = true := by
  intro menu chosen
  have listed := (requestedMenus_ok found).2 menu chosen
  rw [founded.menus] at listed
  have all : ∀ menu ∈ foundedMenus, fits64 menu.id = true := by decide
  exact all menu listed

theorem hands_createRole (regular : s.Regular)
    (room : fits64 (Database.nextId (s.database.roles.map (·.id))) = true) (request : NewRole) :
    Hands (s.createRole caller request).outcome (s.handed caller (.createRole request)) := by
  refine .bind (hands_account _) fun current asking => ?_
  refine .check (failsOnly_requestedMenus ?_ _) fun menus found => ?_
  · exact fun _ => rfl
  obtain ⟨-, known⟩ := requestedMenus_ok found
  -- the menus are those of the catalogue, so that only the id of the new role could be too wide
  have narrow := (regular.founded (mem_of_account asking).1).fits_of_requested found
  refine (hands_of_answered ?_).of_not_wide (not_wide_iff.mpr (List.forall_mem_map.mpr narrow))
  refine .andThen (answered_requireCover _ _ (failsOnly_ok _)) fun _ _ => .andThen ?_ ?_
  · have conflict : Fault.roleNameTaken.Answered := rfl
    refine (Database.hands_insertRole conflict _).answered_of_not_wide (not_wide_iff.mpr ?_)
    simp [Database.fits_of_lookup asking]
  rintro ⟨db, role⟩ inserted
  obtain ⟨-, ⟨_, _, _, -, -, -, -, made⟩, grown⟩ :=
    (Database.insertRole_eq_ok rfl).mp (conflictAs_eq_ok.mp inserted)
  have fits : fits64 role.id = true := by
    rw [made]
    exact room
  have present : role ∈ db.roles := by
    rw [grown]
    exact List.mem_append_right _ List.mem_cons_self
  have same : db.menus = s.database.menus := by rw [grown]
  obtain ⟨after, added⟩ := Database.exists_addRoleMenus fits present (same ▸ known) narrow
  refine .andThen ?_ fun _ _ => failsOnly_ok _
  rw [Journal.outcome_query, added]
  exact failsOnly_ok _

theorem answered_bootstrap (regular : s.Regular) (c : Credentials) :
    FailsOnly Fault.Answered (s.bootstrap c).outcome := by
  refine .read ?_
  split
  · exact failsOnly_error.mpr rfl
  next empty =>
  have blank : s.Blank := by
    rcases regular.kind with blank | ⟨-, -, a, rest, accounts, -⟩
    · exact blank
    · rw [accounts] at empty
      exact absurd (List.cons_ne_nil _ _) empty
  have menus : s.database.menus = [] := by rw [blank]
  have routes : s.database.routes = [] := by rw [blank]
  have seeded : FailsOnly Fault.Answered s.seeded.outcome := by
    refine .read ?_
    rw [if_pos menus]
    refine .andThen ?_ fun _ _ => failsOnly_ok _
    rw [Journal.outcome_query, Database.seed_eq _ menus routes]
    exact failsOnly_ok _
  refine .andThen seeded fun db _ => .andThen ?_ fun _ _ => failsOnly_ok _
  have conflict : Fault.alreadyInitialized.Answered := rfl
  refine (Database.hands_insertAccount conflict _).answered_of_not_wide (not_wide_iff.mpr ?_)
  simp only [superAdminDraft, Option.toList]
  decide

/-- A command fails for the width of an integer just if one of those that it hands over is too wide,
and everything else that it fails with is answered. -/
theorem hands_perform (regular : s.Regular) (readable : s.Readable)
    (room : fits64 (Database.nextId (s.database.roles.map (·.id))) = true) (command : Command) :
    Hands (s.perform caller command).outcome (s.handed caller command) := by
  cases command with
  | bootstrap c =>
    exact .last (hands_of_answered (answered_bootstrap regular c)) fun _ _ => failsOnly_ok _
  | login c =>
    have unknown : Fault.invalidCredentials.Answered := rfl
    exact .last (hands_of_answered (failsOnly_login unknown c)) fun _ _ => failsOnly_ok _
  | createAccount request =>
    exact .last (hands_createAccount request) fun _ _ => failsOnly_ok _
  | listAccounts page filter =>
    exact .last (hands_listAccounts page filter) fun _ _ => failsOnly_ok _
  | currentAccount =>
    refine .last ?_ fun _ _ => failsOnly_ok _
    exact .last (hands_account _) fun current _ => answered_of_guard (failsOnly_showAccount _ _)
  | accountDetail id =>
    refine .last ?_ fun _ _ => failsOnly_ok _
    exact .bind (hands_account _) fun current _ =>
      .last (hands_account _) fun target _ =>
        answered_of_guard (failsOnly_showAccount _ _)
  | createRole request =>
    exact .last (hands_createRole regular room request) fun _ _ => failsOnly_ok _
  | listRoles page name => exact .last (hands_page _ _) fun _ _ => failsOnly_ok _
  | roleDetail id =>
    refine .last ?_ fun _ _ => failsOnly_ok _
    exact .last (hands_role _) fun _ _ => failsOnly_ok _
  | createOrganization request =>
    exact .last (hands_createOrganization request) fun _ _ => failsOnly_ok _
  | organizationTree limit =>
    refine .last ?_ fun _ _ => failsOnly_ok _
    refine .last (hands_account _) fun current _ => .read ?_
    split
    · exact failsOnly_ok _
    · exact .andThen (failsOnly_ok ()) fun _ _ => failsOnly_error.mpr rfl
  | organizationDetail id =>
    refine .last ?_ fun _ _ => failsOnly_ok _
    refine .bind (hands_account _) fun current _ => .last (hands_organization _) fun o _ => ?_
    refine .read (.andThen ?_ fun _ _ => failsOnly_ok _)
    exact answered_of_guard (Hierarchy.failsOnly_checkScope _ _)
  | menus => exact hands_of_answered (failsOnly_ok _)
  | listOperationLogs page =>
    exact .last (hands_listOperationLogs readable page) fun _ _ => failsOnly_ok _

/-! ## What a stored account can hand over -/

/-- The database can hold the ids of the accounts and of the organizations, and that of one more
role. -/
structure Roomy (s : State) : Prop where
  accounts : ∀ a ∈ s.database.accounts, fits64 a.id = true
  organizations : ∀ o ∈ s.database.organizations, fits64 o.id = true
  role : fits64 (Database.nextId (s.database.roles.map (·.id))) = true

/-- The command of an account hands over an integer that is too wide. Parents and menus are looked
for in what has been read from the tables, and so is the organization of a new account, unless the
super administrator makes it. -/
def Overflows (s : State) (a : Account) : Command → Prop
  | .listAccounts page filter => Wide (filter.integers ++ [page.offset])
  | .listRoles page _ | .listOperationLogs page => fits64 page.offset = false
  | .accountDetail id | .roleDetail id | .organizationDetail id => fits64 id = false
  | .createAccount request =>
    (a.id = superAdminId ∧ fits64 request.organizationId = false) ∨
      (s.InReach a request.organizationId ∧
        (∃ o ∈ s.database.organizations, o.id = request.organizationId) ∧
        fits64 request.roleId = false)
  | _ => False

/-- A tenant consists of organizations that are stored. -/
theorem Roomy.fits_of_inReach (roomy : s.Roomy) {a : Account} (ordinary : a.id ≠ superAdminId)
    {x : Int} (within : s.InReach a x) : fits64 x = true := by
  rcases within with admin | ⟨first, -, climbs⟩
  · exact absurd admin ordinary
  · have stored := climbs.mem_ids
    rw [Database.ids_hierarchy] at stored
    obtain ⟨o, listed, rfl⟩ := List.mem_map.mp stored
    exact roomy.organizations o listed

theorem Roomy.fits_of_parentName (roomy : s.Roomy) {parentId : Int} {name : Option String}
    (found : s.parentName parentId = .ok name) : fits64 parentId = true := by
  unfold parentName at found
  split at found
  · next top =>
    rw [top]
    decide
  split at found
  · next p here =>
    have own : p.id = parentId := by simpa using List.find?_some here
    rw [← own]
    exact roomy.organizations p (List.mem_of_find?_eq_some here)
  · cases found

theorem wide_onSuccess_organization {id : Int} {l : List Int} :
    Wide (onSuccess (s.organization id).outcome fun _ => l) ↔
      fits64 id = true ∧ (∃ o ∈ s.database.organizations, o.id = id) ∧ Wide l := by
  constructor
  · intro wide
    cases found : (s.organization id).outcome with
    | error f =>
      rw [found] at wide
      exact absurd wide not_wide_nil
    | ok o =>
      rw [found] at wide
      exact ⟨(Database.lookup_eq_ok.mp found).1, ⟨o, Database.mem_of_lookup found⟩, wide⟩
  · rintro ⟨fits, ⟨o, listed, own⟩, wide⟩
    have any : (s.database.organizations.find? (·.id = id)).isSome = true :=
      List.find?_isSome.mpr ⟨o, listed, by simp [own]⟩
    obtain ⟨first, here⟩ := Option.isSome_iff_exists.mp any
    have found : (s.organization id).outcome = .ok first :=
      Database.lookup_eq_ok.mpr ⟨fits, here⟩
    rwa [found]

/-- Whether a command of a stored account hands over an integer that is too wide. -/
theorem wide_handed_iff (regular : s.Regular) (roomy : s.Roomy) {a : Account}
    (present : a ∈ s.database.accounts) (command : Command) :
    Wide (s.handed a.id command) ↔ s.Overflows a command := by
  have fits := roomy.accounts a present
  have asking := regular.account_of_fits present fits
  have asked : ∀ rest, Wide ([a.id] ++ handed.asked s a.id rest) ↔ Wide (rest a) := by
    intro rest
    rw [wide_append, handed.asked, asking, onSuccess]
    exact or_iff_right (by simp [Wide, fits])
  cases command with
  | bootstrap | login | menus => exact iff_of_false not_wide_nil id
  | currentAccount | organizationTree => exact iff_of_false (by simp [handed, Wide, fits]) id
  | listRoles | roleDetail => simp [handed, Overflows, Wide]
  | accountDetail | organizationDetail =>
    rw [handed, asked]
    simp [Overflows, Wide]
  | listAccounts page filter =>
    obtain ⟨_, _, scope, -⟩ := regular.listingScope present
    rw [handed, asked, scope, onSuccess, Overflows]
  | listOperationLogs page =>
    obtain ⟨seen, found⟩ := regular.exists_overseen present
    rw [handed, asked, found, onSuccess]
    simp [Overflows, Wide]
  | createAccount request =>
    rw [handed, asked]
    by_cases within : s.InReach a request.organizationId
    · rw [regular.checkScope_of_inReach present within, onSuccess, wide_append,
        wide_onSuccess_organization, wide_singleton, wide_singleton, Overflows]
      constructor
      · rintro (wide | ⟨-, stored, wide⟩)
        · refine .inl ⟨?_, wide⟩
          by_contra ordinary
          rw [roomy.fits_of_inReach ordinary within] at wide
          cases wide
        · exact .inr ⟨within, stored, wide⟩
      · rintro (⟨-, wide⟩ | ⟨-, ⟨o, listed, own⟩, wide⟩)
        · exact .inl wide
        · exact .inr ⟨own ▸ roomy.organizations o listed, ⟨o, listed, own⟩, wide⟩
    · rw [regular.checkScope_of_not_inReach present within, onSuccess]
      refine iff_of_false not_wide_nil ?_
      rintro (⟨admin, -⟩ | ⟨inside, -⟩)
      · exact within (.inl admin)
      · exact within inside
  | createRole request =>
    rw [handed, asked]
    refine iff_of_false ?_ id
    cases found : s.database.requestedMenus (distinct request.menuIds) with
    | error f => exact not_wide_nil
    | ok menus =>
      exact not_wide_iff.mpr (List.forall_mem_map.mpr
        ((regular.founded present).fits_of_requested found))
  | createOrganization request =>
    rw [handed, asked]
    refine iff_of_false ?_ id
    cases found : s.parentName request.parentId with
    | error f => exact not_wide_nil
    | ok name =>
      have narrow := roomy.fits_of_parentName found
      cases (s.database.hierarchy.checkParent a.caller request.parentId).outcome with
      | error f => exact not_wide_nil
      | ok _ => simp [onSuccess, Wide, narrow]

end State

end Tenancy
