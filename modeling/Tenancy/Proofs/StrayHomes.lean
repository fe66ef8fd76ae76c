import Tenancy.Proofs.Guard
import Tenancy.Proofs.Paging
import Tenancy.Proofs.Refusal
import Tenancy.Proofs.Run

/-!
# Accounts whose homes lead nowhere

Nothing keeps a database from being corrupt: the home of an account may be absent, its chain of
parents may end at an organization that there is not, or run in a circle. Such a home is a stray
one (`Hierarchy.Stray`), and the account is denied what it could do at its home. The three cases
leave the climb at different places and come to the same in the end.

* `Stray.scopeOf_firstLevel`: there is no first-level scope for a home that exists; for one that is
  absent the scope is empty.
* `Stray.checkScope`: so the checks of the first level and of the root deny every organization.
* `Stray.listingScope`: a listing is denied if the home exists. If it is absent, the listing goes by
  the home alone, which is put into the list by hand: the list is not empty, and an empty one would
  not restrict the listing at all.
* `stray_homes_fail_closed` puts these together, for every state of the database.
-/

namespace Tenancy

/-- A failure for want of permission. -/
def Denied {α : Type} (x : Except Fault α) : Prop :=
  ∃ f, x = .error f ∧ f.kind = .permissionDenied

theorem Denied.bind {α β : Type} {x : Except Fault α} (denied : Denied x)
    (next : α → Except Fault β) : Denied (x >>= next) := by
  obtain ⟨f, rfl, kind⟩ := denied
  exact ⟨f, rfl, kind⟩

/-- What comes behind a denial does not happen. -/
theorem Denied.andThen {α β : Type} {x : Journal α} (denied : Denied x.outcome)
    (next : α → Journal β) : Denied (x >>= next).outcome := by
  rw [Journal.outcome_bind]
  exact denied.bind _

/-! ## The guard -/

namespace Hierarchy

variable {h : Hierarchy} {caller : Caller} {home target : Int} {limit : LimitType}

theorem Stray.firstLevelAncestor (stray : h.Stray home) :
    ∃ reason, h.firstLevelAncestor home = .error reason := by
  cases climbs : h.firstLevelAncestor home with
  | error reason => exact ⟨reason, rfl⟩
  | ok a => exact absurd climbs (stray.2 a)

section Stray

variable (stray : h.Stray caller.home) (ordinary : isSuperAdmin caller.id = false)
include stray ordinary

theorem Stray.scopeOf_firstLevel :
    (h.scopeOf caller .firstLevel).outcome =
      if h.contains caller.home then .error .scopeUnresolved else .ok [] := by
  obtain ⟨reason, lost⟩ := stray.firstLevelAncestor
  cases known : h.contains caller.home with
  | false =>
    have empty := (resolveScope_of_absent stray.1 known).1
    rw [scopeOf, ordinary, empty]
    rfl
  | true =>
    have unresolved : h.resolveScope caller.home false .firstLevel =
        .error (.unresolved reason) := by
      simp [resolveScope, stray.1, known, lost]
    rw [scopeOf, ordinary, unresolved]
    rfl

/-- The checks of the first level and of the root deny every organization, the home included. -/
theorem Stray.checkScope (outer : limit = .firstLevel ∨ limit = .root) :
    Denied (h.checkScope caller target limit).outcome := by
  have looked : (if limit = .root then LimitType.firstLevel else limit) = .firstLevel := by
    rcases outer with rfl | rfl <;> rfl
  have notRoot : ¬(caller.home = rootOrganizationId ∧ limit = .firstLevel) :=
    fun root => stray.1 root.1
  have notSelf : ¬(limit = .subOrganizationIncludeSelf ∧ target = caller.home) := by
    rintro ⟨rfl, -⟩
    rcases outer with other | other <;> cases other
  unfold Hierarchy.checkScope
  rw [if_neg notRoot, if_neg notSelf, looked, Journal.outcome_bind,
    stray.scopeOf_firstLevel ordinary]
  cases h.contains caller.home with
  | true => exact ⟨.scopeUnresolved, rfl, rfl⟩
  | false => exact ⟨.outsideScope, rfl, rfl⟩

theorem Stray.listingScope :
    (h.listingScope caller).outcome =
      if h.contains caller.home then .error .scopeUnresolved
      else .ok ([caller.home], [caller.home]) := by
  rw [Hierarchy.listingScope, ordinary, if_neg Bool.false_ne_true, Journal.outcome_bind,
    stray.scopeOf_firstLevel ordinary]
  cases known : h.contains caller.home with
  | true => rfl
  | false =>
    have empty := (resolveScope_of_absent stray.1 known).2
    have below : (h.scopeOf caller .subOrganizationIncludeSelf).outcome = .ok [] := by
      rw [scopeOf_eq_ok, ordinary, empty]
    show (h.scopeOf caller .subOrganizationIncludeSelf >>= _).outcome = _
    rw [Journal.outcome_bind, below]
    rfl

end Stray

/-- The listing of an ordinary account is restricted, whatever the hierarchy looks like. -/
theorem listingScope_ne_nil (ordinary : isSuperAdmin caller.id = false)
    {visible authorized : List Int}
    (found : (h.listingScope caller).outcome = .ok (visible, authorized)) : visible ≠ [] := by
  unfold Hierarchy.listingScope at found
  rw [ordinary, if_neg Bool.false_ne_true, Journal.outcome_bind_eq_ok] at found
  obtain ⟨listing, -, found⟩ := found
  obtain ⟨acting, -, same⟩ := Journal.outcome_bind_eq_ok.mp found
  cases same
  exact List.cons_ne_nil _ _

/-- A view of the first level or of the root has to climb from the home. -/
theorem Stray.homeView (stray : h.Stray home) (outer : limit = .firstLevel ∨ limit = .root) :
    ∃ reason, h.homeView home limit = .error reason := by
  obtain ⟨reason, lost⟩ := stray.firstLevelAncestor
  refine ⟨reason, ?_⟩
  rcases outer with rfl | rfl <;> simp [Hierarchy.homeView, firstLevelView, stray.1, lost]

end Hierarchy

/-! ## The commands -/

namespace State

variable {s : State} {caller : Int} {current : Account}

/-- The commands that act on the first level above the home of the account that asks. -/
def NeedsHome (s : State) : Command → Prop
  | .createAccount _ => True
  | .currentAccount => True
  | .accountDetail id => ∃ target, s.database.account id = .ok target
  | .organizationTree limit => limit = .firstLevel ∨ limit = .root
  | _ => False

/-- Once it is known who asks, the rest decides. -/
theorem outcome_asking {α : Type} (asking : (s.account caller).outcome = .ok current)
    (next : Account → Journal α) :
    (s.account caller >>= next).outcome = (next current).outcome := by
  rw [Journal.outcome_bind, asking, ok_bind]

/-- Once its scope is found, a listing fails only for an integer that is handed to the database. -/
theorem integer_of_listAccounts_error {visible authorized : List Int} {page : Page}
    {filter : AccountFilter} {f : Fault} (asking : (s.account caller).outcome = .ok current)
    (scope : (s.database.hierarchy.listingScope current.caller).outcome = .ok (visible, authorized))
    (failed : (s.listAccounts caller page filter).outcome = .error f) :
    f = .integerTooLarge ∧ ∃ n ∈ page.offset :: filter.integers, fits64 n = false := by
  rw [listAccounts_outcome asking scope] at failed
  rcases bind_eq_error.mp failed with wide | ⟨_, -, failed⟩
  · obtain ⟨rfl, n, listed, wide⟩ := Database.checkWidth_eq_error.mp wide
    exact ⟨rfl, n, List.mem_cons_of_mem _ listed, wide⟩
  rcases bind_eq_error.mp failed with wide | ⟨_, -, shown⟩
  · rcases bind_eq_error.mp wide with wide | ⟨_, -, rows⟩
    · obtain ⟨rfl, n, listed, wide⟩ := Database.checkWidth_eq_error.mp wide
      rw [List.mem_singleton] at listed
      exact ⟨rfl, n, listed ▸ List.mem_cons_self, wide⟩
    · cases rows
  · cases shown

section Stray

variable (stray : s.database.hierarchy.Stray current.organizationId)
  (ordinary : current.id ≠ superAdminId)
include stray ordinary

/-- What follows a check of the first level is not done for a stray account. -/
theorem denied_checkScope {α : Type} (target : Int) (next : Unit → Journal α) :
    Denied (do
      let hierarchy ← s.hierarchy
      hierarchy.checkScope current.caller target .firstLevel >>= next).outcome := by
  have denied :
      Denied (s.database.hierarchy.checkScope current.caller target .firstLevel).outcome :=
    Hierarchy.Stray.checkScope stray (isSuperAdmin_eq_false ordinary) (.inl rfl)
  exact denied.andThen next

variable (asking : (s.account caller).outcome = .ok current)
include asking

theorem denied_of_needsHome {command : Command} (needs : s.NeedsHome command) :
    Denied (s.perform caller command).outcome := by
  cases command with
  | createAccount request =>
    refine Denied.andThen ?_ _
    rw [createAccount, outcome_asking asking]
    exact denied_checkScope stray ordinary _ _
  | currentAccount =>
    refine Denied.andThen ?_ _
    rw [currentAccount, outcome_asking asking]
    exact denied_checkScope stray ordinary _ _
  | accountDetail id =>
    obtain ⟨target, known⟩ := needs
    have found : (s.account id).outcome = .ok target := known
    refine Denied.andThen ?_ _
    rw [accountDetail, outcome_asking asking, outcome_asking found]
    exact denied_checkScope stray ordinary _ _
  | organizationTree limit =>
    obtain ⟨reason, lost⟩ := stray.homeView needs
    refine Denied.andThen ⟨.scopeUnresolved, ?_, rfl⟩ _
    rw [organizationTree, outcome_asking asking, hierarchy, Journal.outcome_bind,
      Journal.outcome_read, ok_bind, lost]
    rfl
  | _ => exact needs.elim

/-- A listing is denied to a stray account, or it shows the accounts at its home, or the home is
absent and an integer is handed to the database that does not fit. -/
theorem listAccounts_of_stray (page : Page) (filter : AccountFilter) :
    Denied (s.listAccounts caller page filter).outcome ∨
    (∃ listing, (s.listAccounts caller page filter).outcome = .ok listing ∧
      ∀ entry ∈ listing.rows, entry.account.organizationId = current.organizationId) ∨
    s.database.hierarchy.contains current.organizationId = false ∧
      (∃ n ∈ page.offset :: filter.integers, fits64 n = false) ∧
      (s.listAccounts caller page filter).outcome = .error .integerTooLarge := by
  have member : isSuperAdmin current.caller.id = false := isSuperAdmin_eq_false ordinary
  have scope := Hierarchy.Stray.listingScope stray member
  cases known : s.database.hierarchy.contains current.caller.home with
  | true =>
    rw [known, if_pos rfl] at scope
    refine .inl ⟨.scopeUnresolved, ?_, rfl⟩
    rw [listAccounts, outcome_asking asking]
    show (s.database.hierarchy.listingScope current.caller >>= _).outcome = _
    rw [Journal.outcome_bind, scope, error_bind]
  | false =>
    rw [known, if_neg Bool.false_ne_true] at scope
    refine .inr ?_
    cases done : (s.listAccounts caller page filter).outcome with
    | ok listing =>
      obtain ⟨-, shown, found, rfl⟩ := (listAccounts_eq_ok asking scope).mp done
      refine .inl ⟨_, rfl, fun entry listed => ?_⟩
      obtain ⟨a, onPage, rfl⟩ := List.mem_map.mp listed
      have visible := (mem_matching.mp (List.mem_reverse.mp (Page.mem_of_shown found onPage))).2.1
      rcases visible with none | atHome
      · cases none
      · exact List.mem_singleton.mp atHome
    | error f =>
      obtain ⟨rfl, wide⟩ := integer_of_listAccounts_error asking scope done
      exact .inr ⟨known, wide, rfl⟩

end Stray

end State

/-- In any state whatsoever, an ordinary account whose home is a stray one is denied every check of
the first level and of the root and every command that needs such a check, and nothing changes by
these. A listing of accounts is denied to it too, or shows accounts of exactly its home, or the home
is absent and an integer is asked for that the database cannot hold. No listing of an ordinary
account is without restriction, and why a climb ends nowhere is never what a command answers. -/
theorem stray_homes_fail_closed (s : State) :
    (∀ caller current, s.database.account caller = .ok current → caller ≠ superAdminId →
      s.database.hierarchy.Stray current.organizationId →
        (∀ target limit, limit = .firstLevel ∨ limit = .root →
          Denied (s.database.hierarchy.checkScope current.caller target limit).outcome) ∧
        (∀ command, s.NeedsHome command → Denied (s.perform caller command).outcome ∧
          s.step (.perform caller command) = s) ∧
        ∀ page filter,
          Denied (s.listAccounts caller page filter).outcome ∨
          (∃ listing, (s.listAccounts caller page filter).outcome = .ok listing ∧
            ∀ entry ∈ listing.rows, entry.account.organizationId = current.organizationId) ∨
          s.database.hierarchy.contains current.organizationId = false ∧
            (∃ n ∈ page.offset :: filter.integers, fits64 n = false) ∧
            (s.listAccounts caller page filter).outcome = .error .integerTooLarge) ∧
    (∀ caller current visible authorized, s.database.account caller = .ok current →
      caller ≠ superAdminId →
      (s.database.hierarchy.listingScope current.caller).outcome = .ok (visible, authorized) →
        visible ≠ []) ∧
    ∀ caller command reason,
      (s.perform caller command).outcome ≠ .error (.unresolvedAncestor reason) := by
  have member : ∀ {caller current}, s.database.account caller = .ok current →
      caller ≠ superAdminId → current.id ≠ superAdminId := by
    intro caller current asking ordinary
    rw [(State.mem_of_account asking).2]
    exact ordinary
  refine ⟨fun caller current asking ordinary stray => ⟨?_, ?_, ?_⟩, ?_, ?_⟩
  · intro target limit outer
    exact Hierarchy.Stray.checkScope stray (isSuperAdmin_eq_false (member asking ordinary)) outer
  · intro command needs
    obtain ⟨f, failed, kind⟩ :=
      State.denied_of_needsHome stray (member asking ordinary) asking needs
    exact ⟨⟨f, failed, kind⟩, State.step_of_failed failed⟩
  · exact State.listAccounts_of_stray stray (member asking ordinary) asking
  · intro caller current visible authorized asking ordinary found
    exact Hierarchy.listingScope_ne_nil (isSuperAdmin_eq_false (member asking ordinary)) found
  · intro caller command reason failed
    exact State.perform_failsOnly command _ failed

/-- An account of the ruins. -/
def settler (id home : Int) : Account :=
  { id, name := "settler" ++ Text.decimal id, passwordHash := "", email := none, phone := none
    organizationId := home, organizationName := "ruins", roleId := 1, roleName := "settler"
    isDeletable := true }

/-- A corrupt database: account 2 is homed at an organization that there is not, account 3 below one
that there is not, and account 4 on a circle. -/
def ruins : State :=
  { database :=
      { organizations :=
          [⟨5, "orphan", 77, none⟩, ⟨6, "hen", 7, some "egg"⟩, ⟨7, "egg", 6, some "hen"⟩]
        accounts := [settler 2 99, settler 3 5, settler 4 6] } }

/-- Climbing from a home of the ruins ends nowhere. -/
theorem stray_of_mem_ruins {a : Account} (listed : a ∈ ruins.database.accounts) :
    ruins.database.hierarchy.Stray a.organizationId := by
  have inner : ∀ a ∈ ruins.database.accounts, a.organizationId ≠ rootOrganizationId := by decide
  have lost : ∀ a ∈ ruins.database.accounts,
      (ruins.database.hierarchy.firstLevelAncestor a.organizationId).isOk = false := by decide
  obtain ⟨reason, ends⟩ := exists_of_isOk_eq_false (lost a listed)
  exact Hierarchy.stray_of_firstLevelAncestor (inner a listed) ends

theorem account_of_mem_ruins :
    ∀ a ∈ ruins.database.accounts, ruins.database.account a.id = .ok a := by
  decide +kernel

/-- All three are denied the tree of organizations above their homes, and nothing changes by that.
The first one still lists the accounts at its home: itself. -/
theorem ruins_are_closed :
    (∀ a ∈ ruins.database.accounts, Denied (ruins.perform a.id (.organizationTree .root)).outcome ∧
      ruins.step (.perform a.id (.organizationTree .root)) = ruins) ∧
    ∃ listing, (ruins.listAccounts 2 {} {}).outcome = .ok listing ∧
      listing.rows.map (·.account.id) = [2] ∧
      ∀ entry ∈ listing.rows, entry.account.organizationId = 99 := by
  have ordinary : ∀ a ∈ ruins.database.accounts, a.id ≠ superAdminId := by decide
  obtain ⟨closed, -, -⟩ := stray_homes_fail_closed ruins
  constructor
  · intro a listed
    obtain ⟨-, denied, -⟩ :=
      closed a.id a (account_of_mem_ruins a listed) (ordinary a listed) (stray_of_mem_ruins listed)
    exact denied (.organizationTree .root) (.inr rfl)
  · have first : settler 2 99 ∈ ruins.database.accounts := List.mem_cons_self
    obtain ⟨-, -, listings⟩ :=
      closed 2 _ (account_of_mem_ruins _ first) (by decide) (stray_of_mem_ruins first)
    have shown : (ruins.listAccounts 2 {} {}).outcome.map (fun l => l.rows.map (·.account.id)) =
        .ok [2] := by
      decide +kernel
    obtain ⟨listing, done, ids⟩ := map_eq_ok.mp shown
    refine ⟨listing, done, ids, ?_⟩
    rcases listings {} {} with ⟨f, failed, -⟩ | ⟨other, same, homes⟩ | ⟨-, -, failed⟩
    · rw [done] at failed
      cases failed
    · rw [done] at same
      cases same
      exact homes
    · rw [done] at failed
      cases failed

/-- A listing of the first one that is limited to organization `2 ^ 63` is neither denied nor shown:
the database cannot be asked for this organization. -/
theorem ruins_listing_overflows :
    ∃ current, ruins.database.account 2 = .ok current ∧ 2 ≠ superAdminId ∧
      ruins.database.hierarchy.Stray current.organizationId ∧
      ¬(Denied (ruins.listAccounts 2 {} { organizationId := some 0x8000000000000000 }).outcome ∨
        ∃ listing,
          (ruins.listAccounts 2 {} { organizationId := some 0x8000000000000000 }).outcome =
            .ok listing ∧
          ∀ entry ∈ listing.rows, entry.account.organizationId = current.organizationId) := by
  have first : settler 2 99 ∈ ruins.database.accounts := List.mem_cons_self
  refine ⟨settler 2 99, account_of_mem_ruins _ first, by decide, stray_of_mem_ruins first, ?_⟩
  have overflows :
      (ruins.listAccounts 2 {} { organizationId := some 0x8000000000000000 }).outcome.map
        (·.total) = .error .integerTooLarge := by
    decide +kernel
  rintro (⟨f, denied, kind⟩ | ⟨listing, shown, -⟩)
  · rw [denied] at overflows
    cases overflows
    cases kind
  · rw [shown] at overflows
    cases overflows

end Tenancy
