import Tenancy.Proofs.Paging
import Tenancy.Proofs.Regularity

/-!
# Listings and details agree

A listing of accounts goes by a list of organizations, in which the home of the account that asks
is put by hand and which restricts nothing if it is empty; the detail of an account goes by a check
of the guard, which an account homed at the root passes unseen. In a regular state both let through
what is within reach (`Regular.listingScope`, `Regular.checkScope_of_inReach`): what some page of a
listing shows is what can be looked at in detail, and no filter shows more
(`listing_shows_what_detail_shows`).
-/

namespace Tenancy

namespace State

variable {s : State} {caller : Int} {current target : Account} {visible authorized : List Int}
  {page : Page} {filter : AccountFilter}

/-! ## Listings -/

/-- Some page of the listing shows the account. -/
def Lists (s : State) (caller : Int) (filter : AccountFilter) (account : Account) : Prop :=
  ∃ page listing, page.WellFormed ∧ (s.listAccounts caller page filter).outcome = .ok listing ∧
    account ∈ listing.rows.map (·.account)

/-- A listing shows, over all its pages, the accounts that it is about. -/
theorem lists_iff_of_length_le (asking : (s.account caller).outcome = .ok current)
    (scope : (s.database.hierarchy.listingScope current.caller).outcome = .ok (visible, authorized))
    (short : (s.database.accounts.length : Int) ≤ 0x8000000000000000) :
    s.Lists caller filter target ↔
      (∀ n ∈ filter.integers, fits64 n = true) ∧ target ∈ s.matching visible filter := by
  have shown : target ∈ s.matching visible filter ↔ _ := (Page.exists_shown_iff short).symm
  rw [shown]
  constructor
  · rintro ⟨page, listing, wellFormed, done, listed⟩
    obtain ⟨widths, entries, found, rfl⟩ := (listAccounts_eq_ok asking scope).mp done
    simp only [List.map_map, List.mem_map, Function.comp_apply, exists_eq_right] at listed
    exact ⟨widths, page, entries, wellFormed, found, listed⟩
  · rintro ⟨widths, page, entries, wellFormed, found, listed⟩
    have done := (listAccounts_eq_ok asking scope).mpr ⟨widths, entries, found, rfl⟩
    refine ⟨page, _, wellFormed, done, ?_⟩
    simp only [List.map_map, List.mem_map, Function.comp_apply, exists_eq_right]
    exact listed

theorem lists_iff (asking : (s.account caller).outcome = .ok current)
    (scope : (s.database.hierarchy.listingScope current.caller).outcome = .ok (visible, authorized))
    (numbered : Numbered (s.database.accounts.map (·.id)))
    (stored : ∀ a ∈ s.database.accounts, fits64 a.id = true) :
    s.Lists caller filter target ↔
      (∀ n ∈ filter.integers, fits64 n = true) ∧ target ∈ s.matching visible filter :=
  lists_iff_of_length_le asking scope (numbered.length_le stored)

/-- A listing goes by the organizations within reach. -/
theorem Regular.listingScope (regular : s.Regular) (present : current ∈ s.database.accounts) :
    ∃ visible authorized,
      (s.database.hierarchy.listingScope current.caller).outcome = .ok (visible, authorized) ∧
      ∀ x, visible = [] ∨ x ∈ visible ↔ s.InReach current x := by
  have proper := regular.numbered.proper
  rcases regular.consistent.home regular.numbered present with ⟨admin, -⟩ | ⟨ordinary, a, home⟩
  · refine ⟨[], _, Hierarchy.listingScope_of_superAdmin (isSuperAdmin_iff.mpr admin), fun x => ?_⟩
    exact iff_of_true (.inl rfl) (.inl admin)
  · have member : isSuperAdmin current.caller.id = false := isSuperAdmin_eq_false ordinary
    refine ⟨_, _, Hierarchy.listingScope_eq_ok proper home member rfl, fun x => ?_⟩
    rw [inReach_iff_resolves ordinary home, ← proper.mem_firstLevel_iff home.last]
    constructor
    · rintro (none | listed)
      · cases none
      · -- the home is put into the list by hand, but it is in the first-level scope already
        rcases List.mem_cons.mp listed with rfl | inside
        · exact (proper.mem_firstLevel_iff home.last).mpr home
        · exact inside
    · exact fun inside => .inr (List.mem_cons_of_mem _ inside)

end State

/-- In every state that can be reached, an account that asks sees another account on some page of
the listing without filters if and only if it is shown this account in detail, and is denied it
otherwise. It sees the accounts of its own tenant, or all if it is the super administrator's, and a
filter by name or by organization shows no others. The ids have to be some that the database can
hold. -/
theorem listing_shows_what_detail_shows {s : State} (reachable : s.Reachable)
    (stored : ∀ a ∈ s.database.accounts, fits64 a.id = true) {current target : Account}
    (asking : current ∈ s.database.accounts) (present : target ∈ s.database.accounts) :
    (s.Lists current.id {} target ↔
      ∃ detail, (s.accountDetail current.id target.id).outcome = .ok detail) ∧
    (¬s.Lists current.id {} target →
      (s.accountDetail current.id target.id).outcome = .error .outsideScope) ∧
    (s.Lists current.id {} target ↔ s.InReach current target.organizationId) ∧
    ∀ filter, s.Lists current.id filter target → s.Lists current.id {} target := by
  have regular := State.Reachable.regular reachable
  have found : ∀ a ∈ s.database.accounts, (s.account a.id).outcome = .ok a := by
    intro a listed
    exact regular.account_of_fits listed (stored a listed)
  obtain ⟨visible, authorized, scope, within⟩ := regular.listingScope asking
  have lists : ∀ filter, s.Lists current.id filter target ↔
      (∀ n ∈ filter.integers, fits64 n = true) ∧
        s.InReach current target.organizationId ∧ filter.accepts target = true := by
    intro filter
    rw [State.lists_iff (found current asking) scope regular.numbered.accounts stored,
      State.mem_matching, within]
    simp only [present, true_and]
  have unfiltered : s.Lists current.id {} target ↔ s.InReach current target.organizationId := by
    rw [lists]
    constructor
    · rintro ⟨-, near, -⟩
      exact near
    · intro near
      exact ⟨by simp [AccountFilter.integers, isSearch], near, rfl⟩
  have detail : (s.accountDetail current.id target.id).outcome =
      (s.database.hierarchy.checkScope current.caller target.organizationId
        .firstLevel).outcome.map fun _ =>
          ⟨target, s.database.menuForest (s.database.selectionOf target)⟩ := by
    rw [State.accountDetail, Journal.outcome_bind, found current asking, ok_bind,
      Journal.outcome_bind, found target present, ok_bind, State.showAccount_outcome]
  have denied : ¬s.InReach current target.organizationId →
      (s.accountDetail current.id target.id).outcome = .error .outsideScope := by
    intro beyond
    rw [detail, regular.checkScope_of_not_inReach asking beyond]
    rfl
  rw [unfiltered]
  refine ⟨?_, denied, Iff.rfl, fun filter listed => ((lists filter).mp listed).2.1⟩
  constructor
  · intro near
    rw [detail, regular.checkScope_of_inReach asking near]
    exact ⟨_, rfl⟩
  · rintro ⟨shown, done⟩
    by_contra beyond
    rw [denied beyond] at done
    cases done

/-- The super administrator makes an account in the branch of the company. -/
def branchSetup : List Operation := [
    .perform 1 (.createAccount
      { name := "carol", password := "carol12345", email := none, organizationId := 2
        roleId := 1 })]

/-- The manager of the headquarters sees its own account in listings and in detail, and the account
in the branch in neither. -/
theorem manager_sees_no_branch :
    (company.run branchSetup).Reachable ∧
    (∀ a ∈ (company.run branchSetup).database.accounts, fits64 a.id = true) ∧
    ∃ manager ∈ (company.run branchSetup).database.accounts,
      ∃ carol ∈ (company.run branchSetup).database.accounts,
        manager.id = 2 ∧ carol.id = 3 ∧
        (company.run branchSetup).Lists manager.id {} manager ∧
        ¬(company.run branchSetup).Lists manager.id {} carol ∧
        ((company.run branchSetup).accountDetail manager.id carol.id).outcome =
          .error .outsideScope ∧
        ∀ filter, ¬(company.run branchSetup).Lists manager.id filter carol := by
  have reachable : (company.run branchSetup).Reachable :=
    (State.Reaches.run fun _ _ _ => trivial).reachable reachable_company
  have stored : ∀ a ∈ (company.run branchSetup).database.accounts, fits64 a.id = true := by
    decide +kernel
  have members : (∃ a ∈ (company.run branchSetup).database.accounts, a.id = 2) ∧
      ∃ a ∈ (company.run branchSetup).database.accounts, a.id = 3 := by decide +kernel
  obtain ⟨⟨manager, asking, own⟩, carol, present, other⟩ := members
  obtain ⟨itself, -, -, -⟩ := listing_shows_what_detail_shows reachable stored asking asking
  obtain ⟨listed, denied, -, filtered⟩ :=
    listing_shows_what_detail_shows reachable stored asking present
  have hidden : ¬(company.run branchSetup).Lists manager.id {} carol := by
    rw [listed, own, other]
    rintro ⟨detail, done⟩
    have refused : ((company.run branchSetup).accountDetail 2 3).outcome.isOk = false := by
      decide +kernel
    rw [done] at refused
    cases refused
  have shown : ∃ detail,
      ((company.run branchSetup).accountDetail manager.id manager.id).outcome = .ok detail := by
    rw [own]
    exact exists_of_isOk (by decide +kernel)
  exact ⟨reachable, stored, manager, asking, carol, present, own, other, itself.mpr shown, hidden,
    denied hidden, fun filter seen => hidden (filtered filter seen)⟩

end Tenancy
