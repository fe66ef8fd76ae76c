import Tenancy.Proofs.Visibility

/-!
# Oversight

A listing of the audit trail goes by a list of accounts: the one that asks and those that a second
query finds at the homes below its own. For the super administrator there is no such list. In a
regular state both come to one relation between homes: an account oversees another one if the
other's home lies below its own, where the home of the super administrator is the root, which all
other homes lie below (`Regular.oversees_iff`).

* `readable_moved`: what the audit trail holds can be read back, so that no entry spoils a page.
* `Regular.gives_iff`: the pages give an account what its list lets through.
* `oversight_is_strict_order`: so oversight is a strict order, and the entries follow it.
-/

namespace Tenancy

/-- A list that is read entry by entry, and where nothing is wrong with any of them. -/
theorem mapM_eq_ok_of_forall {ε α : Type} {read : α → Except ε α} {l : List α}
    (fine : ∀ a ∈ l, read a = .ok a) : l.mapM read = .ok l := by
  induction l with
  | nil => rfl
  | cons a rest ih =>
    have first := fine a List.mem_cons_self
    have later := ih fun b listed => fine b (List.mem_cons_of_mem _ listed)
    rw [List.mapM_cons, first, ok_bind, later, ok_bind]
    rfl

namespace OperationType

theorem name_mem_names (type : OperationType) : type.name ∈ names := by
  cases type <;> decide

end OperationType

namespace OperationResult

theorem name_mem_names (result : OperationResult) : result.name ∈ names := by
  cases result <;> decide

end OperationResult

namespace State

variable {s t : State} {u v a : Account} {caller size : Int} {page : Page} {l : OperationLog}
  {seen : Option (List Int)}

/-! ## Reading the audit trail -/

/-- Every entry of the audit trail can be read back. -/
def Readable (s : State) : Prop :=
  ∀ l ∈ s.database.operationLogs, l.reading = .ok l

theorem reading_entryOf (request : RecordedRequest) :
    (s.entryOf request).reading = .ok (s.entryOf request) := by
  have type := OperationType.name_mem_names request.info.type
  have result := OperationResult.name_mem_names (.ofStatus request.status)
  rw [← entryOf_type (s := s)] at type
  rw [← entryOf_result (s := s)] at result
  rw [OperationLog.reading, if_neg (not_not.mpr type), if_neg (not_not.mpr result)]

theorem readable_moved {operation : Operation} (moved : Moved s operation t)
    (readable : s.Readable) : t.Readable := by
  intro l listed
  rcases operationLogs_moved moved with same | ⟨request, -, grown⟩
  · rw [same] at listed
    exact readable l listed
  · rw [grown, List.mem_append, List.mem_singleton] at listed
    rcases listed with old | rfl
    · exact readable l old
    · exact reading_entryOf request

theorem Reaches.readable {allowed : State → Operation → Prop} (reaches : Reaches allowed s t)
    (readable : s.Readable) : t.Readable := by
  induction reaches with
  | refl => exact readable
  | step _ _ ih => exact readable_moved (moved_step _ _) ih

theorem Reachable.readable (reachable : s.Reachable) : s.Readable := by
  obtain ⟨settings, run⟩ := reachable
  exact run.readable (by simp [Readable])

/-- The entries that a list of accounts lets through. -/
def entriesFor (s : State) (seen : Option (List Int)) : List OperationLog :=
  s.database.operationLogs.filter fun l => seen.all (l.accountId ∈ ·)

/-- A page is a part of the trail, so that reading it back changes nothing. -/
theorem reading_page (readable : s.Readable) {listing : Listing OperationLog}
    (shown : page.of (s.entriesFor seen).reverse = .ok listing) :
    listing.rows.mapM OperationLog.reading = .ok listing.rows := by
  refine mapM_eq_ok_of_forall fun l onPage => readable l ?_
  have selected := List.mem_reverse.mp (Page.mem_of_shown shown onPage)
  exact List.mem_of_mem_filter selected

/-- A listing of entries is one page of those that the list of the account that asks lets
through. -/
theorem listOperationLogs_outcome (readable : s.Readable)
    (asking : (s.account caller).outcome = .ok u) (found : (s.overseen u).outcome = .ok seen) :
    (s.listOperationLogs caller page).outcome = page.of (s.entriesFor seen).reverse := by
  simp only [listOperationLogs, Journal.outcome_bind, asking, found, ok_bind,
    Journal.outcome_query, Journal.outcome_ofExcept, Journal.outcome_pure]
  show (page.of (s.entriesFor seen).reverse >>= _) = _
  cases shown : page.of (s.entriesFor seen).reverse with
  | error f => rfl
  | ok listing =>
    rw [ok_bind, reading_page readable shown]
    rfl

/-! ## Who sees whose entries -/

/-- The list that a listing of entries goes by for `u` is absent or contains the id. -/
def Sees (s : State) (u : Account) (id : Int) : Prop :=
  (s.overseen u).outcome = .ok none ∨
    ∃ ids, (s.overseen u).outcome = .ok (some ids) ∧ id ∈ ids

/-- An account oversees another one if it sees the entries of this one. -/
def Oversees (s : State) (u v : Account) : Prop :=
  u ≠ v ∧ s.Sees u v.id

/-- Some page of the size gives the account an entry. -/
def Gives (s : State) (u : Account) (size : Int) (l : OperationLog) : Prop :=
  ∃ page listing, page.WellFormed ∧ page.size = size ∧
    (s.listOperationLogs u.id page).outcome = .ok listing ∧ l ∈ listing.rows

theorem sees_iff_of_found {id : Int} (found : (s.overseen u).outcome = .ok seen) :
    s.Sees u id ↔ seen.all (id ∈ ·) = true := by
  unfold Sees
  rw [found]
  cases seen with
  | none => simp
  | some ids => simp

theorem overseen_of_superAdmin (admin : u.id = superAdminId) :
    (s.overseen u).outcome = .ok none := by
  rw [overseen, if_pos (isSuperAdmin_iff.mpr admin)]
  rfl

namespace Regular

variable (regular : s.Regular) (asking : u ∈ s.database.accounts)
include regular asking

/-- The list of an ordinary account: itself and the accounts at the homes below its own. -/
theorem overseen_of_ordinary (ordinary : u.id ≠ superAdminId) :
    (s.overseen u).outcome =
      .ok (some (u.id :: (s.database.accounts.filter fun a =>
        a.organizationId ∈ s.database.hierarchy.descendants u.organizationId).map (·.id))) := by
  have proper := regular.numbered.proper
  have member : isSuperAdmin (some u.id) = false := isSuperAdmin_eq_false ordinary
  obtain ⟨first, home⟩ := regular.exists_first asking ordinary
  have scope : (s.database.hierarchy.scopeOf u.caller .subOrganization).outcome =
      .ok (s.database.hierarchy.descendants u.organizationId) := by
    rw [Hierarchy.scopeOf_eq_ok]
    show s.database.hierarchy.resolveScope u.organizationId (isSuperAdmin (some u.id)) _ = _
    rw [member]
    exact Hierarchy.resolveScope_subOrganization proper home
  rw [overseen, member, if_neg Bool.false_ne_true]
  simp only [hierarchy, Journal.outcome_bind, Journal.outcome_read, Journal.outcome_pure, scope,
    ok_bind]

/-- Whether the super administrator asks or not, there is a list to go by, or none is needed. -/
theorem exists_overseen : ∃ seen, (s.overseen u).outcome = .ok seen := by
  by_cases admin : u.id = superAdminId
  · exact ⟨none, overseen_of_superAdmin admin⟩
  · exact ⟨_, regular.overseen_of_ordinary asking admin⟩

/-- No home lies below itself, not even the root. -/
theorem not_below_home :
    ¬Relation.TransGen s.database.hierarchy.Child u.organizationId u.organizationId := by
  have proper := regular.numbered.proper
  -- the root is below nothing, and no climb to the first level passes a circle
  rcases regular.consistent.home regular.numbered asking with ⟨-, root⟩ | ⟨-, first, home⟩
  · rw [root]
    exact proper.not_below_root
  · exact proper.not_below_itself home

variable (present : v ∈ s.database.accounts)
include present

/-- An account sees its own entries and those of the accounts at the homes below its own. -/
theorem sees_iff : s.Sees u v.id ↔ v = u ∨
    Relation.TransGen s.database.hierarchy.Child u.organizationId v.organizationId := by
  by_cases admin : u.id = superAdminId
  · rw [sees_iff_of_found (overseen_of_superAdmin admin)]
    refine iff_of_true rfl ?_
    -- the root is the home of the super administrator alone, and all other homes lie below it
    by_cases other : v.id = superAdminId
    · exact .inl (regular.eq_of_id asking present (other.trans admin.symm))
    · obtain ⟨first, home⟩ := regular.exists_first present other
      rw [(regular.consistent.homes u asking).mpr admin]
      exact .inr home.below_root
  · rw [sees_iff_of_found (regular.overseen_of_ordinary asking admin), Option.all_some,
      decide_eq_true_iff, List.mem_cons, List.mem_map]
    constructor
    · rintro (same | ⟨w, listed, same⟩)
      · exact .inl (regular.eq_of_id asking present same)
      · obtain ⟨other, below⟩ := List.mem_filter.mp listed
        obtain rfl : v = w := regular.eq_of_id other present same.symm
        rw [decide_eq_true_iff, Hierarchy.mem_descendants_iff] at below
        exact .inr below.2
    · rintro (rfl | below)
      · exact .inl rfl
      · refine .inr ⟨v, List.mem_filter.mpr ⟨present, ?_⟩, rfl⟩
        rw [decide_eq_true_iff, Hierarchy.mem_descendants_iff]
        -- a descendant is by definition another organization
        refine ⟨fun same => ?_, below⟩
        rw [same] at below
        exact regular.not_below_home asking below

/-- To oversee an account is to have the home above its home. -/
theorem oversees_iff : s.Oversees u v ↔
    Relation.TransGen s.database.hierarchy.Child u.organizationId v.organizationId := by
  rw [Oversees, regular.sees_iff asking present]
  constructor
  · rintro ⟨different, same | below⟩
    · exact absurd same.symm different
    · exact below
  · intro below
    refine ⟨?_, .inr below⟩
    rintro rfl
    exact regular.not_below_home asking below

end Regular

/-! ## What the pages hold -/

/-- The database can hold the ids of the accounts and of the entries. -/
structure Held (s : State) : Prop where
  accounts : ∀ a ∈ s.database.accounts, fits64 a.id = true
  operationLogs : ∀ l ∈ s.database.operationLogs, fits64 l.id = true

namespace Regular

variable (regular : s.Regular) (held : s.Held) (asking : u ∈ s.database.accounts)
include regular held asking

/-- The pages of every size give an account the entries of those whom it sees. -/
theorem gives_iff (readable : s.Readable) (positive : 1 ≤ size) (bounded : size ≤ 100) :
    s.Gives u size l ↔ l ∈ s.database.operationLogs ∧ s.Sees u l.accountId := by
  obtain ⟨seen, found⟩ := regular.exists_overseen asking
  have listing : ∀ page, (s.listOperationLogs u.id page).outcome =
      page.of (s.entriesFor seen).reverse := by
    intro page
    exact listOperationLogs_outcome readable
      (regular.account_of_fits asking (held.accounts u asking)) found
  rw [sees_iff_of_found found]
  constructor
  · rintro ⟨page, shown, -, -, done, onPage⟩
    rw [listing] at done
    exact List.mem_filter.mp (List.mem_reverse.mp (Page.mem_of_shown done onPage))
  · rintro ⟨written, passes⟩
    have selected : l ∈ s.entriesFor seen := List.mem_filter.mpr ⟨written, passes⟩
    obtain ⟨page, shown, wellFormed, sized, done, onPage⟩ :=
      Page.exists_of_mem_filter (regular.numbered.operationLogs.length_le held.operationLogs) size
        positive bounded selected
    exact ⟨page, shown, wellFormed, sized, (listing page).trans done, onPage⟩

/-- An ordinary account finds those below it in listings of accounts, as ones that it may act on. -/
theorem lists_of_below (ordinary : u.id ≠ superAdminId) (present : v ∈ s.database.accounts)
    (below : Relation.TransGen s.database.hierarchy.Child u.organizationId v.organizationId) :
    s.Lists u.id {} v ∧ ∀ page filter listing,
      (s.listAccounts u.id page filter).outcome = .ok listing →
        ∀ entry ∈ listing.rows, entry.account = v → entry.authorized = true := by
  have proper := regular.numbered.proper
  obtain ⟨first, home⟩ := regular.exists_first asking ordinary
  have member : isSuperAdmin u.caller.id = false := isSuperAdmin_eq_false ordinary
  have scope : (s.database.hierarchy.listingScope u.caller).outcome = _ :=
    Hierarchy.listingScope_eq_ok proper home member rfl
  have found := regular.account_of_fits asking (held.accounts u asking)
  have tenant := (proper.mem_firstLevel_iff home.last).mpr (proper.resolves_of_transGen home below)
  have under := Hierarchy.mem_cons_descendants_iff.mpr below.to_reflTransGen
  constructor
  · rw [lists_iff found scope regular.numbered.accounts held.accounts, mem_matching]
    refine ⟨by simp [AccountFilter.integers, isSearch], present, .inr ?_, rfl⟩
    exact List.mem_cons_of_mem _ tenant
  · rintro page filter listing done entry listed rfl
    obtain ⟨-, shown, -, rfl⟩ := (listAccounts_eq_ok found scope).mp done
    obtain ⟨a, -, rfl⟩ := List.mem_map.mp listed
    show (decide _ || _) = true
    rw [decide_eq_true (List.mem_cons_of_mem _ under), Bool.true_or]

end Regular

end State

/-- In every state that can be reached, there is a list that the listing of entries goes by for
each account, and oversight is transitive and asymmetric. The super administrator oversees everyone
and is overseen by no one. An ordinary account oversees those whose homes lie strictly below its
own, and listings of accounts show it these as ones that it may act on. On its pages of whatever
size an account gets its own entries and those of the accounts that it oversees, and none of any
other account. As for the pages, the ids have to be some that the database can hold. -/
theorem oversight_is_strict_order {s : State} (reachable : s.Reachable) :
    (∀ u ∈ s.database.accounts, ∃ seen, (s.overseen u).outcome = .ok seen) ∧
    (∀ u ∈ s.database.accounts, ∀ v ∈ s.database.accounts, ∀ w ∈ s.database.accounts,
      s.Oversees u v → s.Oversees v w → s.Oversees u w) ∧
    (∀ u ∈ s.database.accounts, ∀ v ∈ s.database.accounts,
      s.Oversees u v → ¬s.Oversees v u) ∧
    (∀ u ∈ s.database.accounts, u.id = superAdminId → ∀ v ∈ s.database.accounts, v ≠ u →
      s.Oversees u v ∧ ¬s.Oversees v u) ∧
    (∀ u ∈ s.database.accounts, u.id ≠ superAdminId → ∀ v ∈ s.database.accounts,
      s.Oversees u v ↔
        Relation.TransGen s.database.hierarchy.Child u.organizationId v.organizationId) ∧
    (s.Held →
      (∀ u ∈ s.database.accounts, u.id ≠ superAdminId → ∀ v ∈ s.database.accounts,
        s.Oversees u v → s.Lists u.id {} v ∧ ∀ page filter listing,
          (s.listAccounts u.id page filter).outcome = .ok listing →
            ∀ entry ∈ listing.rows, entry.account = v → entry.authorized = true) ∧
      ∀ u ∈ s.database.accounts, ∀ v ∈ s.database.accounts, ∀ size, 1 ≤ size → size ≤ 100 →
        ∀ l, l.accountId = v.id →
          (s.Gives u size l ↔ l ∈ s.database.operationLogs ∧ (v = u ∨ s.Oversees u v))) := by
  have regular := State.Reachable.regular reachable
  have asymmetric : ∀ u ∈ s.database.accounts, ∀ v ∈ s.database.accounts,
      s.Oversees u v → ¬s.Oversees v u := by
    intro u asking v present down up
    rw [regular.oversees_iff asking present] at down
    rw [regular.oversees_iff present asking] at up
    exact regular.not_below_home asking (down.trans up)
  refine ⟨fun u asking => regular.exists_overseen asking, ?_, asymmetric, ?_, ?_,
    fun held => ⟨?_, ?_⟩⟩
  · intro u asking v between w present first second
    rw [regular.oversees_iff asking between] at first
    rw [regular.oversees_iff between present] at second
    rw [regular.oversees_iff asking present]
    exact first.trans second
  · intro u asking admin v present different
    have oversees : s.Oversees u v := ⟨different.symm, .inl (State.overseen_of_superAdmin admin)⟩
    exact ⟨oversees, asymmetric u asking v present oversees⟩
  · intro u asking _ v present
    exact regular.oversees_iff asking present
  · intro u asking ordinary v present oversees
    rw [regular.oversees_iff asking present] at oversees
    exact regular.lists_of_below held asking ordinary present oversees
  · intro u asking v present size positive bounded l own
    have readable := State.Reachable.readable reachable
    rw [regular.gives_iff held asking readable positive bounded, own,
      regular.sees_iff asking present, regular.oversees_iff asking present]

/-- The headquarters get an office with an account in it, and two requests are recorded: one of this
account and one of the manager of the headquarters. -/
def officeSetup : List Operation := [
    .perform 1 (.createOrganization { name := "office", parentId := 1 }),
    .perform 1 (.createAccount
      { name := "bob", password := "bob12345", email := none, organizationId := 3, roleId := 1 }),
    .record
      { accountId := 3, accountName := "bob", ipAddress := none, userAgent := none
        method := "POST", path := "/api/roles", status := 403 },
    .record
      { accountId := 2, accountName := "alice", ipAddress := none, userAgent := none
        method := "POST", path := "/api/roles", status := 201 }]

/-- The manager of the headquarters is given the entry of the account in the office, and this
account is not given the manager's. -/
theorem manager_oversees_office :
    (company.run officeSetup).Reachable ∧ (company.run officeSetup).Held ∧
    ∃ alice ∈ (company.run officeSetup).database.accounts,
      ∃ bob ∈ (company.run officeSetup).database.accounts,
      ∃ noted ∈ (company.run officeSetup).database.operationLogs,
      ∃ other ∈ (company.run officeSetup).database.operationLogs,
        alice.id = 2 ∧ bob.id = 3 ∧ noted.accountId = bob.id ∧ other.accountId = alice.id ∧
        (company.run officeSetup).Oversees alice bob ∧
        ¬(company.run officeSetup).Oversees bob alice ∧
        (company.run officeSetup).Lists alice.id {} bob ∧
        ∀ size, 1 ≤ size → size ≤ 100 →
          (company.run officeSetup).Gives alice size noted ∧
          ¬(company.run officeSetup).Gives bob size other := by
  have reachable : (company.run officeSetup).Reachable :=
    (State.Reaches.run fun _ _ _ => trivial).reachable reachable_company
  have held : (company.run officeSetup).Held := ⟨by decide +kernel, by decide +kernel⟩
  have members : ∃ alice ∈ (company.run officeSetup).database.accounts,
      ∃ bob ∈ (company.run officeSetup).database.accounts,
        alice.id = 2 ∧ bob.id = 3 ∧ alice.organizationId = 1 ∧ bob.organizationId = 3 := by
    decide +kernel
  have entries : (∃ l ∈ (company.run officeSetup).database.operationLogs, l.accountId = 3) ∧
      ∃ l ∈ (company.run officeSetup).database.operationLogs, l.accountId = 2 := by
    decide +kernel
  have under : (company.run officeSetup).database.hierarchy.Child 1 3 := by
    show ∃ row ∈ (company.run officeSetup).database.hierarchy, row.id = some 3 ∧ row.parent = 1
    decide +kernel
  obtain ⟨alice, asking, bob, present, second, third, headquarters, office⟩ := members
  obtain ⟨⟨noted, written, bobs⟩, other, otherWritten, alices⟩ := entries
  rw [← third] at bobs
  rw [← second] at alices
  obtain ⟨-, -, asymmetric, -, below, pages⟩ := oversight_is_strict_order reachable
  obtain ⟨listed, given⟩ := pages held
  have ordinary : alice.id ≠ superAdminId := by
    rw [second]
    decide
  have oversees : (company.run officeSetup).Oversees alice bob := by
    rw [below alice asking ordinary bob present, headquarters, office]
    exact .single under
  have notOver := asymmetric alice asking bob present oversees
  have shown := (listed alice asking ordinary bob present oversees).1
  refine ⟨reachable, held, alice, asking, bob, present, noted, written, other, otherWritten, second,
    third, bobs, alices, oversees, notOver, shown, ?_⟩
  intro size positive bounded
  rw [given alice asking bob present size positive bounded noted bobs,
    given bob present alice asking size positive bounded other alices]
  refine ⟨⟨written, .inr oversees⟩, ?_⟩
  rintro ⟨-, rfl | up⟩
  · rw [second] at third
    cases third
  · exact notOver up

end Tenancy
