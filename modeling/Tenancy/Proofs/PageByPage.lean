import Tenancy.Proofs.Oversight
import Tenancy.Proofs.TableOrder

/-!
# Listings page by page

Whoever asks for one page after the other gets every row of a listing once, the latest first
(`pages_lose_and_repeat_nothing`). A listing counts its rows and cuts out a page of them in two
queries, under the same conditions.

* `lt_pageCount_iff`: a page is needed if there are rows that the pages before it do not show.
* `Slices.gather_eq`: the pages up to some number show the beginning of the listing.
* `Slices.pageByPage`: with the last page that is needed, this is the whole listing.
* `slices_askAccounts`, `slices_listRoles`, `slices_listOperationLogs`: all three listings come in
  such pages.
-/

namespace Tenancy

/-! ## One page after the other -/

/-- The number of pages that some rows fill. -/
def pageCount (total size : Nat) : Nat :=
  (total + size - 1) / size

theorem lt_pageCount_iff {n total size : Nat} (positive : 1 ≤ size) :
    n < pageCount total size ↔ n * size < total := by
  rw [pageCount, ← Nat.succ_le_iff, Nat.le_div_iff_mul_le positive, Nat.succ_mul]
  omega

section Pages

variable {α : Type} {ask : Nat → Except Fault (Listing α)} {size n : Nat} {rows shown : List α}

/-- Asks for the first pages, and puts together what they show. -/
def gather (ask : Nat → Except Fault (Listing α)) : Nat → Except Fault (List α)
  | 0 => .ok []
  | n + 1 => do
    let front ← gather ask n
    let listing ← ask (n + 1)
    return front ++ listing.rows

/-- Page by page, a listing gives the rows that are wanted, each of them once and the latest first.
Every page that is answered tells their number. All pages that are needed are full but for the last
one, and those after it are empty. -/
structure PageByPage (idOf : α → Int) (wanted : α → Prop) (ask : Nat → Except Fault (Listing α))
    (size : Nat) (rows : List α) : Prop where
  wanted : ∀ row, row ∈ rows ↔ wanted row
  descending : rows.Pairwise fun a b => idOf b < idOf a
  total : ∀ n listing, 1 ≤ n → ask n = .ok listing → listing.total = rows.length
  complete : ∀ shown, gather ask (pageCount rows.length size) = .ok shown → shown = rows
  full : ∀ n listing, 1 ≤ n → n < pageCount rows.length size → ask n = .ok listing →
    listing.rows.length = size
  after : ∀ n listing, pageCount rows.length size < n → ask n = .ok listing → listing.rows = []

/-- All pages that are needed are answered, and so is the one that follows them if the database can
count the rows before it. -/
structure Answered (ask : Nat → Except Fault (Listing α)) (size : Nat) (rows : List α) : Prop where
  needed : ∃ shown, gather ask (pageCount rows.length size) = .ok shown
  next : fits64 (pageCount rows.length size * size : Nat) = true →
    ∃ listing, ask (pageCount rows.length size + 1) = .ok listing

/-- Every page that is answered shows the rows that follow those of the pages before it. -/
def Slices (ask : Nat → Except Fault (Listing α)) (size : Nat) (rows : List α) : Prop :=
  ∀ n listing, ask (n + 1) = .ok listing →
    listing = ⟨rows.length, (rows.drop (n * size)).take size⟩

/-- The first pages show the beginning of the listing. -/
theorem Slices.gather_eq (slices : Slices ask size rows) (done : gather ask n = .ok shown) :
    shown = rows.take (n * size) := by
  induction n generalizing shown with
  | zero =>
    cases done
    rw [Nat.zero_mul, List.take_zero]
  | succ n ih =>
    simp only [gather, bind_eq_ok, pure_eq_ok] at done
    obtain ⟨front, before, listing, page, rfl⟩ := done
    rw [ih before, slices n listing page, Nat.succ_mul, List.take_add]

theorem exists_gather (answers : ∀ i < n, ∃ listing, ask (i + 1) = .ok listing) :
    ∃ shown, gather ask n = .ok shown := by
  induction n with
  | zero => exact ⟨[], rfl⟩
  | succ n ih =>
    obtain ⟨front, before⟩ := ih fun i earlier => answers i (Nat.lt_succ_of_lt earlier)
    obtain ⟨listing, page⟩ := answers n (Nat.lt_succ_self n)
    refine ⟨front ++ listing.rows, ?_⟩
    rw [gather, before, ok_bind, page, ok_bind]
    rfl

/-- Pages that show what follows the pages before them lose nothing and repeat nothing. -/
theorem Slices.pageByPage (slices : Slices ask size rows) (positive : 1 ≤ size) {idOf : α → Int}
    {wanted : α → Prop} (selected : ∀ row, row ∈ rows ↔ wanted row)
    (descending : rows.Pairwise fun a b => idOf b < idOf a) :
    PageByPage idOf wanted ask size rows := by
  have enough : rows.length ≤ pageCount rows.length size * size := by
    rw [← Nat.not_lt, ← lt_pageCount_iff positive]
    exact Nat.lt_irrefl _
  refine ⟨selected, descending, fun n listing first page => ?_, fun shown done => ?_,
    fun n listing first needed page => ?_, fun n listing later page => ?_⟩
  · obtain ⟨n, rfl⟩ := Nat.exists_eq_add_of_le' first
    rw [slices n listing page]
  · rw [slices.gather_eq done, List.take_of_length_le enough]
  · obtain ⟨n, rfl⟩ := Nat.exists_eq_add_of_le' first
    -- there are rows beyond this page, so that it takes as many as it can
    have beyond := (lt_pageCount_iff positive).mp needed
    rw [Nat.succ_mul] at beyond
    rw [slices n listing page, List.length_take, List.length_drop]
    omega
  · obtain ⟨n, rfl⟩ := Nat.exists_eq_add_of_le' (Nat.succ_le_of_lt (Nat.zero_lt_of_lt later))
    have past : rows.length ≤ n * size := by
      rw [← Nat.not_lt, ← lt_pageCount_iff positive]
      omega
    rw [slices n listing page, List.drop_of_length_le past]
    exact List.take_nil

/-- If the pages are answered as far as the database can count, those that are needed are. -/
theorem answered_of_fits (positive : 1 ≤ size)
    (answers : ∀ n : Nat, fits64 (n * size : Nat) = true → ∃ listing, ask (n + 1) = .ok listing)
    (short : (rows.length : Int) ≤ 0x8000000000000000) : Answered ask size rows := by
  refine ⟨exists_gather fun i needed => answers i ?_, answers _⟩
  have before := (lt_pageCount_iff positive).mp needed
  simp only [fits64, Bool.and_eq_true, decide_eq_true_iff]
  omega

end Pages

namespace State

variable {s : State} {caller : Int} {size : Nat} {current : Account} {visible authorized : List Int}
  {filter : AccountFilter} {seen : Option (List Int)}

/-! ## Accounts and roles -/

/-- Asks for a page of accounts by its number. -/
def askAccounts (s : State) (caller : Int) (filter : AccountFilter) (size n : Nat) :
    Except Fault (Listing Account) :=
  (s.listAccounts caller ⟨n, size⟩ filter).outcome.map fun listing =>
    ⟨listing.total, listing.rows.map (·.account)⟩

theorem askAccounts_eq_ok (asking : (s.account caller).outcome = .ok current)
    (scope : (s.database.hierarchy.listingScope current.caller).outcome = .ok (visible, authorized))
    {n : Nat} {listing : Listing Account} :
    s.askAccounts caller filter size n = .ok listing ↔
      (∀ n ∈ filter.integers, fits64 n = true) ∧
        Page.of ⟨n, size⟩ (s.matching visible filter).reverse = .ok listing := by
  rw [askAccounts, map_eq_ok]
  simp only [listAccounts_eq_ok asking scope]
  have same : ∀ shown : Listing Account,
      (shown.rows.map fun a => AccountEntry.mk a
        (a.organizationId ∈ authorized || a.id = current.id)).map (·.account) = shown.rows := by
    intro shown
    rw [List.map_map]
    exact List.map_id' shown.rows
  constructor
  · rintro ⟨_, ⟨widths, shown, found, rfl⟩, rfl⟩
    refine ⟨widths, ?_⟩
    rw [same]
    exact found
  · rintro ⟨widths, found⟩
    refine ⟨_, ⟨widths, listing, found, rfl⟩, ?_⟩
    rw [same]

theorem slices_askAccounts (asking : (s.account caller).outcome = .ok current)
    (scope : (s.database.hierarchy.listingScope current.caller).outcome =
      .ok (visible, authorized)) :
    Slices (s.askAccounts caller filter size) size (s.matching visible filter).reverse := by
  intro n listing shown
  obtain ⟨-, page⟩ := (askAccounts_eq_ok asking scope).mp shown
  exact (Page.of_succ_eq_ok.mp page).2

theorem slices_listRoles (s : State) (name : Option String) :
    Slices (fun n => (s.listRoles ⟨n, size⟩ name).outcome) size
      (s.matchingRoles name).reverse := by
  intro n listing page
  exact (Page.of_succ_eq_ok.mp page).2

/-! ## The audit trail -/

theorem eq_of_reading {l read : OperationLog} (done : l.reading = .ok read) : read = l := by
  unfold OperationLog.reading at done
  split at done
  · cases done
  · split at done
    · cases done
    · exact (Except.ok.inj done).symm

/-- Reading entries back, if it succeeds, changes none of them. -/
theorem eq_of_mapM_reading {entries shown : List OperationLog}
    (done : entries.mapM OperationLog.reading = .ok shown) : shown = entries := by
  induction entries generalizing shown with
  | nil =>
    cases done
    rfl
  | cons l rest ih =>
    simp only [List.mapM_cons, bind_eq_ok, pure_eq_ok] at done
    obtain ⟨first, read, others, later, rfl⟩ := done
    rw [eq_of_reading read, ih later]

/-- A page of entries that is shown is one of those that the list of the account lets through, even
where other pages cannot be read. -/
theorem page_of_listOperationLogs (asking : (s.account caller).outcome = .ok current)
    (found : (s.overseen current).outcome = .ok seen) {page : Page} {listing : Listing OperationLog}
    (done : (s.listOperationLogs caller page).outcome = .ok listing) :
    page.of (s.entriesFor seen).reverse = .ok listing := by
  simp only [listOperationLogs, Journal.outcome_bind, asking, found, ok_bind,
    Journal.outcome_query, Journal.outcome_ofExcept, Journal.outcome_pure, bind_eq_ok,
    Except.ok.injEq] at done
  obtain ⟨cut, whole, shown, read, rfl⟩ := done
  rw [eq_of_mapM_reading read]
  exact whole

theorem slices_listOperationLogs (asking : (s.account caller).outcome = .ok current)
    (found : (s.overseen current).outcome = .ok seen) :
    Slices (fun n => (s.listOperationLogs caller ⟨n, size⟩).outcome) size
      (s.entriesFor seen).reverse := by
  intro n listing shown
  exact (Page.of_succ_eq_ok.mp (page_of_listOperationLogs asking found shown)).2

/-- Whoever is shown entries has an account and a list of accounts to go by. -/
theorem exists_overseen_of_listOperationLogs {page : Page} {listing : Listing OperationLog}
    (done : (s.listOperationLogs caller page).outcome = .ok listing) :
    ∃ current seen, (s.account caller).outcome = .ok current ∧
      (s.overseen current).outcome = .ok seen := by
  unfold listOperationLogs at done
  obtain ⟨current, asking, done⟩ := Journal.outcome_bind_eq_ok.mp done
  obtain ⟨seen, found, -⟩ := Journal.outcome_bind_eq_ok.mp done
  exact ⟨current, seen, asking, found⟩

end State

/-- Where a page of a listing is shown, all of its pages are, and they lose nothing and repeat
nothing: put together, they are the accounts in the scope of the account that asks which pass the
filter, the roles which pass the filter, or the entries of the accounts that the account sees. A
page of entries is shown only if all of its entries can be read. The tables have to be in order, as
they are whatever comes into them (`Stocked.ordered`). -/
theorem pages_lose_and_repeat_nothing {s : State} (ordered : s.database.Ordered) {size : Nat}
    (positive : 1 ≤ size) :
    (∀ caller filter number listing,
      (s.listAccounts caller ⟨number, size⟩ filter).outcome = .ok listing →
      ∃ current visible authorized rows, (s.account caller).outcome = .ok current ∧
        (s.database.hierarchy.listingScope current.caller).outcome = .ok (visible, authorized) ∧
        PageByPage (·.id) (fun a => a ∈ s.database.accounts ∧
            (visible = [] ∨ a.organizationId ∈ visible) ∧ filter.accepts a = true)
          (s.askAccounts caller filter size) size rows ∧
        ((rows.length : Int) ≤ 0x8000000000000000 →
          Answered (s.askAccounts caller filter size) size rows)) ∧
    (∀ name, ∃ rows,
      PageByPage (·.id) (fun r => r ∈ s.database.roles ∧
          (isSearch name = true → found name r.name = true))
        (fun n => (s.listRoles ⟨n, size⟩ name).outcome) size rows ∧
      ((rows.length : Int) ≤ 0x8000000000000000 →
        Answered (fun n => (s.listRoles ⟨n, size⟩ name).outcome) size rows)) ∧
    ∀ caller number listing,
      (s.listOperationLogs caller ⟨number, size⟩).outcome = .ok listing →
      ∃ current rows, (s.account caller).outcome = .ok current ∧
        PageByPage (·.id) (fun l => l ∈ s.database.operationLogs ∧ s.Sees current l.accountId)
          (fun n => (s.listOperationLogs caller ⟨n, size⟩).outcome) size rows ∧
        (s.Readable → (rows.length : Int) ≤ 0x8000000000000000 →
          Answered (fun n => (s.listOperationLogs caller ⟨n, size⟩).outcome) size rows) := by
  refine ⟨fun caller filter number listing done => ?_, fun name => ?_,
    fun caller number listing done => ?_⟩
  · obtain ⟨current, visible, authorized, asking, scope⟩ := State.exists_scope_of_listAccounts done
    have widths := ((State.listAccounts_eq_ok asking scope).mp done).1
    refine ⟨current, visible, authorized, _, asking, scope,
      (State.slices_askAccounts asking scope).pageByPage positive (fun a => ?_)
        (ordered.accounts.descending _), fun short => ?_⟩
    · rw [List.mem_reverse, State.mem_matching]
    · -- what the filter hands over was accepted once, and does not depend on the page
      refine answered_of_fits positive (fun n fits => ?_) short
      obtain ⟨shown, page⟩ := Page.exists_of_fits fits
      exact ⟨shown, (State.askAccounts_eq_ok asking scope).mpr ⟨widths, page⟩⟩
  · refine ⟨_, (s.slices_listRoles name).pageByPage positive (fun r => ?_)
      (ordered.roles.descending _),
      answered_of_fits positive fun n fits => Page.exists_of_fits fits⟩
    rw [List.mem_reverse, State.mem_matchingRoles]
  · obtain ⟨current, seen, asking, found⟩ := State.exists_overseen_of_listOperationLogs done
    refine ⟨current, _, asking,
      (State.slices_listOperationLogs asking found).pageByPage positive (fun l => ?_)
        (ordered.operationLogs.descending _), fun readable short => ?_⟩
    · rw [List.mem_reverse, State.entriesFor, List.mem_filter, State.sees_iff_of_found found]
    · refine answered_of_fits positive (fun n fits => ?_) short
      obtain ⟨shown, page⟩ := Page.exists_of_fits fits
      exact ⟨shown, (State.listOperationLogs_outcome readable asking found).trans page⟩

/-- With an office in it, the company has three accounts. They fill two pages of two, and the third
page is empty. The manager is given the two entries of the audit trail on pages of one. -/
theorem office_page_by_page :
    (company.run officeSetup).database.Ordered ∧ (company.run officeSetup).Readable ∧
    (∃ rows, gather ((company.run officeSetup).askAccounts 1 {} 2) 2 = .ok rows ∧
      rows.map (·.name) = ["bob", "alice", "admin"] ∧
      (rows.Pairwise fun a b => b.id < a.id) ∧
      ∃ listing, (company.run officeSetup).askAccounts 1 {} 2 3 = .ok listing ∧
        listing.total = 3 ∧ listing.rows = []) ∧
    ∃ rows, gather (fun n =>
        ((company.run officeSetup).listOperationLogs 2 ⟨n, 1⟩).outcome) 2 = .ok rows ∧
      rows.map (·.accountId) = [2, 3] := by
  have reachable : (company.run officeSetup).Reachable :=
    (State.Reaches.run fun _ _ _ => trivial).reachable reachable_company
  have ordered := (State.Reachable.stocked reachable).ordered
  have readable := State.Reachable.readable reachable
  refine ⟨ordered, readable, ?_, ?_⟩
  · obtain ⟨listing, done⟩ := exists_of_isOk
      (x := ((company.run officeSetup).listAccounts 1 ⟨1, 2⟩ {}).outcome) (by decide +kernel)
    obtain ⟨ofAccounts, -, -⟩ := @pages_lose_and_repeat_nothing _ ordered 2 (by decide)
    obtain ⟨_, _, _, rows, -, -, pages, answered⟩ := ofAccounts 1 {} 1 listing done
    have first : ((company.run officeSetup).askAccounts 1 {} 2 1).map (·.total) = .ok 3 := by
      decide +kernel
    obtain ⟨front, page, three⟩ := map_eq_ok.mp first
    have count : rows.length = 3 := (pages.total 1 front (by decide) page).symm.trans three
    have two : pageCount rows.length 2 = 2 := by
      rw [count]
      rfl
    obtain ⟨⟨shown, gathered⟩, next⟩ := answered (by rw [count]; decide)
    obtain rfl := pages.complete shown gathered
    rw [two] at gathered next
    have names : (gather ((company.run officeSetup).askAccounts 1 {} 2) 2).map
        (·.map (·.name)) = .ok ["bob", "alice", "admin"] := by
      decide +kernel
    rw [gathered] at names
    obtain ⟨third, empty⟩ := next (by decide)
    have past : pageCount shown.length 2 < 3 := by
      rw [two]
      decide
    exact ⟨shown, gathered, Except.ok.inj names, pages.descending, third, empty,
      (pages.total 3 third (by decide) empty).trans count, pages.after 3 third past empty⟩
  · obtain ⟨listing, done⟩ := exists_of_isOk
      (x := ((company.run officeSetup).listOperationLogs 2 ⟨1, 1⟩).outcome) (by decide +kernel)
    obtain ⟨-, -, ofEntries⟩ := @pages_lose_and_repeat_nothing _ ordered 1 (by decide)
    obtain ⟨_, rows, -, pages, answered⟩ := ofEntries 2 1 listing done
    have first : ((company.run officeSetup).listOperationLogs 2 ⟨1, 1⟩).outcome.map (·.total) =
        .ok 2 := by
      decide +kernel
    obtain ⟨front, page, two⟩ := map_eq_ok.mp first
    have count : rows.length = 2 := (pages.total 1 front (by decide) page).symm.trans two
    obtain ⟨⟨shown, gathered⟩, -⟩ := answered readable (by rw [count]; decide)
    obtain rfl := pages.complete shown gathered
    have both : gather (fun n =>
        ((company.run officeSetup).listOperationLogs 2 ⟨n, 1⟩).outcome) 2 = .ok shown := by
      rw [count] at gathered
      exact gathered
    have accounts : (gather (fun n =>
        ((company.run officeSetup).listOperationLogs 2 ⟨n, 1⟩).outcome) 2).map
          (·.map (·.accountId)) = .ok [2, 3] := by
      decide +kernel
    rw [both] at accounts
    exact ⟨shown, both, Except.ok.inj accounts⟩

end Tenancy
