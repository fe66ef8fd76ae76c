import Tenancy.Proofs.Insertion
import Tenancy.State.Role

/-!
# Pages

A page shows the rows that follow those of the pages before it.

* `Page.wellFormed_iff`: the pages that can be asked for are those that are read.
* `Page.exists_of_mem`: the pages of every size show all rows of a listing, as long as the number of
  rows fits into the database. So they show what is selected from a table and nothing else
  (`Page.exists_of_mem_filter`, `Page.exists_shown_iff`). The rows of a table are no more than their
  ids allow for (`Numbered.length_le`).
* `listAccounts_eq_ok`, `listRoles_outcome`: a listing of accounts or of roles is a page of those
  that match.
-/

namespace Tenancy

namespace Validation

theorem optional_eq_ok {α : Type} {members : Json.Members} {name : String} {absent a : α}
    {reader : Json → Checked α} :
    optional members name absent reader = .ok a ↔
      (∃ value, members.get? name = some value ∧ reader value = .ok a) ∨
        members.get? name = none ∧ absent = a := by
  unfold optional
  cases members.get? name with
  | none => simp
  | some value => simp

theorem readIntIn_eq_ok {least n : Int} {most : Option Int} {j : Json} :
    readIntIn least most j = .ok n ↔
      readInt j = .ok n ∧ least ≤ n ∧ ∀ bound ∈ most, n ≤ bound := by
  unfold readIntIn
  rw [bind_eq_ok]
  constructor
  · rintro ⟨m, read, done⟩
    split at done
    · cases done
    · next above =>
      cases most with
      | none =>
        obtain rfl := pure_eq_ok.mp done
        exact ⟨read, Int.not_lt.mp above, by simp⟩
      | some bound =>
        dsimp only at done
        split at done
        · cases done
        · next below =>
          obtain rfl := pure_eq_ok.mp done
          exact ⟨read, Int.not_lt.mp above, by simpa using below⟩
  · rintro ⟨read, above, below⟩
    refine ⟨n, read, ?_⟩
    rw [if_neg (Int.not_lt.mpr above)]
    cases most with
    | none => rfl
    | some bound => exact if_neg (Int.not_lt.mpr (below bound rfl))

end Validation

namespace Page

variable {α : Type} {p : Page} {rows : List α} {row : α} {listing : Listing α}

/-- The number and the size of a page that can be asked for. -/
structure WellFormed (p : Page) : Prop where
  number : 1 ≤ p.number
  size : 1 ≤ p.size
  bounded : p.size ≤ 100

/-- The pages that can be asked for are the ones that are read. -/
theorem wellFormed_iff : p.WellFormed ↔ ∃ members, Page.read members = .ok p := by
  simp only [Page.read, map_eq_ok, Prod.exists, Checked.both_eq_ok, Validation.optional_eq_ok,
    Validation.whole, mapError_eq_ok, Validation.readIntIn_eq_ok]
  constructor
  · rintro ⟨number, size, bounded⟩
    refine ⟨[("page_no", .int p.number), ("page_size", .int p.size)], p.number, p.size,
      ⟨.inl ⟨_, rfl, rfl, number, by simp⟩, .inl ⟨_, rfl, rfl, size, ?_⟩⟩, rfl⟩
    simpa using bounded
  · rintro ⟨members, n, m, ⟨number, size⟩, rfl⟩
    refine ⟨?_, ?_, ?_⟩
    · rcases number with ⟨_, _, _, above, _⟩ | ⟨_, rfl⟩
      · exact above
      · exact Int.le_refl 1
    · rcases size with ⟨_, _, _, above, _⟩ | ⟨_, rfl⟩
      · exact above
      · show (1 : Int) ≤ 10
        decide
    · rcases size with ⟨_, _, _, _, below⟩ | ⟨_, rfl⟩
      · exact below 100 rfl
      · show (10 : Int) ≤ 100
        decide

theorem of_eq_ok :
    p.of rows = .ok listing ↔ fits64 p.offset = true ∧
      listing = ⟨rows.length, (rows.drop p.offset.toNat).take p.size.toNat⟩ := by
  rw [Page.of, bind_eq_ok]
  simp only [Database.checkWidth_eq_ok, List.mem_singleton, forall_eq, pure_eq_ok, exists_const]
  rw [@eq_comm _ listing]

theorem mem_of_shown (shown : p.of rows = .ok listing) (listed : row ∈ listing.rows) :
    row ∈ rows := by
  obtain ⟨-, rfl⟩ := of_eq_ok.mp shown
  exact List.mem_of_mem_drop (List.mem_of_mem_take listed)

/-- The page of a number is the piece of a listing that follows the pages before it. -/
theorem of_succ_eq_ok {n size : Nat} :
    Page.of ⟨(n + 1 : Nat), size⟩ rows = .ok listing ↔ fits64 (n * size : Nat) = true ∧
      listing = ⟨rows.length, (rows.drop (n * size)).take size⟩ := by
  have offset : offset ⟨(n + 1 : Nat), size⟩ = (n * size : Nat) := by
    rw [Page.offset]
    push_cast
    rw [Int.add_sub_cancel]
  rw [of_eq_ok, offset, Int.toNat_natCast]
  rfl

/-- Every page is answered that the database can count up to. -/
theorem exists_of_fits {n size : Nat} (fits : fits64 (n * size : Nat) = true) :
    ∃ listing, Page.of ⟨(n + 1 : Nat), size⟩ rows = .ok listing :=
  ⟨_, of_succ_eq_ok.mpr ⟨fits, rfl⟩⟩

/-- Every row is on a page of every size. -/
theorem exists_of_mem (size : Int) (positive : 1 ≤ size) (bounded : size ≤ 100)
    (present : row ∈ rows) (short : (rows.length : Int) ≤ 0x8000000000000000) :
    ∃ p listing, WellFormed p ∧ p.size = size ∧ p.of rows = .ok listing ∧ row ∈ listing.rows := by
  obtain ⟨i, within, here⟩ := List.getElem_of_mem present
  obtain ⟨k, rfl⟩ : ∃ k : Nat, size = k := ⟨size.toNat, by omega⟩
  -- row `i` is row `i % k` of the page that `i / k` pages come before
  have split : i / k * k + i % k = i := Nat.div_add_mod' i k
  have inside : i % k < k := Nat.mod_lt i (by omega)
  have fits : fits64 (i / k * k : Nat) = true := by
    simp only [fits64, Bool.and_eq_true, decide_eq_true_iff]
    omega
  have first : (1 : Int) ≤ (i / k + 1 : Nat) := Int.ofNat_le.mpr (Nat.le_add_left 1 (i / k))
  refine ⟨⟨(i / k + 1 : Nat), k⟩, _, ⟨first, positive, bounded⟩, rfl,
    of_succ_eq_ok.mpr ⟨fits, rfl⟩, ?_⟩
  rw [List.mem_take_iff_getElem]
  refine ⟨i % k, ?_, ?_⟩
  · rw [List.length_drop]
    omega
  · rw [List.getElem_drop, ← here]
    exact getElem_congr_idx split

/-- Every row that is selected from a table is on a page of every size, the latest rows first. -/
theorem exists_of_mem_filter (short : (rows.length : Int) ≤ 0x8000000000000000)
    {selected : α → Bool} (size : Int) (positive : 1 ≤ size) (bounded : size ≤ 100)
    (present : row ∈ rows.filter selected) :
    ∃ p listing, WellFormed p ∧ p.size = size ∧
      p.of (rows.filter selected).reverse = .ok listing ∧ row ∈ listing.rows := by
  refine exists_of_mem size positive bounded (List.mem_reverse.mpr present) ?_
  have fewer : (rows.filter selected).length ≤ rows.length := List.length_filter_le _ _
  rw [List.length_reverse]
  omega

/-- The pages show the rows that are selected and no others. -/
theorem exists_shown_iff (short : (rows.length : Int) ≤ 0x8000000000000000)
    {selected : α → Bool} :
    (∃ p listing, WellFormed p ∧ p.of (rows.filter selected).reverse = .ok listing ∧
      row ∈ listing.rows) ↔ row ∈ rows.filter selected := by
  constructor
  · rintro ⟨p, listing, -, shown, listed⟩
    exact List.mem_reverse.mp (mem_of_shown shown listed)
  · intro present
    obtain ⟨p, listing, wellFormed, -, shown, listed⟩ :=
      exists_of_mem_filter short 10 (by decide) (by decide) present
    exact ⟨p, listing, wellFormed, shown, listed⟩

end Page

/-- Integers that ascend from `low` to below `high` are no more than fit between these. -/
theorem length_le_of_ascending {ids : List Int} (low high : Int)
    (ascending : ids.Pairwise (· < ·)) (above : ∀ id ∈ ids, low ≤ id)
    (below : ∀ id ∈ ids, id < high) (ordered : low ≤ high) : ids.length ≤ high - low := by
  induction ids generalizing low with
  | nil =>
    show ((0 : Nat) : Int) ≤ _
    omega
  | cons id rest ih =>
    obtain ⟨first, later⟩ := List.pairwise_cons.mp ascending
    have least := above id List.mem_cons_self
    have most := below id List.mem_cons_self
    have bound := ih (id + 1) later (fun other listed => first other listed)
      (fun other listed => below other (List.mem_cons_of_mem _ listed)) most
    rw [List.length_cons]
    omega

/-- The ids that the database can hold bound the number of the rows of a table. -/
theorem Numbered.length_le {α : Type} {idOf : α → Int} {rows : List α}
    (numbered : Numbered (rows.map idOf))
    (stored : ∀ row ∈ rows, fits64 (idOf row) = true) :
    (rows.length : Int) ≤ 0x8000000000000000 := by
  have below : ∀ id ∈ rows.map idOf, id < 0x8000000000000000 := by
    intro id listed
    obtain ⟨row, present, rfl⟩ := List.mem_map.mp listed
    have fits := stored row present
    simp only [fits64, Bool.and_eq_true, decide_eq_true_iff] at fits
    exact fits.2
  -- ids ascend from 1 on, so that there are fewer of them than the database has integers
  have ids := length_le_of_ascending 1 _ numbered.ascending numbered.positive below (by decide)
  rw [List.length_map] at ids
  omega

/-! ## Listings of accounts -/

namespace State

variable {s : State} {caller : Int} {current target : Account} {visible authorized : List Int}
  {page : Page} {filter : AccountFilter}

/-- The accounts that a listing is about. -/
def matching (s : State) (visible : List Int) (filter : AccountFilter) : List Account :=
  s.database.accounts.filter fun a =>
    (visible = [] || a.organizationId ∈ visible) && filter.accepts a

theorem mem_matching : target ∈ s.matching visible filter ↔
    target ∈ s.database.accounts ∧ (visible = [] ∨ target.organizationId ∈ visible) ∧
      filter.accepts target = true := by
  simp [matching]

/-- Whoever is shown a listing has an account and a scope. -/
theorem exists_scope_of_listAccounts {page : Page} {listing : Listing AccountEntry}
    (done : (s.listAccounts caller page filter).outcome = .ok listing) :
    ∃ current visible authorized, (s.account caller).outcome = .ok current ∧
      (s.database.hierarchy.listingScope current.caller).outcome = .ok (visible, authorized) := by
  unfold listAccounts at done
  obtain ⟨current, asking, done⟩ := Journal.outcome_bind_eq_ok.mp done
  obtain ⟨_, read, done⟩ := Journal.outcome_bind_eq_ok.mp done
  cases read
  obtain ⟨⟨visible, authorized⟩, scope, -⟩ := Journal.outcome_bind_eq_ok.mp done
  exact ⟨current, visible, authorized, asking, scope⟩

section Scope

variable (asking : (s.account caller).outcome = .ok current)
  (scope : (s.database.hierarchy.listingScope current.caller).outcome = .ok (visible, authorized))
include asking scope

/-- A listing of accounts is one page of those that it is about. -/
theorem listAccounts_outcome :
    (s.listAccounts caller page filter).outcome = (do
      Database.checkWidth filter.integers
      let shown ← page.of (s.matching visible filter).reverse
      return ⟨shown.total, shown.rows.map fun a =>
        ⟨a, a.organizationId ∈ authorized || a.id = current.id⟩⟩) := by
  simp only [listAccounts, hierarchy, Journal.outcome_bind, Journal.outcome_read,
    Journal.outcome_query, Journal.outcome_pure, asking, scope, ok_bind]
  rfl

theorem listAccounts_eq_ok {listing : Listing AccountEntry} :
    (s.listAccounts caller page filter).outcome = .ok listing ↔
      (∀ n ∈ filter.integers, fits64 n = true) ∧
      ∃ shown, page.of (s.matching visible filter).reverse = .ok shown ∧
        listing = ⟨shown.total, shown.rows.map fun a =>
          ⟨a, a.organizationId ∈ authorized || a.id = current.id⟩⟩ := by
  rw [listAccounts_outcome asking scope]
  simp only [bind_eq_ok, pure_eq_ok, Database.checkWidth_eq_ok, exists_const, @eq_comm _ listing]

end Scope

/-! ## Listings of roles -/

/-- The roles that a listing is about. -/
def matchingRoles (s : State) (name : Option String) : List Role :=
  s.database.roles.filter fun r => !isSearch name || found name r.name

theorem mem_matchingRoles {name : Option String} {role : Role} : role ∈ s.matchingRoles name ↔
    role ∈ s.database.roles ∧ (isSearch name = true → found name role.name = true) := by
  rw [matchingRoles, List.mem_filter]
  cases isSearch name
  · simp
  · simp

/-- A listing of roles is one page of those that it is about. -/
theorem listRoles_outcome {name : Option String} :
    (s.listRoles page name).outcome = page.of (s.matchingRoles name).reverse :=
  rfl

end State

end Tenancy
