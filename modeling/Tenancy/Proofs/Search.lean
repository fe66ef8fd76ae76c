import Mathlib.Data.List.Forall2
import Mathlib.Data.List.TakeWhile
import Tenancy.Proofs.Visibility

/-!
# What a filter by name finds

A filter hands its text to the pattern language of the database as it is. What it finds are the
names that hold a piece of the form of the text (`name_filters_find_patterns`), and these are the
names that hold the text itself only if no character of the text stands for others
(`signs_find_more`).

* `like_iff`, `containsLike_iff`: a pattern fits a text that can be cut into pieces, one for each
  character of the pattern.
* `fits_iff_eq`, `finds_iff_infix`: a text that is plain fits nothing but itself, up to the case of
  Latin letters.
* `isUpper_of_mem_searchText`: the text of a filter has no capital Latin letters.
-/

namespace Tenancy

/-! ## Patterns -/

/-- A character of a pattern stands for a piece of a text: a percent sign for any, an underscore for
any one character, and other characters for themselves, up to the case of Latin letters. -/
def StandsFor (p : Char) (piece : List Char) : Prop :=
  p = '%' ∨ ∃ c, piece = [c] ∧ (p = '_' ∨ sameLetter p c = true)

/-- The text consists of pieces that the characters of the pattern stand for. -/
def Fits (pattern text : List Char) : Prop :=
  ∃ pieces, List.Forall₂ StandsFor pattern pieces ∧ pieces.flatten = text

/-- Some piece of the text fits the pattern. The character with code zero ends a text, and a pattern
that it ends has to fit the end of the text. -/
def Finds (pattern text : List Char) : Prop :=
  ∃ piece, Fits (uptoZero pattern) piece ∧ piece <:+: uptoZero text ∧
    (Char.ofNat 0 ∈ pattern → piece <:+ uptoZero text)

section Fits

variable {p : Char} {pattern other text : List Char}

theorem fits_nil : Fits [] text ↔ text = [] := by
  constructor
  · rintro ⟨pieces, stand, rfl⟩
    cases stand
    rfl
  · rintro rfl
    exact ⟨[], .nil, rfl⟩

theorem fits_cons :
    Fits (p :: pattern) text ↔
      ∃ piece rest, StandsFor p piece ∧ Fits pattern rest ∧ piece ++ rest = text := by
  constructor
  · rintro ⟨pieces, stand, rfl⟩
    obtain ⟨piece, later, first, others, rfl⟩ := List.forall₂_cons_left_iff.mp stand
    exact ⟨piece, later.flatten, first, ⟨later, others, rfl⟩, rfl⟩
  · rintro ⟨piece, rest, first, ⟨later, others, rfl⟩, rfl⟩
    exact ⟨piece :: later, .cons first others, rfl⟩

theorem fits_append :
    Fits (pattern ++ other) text ↔
      ∃ front rest, Fits pattern front ∧ Fits other rest ∧ front ++ rest = text := by
  induction pattern generalizing text with
  | nil => simp [fits_nil]
  | cons p pattern ih =>
    simp only [List.cons_append, fits_cons, ih]
    constructor
    · rintro ⟨piece, _, first, ⟨front, rest, fits, later, rfl⟩, rfl⟩
      exact ⟨piece ++ front, rest, ⟨piece, front, first, fits, rfl⟩, later,
        List.append_assoc _ _ _⟩
    · rintro ⟨_, rest, ⟨piece, front, first, fits, rfl⟩, later, rfl⟩
      exact ⟨piece, front ++ rest, first, ⟨front, rest, fits, later, rfl⟩,
        (List.append_assoc _ _ _).symm⟩

/-- A percent sign in front of a pattern passes over any beginning of the text. -/
theorem fits_percent : Fits ('%' :: pattern) text ↔ ∃ rest, Fits pattern rest ∧ rest <:+ text := by
  rw [fits_cons]
  constructor
  · rintro ⟨piece, rest, -, fits, joined⟩
    exact ⟨rest, fits, piece, joined⟩
  · rintro ⟨rest, fits, piece, joined⟩
    exact ⟨piece, rest, .inl rfl, fits, joined⟩

end Fits

/-- The walk over a pattern and a text tries all ways to cut the text. -/
theorem like_iff {pattern text : List Char} : like pattern text = true ↔ Fits pattern text := by
  fun_induction like pattern text with
  | case1 text => rw [fits_nil, List.isEmpty_iff]
  | case2 p pattern ih =>
    rw [Bool.and_eq_true, beq_iff_eq, ih, fits_cons]
    constructor
    · rintro ⟨any, fits⟩
      exact ⟨[], [], .inl any, fits, rfl⟩
    · rintro ⟨piece, rest, any | ⟨c, rfl, -⟩, fits, joined⟩
      · obtain ⟨-, rfl⟩ := List.append_eq_nil_iff.mp joined
        exact ⟨any, fits⟩
      · cases joined
  | case3 pattern c text here later =>
    -- the percent sign stands for nothing, or for the first character and more
    rw [Bool.or_eq_true, here, later, fits_percent, fits_percent]
    constructor
    · rintro (fits | ⟨rest, fits, after⟩)
      · exact ⟨c :: text, fits, List.suffix_rfl⟩
      · exact ⟨rest, fits, after.trans (List.suffix_cons c text)⟩
    · rintro ⟨rest, fits, after⟩
      rcases List.suffix_cons_iff.mp after with rfl | after
      · exact .inl fits
      · exact .inr ⟨rest, fits, after⟩
  | case4 p pattern c text single ih =>
    rw [Bool.and_eq_true, Bool.or_eq_true, beq_iff_eq, ih, fits_cons]
    constructor
    · rintro ⟨stands, fits⟩
      exact ⟨[c], text, .inr ⟨c, rfl, stands⟩, fits, rfl⟩
    · rintro ⟨piece, rest, any | ⟨_, rfl, stands⟩, fits, joined⟩
      · exact absurd any single
      · obtain ⟨rfl, rfl⟩ := List.cons_eq_cons.mp joined
        exact ⟨stands, fits⟩

theorem uptoZero_eq_self {s : List Char} (free : Char.ofNat 0 ∉ s) : uptoZero s = s := by
  unfold uptoZero
  rw [List.takeWhile_eq_self_iff]
  intro c present
  exact decide_eq_true fun zero => free (zero ▸ present)

/-- A pattern that holds the character with code zero keeps nothing of what follows it. -/
theorem uptoZero_append_of_mem {s other : List Char} (present : Char.ofNat 0 ∈ s) :
    uptoZero (s ++ other) = uptoZero s := by
  induction s with
  | nil => cases present
  | cons c s ih =>
    by_cases zero : c = Char.ofNat 0
    · simp [uptoZero, zero]
    · have later := (List.mem_cons.mp present).resolve_left (Ne.symm zero)
      simpa [uptoZero, zero] using ih later

/-- The percent signs that the database adds in front of a text and behind it let the text stand
anywhere. -/
theorem containsLike_iff {pattern text : String} :
    containsLike pattern text = true ↔ Finds pattern.toList text.toList := by
  have front : uptoZero ('%' :: pattern.toList ++ ['%']) =
      '%' :: uptoZero (pattern.toList ++ ['%']) := rfl
  rw [containsLike, like_iff, front, fits_percent]
  by_cases ended : Char.ofNat 0 ∈ pattern.toList
  · rw [uptoZero_append_of_mem ended]
    constructor
    · rintro ⟨piece, fits, last⟩
      exact ⟨piece, fits, last.isInfix, fun _ => last⟩
    · rintro ⟨piece, fits, -, last⟩
      exact ⟨piece, fits, last ended⟩
  · have free : Char.ofNat 0 ∉ pattern.toList ++ ['%'] := by
      rw [List.mem_append, not_or]
      exact ⟨ended, by decide⟩
    have anything : ∀ rest, Fits ['%'] rest := by
      intro rest
      exact fits_percent.mpr ⟨[], fits_nil.mpr rfl, List.nil_suffix⟩
    rw [uptoZero_eq_self free, Finds, uptoZero_eq_self ended]
    constructor
    · rintro ⟨_, whole, last⟩
      obtain ⟨piece, rest, fits, -, rfl⟩ := fits_append.mp whole
      exact ⟨piece, fits, (List.prefix_append piece rest).isInfix.trans last.isInfix,
        fun zero => absurd zero ended⟩
    · rintro ⟨piece, fits, ⟨before, after, joined⟩, -⟩
      refine ⟨piece ++ after, fits_append.mpr ⟨piece, after, fits, anything after, rfl⟩, before, ?_⟩
      rw [← joined, List.append_assoc]

/-! ## Plain texts -/

/-- No character of the text stands for others or ends it. -/
def Plain (text : List Char) : Prop :=
  ∀ c ∈ text, c ≠ '%' ∧ c ≠ '_' ∧ c ≠ Char.ofNat 0

instance (text : List Char) : Decidable (Plain text) :=
  List.decidableBAll _ text

/-- The text is written as the database compares it: without capital Latin letters, and the whole
of it is read. -/
def Lowered (text : List Char) : Prop :=
  ∀ c ∈ text, c.isUpper = false ∧ c ≠ Char.ofNat 0

theorem toLower_of_not_isUpper {c : Char} (small : c.isUpper = false) : c.toLower = c := by
  refine dif_neg fun capital => ?_
  have upper : c.isUpper = true := decide_eq_true capital
  rw [small] at upper
  cases upper

theorem sameLetter_iff {p c : Char} (small : p.isUpper = false) :
    sameLetter p c = true ↔ c.toLower = p := by
  have own : p.toLower = p := toLower_of_not_isUpper small
  rw [sameLetter, Bool.or_eq_true, beq_iff_eq, beq_iff_eq, own]
  constructor
  · rintro (rfl | same)
    · exact own
    · exact same.symm
  · exact fun same => .inr same.symm

/-- What fits a plain text is this text, up to the case of Latin letters. -/
theorem fits_iff_eq {pattern text : List Char} (plain : Plain pattern)
    (small : ∀ c ∈ pattern, c.isUpper = false) :
    Fits pattern text ↔ text.map Char.toLower = pattern := by
  induction pattern generalizing text with
  | nil => rw [fits_nil, List.map_eq_nil_iff]
  | cons p pattern ih =>
    obtain ⟨⟨notAny, notOne, -⟩, plain⟩ := List.forall_mem_cons.mp plain
    obtain ⟨letter, small⟩ := List.forall_mem_cons.mp small
    rw [fits_cons, List.map_eq_cons_iff]
    constructor
    · rintro ⟨piece, rest, any | ⟨c, rfl, one | same⟩, fits, rfl⟩
      · exact absurd any notAny
      · exact absurd one notOne
      · exact ⟨c, rest, rfl, (sameLetter_iff letter).mp same, (ih plain small).mp fits⟩
    · rintro ⟨c, rest, rfl, same, fits⟩
      exact ⟨[c], rest, .inr ⟨c, rfl, .inr ((sameLetter_iff letter).mpr same)⟩,
        (ih plain small).mpr fits, rfl⟩

/-- A plain text is found where it occurs once the Latin letters are in lower case. -/
theorem finds_iff_infix {pattern text : List Char} (plain : Plain pattern)
    (small : ∀ c ∈ pattern, c.isUpper = false) :
    Finds pattern text ↔ pattern <:+: (uptoZero text).map Char.toLower := by
  have free : Char.ofNat 0 ∉ pattern := fun zero => (plain _ zero).2.2 rfl
  rw [Finds, uptoZero_eq_self free]
  constructor
  · rintro ⟨piece, fits, within, -⟩
    rw [← (fits_iff_eq plain small).mp fits]
    exact within.map Char.toLower
  · rintro ⟨before, after, joined⟩
    obtain ⟨front, last, cut, lowered, rfl⟩ := List.map_eq_append_iff.mp joined.symm
    obtain ⟨first, piece, rfl, rfl, own⟩ := List.map_eq_append_iff.mp lowered
    exact ⟨piece, (fits_iff_eq plain small).mpr own, ⟨first, last, cut.symm⟩,
      fun zero => absurd zero free⟩

theorem Lowered.map_toLower {text : List Char} (lowered : Lowered text) :
    (uptoZero text).map Char.toLower = text := by
  have free : Char.ofNat 0 ∉ text := fun zero => (lowered _ zero).2 rfl
  rw [uptoZero_eq_self free]
  have small : ∀ c ∈ text, c.toLower = c := by
    intro c present
    exact toLower_of_not_isUpper (lowered c present).1
  rw [List.map_congr_left small, List.map_id']

/-! ## The text of a filter -/

namespace Text

theorem isUpper_iff {c : Char} : c.isUpper = true ↔ 65 ≤ c.toNat ∧ c.toNat ≤ 90 := by
  show decide (c.val ≥ 'A'.val ∧ c.val ≤ 'Z'.val) = true ↔ _
  rw [decide_eq_true_iff]
  exact and_congr UInt32.le_iff_toNat_le UInt32.le_iff_toNat_le

theorem of_isUpper_ofNat {code : Nat} (capital : (Char.ofNat code).isUpper = true) :
    65 ≤ code ∧ code ≤ 90 := by
  rw [isUpper_iff] at capital
  by_cases valid : code.isValidChar
  · have own : (Char.ofNat code).toNat = code := by
      rw [Char.ofNat, dif_pos valid]
      rfl
    rwa [own] at capital
  · have zero : (Char.ofNat code).toNat = 0 := by
      rw [Char.ofNat, dif_neg valid]
      rfl
    omega

/-- No letter is moved to a capital Latin letter, and all of these are moved. -/
theorem shifts_avoid_capitals :
    (∀ shift ∈ edition14.shifts, 90 < shift.first + shift.delta ∨ shift.last + shift.delta < 65) ∧
      ∀ code, 65 ≤ code → code ≤ 90 → (shifted? edition14.shifts code).isSome = true := by
  constructor
  · decide +kernel
  · intro code least most
    rw [shifted?, Option.isSome_map, List.find?_isSome]
    refine ⟨⟨65, 90, 1, 32⟩, List.mem_cons_self, ?_⟩
    simp only [CodeShift.covers, Nat.mod_one, BEq.rfl, Bool.and_true, Bool.and_eq_true,
      decide_eq_true_iff]
    exact ⟨least, most⟩

theorem isUpper_of_mem_lowerChar {c d : Char} (present : d ∈ lowerChar edition14 c) :
    d.isUpper = false := by
  unfold lowerChar at present
  split at present
  · rcases List.mem_pair.mp present with rfl | rfl
    · rfl
    · rfl
  · rw [Bool.eq_false_iff]
    intro capital
    split at present
    · next code moved =>
      obtain rfl := List.mem_singleton.mp present
      obtain ⟨shift, chosen, rfl⟩ := Option.map_eq_some_iff.mp moved
      obtain ⟨least, most⟩ := of_isUpper_ofNat capital
      have covered := List.find?_some chosen
      simp only [CodeShift.covers, Bool.and_eq_true, decide_eq_true_iff] at covered
      simp only [Int.ofNat_eq_natCast] at least most
      rcases shifts_avoid_capitals.1 shift (List.mem_of_find?_eq_some chosen) with above | below
      · omega
      · omega
    · next kept =>
      obtain rfl := List.mem_singleton.mp present
      obtain ⟨least, most⟩ := isUpper_iff.mp capital
      have moved := shifts_avoid_capitals.2 _ least most
      rw [kept] at moved
      cases moved

theorem isUpper_of_mem_lowerAfter {before s : List Char} {d : Char}
    (present : d ∈ lowerAfter edition14 before s) : d.isUpper = false := by
  induction s generalizing before with
  | nil => cases present
  | cons c s ih =>
    rw [lowerAfter, List.mem_append] at present
    rcases present with own | later
    · split at own
      · obtain rfl := List.mem_singleton.mp own
        split
        · rfl
        · rfl
      · exact isUpper_of_mem_lowerChar own
    · exact ih later

end Text

/-- The text of a filter has no capital Latin letters. -/
theorem isUpper_of_mem_searchText {part : String} {c : Char}
    (present : c ∈ (searchText part).toList) : c.isUpper = false := by
  rw [searchText, String.toList_ofList] at present
  exact Text.isUpper_of_mem_lowerAfter present

/-! ## Listings -/

namespace State

variable {s : State} {caller : Int} {filter : AccountFilter} {name : Option String}

/-- Some page of the listing of roles shows the role. -/
def ListsRole (s : State) (name : Option String) (role : Role) : Prop :=
  ∃ page listing, page.WellFormed ∧ (s.listRoles page name).outcome = .ok listing ∧
    role ∈ listing.rows

/-- A listing of roles shows, over all its pages, the roles that it is about. -/
theorem listsRole_iff {role : Role}
    (short : (s.database.roles.length : Int) ≤ 0x8000000000000000) :
    s.ListsRole name role ↔
      role ∈ s.database.roles ∧ (isSearch name = true → found name role.name = true) := by
  simp only [ListsRole, listRoles_outcome]
  rw [← mem_matchingRoles]
  exact Page.exists_shown_iff short

/-- A filter by name goes by the name alone, among the accounts that are listed without it. -/
theorem lists_search_iff (short : (s.database.accounts.length : Int) ≤ 0x8000000000000000)
    (used : isSearch filter.name = true) {account : Account} :
    s.Lists caller filter account ↔
      s.Lists caller {} account ∧ found filter.name account.name = true := by
  have inScope : ∀ current visible authorized, (s.account caller).outcome = .ok current →
      (s.database.hierarchy.listingScope current.caller).outcome = .ok (visible, authorized) →
      (s.Lists caller filter account ↔
        s.Lists caller {} account ∧ found filter.name account.name = true) := by
    intro current visible authorized asking scope
    have all : ({} : AccountFilter).accepts account = true := rfl
    have none : ({} : AccountFilter).integers = [] := rfl
    have named : filter.accepts account = found filter.name account.name := if_pos used
    have narrow : filter.integers = [] := if_pos used
    rw [lists_iff_of_length_le asking scope short, lists_iff_of_length_le asking scope short,
      mem_matching, mem_matching, all, none, named, narrow]
    tauto
  constructor
  · intro listed
    obtain ⟨_, _, -, done, -⟩ := id listed
    obtain ⟨current, visible, authorized, asking, scope⟩ := exists_scope_of_listAccounts done
    exact (inScope current visible authorized asking scope).mp listed
  · intro listed
    obtain ⟨_, _, -, done, -⟩ := listed.1
    obtain ⟨current, visible, authorized, asking, scope⟩ := exists_scope_of_listAccounts done
    exact (inScope current visible authorized asking scope).mpr listed

end State

end Tenancy
