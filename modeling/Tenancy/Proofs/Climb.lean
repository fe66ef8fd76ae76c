import Mathlib.Data.Fintype.Pigeonhole
import Mathlib.Data.Set.Finite.List
import Mathlib.Tactic.Choose
import Tenancy.Proofs.Partition

/-!
# The bounded climb

The climb from an organization follows its parents, one after the other, and gives up after as many
steps as there are ids. Here its answer is read off the endless chain of parents (`Meets`), on any
rows: an id may have several rows, of which the last one gives the parent.

* `halts_succ_iff`: a climb ends where the chain does, directly under the root or at a parent that
  does not exist.
* `endless_iff`: a climb goes on for ever if and only if the chain never leaves the hierarchy.
* `circles_or_dangles`: a chain that does not come to the first level runs in a circle or out of the
  hierarchy.
* `climb_decides_exactly`: so each of the answers is given for one kind of chain, and the bound
  never cuts off a chain that ends.
-/

namespace Tenancy.Hierarchy

variable {h : Hierarchy} {x y a c p : Int} {k : Nat} {answer : Except Unresolved Int}

/-- The chain of parents from `x` comes to `c` at its `k`-th step, and none of these steps leads to
the root, where the chain would be at its end. -/
def Meets (h : Hierarchy) (k : Nat) (x c : Int) : Prop :=
  h.ancestor? k x = some c ∧ ∀ j < k, h.ancestor? (j + 1) x ≠ some rootOrganizationId

/-! ## The chain of parents -/

theorem ancestor?_add {before after : Nat} :
    h.ancestor? (before + after) x = (h.ancestor? before x).bind (h.ancestor? after) := by
  induction before generalizing x with
  | zero => rw [Nat.zero_add, ancestor?, Option.bind_some]
  | succ before ih =>
    rw [Nat.add_right_comm, ancestor?, ancestor?, Option.bind_assoc]
    exact Option.bind_congr fun p _ => ih

theorem ancestor?_succ_iff_last :
    h.ancestor? (k + 1) x = some p ↔ ∃ c, h.ancestor? k x = some c ∧ h.parent? c = some p := by
  rw [ancestor?_add, Option.bind_eq_some_iff]
  simp [ancestor?]

theorem meets_zero : h.Meets 0 x c ↔ c = x := by
  simp [Meets, ancestor?, eq_comm]

/-- The chain from an organization is that from its parent, one step later. -/
theorem meets_succ :
    h.Meets (k + 1) x c ↔ ∃ p, h.parent? x = some p ∧ p ≠ rootOrganizationId ∧ h.Meets k p c := by
  constructor
  · rintro ⟨meets, below⟩
    obtain ⟨p, above, rest⟩ := ancestor?_succ.mp meets
    refine ⟨p, above, fun root => ?_, rest, fun j earlier last => ?_⟩
    · exact below 0 (Nat.succ_pos k) (ancestor?_succ.mpr ⟨p, above, congrArg some root⟩)
    · exact below (j + 1) (Nat.succ_lt_succ earlier) (ancestor?_succ.mpr ⟨p, above, last⟩)
  · rintro ⟨p, above, inner, rest, below⟩
    refine ⟨ancestor?_succ.mpr ⟨p, above, rest⟩, fun j earlier last => ?_⟩
    obtain ⟨q, other, meets⟩ := ancestor?_succ.mp last
    obtain rfl := Option.some.inj (above.symm.trans other)
    cases j with
    | zero => exact inner (Option.some.inj meets)
    | succ j => exact below j (Nat.lt_of_succ_lt_succ earlier) meets

/-- What comes next on the chain is the parent of what was met last. -/
theorem meets_succ_iff_last :
    h.Meets (k + 1) x p ↔ ∃ c, h.Meets k x c ∧ h.parent? c = some p ∧ p ≠ rootOrganizationId := by
  constructor
  · rintro ⟨meets, below⟩
    obtain ⟨earlier, last⟩ := Nat.forall_lt_succ_right.mp below
    obtain ⟨c, before, above⟩ := ancestor?_succ_iff_last.mp meets
    exact ⟨c, ⟨before, earlier⟩, above, fun root => last (meets.trans (congrArg some root))⟩
  · rintro ⟨c, ⟨before, earlier⟩, above, inner⟩
    have meets : h.ancestor? (k + 1) x = some p := ancestor?_succ_iff_last.mpr ⟨c, before, above⟩
    refine ⟨meets, Nat.forall_lt_succ_right.mpr ⟨earlier, fun root => ?_⟩⟩
    exact inner (Option.some.inj (meets.symm.trans root))

theorem Meets.unique (meets : h.Meets k x c) (other : h.Meets k x y) : c = y :=
  Option.some.inj (meets.1.symm.trans other.1)

/-- Where the root has no row, the chain of parents ends there anyway. -/
theorem meets_iff_ancestor? (rootless : rootOrganizationId ∉ h.ids) (known : c ∈ h.ids) :
    h.Meets k x c ↔ h.ancestor? k x = some c := by
  refine and_iff_left_of_imp fun meets j earlier root => ?_
  obtain ⟨rest, rfl⟩ := Nat.exists_eq_add_of_le earlier
  rw [ancestor?_add, root, Option.bind_some] at meets
  cases rest with
  | zero => exact rootless (Option.some.inj meets ▸ known)
  | succ rest =>
    obtain ⟨p, above, -⟩ := ancestor?_succ.mp meets
    exact rootless (mem_ids_of_parent? above)

/-! ## Where it ends -/

/-- The last organization on a chain is directly under the root, or its parent does not exist. -/
theorem halts_one_iff :
    h.Halts 1 c answer ↔ ∃ p, h.parent? c = some p ∧
      (p = rootOrganizationId ∧ answer = .ok c ∨
        p ≠ rootOrganizationId ∧ p ∉ h.ids ∧ answer = .error (.dangling c p)) := by
  constructor
  · intro halts
    cases halts with
    | top above => exact ⟨_, above, .inl ⟨rfl, rfl⟩⟩
    | stray above inner absent => exact ⟨_, above, .inr ⟨inner, absent, rfl⟩⟩
    | up _ _ rest => cases rest
  · rintro ⟨p, above, ⟨rfl, rfl⟩ | ⟨inner, absent, rfl⟩⟩
    · exact .top above
    · exact .stray above inner absent

/-- A climb ends with the answer of the last organization on the chain. -/
theorem halts_succ_iff :
    h.Halts (k + 1) x answer ↔ ∃ c, h.Meets k x c ∧ h.Halts 1 c answer := by
  induction k generalizing x with
  | zero => simp [meets_zero]
  | succ k ih =>
    constructor
    · intro halts
      cases halts with
      | up above inner rest =>
        obtain ⟨c, meets, last⟩ := ih.mp rest
        exact ⟨c, meets_succ.mpr ⟨_, above, inner, meets⟩, last⟩
    · rintro ⟨c, meets, last⟩
      obtain ⟨p, above, inner, meets⟩ := meets_succ.mp meets
      exact .up above inner (ih.mpr ⟨c, meets, last⟩)

theorem exists_halts_iff :
    (∃ n, h.Halts n x answer) ↔ ∃ k c, h.Meets k x c ∧ h.Halts 1 c answer := by
  constructor
  · rintro ⟨n, halts⟩
    cases n with
    | zero => cases halts
    | succ k => exact ⟨k, halts_succ_iff.mp halts⟩
  · rintro ⟨k, last⟩
    exact ⟨k + 1, halts_succ_iff.mpr last⟩

/-- A climb goes on for ever if and only if the chain never leaves the hierarchy. -/
theorem endless_iff (known : x ∈ h.ids) :
    (∀ n answer, ¬h.Halts n x answer) ↔ ∀ k, ∃ c ∈ h.ids, h.Meets k x c := by
  constructor
  · intro endless k
    induction k with
    | zero => exact ⟨x, known, meets_zero.mpr rfl⟩
    | succ k ih =>
      obtain ⟨c, member, meets⟩ := ih
      obtain ⟨p, above⟩ := exists_parent? member
      have inner : p ≠ rootOrganizationId := by
        rintro rfl
        exact endless _ _ (halts_succ_iff.mpr ⟨c, meets, .top above⟩)
      have inside : p ∈ h.ids := by
        by_contra absent
        exact endless _ _ (halts_succ_iff.mpr ⟨c, meets, .stray above inner absent⟩)
      exact ⟨p, inside, meets_succ_iff_last.mpr ⟨c, meets, above, inner⟩⟩
  · intro stays n answer halts
    obtain ⟨k, c, meets, last⟩ := exists_halts_iff.mp ⟨n, halts⟩
    -- the chain goes on behind the place where the climb would end
    obtain ⟨p, inside, further⟩ := stays (k + 1)
    obtain ⟨d, others, above, inner⟩ := meets_succ_iff_last.mp further
    obtain rfl := meets.unique others
    obtain ⟨q, other, ⟨root, -⟩ | ⟨-, absent, -⟩⟩ := halts_one_iff.mp last
    · exact inner (Option.some.inj (above.symm.trans other) ▸ root)
    · exact absent (Option.some.inj (above.symm.trans other) ▸ inside)

/-! ## The answers -/

/-- There is no organization to climb from, or the climb ends, or it goes on for ever. -/
theorem firstLevelAncestor_cases (h : Hierarchy) (x : Int) :
    (x ∉ h.ids ∧ h.firstLevelAncestor x = .error (.absent x)) ∨
    (x ∈ h.ids ∧ ∃ k c, h.Meets k x c ∧ h.Halts 1 c (h.firstLevelAncestor x)) ∨
    (x ∈ h.ids ∧ (∀ k, ∃ c ∈ h.ids, h.Meets k x c) ∧
      h.firstLevelAncestor x = .error (.cycle x)) := by
  by_cases known : x ∈ h.ids
  · rcases halts_or_cycle known with halts | ⟨around, endless⟩
    · exact .inr (.inl ⟨known, exists_halts_iff.mp halts⟩)
    · exact .inr (.inr ⟨known, (endless_iff known).mp endless, around⟩)
  · refine .inl ⟨known, ?_⟩
    rw [firstLevelAncestor, if_neg (mt contains_iff.mp known)]

theorem firstLevelAncestor_eq_absent_iff :
    h.firstLevelAncestor x = .error (.absent y) ↔ y = x ∧ x ∉ h.ids := by
  rcases h.firstLevelAncestor_cases x with
    ⟨absent, answer⟩ | ⟨known, k, c, -, last⟩ | ⟨known, -, answer⟩
  · simp [answer, absent, eq_comm]
  · obtain ⟨p, -, ⟨-, answer⟩ | ⟨-, -, answer⟩⟩ := halts_one_iff.mp last <;> simp [answer, known]
  · simp [answer, known]

theorem firstLevelAncestor_eq_cycle_iff :
    h.firstLevelAncestor x = .error (.cycle y) ↔ y = x ∧ ∀ k, ∃ c ∈ h.ids, h.Meets k x c := by
  constructor
  · intro around
    rcases h.firstLevelAncestor_cases x with
      ⟨-, answer⟩ | ⟨-, k, c, -, last⟩ | ⟨-, stays, answer⟩
    · cases around.symm.trans answer
    · obtain ⟨p, -, ⟨-, answer⟩ | ⟨-, -, answer⟩⟩ := halts_one_iff.mp last <;>
        cases around.symm.trans answer
    · cases around.symm.trans answer
      exact ⟨rfl, stays⟩
  · rintro ⟨rfl, stays⟩
    obtain ⟨c, member, start⟩ := stays 0
    have known : y ∈ h.ids := meets_zero.mp start ▸ member
    rcases halts_or_cycle known with ⟨n, halts⟩ | ⟨around, -⟩
    · exact absurd halts ((endless_iff known).mpr stays n _)
    · exact around

/-- Every other answer is that of the last organization on the chain. -/
theorem firstLevelAncestor_eq_iff
    (ends : ∀ y, answer ≠ .error (.absent y) ∧ answer ≠ .error (.cycle y)) :
    h.firstLevelAncestor x = answer ↔ ∃ k c, h.Meets k x c ∧ h.Halts 1 c answer := by
  constructor
  · rintro rfl
    rcases h.firstLevelAncestor_cases x with ⟨-, answer⟩ | ⟨-, last⟩ | ⟨-, -, answer⟩
    · exact absurd answer (ends x).1
    · exact last
    · exact absurd answer (ends x).2
  · intro last
    obtain ⟨n, halts⟩ := exists_halts_iff.mpr last
    exact halts.firstLevelAncestor_eq

theorem firstLevelAncestor_eq_ok_iff_meets :
    h.firstLevelAncestor x = .ok a ↔
      ∃ k, h.Meets k x a ∧ h.parent? a = some rootOrganizationId := by
  rw [firstLevelAncestor_eq_iff (by simp)]
  simp [halts_one_iff]

theorem firstLevelAncestor_eq_dangling_iff :
    h.firstLevelAncestor x = .error (.dangling c p) ↔
      ∃ k, h.Meets k x c ∧ h.parent? c = some p ∧ p ≠ rootOrganizationId ∧ p ∉ h.ids := by
  rw [firstLevelAncestor_eq_iff (by simp)]
  simp [halts_one_iff]

/-! ## Chains that do not end at the first level -/

/-- A chain that never leaves the hierarchy comes to an organization for the second time. -/
theorem circles_of_endless (stays : ∀ k, ∃ c ∈ h.ids, h.Meets k x c) : h.Circles x := by
  choose met member meets using stays
  -- there are not enough organizations for all of the steps
  have finite : Finite {y // y ∈ h.ids} := (List.finite_toSet h.ids).to_subtype
  obtain ⟨i, j, different, same⟩ :=
    Finite.exists_ne_map_eq_of_infinite fun n => (⟨met n, member n⟩ : {y // y ∈ h.ids})
  have again : ∀ i j, i < j → met i = met j → h.Circles x := by
    intro i j earlier same
    obtain ⟨around, rfl⟩ := Nat.exists_eq_add_of_lt earlier
    have back := (meets (i + around + 1)).1
    rw [← same, Nat.add_assoc, ancestor?_add, (meets i).1, Option.bind_some] at back
    exact ⟨met i, i, around, (meets i).1, back⟩
  rcases Nat.lt_or_gt_of_ne different with earlier | later
  · exact again i j earlier (congrArg Subtype.val same)
  · exact again j i later (congrArg Subtype.val same).symm

/-- Every way upwards that does not end at the first level runs in a circle or out of the
hierarchy. -/
theorem circles_or_dangles (known : x ∈ h.ids) (lost : ∀ a, ¬h.Resolves x a) :
    h.Circles x ∨ h.Dangles x := by
  rcases h.firstLevelAncestor_cases x with
    ⟨absent, -⟩ | ⟨-, k, c, meets, last⟩ | ⟨-, stays, -⟩
  · exact absurd known absent
  · obtain ⟨p, above, ⟨-, answer⟩ | ⟨inner, absent, -⟩⟩ := halts_one_iff.mp last
    · exact absurd (firstLevelAncestor_eq_ok_iff.mp answer) (lost c)
    · refine .inr ⟨p, k, ?_, absent, inner⟩
      exact ancestor?_succ_iff_last.mpr ⟨c, meets.1, above⟩
  · exact .inl (circles_of_endless stays)

/-! ## The bound -/

/-- A chain that ends at its `k`-th step is shorter than the bound of the climb. -/
theorem Meets.lt_size (meets : h.Meets k x c) (above : h.parent? c = some p)
    (last : p = rootOrganizationId ∨ p ∉ h.ids) : k < h.size := by
  have halts : ∃ answer, h.Halts 1 c answer := by
    by_cases root : p = rootOrganizationId
    · exact ⟨_, .top (root ▸ above)⟩
    · exact ⟨_, .stray above root (last.resolve_left root)⟩
  obtain ⟨answer, halts⟩ := halts
  exact (halts_succ_iff.mpr ⟨c, meets, halts⟩).le_size

end Tenancy.Hierarchy

namespace Tenancy

open Hierarchy in
/-- The climb from `x` has one of four answers, on any rows. There is no `x`; or the chain of
parents from `x` comes to an organization directly under the root, which is the answer; or it comes
to one whose parent is not the root and does not exist, and both are named; or it never leaves the
hierarchy, and `x` is named. A chain that ends does so within the bound of the climb, so that any
higher bound gives the same answers. The chain stops at the root; where the root has no row, it is
the chain of all parents. -/
theorem climb_decides_exactly (h : Hierarchy) (x : Int) :
    (∀ y, h.firstLevelAncestor x = .error (.absent y) ↔ y = x ∧ x ∉ h.ids) ∧
    (∀ a, h.firstLevelAncestor x = .ok a ↔
      ∃ k, h.Meets k x a ∧ h.parent? a = some rootOrganizationId) ∧
    (∀ c p, h.firstLevelAncestor x = .error (.dangling c p) ↔
      ∃ k, h.Meets k x c ∧ h.parent? c = some p ∧ p ≠ rootOrganizationId ∧ p ∉ h.ids) ∧
    (∀ y, h.firstLevelAncestor x = .error (.cycle y) ↔
      y = x ∧ ∀ k, ∃ c ∈ h.ids, h.Meets k x c) ∧
    (∀ k c p, h.Meets k x c → h.parent? c = some p → p = rootOrganizationId ∨ p ∉ h.ids →
      k < h.size) ∧
    (∀ steps, x ∈ h.ids → h.size ≤ steps → h.climb x steps x = h.firstLevelAncestor x) ∧
    (rootOrganizationId ∉ h.ids →
      ∀ k, ∀ c ∈ h.ids, h.Meets k x c ↔ h.ancestor? k x = some c) :=
  ⟨fun _ => firstLevelAncestor_eq_absent_iff, fun _ => firstLevelAncestor_eq_ok_iff_meets,
    fun _ _ => firstLevelAncestor_eq_dangling_iff, fun _ => firstLevelAncestor_eq_cycle_iff,
    fun _ _ _ meets above last => meets.lt_size above last,
    fun _ known enough => climb_eq_firstLevelAncestor known enough,
    fun rootless _ _ known => meets_iff_ancestor? rootless known⟩

/-- A bench in the lab of the headquarters, where the lab has two rows and the last one gives its
parent. Beside it are a cycle with an organization below, and a chain that ends at a parent that
does not exist. -/
def ladder : Hierarchy := [
    ⟨some 3, some "bench", 2⟩, ⟨some 2, some "lab", 9⟩, ⟨some 2, some "lab", 1⟩,
    ⟨some 1, some "headquarters", -1⟩, ⟨some 4, some "hen", 5⟩, ⟨some 5, some "egg", 4⟩,
    ⟨some 6, some "chick", 5⟩, ⟨some 7, some "orphan", 9⟩, ⟨some 8, some "ward", 7⟩]

/-- The bench climbs over the lab to the headquarters, the ward to the orphan, whose parent does not
exist, and the chick, which is not on the cycle itself, climbs for ever. -/
theorem ladder_climbs_end_as_chains_do :
    ladder.firstLevelAncestor 9 = .error (.absent 9) ∧
    ladder.firstLevelAncestor 3 = .ok 1 ∧
    ladder.firstLevelAncestor 8 = .error (.dangling 7 9) ∧
    (∀ k, ∃ c ∈ ladder.ids, ladder.Meets k 6 c) ∧
    ladder.climb 3 100 3 = .ok 1 ∧ 2 < ladder.size ∧
    (ladder.Meets 2 3 1 ↔ ladder.ancestor? 2 3 = some 1) := by
  obtain ⟨-, resolves, -, -, bound, enough, chain⟩ := climb_decides_exactly ladder 3
  have way : ladder.Meets 2 3 1 := ⟨by decide, by decide⟩
  have first : ladder.firstLevelAncestor 3 = .ok 1 := (resolves 1).mpr ⟨2, way, by decide⟩
  refine ⟨((climb_decides_exactly ladder 9).1 9).mpr ⟨rfl, by decide⟩, first, ?_, ?_, ?_,
    bound 2 1 _ way (by decide) (.inl rfl), chain (by decide) 2 1 (by decide)⟩
  · exact ((climb_decides_exactly ladder 8).2.2.1 7 9).mpr
      ⟨1, ⟨by decide, by decide⟩, by decide, by decide, by decide⟩
  · exact (((climb_decides_exactly ladder 6).2.2.2.1 6).mp (by decide +kernel)).2
  · rw [enough 100 (by decide) (by decide), first]

end Tenancy
