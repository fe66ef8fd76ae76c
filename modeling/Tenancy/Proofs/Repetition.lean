import Mathlib.Logic.Relation
import Tenancy.Access.Expression.Basic

/-!
# What repetitions reach

The turns of a repetition are tried by a search that goes on from no place twice. That a place was
left out does no harm: wherever the search has gone on, it has come to everything behind (`Closed`),
except behind the places that it is just following, and these lie before the place at hand.

* `follows_optionalTurns`: the search for further turns finds what they lead to, if every turn moves
  on.
* `mem_repeatedTurns`: a greedy repetition reaches what one turn and any number of further ones lead
  to.
-/

namespace Tenancy.Access

variable {body : List Cursor → List Cursor} {places : List Cursor} {s q : Cursor} {w : Walk}

/-- Some turns lead from one place to another. -/
def Reaches (body : List Cursor → List Cursor) : Cursor → Cursor → Prop :=
  Relation.ReflTransGen fun s next => next ∈ body [s]

theorem reaches_iff : Reaches body s q ↔ q = s ∨ ∃ next ∈ body [s], Reaches body next q := by
  constructor
  · intro reached
    rcases Relation.ReflTransGen.cases_head reached with same | ⟨next, turn, onward⟩
    · exact .inl same.symm
    · exact .inr ⟨next, turn, onward⟩
  · rintro (rfl | ⟨next, turn, onward⟩)
    · exact .refl
    · exact .head turn onward

namespace Walk

@[simp] theorem mem_found_reach : q ∈ (w.reach s).found ↔ q ∈ w.found ∨ q = s := by
  unfold reach
  split
  · next present =>
    constructor
    · exact .inl
    · rintro (old | rfl)
      · exact old
      · exact present
  · simp [or_comm]

@[simp] theorem explored_reach : (w.reach s).explored = w.explored := by
  unfold reach
  split <;> rfl

theorem knows_iff {n : Nat} :
    w.knows n s = true ↔ ∃ entry ∈ w.explored, entry.2 = s ∧ n ≤ entry.1 := by
  simp [knows]

/-- From the places of some kind from which the search went on, it has come to everything that turns
lead to. The kind is said of the number of characters behind a place. -/
def Closed (body : List Cursor → List Cursor) (w : Walk) (kind : Nat → Prop) : Prop :=
  ∀ entry ∈ w.explored, kind entry.2.left → ∀ q, Reaches body entry.2 q → q ∈ w.found

/-- A search has gone from one state to another by following the turns from some places. -/
structure Follows (body : List Cursor → List Cursor) (w after : Walk) (starts : Cursor → Prop) :
    Prop where
  found : ∀ q, q ∈ after.found ↔ q ∈ w.found ∨ ∃ s, starts s ∧ Reaches body s q
  explored : ∀ entry ∈ after.explored, entry ∈ w.explored ∨ ∃ s, starts s ∧ Reaches body s entry.2

namespace Follows

variable {after last : Walk} {starts others : Cursor → Prop} {kind : Nat → Prop}

theorem closed (follows : Follows body w after starts) (closed : w.Closed body kind) :
    after.Closed body kind := by
  intro entry listed fits q reached
  rw [follows.found]
  rcases follows.explored entry listed with old | ⟨s, start, way⟩
  · exact .inl (closed entry old fits q reached)
  · exact .inr ⟨s, start, way.trans reached⟩

theorem trans (first : Follows body w after starts) (second : Follows body after last others) :
    Follows body w last fun s => starts s ∨ others s where
  found q := by
    rw [second.found, first.found]
    simp only [or_and_right, exists_or, or_assoc]
  explored entry listed := by
    rcases second.explored entry listed with old | ⟨s, start, way⟩
    · rcases first.explored entry old with older | ⟨s, start, way⟩
      · exact .inl older
      · exact .inr ⟨s, .inl start, way⟩
    · exact .inr ⟨s, .inr start, way⟩

/-- The places are followed one after the other. -/
theorem foldl (search : Walk → Cursor → Walk) {l : List Cursor} (closed : w.Closed body kind)
    (each : ∀ s ∈ l, ∀ v : Walk, v.Closed body kind → Follows body v (search v s) (· = s)) :
    Follows body w (l.foldl search w) (· ∈ l) := by
  induction l generalizing w with
  | nil => exact ⟨by simp, by simp⟩
  | cons s rest ih =>
    have first := each s List.mem_cons_self w closed
    have second := ih (first.closed closed) fun t listed => each t (List.mem_cons_of_mem _ listed)
    simpa using first.trans second

end Follows

end Walk

/-- The search for further turns finds what they lead to. -/
theorem follows_optionalTurns (onward : ∀ s, ∀ next ∈ body [s], next.left < s.left) (n : Nat)
    {kind : Nat → Prop} (down : ∀ m n, m ≤ n → kind n → kind m) (enough : s.left < n)
    (fits : kind s.left) (closed : w.Closed body kind) :
    Walk.Follows body w (optionalTurns body false n w s) (· = s) := by
  induction n generalizing w s kind with
  | zero => cases enough
  | succ n ih =>
    have useful : min n s.left = s.left := Nat.min_eq_right (Nat.le_of_lt_succ enough)
    rw [optionalTurns, useful]
    split
    · next known =>
      obtain ⟨entry, listed, rfl, -⟩ := Walk.knows_iff.mp known
      refine ⟨fun q => ?_, fun entry listed => .inl listed⟩
      constructor
      · exact .inl
      · rintro (old | ⟨_, rfl, reached⟩)
        · exact old
        · exact closed entry listed fits q reached
    · -- behind the place at hand the search is closed, but not yet from the place itself
      have behind : (w.explore s.left s).Closed body (· < s.left) := by
        intro entry listed below q reached
        rcases List.mem_cons.mp listed with rfl | old
        · exact absurd below (Nat.lt_irrefl _)
        · exact closed entry old (down _ _ (Nat.le_of_lt below) fits) q reached
      have turns := Walk.Follows.foldl (fun w next =>
          if next.left < s.left then optionalTurns body false n w next else w.reach next)
        behind fun next (turn : next ∈ body [s]) v settled => by
          have moved := onward s next turn
          rw [if_pos moved]
          exact ih (fun _ _ => Nat.lt_of_le_of_lt) (by omega) moved settled
      refine ⟨fun q => ?_, fun entry listed => ?_⟩
      · show q ∈ (Walk.reach _ s).found ↔ _
        rw [Walk.mem_found_reach, turns.found, or_assoc]
        refine or_congr_right ?_
        simp only [exists_eq_left, reaches_iff (s := s), or_comm]
      · have found : entry ∈ (Walk.reach _ s).explored := listed
        rw [Walk.explored_reach] at found
        rcases turns.explored entry found with old | ⟨next, turn, reached⟩
        · rcases List.mem_cons.mp old with rfl | older
          · exact .inr ⟨s, rfl, .refl⟩
          · exact .inl older
        · exact .inr ⟨s, rfl, .head turn reached⟩

/-- A greedy repetition with one turn at least and no upper bound reaches what one turn and any
number of further ones lead to. -/
theorem mem_repeatedTurns (onward : ∀ s, ∀ next ∈ body [s], next.left < s.left) :
    q ∈ repeatedTurns body 1 none .greedy places ↔ ∃ s ∈ body places, Reaches body s q := by
  have once : turns body 1 places = body places := by
    simp only [turns]
    split
    · next same => exact same.symm
    · rfl
  have fresh : ({} : Walk).Closed body fun _ => True := nofun
  have follows := Walk.Follows.foldl
    (fun w next => optionalTurns body (Greed.greedy == .reluctant) (next.left + 1) w next) fresh
    fun s (_ : s ∈ body places) v closed =>
      follows_optionalTurns onward _ (fun _ _ _ => id) (Nat.lt_succ_self _) trivial closed
  show q ∈ (Walk.found (List.foldl _ _ (turns body 1 places))).reverse ↔ _
  rw [List.mem_reverse, once]
  simpa only [List.not_mem_nil, false_or] using follows.found q

end Tenancy.Access
