import Mathlib.Data.List.Nodup
import Tenancy.Forest.Links

/-!
# Worklists

A worklist holds pending entries. A loop takes the first of them, drops it if its id was visited,
and otherwise expands it: what stands under its id is put in front, an entry for every item. The
pending entries become more and fewer, and nothing in the data becomes smaller, as there may be
cycles and repeated items.

* `credit_expand`: what an expansion puts in front is paid for by the links under its id, which is
  visited from then on, so that every turn costs one.
* `run_ends`: with fuel for as many turns as there is credit the loop does not run out, and it
  expands what the loop without fuel expands.
* `nodup_expansions`: no id is expanded twice.
-/

namespace Tenancy

/-! ## Loops with fuel -/

section Fuel

variable {β γ : Type} {loop next : Nat → Option β} {bound : Nat} {result : β}

/-- A loop that takes at most `bound` turns to its result: it runs out of fuel that is less than the
turns that it takes, and answers with fuel for these or more. -/
def EndsWithin (loop : Nat → Option β) (bound : Nat) (result : β) : Prop :=
  ∃ turns ≤ bound, ∀ fuel, loop fuel = if turns ≤ fuel then some result else none

theorem EndsWithin.mono {more : Nat} (ends : EndsWithin loop bound result) (le : bound ≤ more) :
    EndsWithin loop more result := by
  obtain ⟨turns, few, fueled⟩ := ends
  exact ⟨turns, Nat.le_trans few le, fueled⟩

theorem EndsWithin.map (ends : EndsWithin loop bound result) (f : β → γ) :
    EndsWithin (fun fuel => (loop fuel).map f) bound (f result) := by
  obtain ⟨turns, few, fueled⟩ := ends
  refine ⟨turns, few, fun fuel => ?_⟩
  simp only [fueled]
  split <;> rfl

/-- One turn more. -/
theorem EndsWithin.turn (empty : loop 0 = none) (turn : ∀ fuel, loop (fuel + 1) = next fuel)
    (ends : EndsWithin next bound result) : EndsWithin loop (bound + 1) result := by
  obtain ⟨turns, few, fueled⟩ := ends
  refine ⟨turns + 1, Nat.succ_le_succ few, fun fuel => ?_⟩
  cases fuel with
  | zero => rw [empty, if_neg (Nat.not_succ_le_zero turns)]
  | succ fuel => simp only [turn, fueled, Nat.add_le_add_iff_right]

theorem endsWithin_of_done (done : ∀ fuel, loop fuel = some result) :
    EndsWithin loop bound result :=
  ⟨0, Nat.zero_le bound, fun fuel => by rw [done, if_pos (Nat.zero_le fuel)]⟩

end Fuel

/-! ## Loops over entries -/

/-- A loop over pending entries. -/
structure Worklist (α ε : Type) where
  /-- The items under ids. -/
  links : Links α
  /-- The id of an entry. -/
  key : ε → Int
  /-- The entry for an item under an expanded entry. -/
  entry : ε → α → ε
  /-- Whether the loop breaks off at an entry that it would expand. -/
  stops : ε → Bool

namespace Worklist

variable {α ε : Type} (w : Worklist α ε)

/-- What an expansion puts in front. -/
def push (e : ε) : List ε :=
  (w.links.under (w.key e)).map (w.entry e)

/-- The loop with fuel, of which every entry that is taken uses up one unit. It answers the entries
that it expands and the one at which it breaks off, and nothing if it runs out of fuel. -/
def run : Nat → List ε → List Int → Option (List ε)
  | _, [], _ => some []
  | 0, _ :: _, _ => none
  | fuel + 1, e :: rest, visited =>
    if w.key e ∈ visited then run fuel rest visited
    else if w.stops e then some [e]
    else (run fuel (w.push e ++ rest) (w.key e :: visited)).map (e :: ·)

/-- For how many turns the pending entries and the links that are not used up will do. -/
def credit (pending : List ε) (visited : List Int) : Nat :=
  pending.length + w.links.unspent visited

variable {w} {e : ε} {pending rest : List ε} {visited other : List Int}

theorem credit_drop : w.credit rest visited + 1 = w.credit (e :: rest) visited := by
  rw [credit, credit, List.length_cons]
  omega

theorem credit_expand (fresh : w.key e ∉ visited) :
    w.credit (w.push e ++ rest) (w.key e :: visited) + 1 = w.credit (e :: rest) visited := by
  have paid := w.links.length_under_add_unspent fresh
  rw [credit, credit, List.length_append, push, List.length_map, List.length_cons]
  omega

theorem credit_le {β : Type} (w : Worklist α ε) (start : β → ε) (items : List β)
    (visited : List Int) :
    w.credit (items.map start) visited ≤ items.length + w.links.length := by
  rw [credit, List.length_map]
  exact Nat.add_le_add_left List.countP_le_length _

variable (w) in
/-- The entries that the loop expands if it never breaks off. -/
def expansions : List ε → List Int → List ε
  | [], _ => []
  | e :: rest, visited =>
    if w.key e ∈ visited then expansions rest visited
    else e :: expansions (w.push e ++ rest) (w.key e :: visited)
  termination_by pending visited => w.credit pending visited
  decreasing_by
    · exact Nat.lt_of_succ_le (Nat.le_of_eq credit_drop)
    · exact Nat.lt_of_succ_le (Nat.le_of_eq (credit_expand ‹_›))

/-- The entries up to the first one at which the loop breaks off. -/
def upTo (stops : ε → Bool) : List ε → List ε
  | [] => []
  | e :: rest => if stops e then [e] else e :: upTo stops rest

theorem run_ends (w : Worklist α ε) (pending : List ε) (visited : List Int) :
    EndsWithin (w.run · pending visited) (w.credit pending visited)
      (upTo w.stops (w.expansions pending visited)) := by
  fun_induction expansions w pending visited with
  | case1 visited =>
    refine endsWithin_of_done fun fuel => ?_
    cases fuel <;> rfl
  | case2 e rest visited seen ih =>
    rw [← credit_drop]
    refine ih.turn rfl fun fuel => ?_
    rw [run, if_pos seen]
  | case3 e rest visited fresh ih =>
    rw [← credit_expand fresh, upTo]
    by_cases last : w.stops e = true
    · -- one turn is left, and the credit that remains is not used
      rw [if_pos last]
      refine (endsWithin_of_done fun _ => rfl).turn rfl fun fuel => ?_
      rw [run, if_neg fresh, if_pos last]
    · rw [if_neg last]
      refine (ih.map (e :: ·)).turn rfl fun fuel => ?_
      rw [run, if_neg fresh, if_neg last]

/-! ## What is expanded -/

theorem key_not_mem_of_mem_expansions (expanded : e ∈ w.expansions pending visited) :
    w.key e ∉ visited := by
  fun_induction expansions w pending visited with
  | case1 visited => cases expanded
  | case2 a rest visited seen ih => exact ih expanded
  | case3 a rest visited fresh ih =>
    rcases List.mem_cons.mp expanded with rfl | later
    · exact fresh
    · exact fun before => ih later (List.mem_cons_of_mem _ before)

/-- No id is expanded twice. -/
theorem nodup_expansions (w : Worklist α ε) (pending : List ε) (visited : List Int) :
    ((w.expansions pending visited).map w.key).Nodup := by
  fun_induction expansions w pending visited with
  | case1 visited => exact List.nodup_nil
  | case2 a rest visited seen ih => exact ih
  | case3 a rest visited fresh ih =>
    rw [List.map_cons, List.nodup_cons]
    refine ⟨fun again => ?_, ih⟩
    obtain ⟨e, later, same⟩ := List.mem_map.mp again
    exact key_not_mem_of_mem_expansions later (same ▸ List.mem_cons_self)

theorem upTo_sublist (stops : ε → Bool) (l : List ε) : (upTo stops l).Sublist l := by
  induction l with
  | nil => exact .slnil
  | cons e rest ih =>
    rw [upTo]
    split
    · exact (List.nil_sublist rest).cons_cons e
    · exact ih.cons_cons e

theorem upTo_eq_self {stops : ε → Bool} {l : List ε} (never : ∀ e ∈ l, stops e = false) :
    upTo stops l = l := by
  induction l with
  | nil => rfl
  | cons e rest ih =>
    obtain ⟨here, later⟩ := List.forall_mem_cons.mp never
    rw [upTo, here, ih later]
    rfl

/-- Whatever comes of all entries or of none is not changed by breaking off at the first entry of
which nothing comes. -/
theorem mapM_upTo {stops : ε → Bool} {f : ε → Option α}
    (stuck : ∀ e, stops e = (f e).isNone) (l : List ε) : (upTo stops l).mapM f = l.mapM f := by
  induction l with
  | nil => rfl
  | cons e rest ih =>
    rw [upTo, stuck, List.mapM_cons]
    cases found : f e with
    | none => simp [found]
    | some a => simp [found, ih]

/-- A loop that never breaks off. -/
theorem run_ends_of_never (never : ∀ e, w.stops e = false) (pending : List ε)
    (visited : List Int) :
    EndsWithin (w.run · pending visited) (w.credit pending visited)
      (w.expansions pending visited) := by
  have ends := w.run_ends pending visited
  rwa [upTo_eq_self fun e _ => never e] at ends

/-- What was visited before matters as a set only. -/
theorem expansions_congr_visited (same : ∀ k, k ∈ visited ↔ k ∈ other) :
    w.expansions pending visited = w.expansions pending other := by
  fun_induction expansions w pending visited generalizing other with
  | case1 visited => rw [expansions]
  | case2 a rest visited seen ih => rw [expansions, if_pos ((same _).mp seen), ih same]
  | case3 a rest visited fresh ih =>
    rw [expansions, if_neg (mt (same _).mpr fresh)]
    congr 1
    exact ih fun k => by rw [List.mem_cons, List.mem_cons, same]

end Worklist

/-! ## The walk along links -/

namespace Links

variable {α : Type}

/-- The walk along links as a loop: an entry is an item with its depth. -/
def walk (links : Links α) (key : α → Int) : Worklist α (Nat × α) where
  links := links
  key := fun x => key x.2
  entry := fun x a => (x.1 + 1, a)
  stops := fun _ => false

theorem preorder_eq_expansions (links : Links α) (key : α → Int) (pending : List (Nat × α))
    (visited : List Int) :
    links.preorder key pending visited = (links.walk key).expansions pending visited := by
  fun_induction preorder links key pending visited with
  | case1 visited => rw [Worklist.expansions]
  | case2 depth a rest visited seen ih =>
    rw [Worklist.expansions, ih]
    exact (if_pos seen).symm
  | case3 depth a rest visited fresh ih =>
    rw [Worklist.expansions, ih]
    exact (if_neg fresh).symm

end Links

end Tenancy
