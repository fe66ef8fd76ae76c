import Mathlib.Data.List.Nodup
import Tenancy.Text.Normal

/-!
# Decomposition

A character is decomposed step by step. What the tables say of all characters is checked by
arithmetic, with sets of codes as the bits of numbers.

* `CodeRanges.testBit_mask`: the bits of ranges.
* `settles`: three steps decompose every character as far as possible. The characters that some
  steps do not are the ones with a part that one step less does not (`deepMask`).
* `decomposed_of_compose?`: two characters that compose decompose to what their composition does.
-/

namespace Tenancy.Text

/-! ## Ranges as numbers -/

namespace CodeRanges

/-- The bits of ranges of codes. -/
def mask (ranges : CodeRanges) : Nat :=
  ranges.foldr (fun r mask => mask ||| (1 <<< (r.2 + 1 - r.1) - 1) <<< r.1) 0

theorem testBit_mask (ranges : CodeRanges) (code : Nat) :
    ranges.mask.testBit code = ranges.has code := by
  induction ranges with
  | nil => exact Nat.zero_testBit code
  | cons r ranges ih =>
    have bit : ((1 <<< (r.2 + 1 - r.1) - 1) <<< r.1).testBit code =
        (decide (r.1 ≤ code) && decide (code ≤ r.2)) := by
      rw [Nat.testBit_shiftLeft, Nat.one_shiftLeft, Nat.testBit_two_pow_sub_one]
      by_cases above : r.1 ≤ code
      · rw [decide_eq_true above, Bool.true_and, Bool.true_and]
        exact decide_eq_decide.mpr (by omega)
      · rw [decide_eq_false above, Bool.false_and, Bool.false_and]
    show (mask ranges ||| _).testBit code = _
    rw [Nat.testBit_or, ih, bit, Bool.or_comm]
    rfl

theorem not_has_of_apart {ranges others : CodeRanges} {code : Nat}
    (apart : ranges.mask &&& others.mask = 0) (within : ranges.has code = true) :
    others.has code = false := by
  have bit : (ranges.mask &&& others.mask).testBit code = false := by
    rw [apart, Nat.zero_testBit]
  rw [Nat.testBit_and, testBit_mask, testBit_mask, within, Bool.true_and] at bit
  exact bit

/-- Single codes as ranges. -/
def ofCodes (codes : List Nat) : CodeRanges :=
  codes.map fun code => (code, code)

theorem has_ofCodes (codes : List Nat) (code : Nat) :
    (ofCodes codes).has code = decide (code ∈ codes) := by
  rw [Bool.eq_iff_iff, decide_eq_true_eq, has, ofCodes, List.any_map, List.any_eq_true]
  constructor
  · rintro ⟨other, listed, bounds⟩
    simp only [Function.comp_apply, Bool.and_eq_true, decide_eq_true_eq] at bounds
    exact Nat.le_antisymm bounds.2 bounds.1 ▸ listed
  · exact fun listed => ⟨code, listed, by simp⟩

end CodeRanges

/-! ## Decomposition -/

/-- The decompositions by table. -/
def decompositions : List (Nat × List Nat) :=
  pairDecompositions.map (fun (code, first, second) => (code, [first, second])) ++
    singleDecompositions.flatMap fun (first, images) =>
      (images.zipIdx first).map fun (image, code) => (code, [image])

/-- Whether a code is a Hangul syllable. -/
def IsSyllable (code : Nat) : Prop :=
  hangulBase ≤ code ∧ code < hangulBase + hangulCount

instance (code : Nat) : Decidable (IsSyllable code) :=
  inferInstanceAs (Decidable (_ ∧ _))

/-- Whether a code does not decompose. -/
def IsSettled (code : Nat) : Prop :=
  decomposeOnce code = [code]

theorem settled_or_mem {code : Nat} (plain : ¬IsSyllable code) :
    IsSettled code ∨ (code, decomposeOnce code) ∈ decompositions := by
  unfold IsSyllable at plain
  unfold IsSettled decomposeOnce
  rw [if_neg plain]
  split
  · next first second found =>
    have same := List.find?_some found
    rw [decide_eq_true_eq] at same
    subst same
    exact .inr (List.mem_append_left _ (List.mem_map_of_mem (List.mem_of_find?_eq_some found)))
  · split
    · next other found =>
      obtain ⟨⟨first, images⟩, row, image⟩ := List.exists_of_findSome?_eq_some found
      replace image : (if first ≤ code then images[code - first]? else none) = some other := image
      by_cases bound : first ≤ code
      · rw [if_pos bound] at image
        have place : (other, code) ∈ images.zipIdx first :=
          List.mk_mem_zipIdx_iff_le_and_getElem?_sub.mpr ⟨bound, image⟩
        exact .inr (List.mem_append_right _
          (List.mem_flatMap.mpr ⟨_, row, List.mem_map_of_mem place⟩))
      · rw [if_neg bound] at image
        cases image
    · exact .inl rfl

/-- What every row of the table is like: it is about no Hangul syllable or part of one and about no
ASCII, and its parts are no syllables. All its codes are characters. -/
def IsRegularRow (row : Nat × List Nat) : Prop :=
  128 ≤ row.1 ∧ ¬(0x1100 ≤ row.1 ∧ row.1 < 0x1200) ∧ ¬IsSyllable row.1 ∧ row.1.isValidChar ∧
    ∀ part ∈ row.2, ¬IsSyllable part ∧ part.isValidChar

instance (row : Nat × List Nat) : Decidable (IsRegularRow row) :=
  inferInstanceAs (Decidable (_ ∧ _))

theorem regular_of_mem {row : Nat × List Nat} (listed : row ∈ decompositions) :
    IsRegularRow row := by
  have all : decompositions.all fun row => decide (IsRegularRow row) := by decide +kernel
  exact of_decide_eq_true (List.all_eq_true.mp all row listed)

theorem settled_of_not_mem {code : Nat} (plain : ¬IsSyllable code)
    (free : code ∉ decompositions.map (·.1)) : IsSettled code := by
  refine (settled_or_mem plain).resolve_right fun listed => free ?_
  exact List.mem_map_of_mem (f := (·.1)) listed

theorem settled_of_lt {code : Nat} (ascii : code < 128) : IsSettled code := by
  refine settled_of_not_mem (fun syllable => ?_) fun listed => ?_
  · have := syllable.1
    unfold hangulBase at this
    omega
  · obtain ⟨row, within, rfl⟩ := List.mem_map.mp listed
    have := (regular_of_mem within).1
    omega

/-- The parts of syllables do not decompose. -/
theorem settled_of_part {code : Nat} (part : 0x1100 ≤ code ∧ code < 0x1200) : IsSettled code := by
  refine settled_of_not_mem (fun syllable => ?_) fun listed => ?_
  · have := syllable.1
    unfold hangulBase at this
    omega
  · obtain ⟨row, within, rfl⟩ := List.mem_map.mp listed
    exact (regular_of_mem within).2.1 part

theorem decomposeOnce_of_syllable {code : Nat} (syllable : IsSyllable code) :
    decomposeOnce code =
      [0x1100 + (code - 0xAC00) / 588, 0x1161 + (code - 0xAC00) % 588 / 28] ++
        if (code - 0xAC00) % 28 = 0 then [] else [0x11A7 + (code - 0xAC00) % 28] :=
  if_pos syllable

theorem part_of_mem_decomposeOnce {code part : Nat} (syllable : IsSyllable code)
    (within : part ∈ decomposeOnce code) : 0x1100 ≤ part ∧ part < 0x1200 := by
  rw [decomposeOnce_of_syllable syllable, List.cons_append, List.singleton_append, List.mem_cons,
    List.mem_cons] at within
  unfold IsSyllable hangulBase hangulCount at syllable
  obtain rfl | rfl | last := within
  · omega
  · omega
  · split at last
    · cases last
    · rw [List.mem_singleton] at last
      omega

section Steps

variable {l l' : List Nat} {steps code : Nat}

theorem decompose_append (steps : Nat) (l l' : List Nat) :
    decompose steps (l ++ l') = decompose steps l ++ decompose steps l' := by
  induction steps generalizing l l' with
  | zero => rfl
  | succ steps ih => rw [decompose, List.flatMap_append, ih, decompose, decompose]

theorem decompose_of_settled (settled : ∀ code ∈ l, IsSettled code) : decompose steps l = l := by
  have kept : l.flatMap decomposeOnce = l := by
    induction l with
    | nil => rfl
    | cons code l ih =>
      rw [List.forall_mem_cons] at settled
      rw [List.flatMap_cons, settled.1, ih settled.2, List.singleton_append]
  induction steps with
  | zero => rfl
  | succ steps ih => rw [decompose, kept, ih]

/-- Another step is the same in front and at the end. -/
theorem decompose_succ (steps : Nat) (l : List Nat) :
    decompose (steps + 1) l = (decompose steps l).flatMap decomposeOnce := by
  induction steps generalizing l with
  | zero => rfl
  | succ steps ih => rw [decompose, ih, decompose]

theorem decompose_succ_singleton :
    decompose (steps + 1) [code] = decompose steps (decomposeOnce code) := by
  rw [decompose, List.flatMap_singleton]

theorem mem_decompose {part : Nat} :
    part ∈ decompose steps l ↔ ∃ code ∈ l, part ∈ decompose steps [code] := by
  induction l with
  | nil =>
    have empty : decompose steps [] = [] := decompose_of_settled nofun
    rw [empty]
    exact ⟨nofun, fun ⟨_, within, _⟩ => nomatch within⟩
  | cons code l ih =>
    rw [← List.singleton_append, decompose_append, List.mem_append, ih]
    simp only [List.singleton_append, List.mem_cons, exists_eq_or_imp]

end Steps

/-- The codes that some steps do not decompose as far as possible, syllables apart: those of a row
with a part that one step less does not. -/
def deepMask : Nat → Nat
  | 0 => (CodeRanges.ofCodes (decompositions.map (·.1))).mask
  | steps + 1 =>
    let deep := decompositions.filter fun row => row.2.any (deepMask steps).testBit
    (CodeRanges.ofCodes (deep.map (·.1))).mask

/-- By induction on the steps: the parts of a code that is not deep are less deep. -/
theorem settles_of_shallow {steps code : Nat} (plain : ¬IsSyllable code)
    (shallow : (deepMask steps).testBit code = false) :
    ∀ part ∈ decompose steps [code], IsSettled part := by
  induction steps generalizing code with
  | zero =>
    rw [deepMask, CodeRanges.testBit_mask, CodeRanges.has_ofCodes, decide_eq_false_iff_not]
      at shallow
    intro part within
    rw [List.mem_singleton.mp within]
    exact settled_of_not_mem plain shallow
  | succ steps ih =>
    rw [deepMask, CodeRanges.testBit_mask, CodeRanges.has_ofCodes, decide_eq_false_iff_not]
      at shallow
    rw [decompose_succ_singleton]
    obtain settled | listed := settled_or_mem plain
    · rw [decompose_of_settled (by rw [settled]; simpa)]
      rw [settled]
      simpa
    · intro part within
      obtain ⟨middle, first, within⟩ := mem_decompose.mp within
      refine ih ((regular_of_mem listed).2.2.2.2 middle first).1 ?_ part within
      refine Bool.eq_false_iff.mpr fun deep => shallow ?_
      have kept : (code, decomposeOnce code) ∈
          decompositions.filter fun row => row.2.any (deepMask steps).testBit :=
        List.mem_filter.mpr ⟨listed, List.any_eq_true.mpr ⟨middle, first, deep⟩⟩
      exact List.mem_map_of_mem (f := (·.1)) kept

/-- Three steps decompose every code as far as possible. -/
theorem settles (code : Nat) : ∀ part ∈ decompose 3 [code], IsSettled part := by
  by_cases syllable : IsSyllable code
  · rw [decompose_succ_singleton]
    have parts : ∀ part ∈ decomposeOnce code, IsSettled part := fun part within =>
      settled_of_part (part_of_mem_decomposeOnce syllable within)
    rwa [decompose_of_settled parts]
  · have none : deepMask 3 = 0 := by decide +kernel
    exact settles_of_shallow syllable (by rw [none, Nat.zero_testBit])

/-! ### Decomposition as far as possible -/

section Decomposed

variable {l l' : List Nat} {code : Nat}

/-- The text decomposed as far as possible. -/
def decomposed (codes : List Nat) : List Nat :=
  decompose decompositionSteps codes

theorem decomposed_append (l l' : List Nat) :
    decomposed (l ++ l') = decomposed l ++ decomposed l' :=
  decompose_append _ l l'

theorem decomposed_of_settled (settled : ∀ code ∈ l, IsSettled code) : decomposed l = l :=
  decompose_of_settled settled

theorem decomposed_of_isSettled (settled : IsSettled code) : decomposed [code] = [code] :=
  decomposed_of_settled (List.forall_mem_singleton.mpr settled)

theorem decomposed_eq (l : List Nat) : decomposed l = decompose 3 l := by
  have settled : ∀ part ∈ decompose 3 l, IsSettled part := fun part within => by
    obtain ⟨code, -, within⟩ := mem_decompose.mp within
    exact settles code part within
  have kept : decompose 1 (decompose 3 l) = decompose 3 l := decompose_of_settled settled
  show decompose (3 + 1) l = decompose 3 l
  rw [decompose_succ]
  exact kept

theorem settled_of_mem_decomposed (within : code ∈ decomposed l) : IsSettled code := by
  rw [decomposed_eq] at within
  obtain ⟨origin, -, within⟩ := mem_decompose.mp within
  exact settles origin code within

/-- Since three steps are enough for all codes, four are enough for what the first one gives. -/
theorem decomposed_singleton : decomposed [code] = decomposed (decomposeOnce code) := by
  rw [decomposed_eq (decomposeOnce code)]
  exact decompose_succ_singleton

end Decomposed

/-! ## Pairs that compose -/

theorem nodup_pairs : (pairDecompositions.map (·.1)).Nodup := by
  have ascending : (pairDecompositions.map (·.1)).IsChain (· < ·) := by decide +kernel
  exact (List.isChain_iff_pairwise.mp ascending).imp Nat.ne_of_lt

theorem decomposeOnce_of_mem {code first second : Nat}
    (listed : (code, first, second) ∈ pairDecompositions) :
    decomposeOnce code = [first, second] := by
  have row : (code, [first, second]) ∈ decompositions :=
    List.mem_append_left _ (List.mem_map_of_mem listed)
  have plain : ¬IsSyllable code := (regular_of_mem row).2.2.1
  have found : pairDecompositions.find? (·.1 = code) = some (code, first, second) := by
    cases found : pairDecompositions.find? (·.1 = code) with
    | none =>
      have other := List.find?_eq_none.mp found _ listed
      exact absurd (decide_eq_true rfl) other
    | some row =>
      have same := List.find?_some found
      rw [decide_eq_true_eq] at same
      exact congrArg some (List.inj_on_of_nodup_map nodup_pairs
        (List.mem_of_find?_eq_some found) listed same)
  unfold IsSyllable at plain
  rw [decomposeOnce, if_neg plain, found]

section Compose

variable {first second code : Nat}

theorem mem_of_compose? (composed : compose? first second = some code) :
    composeHangul? first second = some code ∨ (code, first, second) ∈ pairDecompositions := by
  obtain hangul | ⟨-, table⟩ := Option.or_eq_some_iff.mp composed
  · exact .inl hangul
  · obtain ⟨row, found, rfl⟩ := Option.map_eq_some_iff.mp table
    have same := List.find?_some found
    simp only [Bool.and_eq_true, decide_eq_true_eq] at same
    obtain ⟨⟨rfl, rfl⟩, -⟩ := same
    exact .inr (List.mem_of_find?_eq_some found)

/-- A syllable comes from a consonant and a vowel, or from an open syllable and a consonant. -/
theorem cases_of_composeHangul? (composed : composeHangul? first second = some code) :
    ((0x1100 ≤ first ∧ first < 0x1113) ∧ (0x1161 ≤ second ∧ second < 0x1176) ∧
      code = 0xAC00 + ((first - 0x1100) * 21 + (second - 0x1161)) * 28) ∨
    (IsSyllable first ∧ (first - 0xAC00) % 28 = 0 ∧ (0x11A7 < second ∧ second < 0x11C3) ∧
      code = first + (second - 0x11A7)) := by
  replace composed : (if 0x1100 ≤ first ∧ first < 0x1113 ∧ 0x1161 ≤ second ∧ second < 0x1176 then
      some (0xAC00 + ((first - 0x1100) * 21 + (second - 0x1161)) * 28)
    else if 0xAC00 ≤ first ∧ first < 0xAC00 + 11172 ∧ (first - 0xAC00) % 28 = 0 ∧
        0x11A7 < second ∧ second < 0x11C3 then
      some (first + (second - 0x11A7))
    else none) = some code := composed
  split at composed
  · next bounds =>
    exact .inl ⟨⟨bounds.1, bounds.2.1⟩, bounds.2.2, (Option.some.inj composed).symm⟩
  · split at composed
    · next bounds =>
      exact .inr ⟨⟨bounds.1, bounds.2.1⟩, bounds.2.2.1, bounds.2.2.2,
        (Option.some.inj composed).symm⟩
    · cases composed

theorem decomposeOnce_of_composeHangul? (composed : composeHangul? first second = some code) :
    decomposeOnce code = decomposeOnce first ++ [second] := by
  obtain ⟨leading, vowel, place⟩ | ⟨syllable, bare, trailing, place⟩ :=
    cases_of_composeHangul? composed
  · have settled : decomposeOnce first = [first] := settled_of_part (by omega)
    have syllable : IsSyllable code := by
      unfold IsSyllable hangulBase hangulCount
      omega
    have parts : first = 0x1100 + (code - 0xAC00) / 588 ∧
        second = 0x1161 + (code - 0xAC00) % 588 / 28 := by omega
    rw [settled, decomposeOnce_of_syllable syllable, if_pos (by omega), ← parts.1, ← parts.2]
    rfl
  · have bounds := syllable
    unfold IsSyllable hangulBase hangulCount at bounds
    have closed : IsSyllable code := by
      unfold IsSyllable hangulBase hangulCount
      omega
    have same : (code - 0xAC00) / 588 = (first - 0xAC00) / 588 ∧
        (code - 0xAC00) % 588 / 28 = (first - 0xAC00) % 588 / 28 ∧
        0x11A7 + (code - 0xAC00) % 28 = second := by omega
    rw [decomposeOnce_of_syllable syllable, if_pos bare, decomposeOnce_of_syllable closed,
      if_neg (by omega), same.1, same.2.1, same.2.2, List.append_nil]

/-- Two codes that compose decompose to what their composition does. -/
theorem decomposed_of_compose? (composed : compose? first second = some code) :
    decomposed [code] = decomposed [first] ++ decomposed [second] := by
  obtain hangul | listed := mem_of_compose? composed
  · rw [decomposed_singleton, decomposeOnce_of_composeHangul? hangul,
      decomposed_append, ← decomposed_singleton]
  · rw [decomposed_singleton, decomposeOnce_of_mem listed, ← List.singleton_append,
      decomposed_append]

end Compose

end Tenancy.Text
