import Tenancy.Proofs.Decomposition

/-!
# Composed texts are composed

Composing twice is composing once. A composition can be taken apart again: up to the order of marks,
its decomposition is the text that was composed.

* `placeMark_comm`: marks of different classes come into order whichever is put in first.
* `orderMarks_decompose_composeFrom`: by induction on the text behind a character, composing keeps
  the decomposed text up to order.
* `normal_normal`, `normal_append_point`: the composed form is a normal form, part by part of a
  text with points.
-/

namespace Tenancy.Text

/-! ## The order of marks -/

section Order

variable {code other : Nat} {l l' : List Nat}

/-- Of two marks, the one of lower class comes first, whichever is put in first. -/
theorem placeMark_comm
    (lower : 0 < combiningClass code ∧ combiningClass code < combiningClass other) (l : List Nat) :
    placeMark code (placeMark other l) = placeMark other (placeMark code l) := by
  have higher : ¬(0 < combiningClass other ∧ combiningClass other < combiningClass code) := by omega
  induction l with
  | nil => simp only [placeMark, if_pos lower, if_neg higher]
  | cons next l ih =>
    by_cases below : 0 < combiningClass next ∧ combiningClass next < combiningClass code
    · have far : 0 < combiningClass next ∧ combiningClass next < combiningClass other := by omega
      simp only [placeMark, if_pos below, if_pos far, ih]
    · by_cases far : 0 < combiningClass next ∧ combiningClass next < combiningClass other
      · simp only [placeMark, if_neg below, if_pos far, if_pos lower]
      · simp only [placeMark, if_neg below, if_neg far, if_pos lower, if_neg higher]

theorem orderMarks_cons : orderMarks (code :: l) = placeMark code (orderMarks l) :=
  rfl

/-- Where a mark is put in does not matter to the order that comes out. -/
theorem orderMarks_placeMark : orderMarks (placeMark code l) = placeMark code (orderMarks l) := by
  induction l with
  | nil => rfl
  | cons next l ih =>
    rw [placeMark]
    split
    · next lower => rw [orderMarks_cons, ih, placeMark_comm lower, orderMarks_cons]
    · rfl

theorem orderMarks_orderMarks : orderMarks (orderMarks l) = orderMarks l := by
  induction l with
  | nil => rfl
  | cons code l ih => rw [orderMarks_cons, orderMarks_placeMark, ih]

theorem orderMarks_append_congr (same : orderMarks l = orderMarks l') (front : List Nat) :
    orderMarks (front ++ l) = orderMarks (front ++ l') := by
  induction front with
  | nil => exact same
  | cons code front ih => rw [List.cons_append, orderMarks_cons, ih, List.cons_append,
      orderMarks_cons]

/-- A mark may be moved past marks of lower classes. -/
theorem orderMarks_past {passed : List Nat}
    (lower : ∀ m ∈ passed, 0 < combiningClass m ∧ combiningClass m < combiningClass code) :
    orderMarks (code :: (passed ++ l)) = orderMarks (passed ++ code :: l) := by
  induction passed with
  | nil => rfl
  | cons m passed ih =>
    rw [List.forall_mem_cons] at lower
    rw [List.cons_append, List.cons_append, orderMarks_cons, orderMarks_cons,
      ← placeMark_comm lower.1, orderMarks_cons, ← ih lower.2, orderMarks_cons]

theorem mem_placeMark : other ∈ placeMark code l ↔ other = code ∨ other ∈ l := by
  induction l with
  | nil => exact List.mem_cons
  | cons next l ih =>
    rw [placeMark]
    split
    · rw [List.mem_cons, ih, List.mem_cons, or_left_comm]
    · rw [List.mem_cons]

theorem mem_orderMarks : other ∈ orderMarks l ↔ other ∈ l := by
  induction l with
  | nil => exact Iff.rfl
  | cons code l ih => rw [orderMarks_cons, mem_placeMark, ih, List.mem_cons]

end Order

/-! ## Composition -/

section Composition

variable {base code : Nat} {passed rest : List Nat}

/-- One step of composing: the code composes with the one in front, or it is a new one for what is
behind, or it stays between them. -/
theorem composeFrom_cons (base code : Nat) (passed rest : List Nat) :
    (∃ composed, compose? base code = some composed ∧ combiningClass base = 0 ∧
      (∀ m ∈ passed, combiningClass m < combiningClass code) ∧
      composeFrom base passed (code :: rest) = composeFrom composed passed rest) ∨
    (combiningClass code = 0 ∧
      composeFrom base passed (code :: rest) = base :: passed.reverse ++ composeFrom code [] rest) ∨
    (0 < combiningClass code ∧
      composeFrom base passed (code :: rest) = composeFrom base (code :: passed) rest) := by
  rw [composeFrom]
  split
  · next composed found =>
    split at found
    · cases found
    · next clear =>
      rw [not_or, not_not, List.any_eq_true, not_exists] at clear
      refine .inl ⟨composed, found, clear.1, fun m within => ?_, rfl⟩
      have := clear.2 m
      rw [decide_eq_true_eq, not_and, Nat.not_le] at this
      exact this within
  · split
    · next zero => exact .inr (.inl ⟨zero, rfl⟩)
    · next mark => exact .inr (.inr ⟨Nat.pos_of_ne_zero mark, rfl⟩)

/-- Composing keeps the decomposed text up to the order of marks. By induction on the text; the
marks between are real ones, so that a mark that composes may be moved past them. -/
theorem orderMarks_decompose_composeFrom (settled : ∀ code ∈ passed ++ rest, IsSettled code)
    (marks : ∀ m ∈ passed, 0 < combiningClass m) :
    orderMarks (decomposed (composeFrom base passed rest)) =
      orderMarks (decomposed [base] ++ (passed.reverse ++ rest)) := by
  induction rest generalizing base passed with
  | nil =>
    have kept : decomposed passed.reverse = passed.reverse :=
      decomposed_of_settled fun m within =>
        settled m (List.mem_append_left _ (List.mem_reverse.mp within))
    rw [composeFrom, ← List.singleton_append, decomposed_append, kept, List.append_nil]
  | cons code rest ih =>
    have here : IsSettled code := settled code (List.mem_append_right _ List.mem_cons_self)
    have alone : decomposed [code] = [code] := decomposed_of_isSettled here
    have front : ∀ m ∈ passed, IsSettled m := fun m within =>
      settled m (List.mem_append_left _ within)
    have behind : ∀ other ∈ rest, IsSettled other := fun other within =>
      settled other (List.mem_append_right _ (List.mem_cons_of_mem _ within))
    obtain ⟨composed, found, -, lower, step⟩ | ⟨-, step⟩ | ⟨mark, step⟩ :=
      composeFrom_cons base code passed rest
    case inl =>
      rw [step, ih (List.forall_mem_append.mpr ⟨front, behind⟩) marks,
        decomposed_of_compose? found, alone, List.append_assoc]
      refine orderMarks_append_congr ?_ _
      exact orderMarks_past fun m within => by
        rw [List.mem_reverse] at within
        exact ⟨marks m within, lower m within⟩
    case inr.inl =>
      have kept : decomposed passed.reverse = passed.reverse :=
        decomposed_of_settled fun m within => front m (List.mem_reverse.mp within)
      rw [step, ← List.singleton_append, List.append_assoc, decomposed_append, decomposed_append,
        kept]
      have again : orderMarks (decomposed (composeFrom code [] rest)) =
          orderMarks (decomposed [code] ++ rest) :=
        ih behind fun _ within => nomatch within
      rw [alone] at again
      exact orderMarks_append_congr (orderMarks_append_congr again _) _
    case inr.inr =>
      have more : ∀ m ∈ code :: passed, 0 < combiningClass m :=
        List.forall_mem_cons.mpr ⟨mark, marks⟩
      have all : ∀ other ∈ (code :: passed) ++ rest, IsSettled other :=
        List.forall_mem_append.mpr ⟨List.forall_mem_cons.mpr ⟨here, front⟩, behind⟩
      rw [step, ih all more, List.reverse_cons, List.append_assoc, List.singleton_append]

/-- Every code composed with what is behind it. -/
def composeAll : List Nat → List Nat
  | [] => []
  | base :: rest => composeFrom base [] rest

/-- The composed form of codes. -/
def composedForm (codes : List Nat) : List Nat :=
  composeAll (orderMarks (decomposed codes))

/-- The composed form says all of a text but the order of marks. -/
theorem orderMarks_decomposed_composedForm (l : List Nat) :
    orderMarks (decomposed (composedForm l)) = orderMarks (decomposed l) := by
  unfold composedForm
  cases parts : orderMarks (decomposed l) with
  | nil => rfl
  | cons base rest =>
    have settled : ∀ code ∈ base :: rest, IsSettled code := fun code within => by
      rw [← parts, mem_orderMarks] at within
      exact settled_of_mem_decomposed within
    rw [List.forall_mem_cons] at settled
    have same : orderMarks (decomposed (composeAll (base :: rest))) =
        orderMarks (decomposed [base] ++ rest) :=
      orderMarks_decompose_composeFrom settled.2 fun _ within => nomatch within
    rw [same, decomposed_of_isSettled settled.1, List.singleton_append, ← parts,
      orderMarks_orderMarks]

theorem composedForm_composedForm (l : List Nat) :
    composedForm (composedForm l) = composedForm l := by
  rw [composedForm, orderMarks_decomposed_composedForm, ← composedForm]

/-- What is true of the codes of a text and of all that is composed is true of the composed text. -/
theorem of_mem_composeFrom {P : Nat → Prop}
    (closed : ∀ {first second code}, compose? first second = some code → P code) (start : P base)
    (between : ∀ m ∈ passed, P m) (behind : ∀ other ∈ rest, P other) :
    ∀ other ∈ composeFrom base passed rest, P other := by
  induction rest generalizing base passed with
  | nil =>
    rw [composeFrom, List.forall_mem_cons]
    exact ⟨start, fun m within => between m (List.mem_reverse.mp within)⟩
  | cons code rest ih =>
    rw [List.forall_mem_cons] at behind
    obtain ⟨composed, found, -, -, step⟩ | ⟨-, step⟩ | ⟨-, step⟩ :=
      composeFrom_cons base code passed rest
    case inl => exact step ▸ ih (closed found) between behind.2
    case inr.inl =>
      rw [step, List.forall_mem_append, List.forall_mem_cons]
      exact ⟨⟨start, fun m within => between m (List.mem_reverse.mp within)⟩,
        ih behind.1 (fun _ within => nomatch within) behind.2⟩
    case inr.inr => exact step ▸ ih start (List.forall_mem_cons.mpr ⟨behind.1, between⟩) behind.2

end Composition

/-! ## Characters -/

theorem valid_of_mem_decomposeOnce {code part : Nat} (valid : code.isValidChar)
    (within : part ∈ decomposeOnce code) : part.isValidChar := by
  by_cases syllable : IsSyllable code
  · have bounds := part_of_mem_decomposeOnce syllable within
    exact .inl (by omega)
  · obtain settled | listed := settled_or_mem syllable
    · rw [settled, List.mem_singleton] at within
      exact within ▸ valid
    · exact ((regular_of_mem listed).2.2.2.2 part within).2

theorem valid_of_compose? {first second code : Nat} (composed : compose? first second = some code) :
    code.isValidChar := by
  obtain hangul | listed := mem_of_compose? composed
  · obtain ⟨leading, vowel, place⟩ | ⟨syllable, bare, trailing, place⟩ :=
      cases_of_composeHangul? hangul
    · exact .inl (by omega)
    · unfold IsSyllable hangulBase hangulCount at syllable
      exact .inl (by omega)
  · have row : (code, [first, second]) ∈ decompositions :=
      List.mem_append_left _ (List.mem_map_of_mem listed)
    exact (regular_of_mem row).2.2.2.1

theorem valid_of_mem_composedForm {l : List Nat} (valid : ∀ code ∈ l, code.isValidChar) :
    ∀ code ∈ composedForm l, code.isValidChar := by
  have apart (steps : Nat) : ∀ code ∈ decompose steps l, code.isValidChar := by
    induction steps with
    | zero => exact valid
    | succ steps ih =>
      intro part within
      rw [decompose_succ, List.mem_flatMap] at within
      obtain ⟨code, origin, within⟩ := within
      exact valid_of_mem_decomposeOnce (ih code origin) within
  have ordered : ∀ code ∈ orderMarks (decomposed l), code.isValidChar :=
    fun code within => apart _ code (mem_orderMarks.mp within)
  unfold composedForm
  cases parts : orderMarks (decomposed l) with
  | nil => exact fun _ within => nomatch within
  | cons base rest =>
    rw [parts, List.forall_mem_cons] at ordered
    exact of_mem_composeFrom valid_of_compose? ordered.1 (fun _ within => nomatch within) ordered.2

/-! ## Starters -/

theorem combiningClass_of_lt {code : Nat} (ascii : code < 128) : combiningClass code = 0 := by
  have all : combiningRanges.all fun r => 128 ≤ r.1 := by decide +kernel
  have none : (combiningRanges.find? fun r => r.1 ≤ code && code ≤ r.2.1) = none := by
    rw [List.find?_eq_none]
    intro r listed holds
    have high : 128 ≤ r.1 := of_decide_eq_true (List.all_eq_true.mp all r listed)
    rw [Bool.and_eq_true, decide_eq_true_eq] at holds
    omega
  rw [combiningClass, none]

/-- No ASCII character composes with one before it, and the point composes with nothing. -/
theorem compose?_eq_none {first second : Nat} (plain : second < 128 ∨ first = 0x2E) :
    compose? first second = none := by
  have all : pairDecompositions.all fun row => 128 ≤ row.2.2 && row.2.1 != 0x2E := by
    decide +kernel
  refine Option.eq_none_iff_forall_ne_some.mpr fun code composed => ?_
  obtain hangul | listed := mem_of_compose? composed
  · obtain ⟨leading, vowel, -⟩ | ⟨syllable, -, trailing, -⟩ := cases_of_composeHangul? hangul
    · omega
    · unfold IsSyllable hangulBase at syllable
      omega
  · have row := List.all_eq_true.mp all _ listed
    rw [Bool.and_eq_true, decide_eq_true_eq, bne_iff_ne] at row
    obtain low | point := plain
    · exact absurd low (Nat.not_lt.mpr row.1)
    · exact row.2 point

section Starters

variable {base code m : Nat} {l l' passed rest : List Nat}

theorem placeMark_append_starter (zero : combiningClass code = 0) (m : Nat) (l l' : List Nat) :
    placeMark m (l ++ code :: l') = placeMark m l ++ code :: l' := by
  induction l with
  | nil =>
    have first : ¬(0 < combiningClass code ∧ combiningClass code < combiningClass m) := by omega
    rw [List.nil_append, placeMark, placeMark, if_neg first, List.singleton_append]
  | cons next l ih =>
    rw [List.cons_append, placeMark, placeMark, ih]
    split <;> rfl

/-- Marks stay behind the starter before them. -/
theorem orderMarks_append_starter (zero : combiningClass code = 0) (l l' : List Nat) :
    orderMarks (l ++ code :: l') = orderMarks l ++ code :: orderMarks l' := by
  induction l with
  | nil =>
    show placeMark code (orderMarks l') = code :: orderMarks l'
    cases orderMarks l' with
    | nil => rfl
    | cons next l =>
      have first : ¬(0 < combiningClass next ∧ combiningClass next < combiningClass code) := by
        omega
      rw [placeMark, if_neg first]
  | cons next l ih =>
    rw [List.cons_append, orderMarks_cons, ih, placeMark_append_starter zero, orderMarks_cons]

theorem composeFrom_of_ascii (ascii : ∀ code ∈ rest, code < 128) :
    composeFrom base [] rest = base :: rest := by
  induction rest generalizing base with
  | nil => rfl
  | cons code rest ih =>
    rw [List.forall_mem_cons] at ascii
    obtain ⟨composed, found, -⟩ | ⟨-, step⟩ | ⟨mark, -⟩ := composeFrom_cons base code [] rest
    · rw [compose?_eq_none (.inl ascii.1)] at found
      cases found
    · rw [step, ih ascii.2]
      rfl
    · rw [combiningClass_of_lt ascii.1] at mark
      cases mark

theorem composedForm_of_ascii (ascii : ∀ code ∈ l, code < 128) : composedForm l = l := by
  have apart : decomposed l = l :=
    decomposed_of_settled fun code within => settled_of_lt (ascii code within)
  have ordered : orderMarks l = l := by
    clear apart
    induction l with
    | nil => rfl
    | cons code l ih =>
      rw [List.forall_mem_cons] at ascii
      have front := orderMarks_append_starter (combiningClass_of_lt ascii.1) [] l
      rw [List.nil_append] at front
      rw [front, ih ascii.2]
      rfl
  rw [composedForm, apart, ordered]
  cases l with
  | nil => rfl
  | cons base rest => exact composeFrom_of_ascii (List.forall_mem_cons.mp ascii).2

/-- Marks behind a point that another mark comes before are composed with neither of them. -/
theorem composeFrom_point_mark (mark : 0 < combiningClass m) :
    composeFrom 0x2E (passed ++ [m]) rest = 0x2E :: composeFrom m passed rest := by
  induction rest generalizing passed with
  | nil => rw [composeFrom, composeFrom, List.reverse_append, List.reverse_singleton,
      List.singleton_append]
  | cons code rest ih =>
    have point : compose? 0x2E code = none := compose?_eq_none (.inr rfl)
    obtain ⟨_, found, -⟩ | ⟨zero, step⟩ | ⟨other, step⟩ :=
      composeFrom_cons 0x2E code (passed ++ [m]) rest
    · rw [point] at found
      cases found
    · obtain ⟨_, -, start, -⟩ | ⟨-, step'⟩ | ⟨other, -⟩ := composeFrom_cons m code passed rest
      · omega
      · rw [step, step', List.reverse_append, List.reverse_singleton, List.singleton_append,
          List.cons_append]
      · omega
    · obtain ⟨_, -, start, -⟩ | ⟨zero, -⟩ | ⟨-, step'⟩ := composeFrom_cons m code passed rest
      · omega
      · omega
      · rw [step, step', ← ih, List.cons_append]

theorem composeFrom_point (rest : List Nat) :
    composeFrom 0x2E [] rest = 0x2E :: composeAll rest := by
  cases rest with
  | nil => rfl
  | cons code rest =>
    obtain ⟨_, found, -⟩ | ⟨-, step⟩ | ⟨mark, step⟩ := composeFrom_cons 0x2E code [] rest
    · rw [compose?_eq_none (.inr rfl)] at found
      cases found
    · exact step
    · rw [step, ← List.nil_append [code], composeFrom_point_mark mark]
      rfl

theorem composeFrom_append_point :
    composeFrom base passed (l ++ 0x2E :: l') =
      composeFrom base passed l ++ composeFrom 0x2E [] l' := by
  induction l generalizing base passed with
  | nil =>
    obtain ⟨_, found, -⟩ | ⟨-, step⟩ | ⟨mark, -⟩ := composeFrom_cons base 0x2E passed l'
    · rw [compose?_eq_none (.inl (by decide))] at found
      cases found
    · exact step
    · rw [combiningClass_of_lt (by decide)] at mark
      cases mark
  | cons code l ih =>
    rw [List.cons_append, composeFrom, composeFrom]
    split
    · exact ih
    · split
      · rw [ih, List.append_assoc]
      · exact ih

/-- A text with a point is composed before and behind the point. -/
theorem composedForm_append_point (l l' : List Nat) :
    composedForm (l ++ 0x2E :: l') = composedForm l ++ 0x2E :: composedForm l' := by
  have point : decomposed [0x2E] = [0x2E] := decomposed_of_isSettled (settled_of_lt (by decide))
  have apart : decomposed (l ++ 0x2E :: l') = decomposed l ++ 0x2E :: decomposed l' := by
    rw [decomposed_append, ← List.singleton_append, decomposed_append, point, List.singleton_append]
  unfold composedForm
  rw [apart, orderMarks_append_starter (combiningClass_of_lt (by decide))]
  cases orderMarks (decomposed l) with
  | nil => exact composeFrom_point _
  | cons base rest =>
    show composeFrom base [] (rest ++ 0x2E :: _) = composeFrom base [] rest ++ _
    rw [composeFrom_append_point, composeFrom_point]

end Starters

/-! ## Texts -/

section Texts

variable (s t : List Char)

theorem normal_eq : normal s = (composedForm (s.map Char.toNat)).map Char.ofNat := by
  unfold normal
  split
  · next ascii =>
    rw [List.all_eq_true] at ascii
    have plain : ∀ code ∈ s.map Char.toNat, code < 128 :=
      List.forall_mem_map.mpr fun c within => of_decide_eq_true (ascii c within)
    rw [composedForm_of_ascii plain, List.map_map]
    simp only [Function.comp_def, Char.ofNat_toNat, List.map_id']
  · rw [composedForm, decomposed]
    cases orderMarks (decompose decompositionSteps (s.map Char.toNat)) with
    | nil => rfl
    | cons base rest => rfl

theorem toNat_normal : (normal s).map Char.toNat = composedForm (s.map Char.toNat) := by
  have valid : ∀ code ∈ composedForm (s.map Char.toNat), code.isValidChar :=
    valid_of_mem_composedForm (List.forall_mem_map.mpr fun c _ => c.valid)
  have same : ∀ code ∈ composedForm (s.map Char.toNat), (Char.ofNat code).toNat = code :=
    fun code within => by
      rw [Char.ofNat, dif_pos (valid code within)]
      rfl
  rw [normal_eq, List.map_map]
  exact (List.map_congr_left same).trans (List.map_id' _)

/-- The composed form of a text is composed. -/
theorem normal_normal : normal (normal s) = normal s := by
  rw [normal_eq (normal s), toNat_normal, composedForm_composedForm, ← normal_eq]

theorem normal_append_point : normal (s ++ '.' :: t) = normal s ++ '.' :: normal t := by
  have codes : (s ++ '.' :: t).map Char.toNat = s.map Char.toNat ++ 0x2E :: t.map Char.toNat :=
    List.map_append
  rw [normal_eq, codes, composedForm_append_point, List.map_append, List.map_cons, ← normal_eq,
    ← normal_eq]

end Texts

end Tenancy.Text
