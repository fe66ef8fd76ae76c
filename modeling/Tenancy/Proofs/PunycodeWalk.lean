import Tenancy.Text.Punycode

/-!
# The walk of Punycode

The walk that writes Punycode passes the whole text for every code; the one that reads inserts into
what it has so far. Both are at the same place when the text splits into what the first one has
passed and what is in front of it, and each part holds those codes that the second one has inserted
in it (`Splits`).

* `foldl_pass_insert`: one passage, up to the first code that is put in.
* `onward_same`, `onward_next`: from one insertion to the next, for the same code or a higher one.
* `onward_insert`: in both cases the places counted are the number that is read.
* `walk_start`: the walk before the first insertion.
-/

namespace Tenancy.Text.Punycode

/-! ## Codes in ascending order -/

section Ascending

variable {code next : Nat} {codes : List Nat}

theorem filter_lt_of_le {l : List Nat} (low : l.filter (· ≤ code) = codes) :
    l.filter (· < code) = codes.filter (· < code) := by
  rw [← low, List.filter_filter]
  refine List.filter_congr fun c _ => ?_
  rw [← Bool.decide_and]
  exact decide_eq_decide.mpr ⟨fun below => ⟨below, Nat.le_of_lt below⟩, And.left⟩

theorem filter_eq_self_of_forall {l : List Nat} (below : ∀ c ∈ l, c < code) :
    l.filter (· < code) = l :=
  List.filter_eq_self.mpr fun c within => decide_eq_true (below c within)

/-- Of what is not higher, all but the highest at the end is lower. -/
theorem filter_lt_concat {l : List Nat} (below : ∀ c ∈ codes, c < code)
    (seen : l.filter (· ≤ code) = codes ++ [code]) : l.filter (· < code) = codes := by
  have itself : [code].filter (· < code) = [] := by simp
  rw [filter_lt_of_le seen, List.filter_append, filter_eq_self_of_forall below, itself,
    List.append_nil]

/-- In ascending order, the least of the higher codes comes first of them. -/
theorem filter_lt_of_least {l : List Nat} (sorted : l.Pairwise (· < ·)) (within : next ∈ l)
    (higher : code < next) (least : ∀ c ∈ l, code < c → next ≤ c) :
    l.filter (code < ·) = next :: l.filter (next < ·) := by
  induction l with
  | nil => cases within
  | cons c l ih =>
    rw [List.pairwise_cons] at sorted
    rw [List.forall_mem_cons] at least
    rw [List.filter_cons, List.filter_cons]
    rcases List.mem_cons.mp within with rfl | within
    · have kept (bound : Nat) (low : bound ≤ next) : l.filter (bound < ·) = l :=
        List.filter_eq_self.mpr fun c within =>
          decide_eq_true (Nat.lt_of_le_of_lt low (sorted.1 c within))
      rw [if_pos (decide_eq_true higher), if_neg (by simp), kept code (Nat.le_of_lt higher),
        kept next (Nat.le_refl next)]
    · have below := sorted.1 next within
      have passed : ¬code < c := fun above => absurd (least.1 above) (Nat.not_le.mpr below)
      rw [if_neg (by rwa [decide_eq_true_eq]), if_neg (by rw [decide_eq_true_eq]; omega),
        ih sorted.2 within least.2]

theorem eraseReps_loop {c : Nat} {l : List Nat} (sorted : (c :: l).Pairwise (· ≤ ·))
    (before : List Nat) :
    ∃ l', List.eraseRepsBy.loop (· == ·) c l before = before.reverse ++ c :: l' ∧
      (c :: l').Pairwise (· < ·) ∧ ∀ a, a ∈ c :: l' ↔ a ∈ c :: l := by
  induction l generalizing c before with
  | nil => exact ⟨[], List.reverse_cons, List.pairwise_singleton _ _, fun _ => Iff.rfl⟩
  | cons d l ih =>
    rw [List.pairwise_cons] at sorted
    by_cases same : c = d
    · subst same
      obtain ⟨l', step, ascending, listed⟩ := ih sorted.2 before
      refine ⟨l', ?_, ascending, fun a => ?_⟩
      · rw [List.eraseRepsBy.loop, beq_self_eq_true]
        exact step
      · rw [listed, List.mem_cons, List.mem_cons, List.mem_cons, ← or_assoc, or_self]
    · obtain ⟨l', step, ascending, listed⟩ := ih sorted.2 (c :: before)
      have less : ∀ a ∈ d :: l', c < a := fun a within => by
        have first := sorted.1 d List.mem_cons_self
        have next : d ≤ a := by
          rcases List.mem_cons.mp ((listed a).mp within) with rfl | behind
          · exact Nat.le_refl _
          · exact (List.pairwise_cons.mp sorted.2).1 a behind
        omega
      refine ⟨d :: l', ?_, List.pairwise_cons.mpr ⟨less, ascending⟩, fun a => ?_⟩
      · rw [List.eraseRepsBy.loop, beq_eq_false_iff_ne.mpr same]
        show List.eraseRepsBy.loop _ d l (c :: before) = _
        rw [step, List.reverse_cons, List.append_assoc, List.singleton_append]
      · rw [List.mem_cons, listed, List.mem_cons (b := c)]

/-- The codes of a list, each once and in ascending order. -/
theorem ascending_eraseReps (l : List Nat) :
    l.mergeSort.eraseReps.Pairwise (· < ·) ∧ ∀ c, c ∈ l.mergeSort.eraseReps ↔ c ∈ l := by
  have sorted : l.mergeSort.Pairwise (· ≤ ·) := by
    refine (List.pairwise_mergeSort (fun a b c below above => ?_) (fun a b => ?_) l).imp
      fun below => of_decide_eq_true below
    · exact decide_eq_true (Nat.le_trans (of_decide_eq_true below) (of_decide_eq_true above))
    · rw [Bool.or_eq_true, decide_eq_true_eq, decide_eq_true_eq]
      exact Nat.le_total a b
  have kept : ∀ c, c ∈ l.mergeSort ↔ c ∈ l := fun c => List.mem_mergeSort
  cases parts : l.mergeSort with
  | nil =>
    rw [parts] at kept
    exact ⟨List.Pairwise.nil, kept⟩
  | cons c rest =>
    rw [parts] at sorted kept
    obtain ⟨l', erased, ascending, listed⟩ := eraseReps_loop sorted []
    have same : (c :: rest).eraseReps = c :: l' := erased
    rw [same]
    exact ⟨ascending, fun a => (listed a).trans (kept a)⟩

/-- The codes beyond ASCII of a text, each once and in ascending order. -/
structure Ascending (all others : List Nat) : Prop where
  sorted : others.Pairwise (· < ·)
  mem_iff : ∀ c, c ∈ others ↔ c ∈ all ∧ 128 ≤ c

theorem ascending_others (all : List Nat) :
    Ascending all (all.filter (128 ≤ ·)).mergeSort.eraseReps := by
  obtain ⟨sorted, listed⟩ := ascending_eraseReps (all.filter (128 ≤ ·))
  exact ⟨sorted, fun c => by rw [listed, List.mem_filter, decide_eq_true_eq]⟩

end Ascending

/-! ## The walk for one code -/

section Pass

variable {basic code : Nat} {w : Walk} {l lower : List Nat}

/-- The walk behind a code that it puts in. -/
def Walk.insert (basic : Nat) (w : Walk) : Walk :=
  { signs := w.signs ++ writeNumber w.bias 36 w.delta
    delta := 0
    bias := adapt w.delta (w.count + 1) (w.count = basic)
    count := w.count + 1 }

/-- The walk behind some places more. -/
def Walk.skip (places : Nat) (w : Walk) : Walk :=
  { w with delta := w.delta + places }

theorem Walk.skip_skip (w : Walk) (m n : Nat) : (w.skip m).skip n = w.skip (m + n) := by
  show ({ w with delta := w.delta + m + n } : Walk) = _
  rw [Nat.add_assoc]
  rfl

theorem Walk.insert_skip (basic : Nat) (written : List Char) (bias count n : Nat) :
    (({ signs := written, delta := 0, bias, count } : Walk).skip n).insert basic =
      { signs := written ++ writeNumber bias 36 n, delta := 0,
        bias := adapt n (count + 1) (count = basic), count := count + 1 } := by
  rw [Walk.insert, Walk.skip, Nat.zero_add]

theorem foldl_pass_filter (basic code : Nat) (l : List Nat) (w : Walk) :
    (l.filter (· ≤ code)).foldl (Walk.pass basic code) w = l.foldl (Walk.pass basic code) w := by
  induction l generalizing w with
  | nil => rfl
  | cons c l ih =>
    by_cases below : c ≤ code
    · rw [List.filter_cons, if_pos (decide_eq_true below), List.foldl_cons, ih, List.foldl_cons]
    · have kept : w.pass basic code c = w := by
        rw [Walk.pass, if_neg (by omega), if_neg (by omega)]
      rw [List.filter_cons, if_neg (by rwa [decide_eq_true_eq]), ih, List.foldl_cons, kept]

theorem foldl_pass_lower (below : ∀ c ∈ l, c < code) :
    l.foldl (Walk.pass basic code) w = w.skip l.length := by
  induction l generalizing w with
  | nil => rfl
  | cons c l ih =>
    rw [List.forall_mem_cons] at below
    rw [List.foldl_cons, ih below.2, Walk.pass, if_pos below.1]
    show ({ w with delta := w.delta + 1 + l.length } : Walk) = _
    rw [Nat.add_assoc, Nat.add_comm 1]
    rfl

/-- The walk passes the lower codes in front of the first one that it looks for, puts that in, and
passes all higher ones unseen. -/
theorem foldl_pass_insert (below : ∀ c ∈ lower, c < code)
    (seen : l.filter (· ≤ code) = lower ++ [code]) :
    l.foldl (Walk.pass basic code) w = (w.skip lower.length).insert basic := by
  rw [← foldl_pass_filter, seen, List.foldl_append, foldl_pass_lower below]
  show Walk.pass basic code _ code = _
  rw [Walk.pass, if_neg (Nat.lt_irrefl code), if_pos rfl]
  rfl

end Pass

/-! ## The state of the reader -/

/-- The codes with one more at a place. -/
def put (codes : List Nat) (place code : Nat) : List Nat :=
  codes.take place ++ code :: codes.drop place

/-- What is known when the places in front of `passed` have been passed for `code`: no code is
higher, and those ahead are lower. -/
structure Progress (codes : List Nat) (code passed : Nat) : Prop where
  extended : 128 ≤ code
  inside : passed ≤ codes.length
  low : ∀ c ∈ codes, c ≤ code
  ahead : ∀ c ∈ codes.drop passed, c < code

section Put

variable {codes : List Nat} {code passed place : Nat}

theorem length_put (codes : List Nat) (place code : Nat) :
    (put codes place code).length = codes.length + 1 := by
  rw [put, List.length_append, List.length_cons, ← Nat.add_assoc, ← List.length_append,
    List.take_append_drop]

theorem put_eq (codes : List Nat) (place code : Nat) :
    put codes place code = codes.take place ++ [code] ++ codes.drop place := by
  rw [put, List.append_assoc, List.singleton_append]

theorem take_put (inside : place ≤ codes.length) (code : Nat) :
    (put codes place code).take (place + 1) = codes.take place ++ [code] := by
  rw [put_eq]
  exact List.take_left' (by rw [List.length_append, List.length_take_of_le inside]; rfl)

theorem drop_put (inside : place ≤ codes.length) (code : Nat) :
    (put codes place code).drop (place + 1) = codes.drop place := by
  rw [put_eq]
  exact List.drop_left' (by rw [List.length_append, List.length_take_of_le inside]; rfl)

/-- The reader goes on to the next place: it stands farther in the same passage, or in one for a
higher code. -/
theorem Progress.put (progress : Progress codes code passed) {rounds delta : Nat}
    (total : (codes.length + 1) * rounds + place = passed + delta) (inside : place ≤ codes.length) :
    Progress (put codes place (code + rounds)) (code + rounds) (place + 1) := by
  have onwards : code ≤ code + rounds := Nat.le_add_right _ _
  have ahead : ∀ c ∈ codes.drop place, c < code + rounds := by
    intro c listed
    cases rounds with
    | zero =>
      have farther : place = passed + delta := by
        rw [Nat.mul_zero, Nat.zero_add] at total
        exact total
      rw [farther, ← List.drop_drop] at listed
      exact progress.ahead c (List.mem_of_mem_drop listed)
    | succ rounds =>
      have := progress.low c (List.mem_of_mem_drop listed)
      omega
  refine ⟨Nat.le_trans progress.extended onwards, ?_, ?_, ?_⟩
  · rw [length_put]
    exact Nat.succ_le_succ inside
  · rw [Punycode.put, List.forall_mem_append, List.forall_mem_cons]
    exact ⟨fun c listed => Nat.le_trans (progress.low c (List.mem_of_mem_take listed)) onwards,
      Nat.le_refl _, fun c listed => Nat.le_of_lt (ahead c listed)⟩
  · rw [drop_put inside]
    exact ahead

end Put

/-! ## The walk between two insertions -/

/-- Where the walk for `code` is in a text when `codes` are inserted and those in front of the place
`passed` have been passed: behind `front` and in front of `back`. -/
structure Splits (all : List Nat) (code passed : Nat) (codes front back : List Nat) : Prop where
  whole : all = front ++ back
  passed_eq : front.filter (· ≤ code) = codes.take passed
  ahead_eq : back.filter (· < code) = codes.drop passed

/-- The walk from a place of a text on. -/
def Walk.onward (all : List Nat) (basic : Nat) (others : List Nat) (code : Nat) (back : List Nat)
    (w : Walk) : Walk :=
  Walk.run all basic (code + 1) ((back.foldl (Walk.pass basic code) w).skip 1)
    (others.filter (code < ·))

section Between

variable {all codes front back others : List Nat} {basic code next passed place : Nat}

theorem Splits.inserted (inside : place ≤ codes.length)
    (split : Splits all next (place + 1) (put codes place next) front back) :
    front.filter (· ≤ next) = codes.take place ++ [next] ∧
      back.filter (· < next) = codes.drop place :=
  ⟨split.passed_eq.trans (take_put inside next), split.ahead_eq.trans (drop_put inside next)⟩

/-- The next code is the same: the walk goes on to the next place where it stands. -/
theorem onward_same (progress : Progress codes code passed) (ordered : passed ≤ place)
    (inside : place ≤ codes.length)
    (split : Splits all code (place + 1) (put codes place code) front back) :
    ∃ front' back', Splits all code passed codes front' back' ∧ ∀ w,
      Walk.onward all basic others code back' w =
        ((w.skip (place - passed)).insert basic).onward all basic others code back := by
  obtain ⟨seen, rest⟩ := split.inserted inside
  have between : codes.take place =
      codes.take passed ++ (codes.drop passed).take (place - passed) := by
    rw [← List.take_add, Nat.add_sub_cancel' ordered]
  have after : (codes.drop passed).take (place - passed) ++ codes.drop place =
      codes.drop passed := by
    have same : codes.drop place = (codes.drop passed).drop (place - passed) := by
      rw [List.drop_drop, Nat.add_sub_cancel' ordered]
    rw [same, List.take_append_drop]
  rw [between, List.append_assoc] at seen
  obtain ⟨front', middle, whole, before, seen⟩ := List.filter_eq_append_iff.mp seen
  have below : ∀ c ∈ (codes.drop passed).take (place - passed), c < code :=
    fun c within => progress.ahead c (List.mem_of_mem_take within)
  refine ⟨front', middle ++ back, ⟨?_, before, ?_⟩, fun w => ?_⟩
  · rw [split.whole, whole, List.append_assoc]
  · rw [List.filter_append, filter_lt_concat below seen, rest, after]
  · have passes : ((codes.drop passed).take (place - passed)).length = place - passed := by
      refine List.length_take_of_le ?_
      rw [List.length_drop]
      omega
    rw [Walk.onward, List.foldl_append, foldl_pass_insert below seen, passes]
    rfl

/-- All codes below the next one are inserted already. -/
theorem Splits.filter_lt (progress : Progress codes code passed) (higher : code < next)
    (inside : place ≤ codes.length)
    (split : Splits all next (place + 1) (put codes place next) front back) :
    all.filter (· < next) = codes := by
  obtain ⟨seen, rest⟩ := split.inserted inside
  have below : ∀ c ∈ codes.take place, c < next := fun c within =>
    Nat.lt_of_le_of_lt (progress.low c (List.mem_of_mem_take within)) higher
  rw [split.whole, List.filter_append, filter_lt_concat below seen, rest, List.take_append_drop]

/-- The next code comes first of those that are still to be passed for. -/
theorem Splits.filter_others (progress : Progress codes code passed) (higher : code < next)
    (inside : place ≤ codes.length) (ascending : Ascending all others)
    (split : Splits all next (place + 1) (put codes place next) front back) :
    others.filter (code < ·) = next :: others.filter (next < ·) := by
  have here : next ∈ all := by
    have within : next ∈ front.filter (· ≤ next) :=
      (split.inserted inside).1 ▸ List.mem_append_right _ List.mem_cons_self
    exact split.whole ▸ List.mem_append_left _ (List.mem_filter.mp within).1
  have extended : 128 ≤ next := Nat.le_of_lt (Nat.lt_of_le_of_lt progress.extended higher)
  refine filter_lt_of_least ascending.sorted ((ascending.mem_iff next).mpr ⟨here, extended⟩) higher
    fun c within above => Nat.le_of_not_lt fun between => ?_
  have inserted : c ∈ codes := split.filter_lt progress higher inside ▸
    List.mem_filter.mpr ⟨((ascending.mem_iff c).mp within).1, decide_eq_true between⟩
  exact absurd (progress.low c inserted) (Nat.not_le.mpr above)

/-- The next code is a higher one: the walk passes what is ahead, and all that is there in front of
the next place. -/
theorem onward_next (progress : Progress codes code passed) (higher : code < next)
    (inside : place ≤ codes.length) (ascending : Ascending all others)
    (split : Splits all next (place + 1) (put codes place next) front back) :
    ∃ front' back', Splits all code passed codes front' back' ∧ ∀ w,
      Walk.onward all basic others code back' w =
        ((w.skip (codes.length - passed + 1 + (next - (code + 1)) * (w.count + 1) + place)).insert
          basic).onward all basic others next back := by
  have parts : all.filter (· ≤ code) = codes.take passed ++ codes.drop passed := by
    have fewer : all.filter (· ≤ code) = (all.filter (· < next)).filter (· ≤ code) := by
      rw [List.filter_filter]
      refine List.filter_congr fun c _ => ?_
      rw [← Bool.decide_and]
      exact decide_eq_decide.mpr
        ⟨fun below => ⟨below, Nat.lt_of_le_of_lt below higher⟩, And.left⟩
    rw [List.take_append_drop, fewer, split.filter_lt progress higher inside]
    exact List.filter_eq_self.mpr fun c within => decide_eq_true (progress.low c within)
  obtain ⟨front', back', whole, before, ahead⟩ := List.filter_eq_append_iff.mp parts
  refine ⟨front', back', ⟨whole, before, ?_⟩, fun w => ?_⟩
  · rw [filter_lt_of_le ahead, filter_eq_self_of_forall progress.ahead]
  · have below : ∀ c ∈ codes.take place, c < next := fun c within =>
      Nat.lt_of_le_of_lt (progress.low c (List.mem_of_mem_take within)) higher
    have passes : back'.foldl (Walk.pass basic code) w = w.skip (codes.length - passed) := by
      rw [← foldl_pass_filter, ahead, foldl_pass_lower progress.ahead, List.length_drop]
    rw [Walk.onward, split.filter_others progress higher inside ascending, Walk.run, passes]
    show Walk.run all basic (next + 1) ((all.foldl (Walk.pass basic next)
      (((w.skip (codes.length - passed)).skip 1).skip
        ((next - (code + 1)) * (w.count + 1)))).skip 1) _ = _
    rw [split.whole, List.foldl_append, foldl_pass_insert below (split.inserted inside).1,
      List.length_take_of_le inside, Walk.skip_skip, Walk.skip_skip, Walk.skip_skip,
      ← Nat.add_assoc, ← Nat.add_assoc]
    rfl

/-- What is read as one number is what the walk counts between two insertions. -/
theorem onward_insert (progress : Progress codes code passed) {rounds delta : Nat}
    (total : (codes.length + 1) * rounds + place = passed + delta) (inside : place ≤ codes.length)
    (ascending : Ascending all others)
    (split : Splits all (code + rounds) (place + 1) (put codes place (code + rounds)) front back) :
    ∃ front' back', Splits all code passed codes front' back' ∧ ∀ w : Walk, w.count = codes.length →
      w.onward all basic others code back' =
        ((w.skip delta).insert basic).onward all basic others (code + rounds) back := by
  cases rounds with
  | zero =>
    obtain ⟨front', back', split', walk⟩ := onward_same progress (by omega) inside split
    refine ⟨front', back', split', fun w _ => ?_⟩
    have passes : place - passed = delta := by omega
    rw [walk, passes]
    rfl
  | succ rounds =>
    obtain ⟨front', back', split', walk⟩ :=
      onward_next progress (by omega) inside ascending split
    refine ⟨front', back', split', fun w counted => ?_⟩
    have between : code + (rounds + 1) - (code + 1) = rounds := by omega
    have room := progress.inside
    have passes : codes.length - passed + 1 + rounds * (codes.length + 1) + place = delta := by
      rw [Nat.mul_succ, Nat.mul_comm] at total
      omega
    rw [walk, counted, between, passes]

/-! ## The start -/

/-- The first passage may be one for a code that the text does not have. -/
theorem walk_start {w : Walk} (split : Splits all 128 0 codes front back)
    (ascending : Ascending all others) (counted : w.count = codes.length)
    (low : ∀ c ∈ codes, c < 128) :
    (Walk.run all basic 128 w others).signs = (w.onward all basic others 128 back).signs := by
  have unseen (w : Walk) :
      all.foldl (Walk.pass basic 128) w = back.foldl (Walk.pass basic 128) w := by
    rw [split.whole, List.foldl_append, ← foldl_pass_filter basic 128 front, split.passed_eq]
    rfl
  by_cases here : 128 ∈ all
  · have above : others.filter (127 < ·) = others :=
      List.filter_eq_self.mpr fun c within => decide_eq_true ((ascending.mem_iff c).mp within).2
    have least : others = 128 :: others.filter (128 < ·) := above.symm.trans
      (filter_lt_of_least ascending.sorted ((ascending.mem_iff 128).mpr ⟨here, Nat.le_refl 128⟩)
        (by decide) fun c within _ => ((ascending.mem_iff c).mp within).2)
    calc
      _ = (Walk.run all basic 128 w (128 :: others.filter (128 < ·))).signs := by rw [← least]
      _ = (Walk.run all basic 129 ((all.foldl (Walk.pass basic 128) (w.skip 0)).skip 1)
            (others.filter (128 < ·))).signs := by
        rw [Walk.run, Nat.sub_self, Nat.zero_mul]
        rfl
      _ = _ := by
        rw [unseen]
        rfl
  · have above : others.filter (128 < ·) = others := by
      refine List.filter_eq_self.mpr fun c within => decide_eq_true ?_
      have := (ascending.mem_iff c).mp within
      exact Nat.lt_of_le_of_ne this.2 fun same => here (same ▸ this.1)
    have lower : back.filter (· ≤ 128) = codes := by
      have same : back.filter (· ≤ 128) = back.filter (· < 128) := by
        refine List.filter_congr fun c within => decide_eq_decide.mpr ?_
        have other : c ≠ 128 := fun same =>
          here (split.whole ▸ List.mem_append_right _ (same ▸ within))
        omega
      exact same.trans split.ahead_eq
    have passes : back.foldl (Walk.pass basic 128) w = w.skip codes.length := by
      rw [← foldl_pass_filter, lower]
      exact foldl_pass_lower low
    rw [Walk.onward, above, passes, Walk.skip_skip]
    cases others with
    | nil => rfl
    | cons next others =>
      have higher : 128 < next :=
        of_decide_eq_true (List.filter_eq_self.mp above next List.mem_cons_self)
      have steps : codes.length + 1 + (next - 129) * (w.count + 1) =
          (next - 128) * (w.count + 1) := by
        have rounds : next - 128 = next - 129 + 1 := by omega
        rw [counted, rounds, Nat.succ_mul, Nat.add_comm]
      show (Walk.run all basic (next + 1) ((all.foldl (Walk.pass basic next)
        (w.skip ((next - 128) * (w.count + 1)))).skip 1) others).signs =
        (Walk.run all basic (next + 1) ((all.foldl (Walk.pass basic next)
          ((w.skip (codes.length + 1)).skip ((next - 129) * (w.count + 1)))).skip 1) others).signs
      rw [Walk.skip_skip, steps]

end Between

end Tenancy.Text.Punycode
