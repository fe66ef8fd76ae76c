import Mathlib.Data.List.DropRight
import Tenancy.Text.Blank
import Tenancy.Text.LetterCase

/-!
# Normal forms of texts

A text that is stripped of blanks has none at its ends, and a text in lower case has no letters that
move. Either form is kept by what makes it.

* `trimWith_trimWith`: what is stripped of characters has none of them at its ends.
* `lower_lower`: lower case is kept by itself, as no letter moves to one that moves.
* `length_lower`: the only character that becomes longer is U+0130.
* `trim_lower`: lower case puts no blanks at the ends.
-/

namespace Tenancy.Text

/-! ## Ends -/

section Trim

variable {drop : Char → Bool} {s : List Char}

/-- Neither the first nor the last character is accepted by `drop`. -/
structure SolidEnds (drop : Char → Bool) (s : List Char) : Prop where
  front : ∀ c ∈ s.head?, drop c = false
  back : ∀ c ∈ s.getLast?, drop c = false

theorem SolidEnds.trimWith_eq (solid : SolidEnds drop s) : trimWith drop s = s := by
  cases s with
  | nil => rfl
  | cons c rest =>
    have kept : (c :: rest).dropWhile drop = c :: rest :=
      List.dropWhile_cons_of_neg (by simp [solid.front c rfl])
    have whole : (c :: rest).rdropWhile drop = c :: rest := by
      rw [List.rdropWhile_eq_self_iff]
      intro some
      rw [solid.back _ (List.getLast?_eq_some_getLast some)]
      exact Bool.false_ne_true
    show ((c :: rest).dropWhile drop).rdropWhile drop = c :: rest
    rw [kept, whole]

/-- What is left begins as the text does behind the characters that go at its front. -/
theorem solidEnds_trimWith : SolidEnds drop (trimWith drop s) := by
  show SolidEnds drop ((s.dropWhile drop).rdropWhile drop)
  constructor
  · intro c first
    obtain ⟨behind, whole⟩ := List.rdropWhile_prefix drop (s.dropWhile drop)
    have front : (s.dropWhile drop).head? = some c := by
      rw [← whole]
      exact List.mem_head?_append_of_mem_head? first
    have solid := List.head?_dropWhile_not drop s
    rwa [front] at solid
  · intro c last
    have some : (s.dropWhile drop).rdropWhile drop ≠ [] := by
      rintro none
      simp [none] at last
    have solid := List.rdropWhile_last_not drop (s.dropWhile drop) some
    rw [List.getLast?_eq_some_getLast some, Option.mem_some_iff] at last
    rwa [last, Bool.not_eq_true] at solid

theorem trimWith_trimWith : trimWith drop (trimWith drop s) = trimWith drop s :=
  solidEnds_trimWith.trimWith_eq

theorem trim_sublist : (trim s).Sublist s := by
  have front : (s.dropWhile isBlank).Sublist s := List.dropWhile_sublist _
  have back : ((s.dropWhile isBlank).rdropWhile isBlank).Sublist (s.dropWhile isBlank) :=
    (List.rdropWhile_prefix isBlank _).sublist
  exact back.trans front

end Trim

/-! ## Letters that move -/

/-- Where a shift moves a code. -/
def CodeShift.image (s : CodeShift) (code : Nat) : Nat :=
  (Int.ofNat code + s.delta).toNat

/-- Whether a shift moves nothing into the range. -/
def CodeShift.avoids (s : CodeShift) (first last : Nat) : Bool :=
  (s.image s.last).blt first || last.blt (s.image s.first)

/-- Whether a shift moves codes of one parity only. -/
def CodeShift.keepsParity (s : CodeShift) : Bool :=
  s.step.beq 2 || s.first.beq s.last

/-- Whether a shift moves nothing that another one moves further, be it for the ranges or because
one moves even codes and the other odd ones. -/
def CodeShift.apart (s t : CodeShift) : Bool :=
  s.avoids t.first t.last ||
    (s.keepsParity && t.keepsParity && ((s.image s.first + t.first) % 2).beq 1)

theorem shifts_apart :
    (edition17.shifts.all fun s => edition17.shifts.all s.apart) = true := by
  decide +kernel

/-- What no letter is moved to: control characters, blanks, the letter that becomes longer, and the
capital sigma. -/
def unreached : CodeRanges := [
    (0, 13), (0x20, 0x20), (0x85, 0x85), (0xA0, 0xA0), (0x130, 0x130), (0x3A3, 0x3A3),
    (0x1680, 0x1680), (0x2000, 0x200A), (0x2028, 0x2029), (0x202F, 0x202F), (0x205F, 0x205F),
    (0x3000, 0x3000)]

theorem shifts_avoid_unreached :
    (edition17.shifts.all fun s => unreached.all fun r => s.avoids r.1 r.2) = true := by
  decide +kernel

section Shift

variable {s t : CodeShift} {code first last : Nat}

theorem CodeShift.avoids_spec (clear : s.avoids first last = true)
    (covered : s.covers code = true) : s.image code < first ∨ last < s.image code := by
  simp only [avoids, Bool.or_eq_true, Nat.blt_eq, image, covers, Bool.and_eq_true,
    decide_eq_true_eq, Int.ofNat_eq_natCast] at clear covered ⊢
  omega

/-- The parity of the images decides where the ranges overlap. -/
theorem CodeShift.apart_spec (clear : s.apart t = true) (positive : 0 < s.image s.first)
    (covered : s.covers code = true) : t.covers (s.image code) = false := by
  rw [apart, Bool.or_eq_true] at clear
  rcases clear with outside | parity
  · have := avoids_spec outside covered
    simp only [covers, Bool.and_eq_false_iff, decide_eq_false_iff_not]
    omega
  · simp only [keepsParity, Bool.and_eq_true, Bool.or_eq_true, Nat.beq_eq] at parity
    obtain ⟨⟨own, other⟩, odd⟩ := parity
    have even : (s.image code + s.image s.first) % 2 = 0 := by
      simp only [covers, Bool.and_eq_true, decide_eq_true_eq, beq_iff_eq] at covered
      simp only [image, Int.ofNat_eq_natCast] at positive ⊢
      rcases own with two | single
      · rw [two] at covered
        omega
      · omega
    rw [Bool.eq_false_iff]
    intro moved
    simp only [covers, Bool.and_eq_true, decide_eq_true_eq, beq_iff_eq] at moved
    rcases other with two | single
    · rw [two] at moved
      omega
    · omega

end Shift

/-- A number that is no code stands for the first character. -/
theorem toNat_ofNat_or (code : Nat) :
    (Char.ofNat code).toNat = code ∨ (Char.ofNat code).toNat = 0 := by
  by_cases valid : code.isValidChar
  · exact .inl (by rw [Char.ofNat, dif_pos valid]; rfl)
  · exact .inr (by rw [Char.ofNat, dif_neg valid]; rfl)

/-- Whether a code has no small letter other than itself. -/
def IsStill (code : Nat) : Prop :=
  code ≠ 0x130 ∧ code ≠ 0x3A3 ∧ shifted? edition17.shifts code = none

theorem of_shifted {code other : Nat} (moved : shifted? edition17.shifts code = some other) :
    IsStill (Char.ofNat other).toNat ∧ isBlank (Char.ofNat other) = false := by
  obtain ⟨s, chosen, rfl⟩ := Option.map_eq_some_iff.mp moved
  have listed := List.mem_of_find?_eq_some chosen
  have covered : s.covers code = true := by simpa using List.find?_some chosen
  have clear {n : Nat} (covered : s.covers n = true) :
      ∀ r ∈ unreached, s.image n < r.1 ∨ r.2 < s.image n := by
    intro r among
    have avoids := List.all_eq_true.mp shifts_avoid_unreached s listed
    exact CodeShift.avoids_spec (List.all_eq_true.mp avoids r among) covered
  have positive : 0 < s.image s.first := by
    have nonempty : s.covers s.first = true := by
      simp only [CodeShift.covers, Bool.and_eq_true, decide_eq_true_eq, beq_iff_eq] at covered ⊢
      refine ⟨⟨Nat.le_refl _, by omega⟩, by rw [Nat.sub_self, Nat.zero_mod]⟩
    have control := clear nonempty (0, 13) List.mem_cons_self
    omega
  have still : shifted? edition17.shifts (s.image code) = none := by
    rw [shifted?, Option.map_eq_none_iff, List.find?_eq_none]
    intro t other
    have apart := List.all_eq_true.mp (List.all_eq_true.mp shifts_apart s listed) t other
    rw [CodeShift.apart_spec apart positive covered]
    exact Bool.false_ne_true
  have outside := clear covered
  simp only [unreached, List.forall_mem_cons] at outside
  show IsStill (Char.ofNat (s.image code)).toNat ∧ isBlank (Char.ofNat (s.image code)) = false
  rcases toNat_ofNat_or (s.image code) with same | zero
  · rw [same]
    refine ⟨⟨by omega, by omega, still⟩, ?_⟩
    simp only [isBlank, same, Bool.or_eq_false_iff, Bool.and_eq_false_iff,
      decide_eq_false_iff_not, beq_eq_false_iff_ne]
    omega
  · rw [zero]
    refine ⟨⟨by decide, by decide, by decide +kernel⟩, ?_⟩
    simp [isBlank, zero]

/-! ## Lower case -/

/-- The capital letter whose small form has two characters. -/
def longCapital : Char :=
  Char.ofNat 0x130

/-- The small form of a character between others. -/
def lowered (before : List Char) (c : Char) (rest : List Char) : List Char :=
  if c = 'Σ' then
    [if startsCased edition17 before && !startsCased edition17 rest then 'ς' else 'σ']
  else lowerChar edition17 c

variable {before s rest : List Char} {c : Char}

theorem lowerAfter_cons :
    lowerAfter edition17 before (c :: rest) =
      lowered before c rest ++ lowerAfter edition17 (c :: before) rest :=
  rfl

/-- The capital with two characters apart, a character becomes one that stays as it is, and no blank
unless it is one. -/
theorem lowered_cases (before : List Char) (c : Char) (rest : List Char) :
    (c = longCapital ∧ lowered before c rest = ['i', Char.ofNat 0x307]) ∨
      (c ≠ longCapital ∧ ∃ d, lowered before c rest = [d] ∧ IsStill d.toNat ∧
        (isBlank c = false → isBlank d = false)) := by
  unfold lowered
  split
  · next sigma =>
    refine .inr ⟨by rw [sigma]; decide, _, rfl, ?_⟩
    have still : (IsStill 'ς'.toNat ∧ isBlank 'ς' = false) ∧
        IsStill 'σ'.toNat ∧ isBlank 'σ' = false := by
      unfold IsStill
      decide +kernel
    split
    · exact ⟨still.1.1, fun _ => still.1.2⟩
    · exact ⟨still.2.1, fun _ => still.2.2⟩
  · next other =>
    unfold lowerChar
    split
    · next long => exact .inl ⟨by rw [longCapital, ← long, Char.ofNat_toNat], rfl⟩
    · next short =>
      refine .inr ⟨fun long => short (congrArg Char.toNat long), ?_⟩
      split
      · next code moved =>
        obtain ⟨still, solid⟩ := of_shifted moved
        exact ⟨_, rfl, still, fun _ => solid⟩
      · next kept =>
        have sigma : c.toNat ≠ 0x3A3 := by
          intro same
          exact other (by rw [← Char.ofNat_toNat c, same])
        exact ⟨c, rfl, ⟨short, sigma, kept⟩, id⟩

theorem lowerAfter_of_still (still : ∀ c ∈ s, IsStill c.toNat) :
    lowerAfter edition17 before s = s := by
  induction s generalizing before with
  | nil => rfl
  | cons c rest ih =>
    rw [List.forall_mem_cons] at still
    obtain ⟨⟨short, sigma, kept⟩, more⟩ := still
    have other : c ≠ 'Σ' := fun same => sigma (congrArg Char.toNat same)
    have own : lowered before c rest = [c] := by
      rw [lowered, if_neg other, lowerChar, if_neg short, kept]
    rw [lowerAfter_cons, own, ih more, List.singleton_append]

theorem still_of_mem_lowerAfter : ∀ d ∈ lowerAfter edition17 before s, IsStill d.toNat := by
  induction s generalizing before with
  | nil => exact nofun
  | cons c rest ih =>
    rw [lowerAfter_cons, List.forall_mem_append]
    refine ⟨?_, ih⟩
    rcases lowered_cases before c rest with ⟨-, two⟩ | ⟨-, d, one, still, -⟩
    · rw [two, List.forall_mem_cons, List.forall_mem_singleton]
      unfold IsStill
      decide +kernel
    · rw [one, List.forall_mem_singleton]
      exact still

theorem lower_lower : lower edition17 (lower edition17 s) = lower edition17 s :=
  lowerAfter_of_still still_of_mem_lowerAfter

theorem length_lowerAfter :
    (lowerAfter edition17 before s).length = s.length + s.count longCapital := by
  induction s generalizing before with
  | nil => rfl
  | cons c rest ih =>
    rw [lowerAfter_cons, List.length_append, ih, List.length_cons, List.count_cons]
    rcases lowered_cases before c rest with ⟨rfl, two⟩ | ⟨other, d, one, -⟩
    · rw [two, if_pos (beq_self_eq_true _)]
      simp only [List.length_cons, List.length_nil]
      omega
    · rw [one, if_neg (by simpa using other)]
      simp only [List.length_cons, List.length_nil]
      omega

theorem length_lower :
    (lower edition17 s).length = s.length + s.count longCapital :=
  length_lowerAfter

theorem lowered_ne_nil : lowered before c rest ≠ [] := by
  rcases lowered_cases before c rest with ⟨-, two⟩ | ⟨-, d, one, -⟩
  · rw [two]
    exact List.cons_ne_nil _ _
  · rw [one]
    exact List.cons_ne_nil _ _

theorem solidEnds_lowered (solid : isBlank c = false) :
    SolidEnds isBlank (lowered before c rest) := by
  rcases lowered_cases before c rest with ⟨-, two⟩ | ⟨-, d, one, -, kept⟩
  · rw [two]
    constructor
    · rintro _ ⟨⟩
      rfl
    · rintro _ ⟨⟩
      rfl
  · rw [one]
    constructor
    · rintro _ ⟨⟩
      exact kept solid
    · rintro _ ⟨⟩
      exact kept solid

theorem getLast?_lowerAfter (solid : ∀ c ∈ s.getLast?, isBlank c = false) :
    ∀ d ∈ (lowerAfter edition17 before s).getLast?, isBlank d = false := by
  induction s generalizing before with
  | nil => exact nofun
  | cons c rest ih =>
    rw [lowerAfter_cons]
    cases rest with
    | nil =>
      rw [lowerAfter, List.append_nil]
      exact (solidEnds_lowered (solid c rfl)).back
    | cons other more =>
      rw [List.getLast?_cons_cons] at solid
      have some : lowerAfter edition17 (c :: before) (other :: more) ≠ [] := by
        rw [lowerAfter_cons]
        exact List.append_ne_nil_of_left_ne_nil lowered_ne_nil _
      rw [List.getLast?_append_of_ne_nil _ some]
      exact ih solid

theorem solidEnds_lower (solid : SolidEnds isBlank s) :
    SolidEnds isBlank (lower edition17 s) := by
  refine ⟨?_, getLast?_lowerAfter solid.back⟩
  cases s with
  | nil => exact nofun
  | cons c rest =>
    rw [lower, lowerAfter_cons, List.head?_append_of_ne_nil _ lowered_ne_nil]
    exact (solidEnds_lowered (solid.front c rfl)).front

theorem trim_lower_trim : trim (lower edition17 (trim s)) = lower edition17 (trim s) :=
  (solidEnds_lower solidEnds_trimWith).trimWith_eq

end Tenancy.Text
