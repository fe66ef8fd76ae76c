import Tenancy.Domain.Basic
import Tenancy.Proofs.NormalForm
import Tenancy.Proofs.PunycodeRoundTrip
import Tenancy.Proofs.TextForms

/-!
# Labels in both forms

The shown form of a label stands for the label: it is mapped to itself, and its ASCII form is the
one that it was read from, up to the case of letters and to a hyphen that Punycode passes over. Only
labels with a joiner have no way back, because a joiner cannot be seen.

* `isRegular_of_isLabelChar`: the letters, digits and marks of labels can be seen and are kept.
* `encodeLabel?_again`: the ASCII form of what a label stands for.
-/

namespace Tenancy.Domain

open Text

/-! ## Characters of labels -/

/-- The characters that join their neighbours and cannot be seen. -/
def IsJoiner (c : Char) : Prop :=
  c.toNat = 0x200C ∨ c.toNat = 0x200D

instance (c : Char) : Decidable (IsJoiner c) :=
  inferInstanceAs (Decidable (_ ∨ _))

/-- A character that a domain keeps, other than the point. -/
structure IsRegular (c : Char) : Prop where
  kept : mapChar? c = some [c]
  listed : isDomainChar c = true
  inside : c ≠ '.'

instance (c : Char) : Decidable (IsRegular c) :=
  decidable_of_iff (mapChar? c = some [c] ∧ isDomainChar c = true ∧ c ≠ '.')
    ⟨fun ⟨kept, listed, inside⟩ => ⟨kept, listed, inside⟩,
      fun regular => ⟨regular.kept, regular.listed, regular.inside⟩⟩

theorem unprintable_of_isBlank {c : Char} (wide : 128 ≤ c.toNat) (blank : isBlank c = true) :
    unprintableRanges.has c.toNat = true := by
  have all : ∀ code ∈ [0x85, 0xA0, 0x1680, 0x2028, 0x2029, 0x202F, 0x205F, 0x3000] ++
      List.range' 0x2000 11, unprintableRanges.has code = true := by decide +kernel
  refine all c.toNat ?_
  simp only [isBlank, Bool.or_eq_true, Bool.and_eq_true, decide_eq_true_eq, beq_iff_eq] at blank
  simp only [List.cons_append, List.nil_append, List.mem_cons, List.mem_range'_1]
  omega

theorem isAlphanum_of_wide {c : Char} (wide : 128 ≤ c.toNat) : c.isAlphanum = false := by
  refine Bool.eq_false_iff.mpr fun plain => ?_
  have range : (decide ('A'.val ≤ c.val ∧ c.val ≤ 'Z'.val) ||
      ('a'.val ≤ c.val && c.val ≤ 'z'.val) || ('0'.val ≤ c.val && c.val ≤ '9'.val)) = true := plain
  simp only [UInt32.le_iff_toNat_le, Bool.or_eq_true, Bool.and_eq_true, decide_eq_true_eq,
    Char.toNat_val] at range
  have ends : 'Z'.toNat = 90 ∧ 'z'.toNat = 122 ∧ '9'.toNat = 57 := ⟨rfl, rfl, rfl⟩
  omega

/-- Letters, digits and marks can be seen. -/
theorem isWide_of_isWordChar {c : Char} (wide : 128 ≤ c.toNat)
    (word : (isWordChar c || isMark c) = true) : isWide c = true := by
  have seen : unprintableRanges.has c.toNat = false := by
    rcases (Bool.or_eq_true ..).mp word with letter | mark
    · have row : wideWordRanges.has c.toNat = true := by
        rw [isWordChar, isAlphanum_of_wide wide] at letter
        rcases (Bool.or_eq_true ..).mp letter with low | row
        · rw [Bool.false_or, beq_iff_eq] at low
          exact absurd wide (low ▸ by decide)
        · exact row
      exact CodeRanges.not_has_of_apart (by decide +kernel) row
    · exact CodeRanges.not_has_of_apart (by decide +kernel) mark
  have solid : isBlank c = false := Bool.eq_false_iff.mpr fun blank => by
    rw [unprintable_of_isBlank wide blank] at seen
    cases seen
  have high : decide (c.toNat ≤ 0x1F) = false := decide_eq_false (by omega)
  rw [isWide, isPrintable, isSpacing, seen, solid, high, decide_eq_true wide, Bool.and_false]
  rfl

/-- The other word characters and marks of ASCII are barred. -/
theorem isAlphanum_of_isWordChar {c : Char} (ascii : c.toNat < 128)
    (word : (isWordChar c || isMark c) = true) (free : barredRanges.has c.toNat = false) :
    c.isAlphanum = true := by
  have low : CodeRanges.has [(0, 127)] c.toNat = true := by
    rw [CodeRanges.has, List.any_cons, List.any_nil, Bool.or_false, Bool.and_eq_true,
      decide_eq_true_eq, decide_eq_true_eq]
    omega
  have unmarked : isMark c = false := CodeRanges.not_has_of_apart (by decide +kernel) low
  have narrow : wideWordRanges.has c.toNat = false :=
    CodeRanges.not_has_of_apart (by decide +kernel) low
  rw [isWordChar, unmarked, narrow, Bool.or_false, Bool.or_false, Bool.or_eq_true,
    beq_iff_eq] at word
  refine word.resolve_right ?_
  rintro rfl
  exact absurd free (by decide)

theorem isRegular_of_isLabelChar {c : Char} (listed : isLabelChar c = true) : IsRegular c := by
  rw [isLabelChar, Bool.or_eq_true] at listed
  obtain extra | plain := listed
  · have all : ∀ code ∈ extraCodes, IsRegular (Char.ofNat code) := by decide +kernel
    rw [List.contains_iff_mem] at extra
    exact Char.ofNat_toNat c ▸ all c.toNat extra
  · rw [Bool.and_eq_true, Bool.and_eq_true, Bool.not_eq_true', beq_iff_eq] at plain
    obtain ⟨⟨word, free⟩, kept⟩ := plain
    rcases Nat.lt_or_ge c.toNat 128 with ascii | wide
    · have plain := isAlphanum_of_isWordChar ascii word free
      refine ⟨kept, ?_, ?_⟩
      · rw [isDomainChar, plain]
        rfl
      · rintro rfl
        cases plain
    · refine ⟨kept, ?_, ?_⟩
      · rw [isDomainChar, isWide_of_isWordChar wide word, Bool.or_true]
      · rintro rfl
        exact absurd wide (by decide)

/-- The characters other than joiners that may stand between some neighbours only. -/
def contextCodes : List Nat :=
  [0xB7, 0x375, 0x5F3, 0x5F4, 0x30FB] ++ List.range' 0x660 10 ++ List.range' 0x6F0 10

theorem regular_or_joiner_of_mayStand {before after : List Char} {c : Char}
    (may : mayStand before after c = true) : IsRegular c ∨ IsJoiner c := by
  have all : ∀ code ∈ contextCodes, IsRegular (Char.ofNat code) := by decide +kernel
  have regular (listed : c.toNat ∈ contextCodes) : IsRegular c :=
    Char.ofNat_toNat c ▸ all c.toNat listed
  unfold mayStand at may
  split at may
  case h_1 here => exact .inr (.inl here)
  case h_2 here => exact .inr (.inr here)
  case h_8 =>
    refine .inl (regular ?_)
    simp only [isArabicDigit, isEasternDigit, Bool.or_eq_true, Bool.and_eq_true,
      decide_eq_true_eq] at may
    simp only [contextCodes, List.mem_append, List.mem_range'_1]
    omega
  all_goals
    next here => exact .inl (regular (here ▸ by decide))

/-! ## Labels -/

section Labels

variable {s p : List Char} {c : Char}

theorem isLabel_eq_true : isLabel s = true ↔
    s ≠ [] ∧ normal s = s ∧ (s.drop 2).take 2 ≠ ['-', '-'] ∧ s.head? ≠ some '-' ∧
      s.getLast? ≠ some '-' ∧ s.head?.any isMark = false ∧ allMayStand [] s = true ∧
      isDirected (s.map Direction.of) = true := by
  simp only [isLabel, Bool.and_eq_true, Bool.not_eq_true', beq_iff_eq, bne_iff_ne, ne_eq, and_assoc,
    List.isEmpty_eq_false_iff]

theorem stands_of_allMayStand {before : List Char} (all : allMayStand before s = true) :
    ∀ c ∈ s, isLabelChar c = true ∨ ∃ before after, mayStand before after c = true := by
  induction s generalizing before with
  | nil => exact fun _ within => nomatch within
  | cons c s ih =>
    rw [allMayStand, Bool.and_eq_true, Bool.or_eq_true] at all
    rw [List.forall_mem_cons]
    exact ⟨all.1.imp_right fun may => ⟨before, s, may⟩, ih all.2⟩

/-- Every character of a label is kept, unless it is a joiner. -/
theorem regular_or_joiner (label : isLabel s = true) : ∀ c ∈ s, IsRegular c ∨ IsJoiner c := by
  intro c within
  obtain listed | ⟨_, _, may⟩ :=
    stands_of_allMayStand (isLabel_eq_true.mp label).2.2.2.2.2.2.1 c within
  · exact .inl (isRegular_of_isLabelChar listed)
  · exact regular_or_joiner_of_mayStand may

theorem isSmall_of_label (label : isLabel s = true) : ∀ c ∈ s, Punycode.IsSmall c := by
  have moved : ∀ code ∈ List.range' 65 26,
      mapChar? (Char.ofNat code) ≠ some [Char.ofNat code] := by decide +kernel
  intro c within capital
  obtain regular | joiner := regular_or_joiner label c within
  · have listed : c.toNat ∈ List.range' 65 26 := List.mem_range'_1.mpr ⟨capital.1, by omega⟩
    exact moved c.toNat listed (by rw [Char.ofNat_toNat]; exact regular.kept)
  · unfold IsJoiner at joiner
    omega

/-- The codes of a label are characters: what is no character would stand for the first one, which
no label has. -/
theorem codes_of_label {codes : List Nat} (label : isLabel (codes.map Char.ofNat) = true) :
    (codes.map Char.ofNat).map Char.toNat = codes := by
  have same : ∀ code ∈ codes, (Char.ofNat code).toNat = code := fun code within => by
    refine (toNat_ofNat_or code).resolve_right fun zero => ?_
    have first : Char.ofNat code = Char.ofNat 0 := Char.toNat_inj.mp zero
    obtain regular | joiner :=
      regular_or_joiner label (Char.ofNat code) (List.mem_map_of_mem within)
    · exact absurd (first ▸ regular.listed) (by decide)
    · exact absurd (first ▸ joiner) (by decide)
  rw [List.map_map]
  exact (List.map_congr_left same).trans (List.map_id' codes)

/-! ### The two forms of a label -/

theorem decodeLabel?_eq_some : decodeLabel? s = some p ↔ isLabel p = true ∧
    ((encodedSign.isPrefixOf s = false ∧ s = p) ∨
      (encodedSign.isPrefixOf s = true ∧ s.getLast? ≠ some '-' ∧
        ∃ codes, Punycode.decode? (s.drop encodedSign.length) = some codes ∧
          codes.map Char.ofNat = p)) := by
  have checked (label : List Char) : (if isLabel label = true then some label else none) = some p ↔
      isLabel p = true ∧ label = p := by
    rw [Option.ite_none_right_eq_some, Option.some.injEq]
    exact ⟨fun ⟨holds, same⟩ => ⟨same ▸ holds, same⟩, fun ⟨holds, same⟩ => ⟨same ▸ holds, same⟩⟩
  cases signed : encodedSign.isPrefixOf s with
  | false =>
    have step : decodeLabel? s = if isLabel s = true then some s else none :=
      if_neg (by rw [signed]; exact Bool.false_ne_true)
    rw [step, checked]
    simp
  | true =>
    have step : decodeLabel? s = if s.getLast? = some '-' then none else
        ((Punycode.decode? (s.drop encodedSign.length)).map (·.map Char.ofNat)).bind fun label =>
          if isLabel label = true then some label else none := by
      unfold decodeLabel?
      rw [if_pos signed]
      split <;> rfl
    rw [step, Option.ite_none_left_eq_some, Option.bind_eq_some_iff]
    simp only [checked, Option.map_eq_some_iff]
    constructor
    · rintro ⟨inner, _, ⟨codes, read, rfl⟩, label, same⟩
      exact ⟨label, .inr ⟨trivial, inner, codes, read, same⟩⟩
    · rintro ⟨label, ⟨plain, -⟩ | ⟨-, inner, codes, read, same⟩⟩
      · cases plain
      · exact ⟨inner, _, ⟨codes, read, rfl⟩, label, same⟩

theorem encodeLabel?_of_ascii {part : List Char} (ascii : ∀ c ∈ part, c.toNat < 128) :
    encodeLabel? part = some s ↔
      s.length ≤ maxLabel ∧ s = part ∧ ∃ p, decodeLabel? part = some p := by
  have all : part.all (·.toNat < 128) = true :=
    List.all_eq_true.mpr fun c within => decide_eq_true (ascii c within)
  have step : encodeLabel? part = ((decodeLabel? part).map fun _ => part).bind fun label =>
      if label.length ≤ maxLabel then some label else none := by
    unfold encodeLabel?
    rw [if_pos all]
    rfl
  rw [step]
  cases decodeLabel? part with
  | none => simp
  | some p =>
    show (if part.length ≤ maxLabel then some part else none) = some s ↔ _
    rw [Option.ite_none_right_eq_some, Option.some.injEq]
    constructor
    · rintro ⟨short, rfl⟩
      exact ⟨short, rfl, p, rfl⟩
    · rintro ⟨short, rfl, -⟩
      exact ⟨short, rfl⟩

theorem encodeLabel?_of_not_ascii {part : List Char} (wide : ¬∀ c ∈ part, c.toNat < 128) :
    encodeLabel? part = some s ↔ s.length ≤ maxLabel ∧ isLabel part = true ∧
      s = encodedSign ++ Punycode.encode part := by
  have not_all : ¬part.all (·.toNat < 128) = true := fun all =>
    wide fun c within => of_decide_eq_true (List.all_eq_true.mp all c within)
  have step : encodeLabel? part =
      (if isLabel part = true then some (encodedSign ++ Punycode.encode part) else none).bind
        fun label => if label.length ≤ maxLabel then some label else none := by
    unfold encodeLabel?
    rw [if_neg not_all]
    split <;> rfl
  rw [step]
  by_cases label : isLabel part = true
  · rw [if_pos label, Option.bind_some, Option.ite_none_right_eq_some, Option.some.injEq,
      and_iff_right label]
    constructor
    · rintro ⟨short, rfl⟩
      exact ⟨short, rfl⟩
    · rintro ⟨short, rfl⟩
      exact ⟨short, rfl⟩
  · rw [if_neg label]
    simp [label]

theorem bounds_of_encodeLabel? {part : List Char} (encoded : encodeLabel? part = some s) :
    s.length ≤ maxLabel ∧ ∀ c ∈ s, c.toNat < 128 := by
  by_cases ascii : ∀ c ∈ part, c.toNat < 128
  · obtain ⟨short, rfl, -⟩ := (encodeLabel?_of_ascii ascii).mp encoded
    exact ⟨short, ascii⟩
  · obtain ⟨short, -, rfl⟩ := (encodeLabel?_of_not_ascii ascii).mp encoded
    have sign : encodedSign.all (·.toNat < 128) = true := by decide
    refine ⟨short, List.forall_mem_append.mpr ⟨fun c within => ?_, Punycode.ascii_encode part⟩⟩
    exact of_decide_eq_true (List.all_eq_true.mp sign c within)

/-- The ASCII form of what a label in ASCII stands for: the same label, up to a hyphen that counts
for nothing and the case of the signs. -/
theorem encodeLabel?_again (short : s.length ≤ maxLabel) (ascii : ∀ c ∈ s, c.toNat < 128)
    (decoded : decodeLabel? s = some p) :
    ∃ s', encodeLabel? p = some s' ∧ decodeLabel? s' = some p ∧
      (s' = s ∨ encodedSign.isPrefixOf s' = true ∧ s'.length ≤ s.length ∧
        s'.getLast? = (s.map Char.toLower).getLast?) := by
  obtain ⟨label, ⟨plain, rfl⟩ | ⟨signed, inner, codes, read, rfl⟩⟩ :=
    decodeLabel?_eq_some.mp decoded
  · exact ⟨s, (encodeLabel?_of_ascii ascii).mpr ⟨short, rfl, s, decoded⟩, decoded, .inl rfl⟩
  · generalize named : codes.map Char.ofNat = p at label decoded
    have characters : p.map Char.toNat = codes := named ▸ codes_of_label (named.symm ▸ label)
    have back : codes.map Char.ofNat = p := named
    obtain ⟨rest, rfl⟩ := List.isPrefixOf_iff_prefix.mp signed
    rw [List.drop_left, ← characters] at read
    obtain ⟨again, written⟩ := Punycode.encode_of_decode?
      (fun c within => ascii c (List.mem_append_right _ within)) (isSmall_of_label label) read
    have lowered : (encodedSign ++ rest).map Char.toLower =
        encodedSign ++ rest.map Char.toLower := by
      rw [List.map_append]
      rfl
    have ends : ((encodedSign ++ rest).map Char.toLower).getLast? ≠ some '-' := fun hyphen => by
      rw [List.getLast?_map] at hyphen
      obtain ⟨c, last, same⟩ := Option.map_eq_some_iff.mp hyphen
      exact inner (last.trans (congrArg some ((Punycode.toLower_eq_hyphen c).mp same)))
    rw [lowered] at ends ⊢
    have nonempty : Punycode.encode p ≠ [] := fun empty => by
      rw [empty] at written
      obtain same | same := written
      · exact ends (by rw [same]; rfl)
      · exact ends (by rw [same]; rfl)
    have last : (encodedSign ++ rest.map Char.toLower).getLast? = (Punycode.encode p).getLast? := by
      obtain same | same := written
      · rw [same, List.getLast?_append_of_ne_nil _ nonempty]
      · rw [same, List.getLast?_append_of_ne_nil _ (List.cons_ne_nil _ _),
          List.getLast?_cons_of_ne_nil nonempty]
    have wide : ¬∀ c ∈ p, c.toNat < 128 := fun low => by
      rw [last, Punycode.encode_of_ascii (isLabel_eq_true.mp label).1 low,
        List.getLast?_concat] at ends
      exact ends rfl
    have shorter : (encodedSign ++ Punycode.encode p).length ≤ (encodedSign ++ rest).length := by
      have size : (rest.map Char.toLower).length = rest.length := List.length_map _
      rw [List.length_append, List.length_append]
      obtain same | same := written
      · rw [← same, size]
      · rw [same, List.length_cons] at size
        omega
    have signed' : encodedSign.isPrefixOf (encodedSign ++ Punycode.encode p) = true :=
      List.isPrefixOf_iff_prefix.mpr (List.prefix_append _ _)
    have last' : (encodedSign ++ Punycode.encode p).getLast? =
        (encodedSign ++ rest.map Char.toLower).getLast? := by
      rw [last, List.getLast?_append_of_ne_nil _ nonempty]
    refine ⟨encodedSign ++ Punycode.encode p, ?_, ?_, .inr ⟨signed', shorter, last'⟩⟩
    · exact (encodeLabel?_of_not_ascii wide).mpr ⟨Nat.le_trans shorter short, label, rfl⟩
    · have inner' : (encodedSign ++ Punycode.encode p).getLast? ≠ some '-' := fun hyphen =>
        ends (last'.symm.trans hyphen)
      refine decodeLabel?_eq_some.mpr
        ⟨label, .inr ⟨signed', inner', p.map Char.toNat, ?_, ?_⟩⟩
      · rw [List.drop_left, again]
      · rw [characters, back]

end Labels

end Tenancy.Domain
