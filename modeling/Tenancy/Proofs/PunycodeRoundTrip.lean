import Mathlib.Data.List.TakeWhile
import Tenancy.Proofs.PunycodeWalk

/-!
# Punycode that is written again

A text that is read from Punycode is written as it was read, in small letters.

* `writeNumber_of_readNumber`: a number is written as it was read.
* `insertAll_map_toLower`: what is read does not depend on the case of the signs.
* `signs_of_insertAll`: by induction along the insertions, the walk writes the signs that are read.
* `encode_of_decode?`: the same for a text with its ASCII characters in front.
-/

namespace Tenancy.Text.Punycode

/-! ## Numbers -/

section Numbers

variable {bias place weight n d : Nat} {c : Char} {s rest : List Char}

theorem threshold_le (bias place : Nat) : threshold bias place ≤ 26 := by
  unfold threshold
  split
  · omega
  · split <;> omega

/-- Whether a character is no capital of ASCII. -/
def IsSmall (c : Char) : Prop :=
  ¬(65 ≤ c.toNat ∧ c.toNat ≤ 90)

instance (c : Char) : Decidable (IsSmall c) :=
  inferInstanceAs (Decidable (¬_))

theorem sign_of_value? (small : IsSmall c) (read : value? c = some d) : d < 36 ∧ sign d = c := by
  unfold IsSmall at small
  rw [value?] at read
  split at read
  · next letter =>
    have same : 97 + d = c.toNat := by
      have := Option.some.inj read
      omega
    rw [sign, if_pos (by omega), same, Char.ofNat_toNat]
    exact ⟨by omega, rfl⟩
  · split at read
    · next digit =>
      have same : 22 + d = c.toNat := by
        have := Option.some.inj read
        omega
      rw [sign, if_neg (by omega), same, Char.ofNat_toNat]
      exact ⟨by omega, rfl⟩
    · cases read

/-- By induction on the signs; each place counts the weight of the one before. -/
theorem writeNumber_of_readNumber (small : ∀ c ∈ s, IsSmall c)
    (read : readNumber bias place weight s = some (n, rest)) :
    ∃ m, n = m * weight ∧ s = writeNumber bias place m ++ rest := by
  induction s generalizing place weight n with
  | nil => cases read
  | cons c s ih =>
    rw [List.forall_mem_cons] at small
    rw [readNumber] at read
    obtain ⟨d, value, read⟩ := Option.bind_eq_some_iff.mp read
    obtain ⟨bound, same⟩ := sign_of_value? small.1 value
    by_cases final : d < threshold bias place
    · rw [if_pos final] at read
      cases read
      refine ⟨d, rfl, ?_⟩
      rw [writeNumber, if_pos final, same, List.singleton_append]
    · rw [if_neg final] at read
      obtain ⟨⟨m, left⟩, more, read⟩ := Option.bind_eq_some_iff.mp read
      cases read
      obtain ⟨m, rfl, behind⟩ := ih small.2 more
      have room := threshold_le bias place
      have digit : (d - threshold bias place + m * (36 - threshold bias place)) %
          (36 - threshold bias place) = d - threshold bias place := by
        rw [Nat.add_mul_mod_self_right, Nat.mod_eq_of_lt (by omega)]
      have others : (d - threshold bias place + m * (36 - threshold bias place)) /
          (36 - threshold bias place) = m := by
        rw [Nat.add_mul_div_right _ _ (by omega), Nat.div_eq_of_lt (by omega), Nat.zero_add]
      have less : d + m * (36 - threshold bias place) - threshold bias place =
          d - threshold bias place + m * (36 - threshold bias place) := by omega
      refine ⟨d + m * (36 - threshold bias place), ?_, ?_⟩
      · rw [Nat.add_mul, Nat.mul_assoc, Nat.mul_comm (36 - _)]
      · rw [writeNumber, if_neg (by omega), less, digit, others, behind, List.cons_append,
          Nat.add_sub_cancel' (by omega), same]

end Numbers

/-! ## Either case -/

section Case

theorem toLower_of_not_ascii {c : Char} (wide : 128 ≤ c.toNat) : c.toLower = c := by
  refine dif_neg fun capital => ?_
  have bound : c.toNat ≤ 90 := UInt32.le_iff_toNat_le.mp capital.2
  omega

/-- What holds of all ASCII characters and of all that are in lower case already holds of all. -/
theorem forall_toLower {P : Char → Char → Prop} (ascii : ∀ code < 128, P (Char.ofNat code)
    (Char.ofNat code).toLower) (wide : ∀ c : Char, 128 ≤ c.toNat → P c c) (c : Char) :
    P c c.toLower := by
  rcases Nat.lt_or_ge c.toNat 128 with low | high
  · exact Char.ofNat_toNat c ▸ ascii c.toNat low
  · exact (toLower_of_not_ascii high).symm ▸ wide c high

theorem isSmall_toLower (c : Char) : IsSmall c.toLower :=
  forall_toLower (P := fun _ d => IsSmall d) (by decide)
    (fun c wide capital => absurd capital.2 (by omega)) c

theorem toLower_of_isSmall {c : Char} (small : IsSmall c) : c.toLower = c :=
  forall_toLower (P := fun c d => IsSmall c → d = c) (by decide) (fun _ _ _ => rfl) c small

theorem toLower_eq_hyphen (c : Char) : c.toLower = '-' ↔ c = '-' :=
  forall_toLower (P := fun c d => d = '-' ↔ c = '-') (by decide) (fun _ _ => Iff.rfl) c

theorem value?_toLower (c : Char) : value? c.toLower = value? c :=
  forall_toLower (P := fun c d => value? d = value? c) (by decide) (fun _ _ => rfl) c

theorem readNumber_map_toLower (bias place weight : Nat) (s : List Char) :
    readNumber bias place weight (s.map Char.toLower) =
      (readNumber bias place weight s).map fun found => (found.1, found.2.map Char.toLower) := by
  induction s generalizing place weight with
  | nil => rfl
  | cons c s ih =>
    rw [List.map_cons, readNumber, readNumber, value?_toLower]
    cases value? c with
    | none => rfl
    | some d =>
      show (if d < threshold bias place then _ else _) =
        Option.map _ (if d < threshold bias place then _ else _)
      split
      · rfl
      · rw [ih]
        cases readNumber bias (place + 36) (weight * (36 - threshold bias place)) s with
        | none => rfl
        | some found => rfl

/-- The signs of a number count the same in either case. -/
theorem insertAll_map_toLower (codes : List Nat) (bias code passed : Nat) (first : Bool)
    (signs : List Char) :
    insertAll codes bias code passed first (signs.map Char.toLower) =
      insertAll codes bias code passed first signs := by
  fun_induction insertAll codes bias code passed first signs with
  | case1 => rw [List.map_nil, insertAll, if_pos rfl]
  | case2 codes bias code passed first signs more stuck =>
    have same := readNumber_map_toLower bias 36 1 signs
    rw [stuck] at same
    rw [insertAll, if_neg (by rwa [List.map_eq_nil_iff])]
    split
    · rfl
    · next found =>
      rw [same] at found
      cases found
  | case3 codes bias code passed first signs more delta rest read places next beyond =>
    have same := readNumber_map_toLower bias 36 1 signs
    rw [read] at same
    rw [insertAll, if_neg (by rwa [List.map_eq_nil_iff])]
    split
    · rfl
    · next found =>
      rw [same] at found
      cases found
      exact if_pos beyond
  | case4 codes bias code passed first signs more delta rest read places next place bound ih =>
    have same := readNumber_map_toLower bias 36 1 signs
    rw [read] at same
    rw [insertAll, if_neg (by rwa [List.map_eq_nil_iff])]
    split
    · next found =>
      rw [same] at found
      cases found
    · next found =>
      rw [same] at found
      cases found
      exact (if_neg bound).trans ih

end Case

/-! ## Texts -/

section Texts

variable {all codes others : List Nat} {basic bias code passed : Nat} {first : Bool}
  {signs : List Char}

/-- The walk from where the reader is writes the signs that are read from there on. By induction
along the insertions; the text is split from its end. -/
theorem signs_of_insertAll (small : ∀ c ∈ signs, IsSmall c) (progress : Progress codes code passed)
    (start : first = decide (codes.length = basic)) (enough : basic ≤ codes.length)
    (ascending : Ascending all others)
    (inserted : insertAll codes bias code passed first signs = some all) :
    ∃ front back, Splits all code passed codes front back ∧ ∀ written,
      (Walk.onward all basic others code back
          { signs := written, delta := 0, bias, count := codes.length }).signs =
        written ++ signs := by
  fun_induction insertAll codes bias code passed first signs with
  | case1 codes bias code passed first =>
    cases inserted
    refine ⟨all.take passed, all.drop passed, ⟨?_, ?_, ?_⟩, fun written => ?_⟩
    · exact (List.take_append_drop passed all).symm
    · exact List.filter_eq_self.mpr fun c within =>
        decide_eq_true (progress.low c (List.mem_of_mem_take within))
    · exact filter_eq_self_of_forall progress.ahead
    · have done : others.filter (code < ·) = [] :=
        List.filter_eq_nil_iff.mpr fun c within above =>
          absurd (progress.low c ((ascending.mem_iff c).mp within).1)
            (Nat.not_le.mpr (of_decide_eq_true above))
      rw [Walk.onward, done, foldl_pass_lower progress.ahead, List.append_nil]
      rfl
  | case2 => cases inserted
  | case3 => cases inserted
  | case4 codes bias code passed first signs more delta rest read places next place bound ih =>
    have number : signs = writeNumber bias 36 delta ++ rest := by
      obtain ⟨_, same, written⟩ := writeNumber_of_readNumber small read
      rw [same, Nat.mul_one, written]
    have total : places * ((passed + delta) / places) + place = passed + delta :=
      Nat.div_add_mod _ _
    have inside : place ≤ codes.length := Nat.lt_succ_iff.mp (Nat.mod_lt _ (Nat.succ_pos _))
    have longer : (put codes place next).length = codes.length + 1 := length_put codes place next
    have room : basic ≤ (put codes place next).length := longer ▸ Nat.le_succ_of_le enough
    have later : false = decide ((put codes place next).length = basic) := by
      rw [longer]
      exact (decide_eq_false (by omega)).symm
    obtain ⟨front, back, split, writes⟩ := ih
      (fun c listed => small c (number ▸ List.mem_append_right _ listed))
      (progress.put total inside) later room inserted
    obtain ⟨front', back', split', walk⟩ := onward_insert progress total inside ascending split
    have after : (codes.take place ++ next :: codes.drop place).length = codes.length + 1 := longer
    rw [after] at writes
    refine ⟨front', back', split', fun written => ?_⟩
    rw [walk _ rfl, Walk.insert_skip, ← start, number, ← List.append_assoc]
    exact writes _

theorem exists_last_hyphen (s : List Char) :
    ∃ front signs, '-' ∉ signs ∧ ((front = [] ∧ s = signs) ∨ s = front ++ '-' :: signs) := by
  by_cases within : '-' ∈ s
  · obtain ⟨behind, front, cut, free⟩ :=
      List.eq_append_cons_of_mem (List.mem_reverse.mpr within)
    refine ⟨front.reverse, behind.reverse, by rwa [List.mem_reverse], .inr ?_⟩
    rw [← List.reverse_reverse s, cut, List.reverse_append, List.reverse_cons, List.append_assoc,
      List.singleton_append]
  · exact ⟨[], s, within, .inl ⟨rfl, rfl⟩⟩

/-- The signs are behind the last hyphen. -/
theorem decode?_append (free : '-' ∉ signs) (front : List Char) :
    decode? (front ++ '-' :: signs) =
      insertAll (front.map Char.toNat) firstBias 128 0 true signs := by
  have last : ((front ++ '-' :: signs).reverse.takeWhile (· ≠ '-')).reverse = signs := by
    rw [List.reverse_append, List.reverse_cons, List.append_assoc, List.singleton_append,
      List.takeWhile_append_of_pos, List.takeWhile_cons_of_neg (by decide), List.append_nil,
      List.reverse_reverse]
    intro c within
    exact decide_eq_true fun same => free (List.mem_reverse.mp (same ▸ within))
  have size : (front ++ '-' :: signs).length - signs.length - 1 = front.length := by
    rw [List.length_append, List.length_cons]
    omega
  rw [decode?, last, size, List.take_left]

theorem decode?_of_free (free : '-' ∉ signs) :
    decode? signs = insertAll [] firstBias 128 0 true signs := by
  have all : (signs.reverse.takeWhile (· ≠ '-')).reverse = signs := by
    rw [List.takeWhile_eq_self_iff.mpr, List.reverse_reverse]
    intro c within
    exact decide_eq_true fun same => free (List.mem_reverse.mp (same ▸ within))
  rw [decode?, all, Nat.sub_self]
  rfl

/-- A text that is read is written as it was read, but in small letters and without a hyphen that
has nothing in front of it; and what is written is read as the same text. -/
theorem encode_of_decode? {s p : List Char} (ascii : ∀ c ∈ s, c.toNat < 128)
    (small : ∀ c ∈ p, IsSmall c) (read : decode? s = some (p.map Char.toNat)) :
    decode? (encode p) = some (p.map Char.toNat) ∧
      (s.map Char.toLower = encode p ∨ s.map Char.toLower = '-' :: encode p) := by
  obtain ⟨front, signs, free, cut⟩ := exists_last_hyphen s
  have read : insertAll (front.map Char.toNat) firstBias 128 0 true (signs.map Char.toLower) =
      some (p.map Char.toNat) := by
    rw [insertAll_map_toLower, ← read]
    obtain ⟨rfl, rfl⟩ | rfl := cut
    · exact (decode?_of_free free).symm
    · exact (decode?_append free front).symm
  have free : '-' ∉ signs.map Char.toLower := fun within => by
    obtain ⟨c, listed, same⟩ := List.mem_map.mp within
    exact free ((toLower_eq_hyphen c).mp same ▸ listed)
  have front_ascii : ∀ c ∈ front.map Char.toNat, c < 128 := by
    refine List.forall_mem_map.mpr fun c within => ascii c ?_
    obtain ⟨rfl, -⟩ | rfl := cut
    · cases within
    · exact List.mem_append_left _ within
  have signs_small : ∀ c ∈ signs.map Char.toLower, IsSmall c :=
    List.forall_mem_map.mpr fun c _ => isSmall_toLower c
  have ascending := ascending_others (p.map Char.toNat)
  have progress : Progress (front.map Char.toNat) 128 0 := ⟨Nat.le_refl 128, Nat.zero_le _,
    fun c within => Nat.le_of_lt (front_ascii c within), front_ascii⟩
  have count : (front.map Char.toNat).length = front.length := List.length_map Char.toNat
  obtain ⟨before, back, split, writes⟩ := signs_of_insertAll signs_small progress
    (decide_eq_true count).symm (Nat.le_of_eq count.symm) ascending read
  have basic : p.filter (·.toNat < 128) = front := by
    have none : before.filter (· < 128) = [] := filter_lt_of_le split.passed_eq
    have codes : (p.map Char.toNat).filter (· < 128) = front.map Char.toNat := by
      rw [split.whole, List.filter_append, none, split.ahead_eq]
      rfl
    rw [List.filter_map] at codes
    exact (List.map_inj_right fun _ _ => Char.toNat_inj.mp).mp codes
  have kept : front.map Char.toLower = front := by
    have same : ∀ c ∈ front, c.toLower = c := fun c within => by
      rw [← basic] at within
      exact toLower_of_isSmall (small c (List.mem_filter.mp within).1)
    exact (List.map_congr_left same).trans (List.map_id' front)
  have walk : (Walk.run (p.map Char.toNat) front.length 128 { count := front.length } _).signs =
      (Walk.onward _ front.length _ 128 back { count := front.length }).signs :=
    walk_start split ascending count.symm front_ascii
  have written : encode p = front ++ (if front = [] then [] else ['-']) ++
      signs.map Char.toLower := by
    have last := writes []
    rw [count] at last
    unfold encode
    rw [basic]
    exact congrArg (front ++ (if front = [] then [] else ['-']) ++ ·) (walk.trans last)
  rw [written, ← read]
  cases front with
  | nil =>
    refine ⟨decode?_of_free free, ?_⟩
    obtain ⟨-, rfl⟩ | rfl := cut
    · exact .inl rfl
    · exact .inr rfl
  | cons c front =>
    obtain ⟨none, -⟩ | rfl := cut
    · cases none
    · rw [if_neg (List.cons_ne_nil c front), List.append_assoc, List.singleton_append]
      refine ⟨decode?_append free (c :: front), .inl ?_⟩
      rw [List.map_append, kept]
      rfl

theorem encode_of_ascii {p : List Char} (nonempty : p ≠ []) (ascii : ∀ c ∈ p, c.toNat < 128) :
    encode p = p ++ ['-'] := by
  have basic : p.filter (·.toNat < 128) = p :=
    List.filter_eq_self.mpr fun c within => decide_eq_true (ascii c within)
  have others : (p.map Char.toNat).filter (128 ≤ ·) = [] :=
    List.filter_eq_nil_iff.mpr <| List.forall_mem_map.mpr fun c within wide =>
      absurd (ascii c within) (Nat.not_lt.mpr (of_decide_eq_true wide))
  simp only [encode, basic, others, if_neg nonempty, List.mergeSort_nil]
  exact List.append_nil _

/-! ### Signs in ASCII -/

theorem ascii_writeNumber (bias place n : Nat) :
    ∀ c ∈ writeNumber bias place n, c.toNat < 128 := by
  have ascii : ∀ d < 36, (sign d).toNat < 128 := by decide
  fun_induction writeNumber bias place n with
  | case1 place n t final =>
    have room : threshold bias place ≤ 26 := threshold_le bias place
    exact List.forall_mem_singleton.mpr (ascii n (by omega))
  | case2 place n t more ih =>
    have room : threshold bias place ≤ 26 := threshold_le bias place
    have digit : (n - t) % (36 - t) < 36 - t := Nat.mod_lt _ (by omega)
    exact List.forall_mem_cons.mpr ⟨ascii _ (by omega), ih⟩

theorem ascii_pass {w : Walk} (ascii : ∀ c ∈ w.signs, c.toNat < 128) (c : Nat) :
    ∀ d ∈ (w.pass basic code c).signs, d.toNat < 128 := by
  rw [Walk.pass]
  split
  · exact ascii
  · split
    · exact List.forall_mem_append.mpr ⟨ascii, ascii_writeNumber _ _ _⟩
    · exact ascii

theorem ascii_foldl_pass {w : Walk} (ascii : ∀ c ∈ w.signs, c.toNat < 128) (l : List Nat) :
    ∀ d ∈ (l.foldl (Walk.pass basic code) w).signs, d.toNat < 128 := by
  induction l generalizing w with
  | nil => exact ascii
  | cons c l ih => exact ih (ascii_pass ascii c)

theorem ascii_run {w : Walk} {last : Nat} (ascii : ∀ c ∈ w.signs, c.toNat < 128)
    (others : List Nat) : ∀ d ∈ (Walk.run codes basic last w others).signs, d.toNat < 128 := by
  induction others generalizing w last with
  | nil => exact ascii
  | cons code others ih =>
    have next : ∀ d ∈ (codes.foldl (Walk.pass basic code)
        (w.skip ((code - last) * (w.count + 1)))).signs, d.toNat < 128 :=
      ascii_foldl_pass (w := w.skip _) ascii codes
    exact ih next

theorem ascii_encode (p : List Char) : ∀ c ∈ encode p, c.toNat < 128 := by
  unfold encode
  rw [List.forall_mem_append, List.forall_mem_append]
  have start : ∀ c ∈ ([] : List Char), c.toNat < 128 := fun _ within => nomatch within
  refine ⟨⟨fun c within => of_decide_eq_true (List.mem_filter.mp within).2, ?_⟩, ascii_run start _⟩
  split
  · exact fun _ within => nomatch within
  · exact List.forall_mem_singleton.mpr (by decide)

end Texts

end Tenancy.Text.Punycode
