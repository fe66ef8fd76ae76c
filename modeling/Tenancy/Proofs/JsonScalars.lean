import Tenancy.Json.Reader
import Tenancy.Json.Writer
import Tenancy.Proofs.Outcome

/-!
# Written texts and integers read back

A value that is written inside an object has a comma or a closing brace behind it. A text of
characters and an integer are read back from there as they are.

* `readUnits_writeCode`: what is written for a code is read as its code units.
* `joinUnits_flatMap_unitsOf`: the code units of characters spell the characters.
* `readString_write`: a text is read back, whatever its characters are.
* `readScalar_numeral`: an integer is read back, unless it has too many digits.
-/

namespace Tenancy

namespace Text

/-! ## Code units -/

/-- The code units of a code. -/
def unitsOf (code : Nat) : List Nat :=
  if code < 0x10000 then [code]
  else [0xD800 + (code - 0x10000) / 1024, 0xDC00 + (code - 0x10000) % 1024]

/-- A unit that is no high surrogate stands for itself. -/
theorem joinUnits_cons {u : Nat} (single : isSurrogate u = false) (units : List Nat) :
    joinUnits (u :: units) = u :: joinUnits units := by
  cases units with
  | nil => rfl
  | cons v rest =>
    have low : ¬(0xD800 ≤ u ∧ u < 0xDC00 ∧ 0xDC00 ≤ v ∧ v < 0xE000) := by
      simp only [isSurrogate, Bool.and_eq_false_iff, decide_eq_false_iff_not] at single
      omega
    simp only [joinUnits, if_neg low]

theorem joinUnits_unitsOf {code : Nat} (single : isSurrogate code = false)
    (small : code < 0x110000) (units : List Nat) :
    joinUnits (unitsOf code ++ units) = code :: joinUnits units := by
  unfold unitsOf
  split
  · exact joinUnits_cons single units
  · next large =>
    have pair : 0xD800 ≤ 0xD800 + (code - 0x10000) / 1024 ∧
        0xD800 + (code - 0x10000) / 1024 < 0xDC00 ∧
        0xDC00 ≤ 0xDC00 + (code - 0x10000) % 1024 ∧
        0xDC00 + (code - 0x10000) % 1024 < 0xE000 := by omega
    have sum : 0x10000 + (0xD800 + (code - 0x10000) / 1024 - 0xD800) * 1024 +
        (0xDC00 + (code - 0x10000) % 1024 - 0xDC00) = code := by omega
    simp only [List.cons_append, List.nil_append, joinUnits, if_pos pair, sum]

theorem isSurrogate_toNat (c : Char) : isSurrogate c.toNat = false := by
  have valid : c.toNat < 0xD800 ∨ 0xDFFF < c.toNat ∧ c.toNat < 0x110000 := c.valid
  simp only [isSurrogate, Bool.and_eq_false_iff, decide_eq_false_iff_not]
  omega

theorem toNat_lt (c : Char) : c.toNat < 0x110000 := by
  have valid : c.toNat < 0xD800 ∨ 0xDFFF < c.toNat ∧ c.toNat < 0x110000 := c.valid
  omega

theorem toNat_ofNat_ascii : ∀ code < 0x80, (Char.ofNat code).toNat = code := by
  decide

theorem ofNat_ne {code : Nat} {c : Char} (ascii : code < 0x80) (other : code ≠ c.toNat) :
    Char.ofNat code ≠ c := by
  intro same
  exact other ((toNat_ofNat_ascii code ascii).symm.trans (congrArg Char.toNat same))

theorem joinUnits_flatMap_unitsOf (s : List Char) :
    joinUnits ((s.map Char.toNat).flatMap unitsOf) = s.map Char.toNat := by
  induction s with
  | nil => rfl
  | cons c s ih =>
    rw [List.map_cons, List.flatMap_cons, joinUnits_unitsOf (isSurrogate_toNat c) (toNat_lt c), ih]

/-! ## Hexadecimal digits -/

theorem hexValue?_hexDigit : ∀ d < 16, hexValue? (hexDigit d) = some d := by
  decide

theorem hexDigits_four (n : Nat) :
    hexDigits 4 n = [hexDigit (n / 16 / 16 / 16 % 16), hexDigit (n / 16 / 16 % 16),
      hexDigit (n / 16 % 16), hexDigit (n % 16)] :=
  rfl

end Text

namespace Json

open Text

theorem hexUnit?_hexDigits {u : Nat} (small : u < 0x10000) :
    hexUnit? (hexDigit (u / 16 / 16 / 16 % 16)) (hexDigit (u / 16 / 16 % 16))
      (hexDigit (u / 16 % 16)) (hexDigit (u % 16)) = some u := by
  have sum : ((u / 16 / 16 / 16 % 16 * 16 + u / 16 / 16 % 16) * 16 + u / 16 % 16) * 16 + u % 16 =
      u := by omega
  have value (n : Nat) : hexValue? (hexDigit (n % 16)) = some (n % 16) :=
    hexValue?_hexDigit _ (Nat.mod_lt n (by decide))
  simp only [hexUnit?, value, Option.bind_eq_bind, Option.bind_some, Option.pure_def, sum]

/-! ## Texts -/

/-- Puts units in front of those that have been read. -/
def withUnits (units : List Nat) (found : Except ReadError (List Nat × List Char)) :
    Except ReadError (List Nat × List Char) :=
  found.map fun (more, rest) => (units ++ more, rest)

variable {opened : Nat} {rest : List Char}

theorem readUnits_unitEscape {u : Nat} (small : u < 0x10000) (goesOn : rest ≠ []) :
    readUnits [] opened (unitEscape u ++ rest) = withUnits [u] (readUnits [] opened rest) := by
  obtain ⟨c, tail, rfl⟩ := List.exists_cons_of_ne_nil goesOn
  simp only [unitEscape, hexDigits_four, List.cons_append, List.nil_append]
  rw [readUnits]
  · rfl
  · exact hexUnit?_hexDigits small

theorem readUnits_escaped {c e : Char} (stands : escaped? c = some e) :
    readUnits [] opened ('\\' :: c :: rest) = withUnits [e.toNat] (readUnits [] opened rest) := by
  have none : escaped? 'u' = none := rfl
  have other : c ≠ 'u' := by
    rintro rfl
    simp [none] at stands
  rw [readUnits, stands]
  · rfl
  · intro _ _ _ _ _ same
    exact absurd same other

theorem unitOf_nil (c : Char) (rest : List Char) : unitOf [] c rest = c.toNat :=
  ite_self _

theorem readUnits_printable {c : Char} (quote : c ≠ '"') (backslash : c ≠ '\\')
    (shown : 0x20 ≤ c.toNat) :
    readUnits [] opened (c :: rest) = withUnits [c.toNat] (readUnits [] opened rest) := by
  rw [readUnits, if_neg (Nat.not_lt.mpr shown), unitOf_nil]
  · rfl
  all_goals grind

theorem readUnits_writeCode {code : Nat} (small : code < 0x110000) (goesOn : rest ≠ []) :
    readUnits [] opened (writeCode code ++ rest) =
      withUnits (unitsOf code) (readUnits [] opened rest) := by
  fun_cases writeCode code with
  | case1 same =>
    subst same
    exact readUnits_escaped (c := '"') (e := '"') rfl
  | case2 _ same =>
    subst same
    exact readUnits_escaped (c := '\\') (e := '\\') rfl
  | case3 _ _ same =>
    subst same
    exact readUnits_escaped (c := 'n') (e := '\n') rfl
  | case4 _ _ _ same =>
    subst same
    exact readUnits_escaped (c := 'r') (e := '\r') rfl
  | case5 _ _ _ _ same =>
    subst same
    exact readUnits_escaped (c := 't') (e := '\t') rfl
  | case6 _ _ _ _ _ same =>
    subst same
    exact readUnits_escaped (c := 'b') (e := Char.ofNat 8) rfl
  | case7 _ _ _ _ _ _ same =>
    subst same
    exact readUnits_escaped (c := 'f') (e := Char.ofNat 12) rfl
  | case8 quote backslash _ _ _ _ _ shown =>
    have number : (Char.ofNat code).toNat = code := toNat_ofNat_ascii code (by omega)
    have single : unitsOf code = [(Char.ofNat code).toNat] := by
      rw [number, unitsOf, if_pos (by omega)]
    rw [single]
    exact readUnits_printable (ofNat_ne (by omega) quote) (ofNat_ne (by omega) backslash)
      (number.symm ▸ shown.1)
  | case9 _ _ _ _ _ _ _ _ narrow =>
    rw [unitsOf, if_pos narrow]
    exact readUnits_unitEscape narrow goesOn
  | case10 _ _ _ _ _ _ _ _ wide =>
    have behind : unitEscape (0xDC00 + (code - 0x10000) % 1024) ++ rest ≠ [] := by
      simp [unitEscape]
    rw [unitsOf, if_neg wide, List.append_assoc, readUnits_unitEscape (by omega) behind,
      readUnits_unitEscape (by omega) goesOn]
    cases readUnits [] opened rest <;> rfl

/-- The written codes of a text are read up to the closing quote. -/
theorem readUnits_flatMap_writeCode {codes : List Nat} (small : ∀ code ∈ codes, code < 0x110000) :
    readUnits [] opened (codes.flatMap writeCode ++ '"' :: rest) =
      .ok (codes.flatMap unitsOf, rest) := by
  induction codes with
  | nil => rw [List.flatMap_nil, List.nil_append, readUnits, List.flatMap_nil]
  | cons code codes ih =>
    rw [List.forall_mem_cons] at small
    rw [List.flatMap_cons, List.append_assoc, readUnits_writeCode small.1 (by simp), ih small.2]
    rfl

theorem Str.ofCodes_codes (s : String) : Str.ofCodes (s.toList.map Char.toNat) = .sound s := by
  have sound : ((s.toList.map Char.toNat).any isSurrogate) = false := by
    simp [isSurrogate_toNat]
  have chars : (s.toList.map Char.toNat).map Char.ofNat = s.toList := by
    simp [Function.comp_def, Char.ofNat_toNat]
  rw [Str.ofCodes, sound, chars, String.ofList_toList]
  rfl

/-- Codes of characters are units that are not changed. -/
theorem map_codeOfUnit {codes : List Nat} (small : ∀ code ∈ codes, code < 0x110000) :
    codes.map codeOfUnit = codes :=
  (List.map_congr_left fun code listed => Nat.mod_eq_of_lt (small code listed)).trans
    (List.map_id codes)

/-- The written form of a text behind its opening quote. -/
theorem readString_write (s : String) :
    readString [] ((s.toList.map Char.toNat).flatMap writeCode ++ '"' :: rest) =
      .ok (.sound s, rest) := by
  have small : ∀ code ∈ s.toList.map Char.toNat, code < 0x110000 := by
    simp only [List.forall_mem_map]
    exact fun c _ => toNat_lt c
  rw [readString, readUnits_flatMap_writeCode small]
  simp only [ok_bind, joinUnits_flatMap_unitsOf, map_codeOfUnit small, Str.ofCodes_codes]
  rfl

/-! ## Integers -/

/-- Whether a text goes on as it does behind a value inside an object. -/
def Closes : List Char → Prop
  | [] => False
  | c :: _ => c = ',' ∨ c = '}'

theorem digits_append {ds : List Char} (all : ∀ d ∈ ds, d.isDigit = true) (closes : Closes rest) :
    digits (ds ++ rest) = (ds, rest) := by
  have stops : rest.takeWhile Char.isDigit = [] ∧ rest.dropWhile Char.isDigit = rest := by
    match rest, closes with
    | c :: _, .inl comma => simp [comma]
    | c :: _, .inr brace => simp [brace]
  rw [digits, List.takeWhile_append_of_pos all, List.dropWhile_append_of_pos all, stops.1, stops.2,
    List.append_nil]

theorem fraction_of_closes (closes : Closes rest) : fraction rest = ([], rest) := by
  match rest, closes with
  | _ :: _, .inl rfl => rfl
  | _ :: _, .inr rfl => rfl

theorem exponent?_of_closes (closes : Closes rest) : exponent? rest = none := by
  match rest, closes with
  | _ :: _, .inl rfl => rfl
  | _ :: _, .inr rfl => rfl

end Json

namespace Text

theorem isDigit_of_mem_toDigits {n : Nat} : ∀ d ∈ Nat.toDigits 10 n, d.isDigit = true :=
  fun _ => Nat.isDigit_of_mem_toDigits (by decide) (by decide)

theorem ne_of_isDigit {d : Char} (digit : d.isDigit = true) (sign : Char)
    (none : sign.isDigit = false) : d ≠ sign := by
  rintro rfl
  exact absurd digit (Bool.eq_false_iff.mp none)

theorem exists_digit_cons (n : Nat) :
    ∃ d more, Nat.toDigits 10 n = d :: more ∧ d.isDigit = true := by
  obtain ⟨d, more, front⟩ := List.exists_cons_of_ne_nil (Nat.toDigits_ne_nil (n := n) (b := 10))
  exact ⟨d, more, front, isDigit_of_mem_toDigits d (front ▸ List.mem_cons_self)⟩

theorem digitChar_ne_zero : ∀ d < 10, d ≠ 0 → Nat.digitChar d ≠ '0' := by
  decide

/-- Only zero is written with a zero at the front. -/
theorem toDigits_ne_zero {n : Nat} (positive : n ≠ 0) (rest : List Char) :
    Nat.toDigits 10 n ≠ '0' :: rest := by
  induction n using Nat.strongRecOn generalizing rest with
  | ind n ih =>
    intro same
    rw [Nat.toDigits_eq_if (by decide)] at same
    split at same
    · next small => exact digitChar_ne_zero n small positive (List.cons.inj same).1
    · obtain ⟨d, more, front, -⟩ := exists_digit_cons (n / 10)
      rw [front, List.cons_append] at same
      exact ih (n / 10) (by omega) (by omega) more ((List.cons.inj same).1 ▸ front)

end Text

namespace Json

open Text

variable {failed : ReadError} {negative : Bool} {rest : List Char}

/-- The digits of a number are found as a whole: a zero at the front is all of them. -/
theorem readUnsigned_toDigits {n : Nat} (short : (Nat.toDigits 10 n).length ≤ maxDigits)
    (closes : Closes rest) :
    readUnsigned failed negative (Nat.toDigits 10 n ++ rest) =
      .ok (.int (if negative then -n else n), rest) := by
  have value : Nat.ofDigitChars 10 (Nat.toDigits 10 n) 0 = n := Nat.ofDigitChars_ten_toDigits
  by_cases zero : n = 0
  · subst zero
    simp only [Nat.toDigits_zero, List.cons_append, List.nil_append, readUnsigned,
      fraction_of_closes closes, exponent?_of_closes closes]
    rfl
  · have some : (Nat.toDigits 10 n).isEmpty = false := by
      simp [Nat.toDigits_ne_nil]
    rw [readUnsigned]
    · simp only [digits_append isDigit_of_mem_toDigits closes, some, fraction_of_closes closes,
        exponent?_of_closes closes, value, if_neg (Nat.not_lt.mpr short), List.isEmpty_nil]
      rfl
    · intro tail same
      obtain ⟨d, more, front, -⟩ := exists_digit_cons n
      rw [front, List.cons_append] at same
      exact toDigits_ne_zero zero more ((List.cons.inj same).1 ▸ front)

/-- A number is no word. -/
theorem readScalar_of_isDigit {d : Char} (digit : d.isDigit = true) :
    readScalar (d :: rest) = readUnsigned ⟨.valueExpected, rest.length + 1⟩ false (d :: rest) := by
  rw [readScalar]
  · rfl
  all_goals
    intro _ same
    exact ne_of_isDigit digit _ (by decide) (List.cons.inj same).1

theorem readScalar_negative {d : Char} (digit : d.isDigit = true) :
    readScalar ('-' :: d :: rest) =
      readUnsigned ⟨.valueExpected, rest.length + 2⟩ true (d :: rest) := by
  rw [readScalar]
  · rfl
  · intro _ same
    exact ne_of_isDigit digit _ (by decide) (List.cons.inj same).1

theorem readScalar_numeral {n : Int} (short : (Nat.toDigits 10 n.natAbs).length ≤ maxDigits)
    (closes : Closes rest) : readScalar (numeral n ++ rest) = .ok (.int n, rest) := by
  cases n with
  | ofNat k =>
    obtain ⟨d, more, digits, digit⟩ := exists_digit_cons k
    rw [numeral, digits, List.cons_append, readScalar_of_isDigit digit, ← List.cons_append,
      ← digits, readUnsigned_toDigits (n := k) short closes]
    rfl
  | negSucc k =>
    obtain ⟨d, more, digits, digit⟩ := exists_digit_cons (k + 1)
    rw [numeral, digits, List.cons_append, List.cons_append, readScalar_negative digit,
      ← List.cons_append, ← digits, readUnsigned_toDigits (n := k + 1) short closes]
    rfl

end Json

end Tenancy
