import Tenancy.Json.Octets
import Tenancy.Proofs.JsonScalars

/-!
# Written objects read back

An object whose members are texts and integers is read back from the octets of its written form.

* `Encoding.decode_encode`: octets of printable ASCII are taken for what they are.
* `shown_of_mem_write`: a written object is printable ASCII, whatever characters its texts have.
* `depthExceeded?_write`: its written form holds no deep values.
* `readMembers_writeMembers`: the members are read back in their order.
-/

namespace Tenancy

namespace Text

/-! ## Printable ASCII -/

/-- Whether a character is a printable one of ASCII. -/
def IsShown (c : Char) : Prop :=
  0x20 ≤ c.toNat ∧ c.toNat < 0x7F

instance : DecidablePred IsShown :=
  fun c => inferInstanceAs (Decidable (0x20 ≤ c.toNat ∧ c.toNat < 0x7F))

/-- The octet of a printable character. -/
def octetOf (c : Char) : UInt8 :=
  UInt8.ofNat c.toNat

variable {c : Char} {s : List Char}

theorem shown_of_isDigit {c : Char} (digit : c.isDigit = true) : IsShown c := by
  have bounds : 48 ≤ c.toNat ∧ c.toNat ≤ 57 := by
    simpa [Char.isDigit, UInt32.le_iff_toNat_le, ← Char.toNat_val] using digit
  unfold IsShown
  omega

theorem IsShown.toNat_octetOf (shown : IsShown c) : (octetOf c).toNat = c.toNat :=
  UInt8.toNat_ofNat_of_lt (Nat.lt_trans shown.2 (by decide))

theorem encode_of_shown (shown : ∀ c ∈ s, IsShown c) : Utf8.encode s = s.map octetOf := by
  induction s with
  | nil => rfl
  | cons c s ih =>
    rw [List.forall_mem_cons] at shown
    have single : Utf8.encodeChar c = [octetOf c] :=
      if_pos (Nat.lt_trans shown.1.2 (by decide))
    rw [Utf8.encode, List.flatMap_cons, single, List.map_cons, ← ih shown.2]
    rfl

theorem octetCodes_of_shown (shown : ∀ c ∈ s, IsShown c) (offset : Nat) :
    Encoding.octetCodes offset 0 (s.map octetOf) = .ok (s.map Char.toNat) := by
  induction s generalizing offset with
  | nil => rfl
  | cons c s ih =>
    rw [List.forall_mem_cons] at shown
    have small : c.toNat < 0x7F := shown.1.2
    have single (rest : List UInt8) : Encoding.surrogate? (octetOf c) rest = none := by
      have low : octetOf c ≠ 0xED := by
        intro same
        have number : c.toNat = 0xED := shown.1.toNat_octetOf.symm.trans (congrArg UInt8.toNat same)
        omega
      unfold Encoding.surrogate?
      split
      · exact if_neg fun surrogate => low surrogate.1
      · rfl
    have front (rest : List UInt8) : Utf8.front (octetOf c) rest = .char c 1 := by
      have ascii : c.toNat < 0x80 := by omega
      simp only [Utf8.front, shown.1.toNat_octetOf, if_pos ascii, Char.ofNat_toNat]
    rw [List.map_cons, Encoding.octetCodes, single, front]
    simp only [Nat.sub_self, ih shown.2]
    rfl

/-- No byte order mark is printable ASCII. -/
theorem Encoding.exists_mem_mark {mark : List UInt8 × Encoding} (listed : mark ∈ marks) :
    ∃ b ∈ mark.1, ¬ (0x20 ≤ b.toNat ∧ b.toNat < 0x7F) := by
  have all : marks.all fun mark =>
      mark.1.any fun b => ! decide (0x20 ≤ b.toNat ∧ b.toNat < 0x7F) := by decide
  have one := List.all_eq_true.mp all mark listed
  simpa only [List.any_eq_true, Bool.not_eq_true', decide_eq_false_iff_not] using one

/-- Octets without zeros and beyond all byte order marks are in units of one. -/
theorem detect_of_bounds {octets : List UInt8}
    (bounds : ∀ b ∈ octets, 0x20 ≤ b.toNat ∧ b.toNat < 0x7F) :
    Encoding.detect octets = (.utf8, 0) := by
  have bare : Encoding.marks.find? (·.1.isPrefixOf octets) = none := by
    rw [List.find?_eq_none]
    intro mark listed front
    obtain ⟨b, within, outside⟩ := Encoding.exists_mem_mark listed
    exact outside (bounds b ((List.isPrefixOf_iff_prefix.mp front).subset within))
  have nonzero {b : UInt8} (listed : b ∈ octets) : b ≠ 0 := by
    rintro rfl
    exact absurd (bounds 0 listed).1 (by decide)
  simp only [Encoding.detect, bare]
  unfold Encoding.unmarked
  split
  case h_1 | h_2 => simp [nonzero]
  case h_3 => rfl

theorem detect_of_shown (shown : ∀ c ∈ s, IsShown c) :
    Encoding.detect (s.map octetOf) = (.utf8, 0) := by
  refine detect_of_bounds ?_
  rw [List.forall_mem_map]
  intro c listed
  rw [(shown c listed).toNat_octetOf]
  exact shown c listed

theorem Encoding.decode_encode (shown : ∀ c ∈ s, IsShown c) :
    Encoding.decode (Utf8.encode s) = .ok (s.map Char.toNat) := by
  simp only [Encoding.decode, encode_of_shown shown, detect_of_shown shown, List.drop_zero,
    octetCodes_of_shown shown]

end Text

namespace Json

open Text

/-! ## Values without parts -/

/-- A text of characters, or an integer that is not too long to be read. -/
inductive IsFlat : Json → Prop where
  | text (s : String) : IsFlat (.str s)
  | integer {n : Int} (short : (Nat.toDigits 10 n.natAbs).length ≤ maxDigits) : IsFlat (.int n)

/-- Members with texts for names, all different, and with flat values. -/
structure AreFlat (members : Members) : Prop where
  sound : ∀ member ∈ members, member.1.isSound = true
  flat : ∀ member ∈ members, IsFlat member.2
  distinct : (members.map (·.1)).Nodup

/-! ## Which characters are written -/

theorem shown_hexDigit : ∀ d < 16, IsShown (hexDigit d) := by
  decide

theorem shown_unitEscape (u : Nat) : ∀ c ∈ unitEscape u, IsShown c := by
  have digit (n : Nat) : IsShown (hexDigit (n % 16)) := shown_hexDigit _ (Nat.mod_lt n (by decide))
  have signs : IsShown '\\' ∧ IsShown 'u' := by decide
  simp only [unitEscape, hexDigits_four, List.forall_mem_cons, digit, signs, List.not_mem_nil,
    false_implies, implies_true, and_self]

theorem shown_writeCode (code : Nat) : ∀ c ∈ writeCode code, IsShown c := by
  fun_cases writeCode code with
  | case8 _ _ _ _ _ _ _ range =>
    rw [List.forall_mem_singleton, IsShown, toNat_ofNat_ascii code (by omega)]
    exact range
  | case9 => exact shown_unitEscape code
  | case10 =>
    rw [List.forall_mem_append]
    exact ⟨shown_unitEscape _, shown_unitEscape _⟩
  | _ =>
    rw [List.forall_mem_cons, List.forall_mem_singleton]
    decide

theorem shown_writeString (t : Str) : ∀ c ∈ writeString t, IsShown c := by
  have quote : IsShown '"' := by decide
  rw [writeString, List.cons_append, List.forall_mem_cons, List.forall_mem_append,
    List.forall_mem_singleton]
  refine ⟨quote, ?_, quote⟩
  intro c listed
  obtain ⟨code, _, written⟩ := List.mem_flatMap.mp listed
  exact shown_writeCode code c written

theorem shown_numeral (n : Int) : ∀ c ∈ numeral n, IsShown c := by
  cases n with
  | ofNat k => exact fun c listed => shown_of_isDigit (isDigit_of_mem_toDigits c listed)
  | negSucc k =>
    rw [numeral, List.forall_mem_cons]
    exact ⟨by decide, fun c listed => shown_of_isDigit (isDigit_of_mem_toDigits c listed)⟩

theorem IsFlat.shown {value : Json} (flat : IsFlat value) : ∀ c ∈ write value, IsShown c := by
  cases flat with
  | text s =>
    rw [write]
    exact shown_writeString (.sound s)
  | integer =>
    rw [write]
    exact shown_numeral _

/-! ## How deep a written text goes -/

/-- Whether the search for deep values is behind a piece of text as it is in front of it. -/
def Passes (scan : Scan) (piece : List Char) : Prop :=
  ∀ limit depth count rest, depthExceeded? limit depth count scan (piece ++ rest) =
    depthExceeded? limit depth (count + piece.length) scan rest

section Passes

variable {scan : Scan} {piece other : List Char} {c : Char}

theorem passes_nil : Passes scan [] :=
  fun _ _ _ _ => rfl

theorem Passes.append (first : Passes scan piece) (second : Passes scan other) :
    Passes scan (piece ++ other) := by
  intro limit depth count rest
  rw [List.append_assoc, first, second, List.length_append, Nat.add_assoc]

theorem Passes.flatMap {α : Type} {items : List α} {written : α → List Char}
    (each : ∀ item ∈ items, Passes scan (written item)) : Passes scan (items.flatMap written) := by
  induction items with
  | nil => exact passes_nil
  | cons item items ih =>
    rw [List.forall_mem_cons] at each
    exact each.1.append (ih each.2)

theorem passes_inside (quote : c ≠ '"') (backslash : c ≠ '\\') : Passes .inside [c] := by
  intro limit depth count rest
  rw [List.singleton_append, depthExceeded?, if_neg quote, if_neg backslash]
  rfl

theorem passes_escaped (c : Char) : Passes .inside ['\\', c] := by
  intro limit depth count rest
  rw [List.cons_append, List.singleton_append, depthExceeded?, if_neg (by decide), if_pos rfl,
    depthExceeded?]
  rfl

theorem passes_outside (plain : c ∉ ['"', '[', '{', ']', '}']) : Passes .outside [c] := by
  intro limit depth count rest
  simp only [List.mem_cons, List.not_mem_nil, or_false, not_or] at plain
  simp [depthExceeded?, plain]

end Passes

theorem passes_hexDigit : ∀ d < 16, Passes .inside [hexDigit d] := by
  have other : ∀ d < 16, hexDigit d ≠ '"' ∧ hexDigit d ≠ '\\' := by decide
  exact fun d small => passes_inside (other d small).1 (other d small).2

theorem passes_unitEscape (u : Nat) : Passes .inside (unitEscape u) := by
  have digit (n : Nat) : Passes .inside [hexDigit (n % 16)] :=
    passes_hexDigit _ (Nat.mod_lt n (by decide))
  exact (passes_escaped 'u').append
    ((digit _).append ((digit _).append ((digit _).append (digit _))))

theorem passes_writeCode (code : Nat) : Passes .inside (writeCode code) := by
  fun_cases writeCode code with
  | case8 quote backslash _ _ _ _ _ range =>
    exact passes_inside (ofNat_ne (by omega) quote) (ofNat_ne (by omega) backslash)
  | case9 => exact passes_unitEscape code
  | case10 => exact (passes_unitEscape _).append (passes_unitEscape _)
  | _ => exact passes_escaped _

theorem passes_writeString (t : Str) : Passes .outside (writeString t) := by
  intro limit depth count rest
  have codes : Passes .inside (t.codes.flatMap writeCode) :=
    .flatMap fun code _ => passes_writeCode code
  rw [writeString, List.cons_append, List.cons_append, depthExceeded?, if_pos rfl,
    List.append_assoc, codes, List.singleton_append, depthExceeded?, if_pos rfl]
  simp only [List.length_cons, List.length_append, List.length_nil]
  congr 1
  omega

theorem passes_digit {c : Char} (digit : c.isDigit = true) : Passes .outside [c] := by
  refine passes_outside ?_
  simp [ne_of_isDigit digit]

theorem passes_numeral (n : Int) : Passes .outside (numeral n) := by
  have digits (k : Nat) : Passes .outside (Nat.toDigits 10 k) := by
    rw [← List.flatMap_singleton' (Nat.toDigits 10 k)]
    exact .flatMap fun d listed => passes_digit (isDigit_of_mem_toDigits d listed)
  cases n with
  | ofNat k => exact digits k
  | negSucc k => exact (passes_outside (by decide)).append (digits (k + 1))

theorem IsFlat.passes {value : Json} (flat : IsFlat value) : Passes .outside (write value) := by
  cases flat with
  | text s =>
    rw [write]
    exact passes_writeString (.sound s)
  | integer =>
    rw [write]
    exact passes_numeral _

/-! ## Reading members -/

section Read

variable {rest : List Char}

theorem skipGap_cons {c : Char} (solid : isGap c = false) : skipGap (c :: rest) = c :: rest := by
  simp [skipGap, solid]

theorem writeString_append (s : String) :
    writeString (.sound s) ++ rest =
      '"' :: ((s.toList.map Char.toNat).flatMap writeCode ++ '"' :: rest) := by
  simp [writeString, Str.codes]

theorem readValue_text (s : String) (fuel : Nat) :
    readValue [] (fuel + 1) (write (.str s) ++ rest) = .ok (.str s, rest) := by
  rw [write, writeString_append, readValue, readString_write]
  rfl

/-- The first character of an integer belongs to no other kind of value and is no gap. -/
theorem exists_numeral_cons (n : Int) :
    ∃ c more, numeral n = c :: more ∧ c ∉ ['"', '[', '{'] ∧ isGap c = false := by
  cases n with
  | ofNat k =>
    obtain ⟨d, more, front, digit⟩ := exists_digit_cons k
    refine ⟨d, more, front, ?_, ?_⟩
    · simp [ne_of_isDigit digit]
    · simp [isGap, ne_of_isDigit digit]
  | negSucc k => exact ⟨'-', _, rfl, by decide, by decide⟩

theorem readValue_integer {n : Int} (short : (Nat.toDigits 10 n.natAbs).length ≤ maxDigits)
    (closes : Closes rest) (fuel : Nat) :
    readValue [] (fuel + 1) (write (.int n) ++ rest) = .ok (.int n, rest) := by
  obtain ⟨c, more, front, other, -⟩ := exists_numeral_cons n
  rw [write, ← readScalar_numeral short closes, front, List.cons_append, readValue]
  all_goals
    intro _ same
    obtain rfl := (List.cons.inj same).1
    exact other (by decide)

theorem IsFlat.readValue {value : Json} (flat : IsFlat value) (closes : Closes rest) (fuel : Nat) :
    Json.readValue [] (fuel + 1) (write value ++ rest) = .ok (value, rest) := by
  cases flat with
  | text s => exact readValue_text s fuel
  | integer short => exact readValue_integer short closes fuel

theorem IsFlat.skipGap {value : Json} (flat : IsFlat value) :
    Json.skipGap (write value ++ rest) = write value ++ rest := by
  cases flat with
  | text s =>
    rw [write, writeString_append]
    exact skipGap_cons (by decide)
  | integer =>
    obtain ⟨c, more, front, -, solid⟩ := exists_numeral_cons _
    rw [write, front]
    exact skipGap_cons solid

theorem set_of_fresh {before : Members} {name : Str} (fresh : name ∉ before.map (·.1))
    (value : Json) : before.set name value = before ++ [(name, value)] := by
  induction before with
  | nil => rfl
  | cons member before ih =>
    rw [List.map_cons, List.mem_cons, not_or] at fresh
    rw [Members.set, if_neg (Ne.symm fresh.1), ih fresh.2, List.cons_append]

section Member

variable {s : String} {value : Json} {fuel : Nat} {before : Members}

theorem readMembers_last (flat : IsFlat value) :
    readMembers [] (fuel + 2) before
        (writeString (.sound s) ++ ':' :: (write value ++ '}' :: rest)) =
      .ok (before.set s value, rest) := by
  rw [writeString_append, readMembers, readString_write, ok_bind]
  simp only [skipGap_cons (show isGap ':' = false from rfl),
    skipGap_cons (show isGap '}' = false from rfl), flat.skipGap, ok_bind,
    flat.readValue (show Closes ('}' :: rest) from .inr rfl)]
  rfl

theorem readMembers_next (flat : IsFlat value) :
    readMembers [] (fuel + 2) before
        (writeString (.sound s) ++ ':' :: (write value ++ ',' :: rest)) =
      readMembers [] (fuel + 1) (before.set s value) (skipGap rest) := by
  rw [writeString_append, readMembers, readString_write, ok_bind]
  simp only [skipGap_cons (show isGap ':' = false from rfl),
    skipGap_cons (show isGap ',' = false from rfl), flat.skipGap, ok_bind,
    flat.readValue (show Closes (',' :: rest) from .inl rfl)]

end Member

theorem AreFlat.of_append_cons {before more : Members} {name : Str} {value : Json}
    (flat : AreFlat (before ++ (name, value) :: more)) :
    (∃ s, name = .sound s) ∧ IsFlat value ∧ name ∉ before.map (·.1) := by
  have listed : (name, value) ∈ before ++ (name, value) :: more := by simp
  refine ⟨?_, flat.flat _ listed, ?_⟩
  · cases name with
    | sound s => exact ⟨s, rfl⟩
    | unsound codes => exact absurd (flat.sound _ listed) (by simp [Str.isSound])
  · have distinct := flat.distinct
    rw [List.map_append, List.nodup_append] at distinct
    intro again
    exact distinct.2.2 name again name (by simp) rfl

theorem exists_writeMembers_cons {members : Members} (some : members ≠ []) :
    ∃ text, writeMembers members = '"' :: text := by
  match members with
  | [(name, value)] => exact ⟨_, rfl⟩
  | (name, value) :: _ :: _ => exact ⟨_, rfl⟩

theorem skipGap_writeMembers {members : Members} (some : members ≠ []) :
    skipGap (writeMembers members ++ rest) = writeMembers members ++ rest := by
  obtain ⟨text, front⟩ := exists_writeMembers_cons some
  rw [front]
  exact skipGap_cons rfl

/-- By induction on the members that are still to be read: those in front are kept. -/
theorem readMembers_writeMembers {before members : Members} (flat : AreFlat (before ++ members))
    (some : members ≠ []) {fuel : Nat} (enough : members.length < fuel) :
    readMembers [] fuel before (writeMembers members ++ rest) = .ok (before ++ members, rest) := by
  induction members generalizing before fuel with
  | nil => exact absurd rfl some
  | cons member more ih =>
    obtain ⟨name, value⟩ := member
    obtain ⟨⟨s, rfl⟩, flatValue, fresh⟩ := flat.of_append_cons
    obtain ⟨fuel, rfl⟩ : ∃ less, fuel = less + 2 :=
      ⟨fuel - 2, by rw [List.length_cons] at enough; omega⟩
    cases more with
    | nil =>
      simp only [writeMembers, List.append_assoc, List.cons_append, List.nil_append]
      rw [readMembers_last flatValue, set_of_fresh fresh]
    | cons other more =>
      have flatAll : AreFlat ((before ++ [(.sound s, value)]) ++ other :: more) := by
        rw [List.append_assoc]
        exact flat
      simp only [writeMembers, List.append_assoc, List.cons_append]
      rw [readMembers_next flatValue, skipGap_writeMembers (List.cons_ne_nil other more),
        set_of_fresh fresh, ih flatAll (List.cons_ne_nil other more)
          (by rw [List.length_cons] at enough; omega), List.append_assoc]
      rfl

theorem length_lt_writeMembers :
    ∀ members : Members, members.length < (writeMembers members).length
  | [] => by decide
  | [(name, value)] => by
    simp only [writeMembers, List.length_cons, List.length_append]
    omega
  | (name, value) :: member :: members => by
    have shorter := length_lt_writeMembers (member :: members)
    simp only [writeMembers, List.length_cons, List.length_append] at shorter ⊢
    omega

theorem read_write {members : Members} (flat : AreFlat members) :
    read [] (write (.obj members)) = .ok (.obj members) := by
  have found : readValue [] ((write (.obj members)).length + 1) (write (.obj members)) =
      .ok (.obj members, []) := by
    rw [write]
    cases members with
    | nil => rfl
    | cons member more =>
      have some := List.cons_ne_nil member more
      have enough : (member :: more).length < ('{' :: writeMembers (member :: more)).length :=
        Nat.lt_succ_of_lt (length_lt_writeMembers (member :: more))
      have reads : readMembers [] _ [] (writeMembers (member :: more) ++ []) = .ok (_, []) :=
        readMembers_writeMembers flat some enough
      obtain ⟨text, front⟩ := exists_writeMembers_cons some
      rw [List.append_nil, front] at reads
      rw [front] at enough ⊢
      rw [readValue, skipGap_cons (show isGap '"' = false from rfl)]
      show (readMembers [] _ [] ('"' :: text) >>= fun found => .ok (obj found.1, found.2)) = _
      rw [reads]
      rfl
  have front : skipGap (write (.obj members)) = write (.obj members) := by
    rw [write]
    exact skipGap_cons rfl
  rw [read, front, found]
  rfl

end Read

/-! ## Objects as octets -/

theorem shown_writeMembers :
    ∀ members : Members, (∀ member ∈ members, IsFlat member.2) →
      ∀ c ∈ writeMembers members, IsShown c
  | [], _ => by
    rw [writeMembers, List.forall_mem_singleton]
    decide
  | [(name, value)], flat => by
    rw [List.forall_mem_singleton] at flat
    simp only [writeMembers, List.forall_mem_append, List.forall_mem_cons]
    exact ⟨⟨shown_writeString name, by decide, flat.shown⟩, by decide, nofun⟩
  | (name, value) :: member :: members, flat => by
    rw [List.forall_mem_cons] at flat
    have more := shown_writeMembers (member :: members) flat.2
    simp only [writeMembers, List.forall_mem_append, List.forall_mem_cons]
    exact ⟨⟨shown_writeString name, by decide, flat.1.shown⟩, by decide, more⟩

theorem passes_member {value : Json} (name : Str) (flat : IsFlat value) :
    Passes .outside (writeString name ++ ':' :: write value) := by
  have colon : Passes .outside [':'] := passes_outside (by decide)
  exact (passes_writeString name).append (colon.append flat.passes)

theorem depthExceeded?_writeMembers (limit : Nat) :
    ∀ members : Members, (∀ member ∈ members, IsFlat member.2) → ∀ depth count,
      depthExceeded? limit depth count .outside (writeMembers members) = none
  | [], _, _, _ => rfl
  | [(name, value)], flat, depth, count => by
    rw [List.forall_mem_singleton] at flat
    rw [writeMembers, passes_member name flat]
    rfl
  | (name, value) :: member :: members, flat, depth, count => by
    rw [List.forall_mem_cons] at flat
    have comma : Passes .outside [','] := passes_outside (by decide)
    rw [writeMembers, passes_member name flat.1]
    · exact (comma limit depth _ _).trans
        (depthExceeded?_writeMembers limit (member :: members) flat.2 depth _)
    · exact List.cons_ne_nil member members

/-- The brace that opens an object is one level deep. -/
theorem depthExceeded?_write {limit : Nat} (positive : 0 < limit) {members : Members}
    (flat : AreFlat members) : depthExceeded? limit 0 0 .outside (write (.obj members)) = none := by
  rw [write, depthExceeded?, if_neg (by decide), if_pos (by decide),
    if_neg (Nat.not_le.mpr positive)]
  exact depthExceeded?_writeMembers limit members flat.flat 1 1

/-- Codes of characters are read as the characters, none of which stands in for a surrogate. -/
theorem straysOf_map_toNat (s : List Char) : straysOf (s.map Char.toNat) = [] := by
  induction s with
  | nil => rfl
  | cons c s ih => rw [List.map_cons, straysOf, if_neg (by simp [isSurrogate_toNat]), ih]

theorem map_charOfCode_map_toNat (s : List Char) :
    (s.map Char.toNat).map charOfCode = s := by
  simp [Function.comp_def, charOfCode, isSurrogate_toNat, Char.ofNat_toNat]

theorem readOctets_write {limit : Nat} (positive : 0 < limit) {members : Members}
    (flat : AreFlat members) :
    readOctets limit (Utf8.encode (write (.obj members))) = .ok (.obj members) := by
  have brace : IsShown '{' := by decide
  have shown : ∀ c ∈ write (.obj members), IsShown c := by
    rw [write, List.forall_mem_cons]
    exact ⟨brace, shown_writeMembers members flat.flat⟩
  rw [readOctets, Encoding.decode_encode shown]
  simp only [readCodes, straysOf_map_toNat, map_charOfCode_map_toNat,
    depthExceeded?_write positive flat, read_write flat]
  rfl

end Json

end Tenancy
