import Tenancy.Proofs.DomainNames
import Tenancy.Proofs.TextForms
import Tenancy.Validation.Email

/-!
# Addresses in normal form

An address in normal form is its own normal form, unless its domain has a joiner; an address with a
joiner is refused.

* `normalizeLocal?_again`: the local part, by `normal_normal`.
* `normalize?_again`: both parts, by `Name.of?_again`.
* `parse?_again`: the address, which has neither blanks at its ends nor a name in front.
-/

namespace Tenancy

namespace Text.Utf8

theorem length_le_encode (s : List Char) : s.length ≤ (encode s).length := by
  have pos (c : Char) : 1 ≤ (encodeChar c).length := by
    simp only [encodeChar]
    split
    · exact Nat.le_refl 1
    · split
      · exact Nat.le_succ 1
      · split <;> exact Nat.succ_pos _
  induction s with
  | nil => exact Nat.le_refl 0
  | cons c s ih =>
    have := pos c
    rw [encode, List.flatMap_cons, List.length_append, List.length_cons]
    unfold encode at ih
    omega

theorem length_encode_of_ascii {s : List Char} (ascii : ∀ c ∈ s, c.toNat < 128) :
    (encode s).length = s.length := by
  induction s with
  | nil => rfl
  | cons c s ih =>
    rw [List.forall_mem_cons] at ascii
    have single : encodeChar c = [UInt8.ofNat c.toNat] := if_pos ascii.1
    have rest : (s.flatMap encodeChar).length = s.length := ih ascii.2
    rw [encode, List.flatMap_cons, single, List.length_append, rest, List.length_singleton,
      List.length_cons, Nat.add_comm]

end Text.Utf8

namespace Email

open Text Domain

variable {s name domain : List Char} {c : Char}

/-! ## Characters of addresses -/

/-- A character that is neither blank nor one that an address is read by. -/
def IsPlain (c : Char) : Prop :=
  isSpacing c = false ∧ c ≠ '@' ∧ c ≠ '>'

instance (c : Char) : Decidable (IsPlain c) :=
  inferInstanceAs (Decidable (_ ∧ _))

theorem isPlain_of_isWide (wide : isWide c = true) : IsPlain c := by
  rw [isWide, Bool.and_eq_true, Bool.and_eq_true, decide_eq_true_eq, Bool.not_eq_true'] at wide
  obtain ⟨⟨high, -⟩, solid⟩ := wide
  refine ⟨solid, ?_, ?_⟩
  · rintro rfl
    exact absurd high (by decide)
  · rintro rfl
    exact absurd high (by decide)

theorem isPlain_of_isAlphanum (plain : c.isAlphanum = true) : IsPlain c := by
  rcases Nat.lt_or_ge c.toNat 128 with low | wide
  · have all : ∀ code < 128, (Char.ofNat code).isAlphanum = true → IsPlain (Char.ofNat code) := by
      decide
    exact Char.ofNat_toNat c ▸ all c.toNat low (by rwa [Char.ofNat_toNat])
  · rw [isAlphanum_of_wide wide] at plain
    cases plain

theorem isPlain_of_isDomainChar (listed : isDomainChar c = true) : IsPlain c := by
  rw [isDomainChar, Bool.or_eq_true, Bool.or_eq_true, Bool.or_eq_true, beq_iff_eq, beq_iff_eq]
    at listed
  obtain ((plain | rfl) | rfl) | wide := listed
  · exact isPlain_of_isAlphanum plain
  · decide
  · decide
  · exact isPlain_of_isWide wide

theorem isPlain_of_isAtomChar (listed : isAtomChar c = true) : IsPlain c := by
  rw [isAtomChar, Bool.or_eq_true, Bool.or_eq_true, List.contains_iff_mem] at listed
  obtain (plain | sign) | wide := listed
  · exact isPlain_of_isAlphanum plain
  · have all : "_!#$%&'*+-/=?^\x60\x7b|\x7d~".toList.all fun c => IsPlain c := by decide +kernel
    exact of_decide_eq_true (List.all_eq_true.mp all c sign)
  · exact isPlain_of_isWide wide

theorem isPlain_of_joiner (joiner : IsJoiner c) : IsPlain c := by
  obtain same | same := joiner
  · rw [← Char.ofNat_toNat c, same]
    decide
  · rw [← Char.ofNat_toNat c, same]
    decide

theorem isAtomChar_joiner (joiner : IsJoiner c) : isAtomChar c = false := by
  obtain same | same := joiner
  · rw [← Char.ofNat_toNat c, same]
    decide +kernel
  · rw [← Char.ofNat_toNat c, same]
    decide +kernel

/-! ## Local parts -/

theorem characters_of_isLocal (isName : isLocal s = true) :
    s ≠ [] ∧ ∀ c ∈ s, c = '.' ∨ isAtomChar c = true := by
  rw [isLocal, Bool.and_eq_true, List.all_eq_true] at isName
  obtain ⟨joined, -, -⟩ := intercalate_splitAt '.' s
  constructor
  · rintro rfl
    exact absurd (isName.2 [] List.mem_cons_self) (by decide)
  · have all : ∀ c ∈ join (splitAt '.' s), c = '.' ∨ isAtomChar c = true :=
      forall_mem_join (.inl rfl) fun atom listed c within => by
        have atoms := isName.2 atom listed
        rw [Bool.and_eq_true, List.all_eq_true] at atoms
        exact .inr (atoms.2 c within)
    rw [join, joined] at all
    exact all

theorem normalizeLocal?_eq_some : normalizeLocal? s = some name ↔
    isLocal s = true ∧ isLocal (normal s) = true ∧
      name = if (normal s).map Char.toLower ∈ commonMailboxes then (normal s).map Char.toLower
        else normal s := by
  simp only [normalizeLocal?, Option.ite_none_right_eq_some, Bool.and_eq_true, Option.some.injEq,
    and_assoc, eq_comm (a := name)]

/-- The names of common mailboxes are local parts in normal form. -/
theorem normalizeLocal?_mailbox (listed : name ∈ commonMailboxes) :
    normalizeLocal? name = some name := by
  revert name
  decide +kernel

theorem normalizeLocal?_again (accepted : normalizeLocal? s = some name) :
    normalizeLocal? name = some name := by
  obtain ⟨-, isName, shape⟩ := normalizeLocal?_eq_some.mp accepted
  split at shape
  · next common => exact normalizeLocal?_mailbox (shape ▸ common)
  · next own =>
    rw [shape, normalizeLocal?_eq_some, normal_normal, if_neg own]
    exact ⟨isName, isName, rfl⟩

theorem isLocal_of_normalizeLocal? (accepted : normalizeLocal? s = some name) :
    isLocal name = true :=
  (normalizeLocal?_eq_some.mp (normalizeLocal?_again accepted)).1

/-! ## Addresses -/

/-- The parts of an accepted address. -/
theorem exists_of_normalize? {address : List Char} (accepted : normalize? s = some address) :
    ∃ before domain name host, normalizeLocal? before = some name ∧ Name.of? domain = some host ∧
      fits name host.shown = true ∧ fits name host.ascii = true ∧
      address = name ++ '@' :: host.shown := by
  simp only [normalize?] at accepted
  split at accepted
  · cases accepted
  · next domain _ =>
    simp only [Option.bind_eq_bind, Option.bind_eq_some_iff, Option.ite_none_right_eq_some,
      Bool.and_eq_true, Option.some.injEq] at accepted
    obtain ⟨name, named, host, hosted, ⟨⟨-, shown⟩, ascii⟩, same⟩ := accepted
    exact ⟨_, domain, name, host, named, hosted, shown, ascii, same.symm⟩

theorem normalize?_append (free : '@' ∉ name) (domain : List Char) :
    normalize? (name ++ '@' :: domain) =
      (normalizeLocal? name).bind fun composed => (Name.of? domain).bind fun host =>
        if fits name domain && fits composed host.shown && fits composed host.ascii then
          some (composed ++ '@' :: host.shown)
        else none := by
  have front : (name ++ '@' :: domain).takeWhile (· ≠ '@') = name := by
    rw [List.takeWhile_append_of_pos, List.takeWhile_cons_of_neg (by decide), List.append_nil]
    exact fun c within => decide_eq_true fun same => free (same ▸ within)
  simp only [normalize?, front, List.drop_left]
  rfl

theorem fits_of_length_le {ascii ascii' : List Char} (short : fits name ascii = true)
    (shorter : ascii'.length ≤ ascii.length) (plain : ∀ c ∈ ascii', c.toNat < 128) :
    fits name ascii' = true := by
  have split (host : List Char) : Utf8.encode (name ++ '@' :: host) =
      Utf8.encode (name ++ ['@']) ++ Utf8.encode host := by
    rw [← List.singleton_append, ← List.append_assoc]
    exact List.flatMap_append
  have octets := Utf8.length_le_encode ascii
  have same := Utf8.length_encode_of_ascii plain
  rw [fits, decide_eq_true_eq, split, List.length_append] at short ⊢
  omega

/-- The shown form of an address, given as an address: it is its own normal form unless there is a
joiner, which only the domain can have. -/
theorem normalize?_again {address : List Char} (accepted : normalize? s = some address) :
    normalize? address = some address ↔ ∀ c ∈ address, ¬IsJoiner c := by
  obtain ⟨before, domain, name, host, named, hosted, shown, ascii, rfl⟩ :=
    exists_of_normalize? accepted
  have characters := (characters_of_isLocal (isLocal_of_normalizeLocal? named)).2
  have free : '@' ∉ name := fun within => by
    obtain point | atom := characters '@' within
    · cases point
    · exact (isPlain_of_isAtomChar atom).2.1 rfl
  have unjoined : ∀ c ∈ name, ¬IsJoiner c := fun c within joiner => by
    obtain rfl | atom := characters c within
    · exact absurd joiner (by decide)
    · rw [isAtomChar_joiner joiner] at atom
      cases atom
  rw [normalize?_append free, normalizeLocal?_again named, Option.bind_some]
  constructor
  · intro again
    rw [List.forall_mem_append, List.forall_mem_cons]
    refine ⟨unjoined, by decide, fun c within joiner => ?_⟩
    rw [Name.of?_joiner within joiner] at again
    cases again
  · intro seen
    rw [List.forall_mem_append, List.forall_mem_cons] at seen
    obtain ⟨ascii', hosted', shorter, plain⟩ := Name.of?_again hosted seen.2.2
    rw [hosted', Option.bind_some, shown, fits_of_length_le ascii shorter plain]
    rfl

/-- The characters of an address in normal form. -/
theorem plain_of_normalize? {address : List Char} (accepted : normalize? s = some address) :
    (∀ c ∈ address, isSpacing c = false) ∧ address.getLast? ≠ some '>' ∧
      address.length ≤ maxOctets := by
  obtain ⟨before, domain, name, host, named, hosted, shown, ascii, rfl⟩ :=
    exists_of_normalize? accepted
  have characters := (characters_of_isLocal (isLocal_of_normalizeLocal? named)).2
  obtain ⟨nonempty, listed⟩ := Name.shown_of_of? hosted
  have plain : ∀ c ∈ host.shown, IsPlain c := fun c within =>
    (listed c within).elim isPlain_of_isDomainChar isPlain_of_joiner
  refine ⟨?_, fun last => ?_, ?_⟩
  · rw [List.forall_mem_append, List.forall_mem_cons]
    refine ⟨fun c within => ?_, by decide, fun c within => (plain c within).1⟩
    obtain rfl | atom := characters c within
    · decide
    · exact (isPlain_of_isAtomChar atom).1
  · rw [List.getLast?_append_of_ne_nil _ (List.cons_ne_nil _ _),
      List.getLast?_cons_of_ne_nil nonempty] at last
    exact (plain '>' (List.mem_of_getLast? last)).2.2 rfl
  · rw [fits, decide_eq_true_eq] at shown
    exact Nat.le_trans (Utf8.length_le_encode _) shown

theorem strip_of_forall (solid : ∀ c ∈ s, isSpacing c = false) : strip s = s :=
  SolidEnds.trimWith_eq ⟨fun c first => solid c (List.mem_of_mem_head? first),
    fun c last => solid c (List.mem_of_getLast? last)⟩

theorem bracketed?_eq_none (solid : ∀ c ∈ s, isSpacing c = false)
    (bare : s.getLast? ≠ some '>') : bracketed? s = none := by
  rw [bracketed?, strip_of_forall solid]
  split
  · next body turned =>
    rw [← List.head?_reverse, turned] at bare
    exact absurd rfl bare
  · rfl

/-- An address in normal form is its own normal form just if it has no joiner. -/
theorem parse?_again {raw address : String} (accepted : parse? raw = some address) :
    parse? address = some address ↔ ∀ c ∈ address.toList, ¬IsJoiner c := by
  obtain ⟨l, found, rfl⟩ : ∃ l, (∃ s, normalize? s = some l) ∧ address = String.ofList l := by
    simp only [parse?, Option.ite_none_left_eq_some, Option.map_eq_some_iff] at accepted
    obtain ⟨-, l, found, rfl⟩ := accepted
    exact ⟨l, ⟨_, found⟩, rfl⟩
  obtain ⟨s, found⟩ := found
  obtain ⟨solid, bare, short⟩ := plain_of_normalize? found
  have single : l.any (fun c => c == '\r' || c == '\n') = false := by
    rw [List.any_eq_false]
    intro c within ends
    have plain := solid c within
    rw [Bool.or_eq_true, beq_iff_eq, beq_iff_eq] at ends
    obtain rfl | rfl := ends
    · exact absurd plain (by decide)
    · exact absurd plain (by decide)
  have inside : ¬maxInput < l.length := by
    unfold maxOctets at short
    unfold maxInput
    omega
  have step : parse? (String.ofList l) = (normalize? l).map String.ofList := by
    simp only [parse?, String.toList_ofList, single, inside, bracketed?_eq_none solid bare,
      Option.getD_none, strip_of_forall solid]
    rfl
  rw [step, String.toList_ofList, ← normalize?_again found, Option.map_eq_some_iff]
  constructor
  · rintro ⟨l', again, same⟩
    rwa [String.ofList_injective same] at again
  · exact fun again => ⟨l, again, rfl⟩

end Email

end Tenancy
