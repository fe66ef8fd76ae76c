import Mathlib.Data.List.TakeWhile
import Tenancy.Text.Base64Url

/-!
# Base64 letters read back

The letters of octets stand for these octets, whichever of the three numbers of octets is left over
behind the last whole group (`decode_encode`). All of them are letters (`isLetter_of_mem_encode`),
so neither a padding sign nor a dot is among them.
-/

namespace Tenancy.Text.Base64Url

/-- Whether an octet is a letter. -/
def IsLetter (octet : UInt8) : Prop :=
  ∃ v < 64, letter v = octet

theorem value?_letter : ∀ v < 64, value? (letter v) = some v := by
  decide

theorem isLetter_letter {v : Nat} (small : v < 64) : IsLetter (letter v) :=
  ⟨v, small, rfl⟩

theorem IsLetter.ne_padSign {octet : UInt8} (given : IsLetter octet) : octet ≠ padSign := by
  have differs : ∀ v < 64, letter v ≠ padSign := by decide
  obtain ⟨v, small, rfl⟩ := given
  exact differs v small

/-- Every letter comes from the first, second or third octet of a group. -/
theorem isLetter_of_mem_encode (octets : List UInt8) :
    ∀ octet ∈ encode octets, IsLetter octet := by
  fun_induction encode octets with
  | case1 => simp
  | case2 a =>
    have := a.toNat_lt
    simp only [List.forall_mem_cons, List.not_mem_nil, false_implies, implies_true, and_true]
    exact ⟨isLetter_letter (by omega), isLetter_letter (by omega)⟩
  | case3 a b =>
    have := a.toNat_lt
    have := b.toNat_lt
    simp only [List.forall_mem_cons, List.not_mem_nil, false_implies, implies_true, and_true]
    exact ⟨isLetter_letter (by omega), isLetter_letter (by omega), isLetter_letter (by omega)⟩
  | case4 a b c rest ih =>
    have := a.toNat_lt
    have := b.toNat_lt
    have := c.toNat_lt
    simp only [List.forall_mem_cons]
    exact ⟨isLetter_letter (by omega), isLetter_letter (by omega), isLetter_letter (by omega),
      isLetter_letter (by omega), ih⟩

/-- An octet is known by its number. -/
theorem ofNat_eq {a : UInt8} {n : Nat} (same : n = a.toNat) : UInt8.ofNat n = a := by
  rw [same, UInt8.ofNat_toNat]

theorem decodeLetters_encode (octets : List UInt8) :
    decodeLetters (encode octets) = some octets := by
  fun_induction encode octets with
  | case1 => rfl
  | case2 a =>
    have := a.toNat_lt
    have p := value?_letter (a.toNat / 4) (by omega)
    have q := value?_letter (a.toNat % 4 * 16) (by omega)
    have whole : a.toNat % 4 * 16 % 16 = 0 := by omega
    have first : UInt8.ofNat (a.toNat / 4 * 4 + a.toNat % 4 * 16 / 16) = a := ofNat_eq (by omega)
    simp only [decodeLetters, p, q, whole, first, Option.bind_eq_bind, Option.bind_some, if_true]
  | case3 a b =>
    have := a.toNat_lt
    have := b.toNat_lt
    have p := value?_letter (a.toNat / 4) (by omega)
    have q := value?_letter (a.toNat % 4 * 16 + b.toNat / 16) (by omega)
    have r := value?_letter (b.toNat % 16 * 4) (by omega)
    have whole : b.toNat % 16 * 4 % 4 = 0 := by omega
    have first : UInt8.ofNat (a.toNat / 4 * 4 + (a.toNat % 4 * 16 + b.toNat / 16) / 16) = a :=
      ofNat_eq (by omega)
    have second : UInt8.ofNat
        ((a.toNat % 4 * 16 + b.toNat / 16) % 16 * 16 + b.toNat % 16 * 4 / 4) = b :=
      ofNat_eq (by omega)
    simp only [decodeLetters, p, q, r, whole, first, second, Option.bind_eq_bind,
      Option.bind_some, if_true]
  | case4 a b c rest ih =>
    have := a.toNat_lt
    have := b.toNat_lt
    have := c.toNat_lt
    have p := value?_letter (a.toNat / 4) (by omega)
    have q := value?_letter (a.toNat % 4 * 16 + b.toNat / 16) (by omega)
    have r := value?_letter (b.toNat % 16 * 4 + c.toNat / 64) (by omega)
    have s := value?_letter (c.toNat % 64) (by omega)
    have first : UInt8.ofNat (a.toNat / 4 * 4 + (a.toNat % 4 * 16 + b.toNat / 16) / 16) = a :=
      ofNat_eq (by omega)
    have second : UInt8.ofNat ((a.toNat % 4 * 16 + b.toNat / 16) % 16 * 16 +
        (b.toNat % 16 * 4 + c.toNat / 64) / 4) = b :=
      ofNat_eq (by omega)
    have third : UInt8.ofNat
        ((b.toNat % 16 * 4 + c.toNat / 64) % 4 * 64 + c.toNat % 64) = c :=
      ofNat_eq (by omega)
    simp only [decodeLetters, p, q, r, s, first, second, third, ih, Option.bind_eq_bind,
      Option.bind_some, Option.pure_def]

theorem decode_encode (octets : List UInt8) : decode (encode octets) = some octets := by
  have body : (encode octets).takeWhile (· ≠ padSign) = encode octets := by
    rw [List.takeWhile_eq_self_iff]
    intro octet listed
    exact decide_eq_true (isLetter_of_mem_encode octets octet listed).ne_padSign
  simp only [decode, body, List.drop_length, true_or, if_true, decodeLetters_encode]

end Tenancy.Text.Base64Url
