import Mathlib.Logic.Relation
import Tenancy.Access.Policy

/-!
# Subject names

Accounts and roles have subject names, and the policy can be looked at as links from names to names.
As different accounts and roles have different names, and no account has the name of a role, a chain
of links from an account to a role is nothing but an assignment (`linked_iff`).
-/

namespace Tenancy

variable {m n account role : Int}

namespace Text

theorem toDigits_injective : Function.Injective (Nat.toDigits 10) := by
  have read : Function.LeftInverse (fun digits => Nat.ofDigitChars 10 digits 0)
      (Nat.toDigits 10) := fun _ => Nat.ofDigitChars_ten_toDigits
  exact read.injective

/-- No natural number is written with a sign. -/
theorem toDigits_ne_sign (n : Nat) (rest : List Char) : Nat.toDigits 10 n ≠ '-' :: rest := by
  intro same
  have digit : '-'.isDigit = true :=
    Nat.isDigit_of_mem_toDigits (by decide) (by decide) (same ▸ List.mem_cons_self)
  exact absurd digit (by decide)

theorem numeral_injective (same : numeral m = numeral n) : m = n := by
  cases m with
  | ofNat a =>
    cases n with
    | ofNat b => exact congrArg Int.ofNat (toDigits_injective same)
    | negSucc b => exact absurd same (toDigits_ne_sign a _)
  | negSucc a =>
    cases n with
    | ofNat b => exact absurd same.symm (toDigits_ne_sign b _)
    | negSucc b =>
      have next : a + 1 = b + 1 := toDigits_injective (List.cons.inj same).2
      rw [Nat.succ.inj next]

theorem decimal_injective (same : decimal m = decimal n) : m = n :=
  numeral_injective (String.ofList_injective same)

end Text

theorem userSubject_injective (same : userSubject m = userSubject n) : m = n :=
  Text.decimal_injective (by simpa [userSubject] using same)

theorem roleSubject_injective (same : roleSubject m = roleSubject n) : m = n :=
  Text.decimal_injective (by simpa [roleSubject] using same)

theorem userSubject_ne_roleSubject : userSubject m ≠ roleSubject n := by
  intro same
  have chars := congrArg String.toList same
  simp [userSubject, roleSubject] at chars

namespace Access.Policy

variable {p : Policy}

/-- An assignment as a link from the account's name to the role's. -/
def Link (p : Policy) (subject other : String) : Prop :=
  ∃ account role, (account, role) ∈ p.assignments ∧
    subject = userSubject account ∧ other = roleSubject role

/-- No link goes on from a role. -/
theorem not_link_roleSubject {other : String} : ¬p.Link (roleSubject role) other := by
  rintro ⟨account, _, -, same, -⟩
  exact userSubject_ne_roleSubject same.symm

theorem linked_iff :
    Relation.ReflTransGen p.Link (userSubject account) (roleSubject role) ↔
      p.hasRole account role = true := by
  rw [hasRole, decide_eq_true_iff]
  constructor
  · intro linked
    rcases Relation.ReflTransGen.cases_head linked with same | ⟨name, link, rest⟩
    · exact absurd same userSubject_ne_roleSubject
    · obtain ⟨_, held, assigned, own, rfl⟩ := link
      obtain rfl := userSubject_injective own
      rcases Relation.ReflTransGen.cases_head rest with same | ⟨_, further, -⟩
      · exact roleSubject_injective same ▸ assigned
      · exact absurd further not_link_roleSubject
  · exact fun assigned => .single ⟨account, role, assigned, rfl, rfl⟩

end Access.Policy

end Tenancy
