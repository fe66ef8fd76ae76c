/-!
# Surrogates

Code units of sixteen bits. A character beyond U+FFFF is spelt by two of them, a high surrogate and
a low one; a surrogate that stands alone spells nothing.
-/

namespace Tenancy.Text

/-- Whether a code is a high or a low surrogate. -/
def isSurrogate (code : Nat) : Bool :=
  0xD800 ≤ code && code < 0xE000

/-- The codes that code units spell: a high surrogate and the low one behind it are one code, and
every other unit stays as it is. -/
def joinUnits : List Nat → List Nat
  | [] => []
  | [u] => [u]
  | u :: v :: rest =>
    if 0xD800 ≤ u ∧ u < 0xDC00 ∧ 0xDC00 ≤ v ∧ v < 0xE000 then
      (0x10000 + (u - 0xD800) * 1024 + (v - 0xDC00)) :: joinUnits rest
    else u :: joinUnits (v :: rest)

/-- The character with a code; U+FFFD stands in for a surrogate. -/
def charOfCode (code : Nat) : Char :=
  if isSurrogate code then Char.ofNat 0xFFFD else Char.ofNat code

end Tenancy.Text
