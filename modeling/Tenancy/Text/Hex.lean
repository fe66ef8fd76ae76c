/-!
# Hexadecimal digits

Numbers and octets in hexadecimal notation, written with lower case letters.
-/

namespace Tenancy.Text

/-- The hexadecimal digit with a value below sixteen. -/
def hexDigit (d : Nat) : Char :=
  Char.ofNat (if d < 10 then 48 + d else 87 + d)

/-- The last `count` hexadecimal digits of a number. -/
def hexDigits (count n : Nat) : List Char :=
  match count with
  | 0 => []
  | count + 1 => hexDigits count (n / 16) ++ [hexDigit (n % 16)]

/-- The value of a hexadecimal digit in either case. -/
def hexValue? (c : Char) : Option Nat :=
  if c.isDigit then some (c.toNat - 48)
  else if 'a' ≤ c ∧ c ≤ 'f' then some (c.toNat - 87)
  else if 'A' ≤ c ∧ c ≤ 'F' then some (c.toNat - 55)
  else none

/-- Octets in hexadecimal notation, two digits each. -/
def hexOctets (octets : List UInt8) : List Char :=
  octets.flatMap fun b => hexDigits 2 b.toNat

end Tenancy.Text
