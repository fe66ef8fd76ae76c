/-!
# Decimal numerals

The decimal notation of integers, and how long a numeral may be that is read.
-/

namespace Tenancy.Text

/-- Decimal digits without leading zeros, behind a minus sign for a negative number. -/
def numeral : Int → List Char
  | .ofNat n => Nat.toDigits 10 n
  | .negSucc n => '-' :: Nat.toDigits 10 (n + 1)

/-- The decimal notation as a string. -/
def decimal (n : Int) : String :=
  String.ofList (numeral n)

/-- The most digits of a numeral that is read. -/
def maxDigits : Nat := 4300

/-- Wording for a numeral with more digits. -/
def tooManyDigits (digits : Nat) : String :=
  "Exceeds the limit (" ++ decimal maxDigits ++
    " digits) for integer string conversion: value has " ++ decimal digits ++
    " digits; use sys.set_int_max_str_digits() to increase the limit"

end Tenancy.Text
