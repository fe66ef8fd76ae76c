/-!
# Decimals

Numbers as they are written, before they are rounded to anything.
-/

namespace Tenancy

/-- A number written with a fraction or an exponent: `±digits · 10 ^ exponent`, or one of the
values that are no number. -/
inductive Decimal where
  | finite (negative : Bool) (digits : Nat) (exponent : Int)
  | infinite (negative : Bool)
  | nan
  deriving DecidableEq, Repr

end Tenancy
