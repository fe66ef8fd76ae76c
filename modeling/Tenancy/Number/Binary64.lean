import Tenancy.Number.Decimal

/-!
# Double precision numbers

A decimal is read as the nearest double precision number, a tie going to the even neighbour. The
number is kept exactly, as `m · 2 ^ q`.
-/

namespace Tenancy

/-- A double precision number: `±m · 2 ^ q` in lowest position, infinite, or no number. -/
inductive Binary64 where
  | finite (negative : Bool) (m : Nat) (q : Int)
  | infinite (negative : Bool)
  | nan
  deriving DecidableEq, Repr

namespace Binary64

/-- The quotient `a / b` rounded to the nearest integer, a tie going to the even one. -/
def roundDiv (a b : Nat) : Nat :=
  let f := a / b
  let r := 2 * (a % b)
  if r > b ∨ (r = b ∧ f % 2 = 1) then f + 1 else f

/-- The greatest `k` with `2 ^ k ≤ a / b`, for positive `a` and `b`. -/
def exponentOf (a b : Nat) : Int :=
  let k : Int := (a.log2 : Int) - b.log2
  if b * Nat.pow 2 k.toNat ≤ a * Nat.pow 2 (-k).toNat then k else k - 1

/-- The nearest double to `a / b`. -/
def ofRatio (negative : Bool) (a b : Nat) : Binary64 :=
  if a = 0 then .finite negative 0 0
  else
    let q := max (-1074) (exponentOf a b - 52)
    let m := roundDiv (a * Nat.pow 2 (-q).toNat) (b * Nat.pow 2 q.toNat)
    let (m, q) := if m = Nat.pow 2 53 then (Nat.pow 2 52, q + 1) else (m, q)
    if q > 971 then .infinite negative else .finite negative m q

/-- The nearest double to a decimal. Decimals beyond all doubles are cut off first. -/
def ofDecimal : Decimal → Binary64
  | .nan => .nan
  | .infinite negative => .infinite negative
  | .finite negative digits exponent =>
    let size : Int := (Nat.toDigits 10 digits).length + exponent
    if digits = 0 ∨ size < -400 then .finite negative 0 0
    else if size > 400 then .infinite negative
    else
      ofRatio negative (digits * Nat.pow 10 exponent.toNat) (Nat.pow 10 (-exponent).toNat)

/-- The integer that a number is, if it is one. -/
def toInt? : Binary64 → Option Int
  | .finite negative m q =>
    let signed (n : Nat) : Int := if negative then -(n : Int) else n
    if 0 ≤ q then some (signed (m * Nat.pow 2 q.toNat))
    else if m % Nat.pow 2 (-q).toNat = 0 then some (signed (m / Nat.pow 2 (-q).toNat))
    else none
  | _ => none

/-- Whether a number is zero. -/
def isZero : Binary64 → Bool
  | .finite _ m _ => m = 0
  | _ => false

/-- Whether a number is finite. -/
def isFinite : Binary64 → Bool
  | .finite .. => true
  | _ => false

/-- The number cut off at its decimal point. -/
def truncate? : Binary64 → Option Int
  | .finite negative m q =>
    let n := if 0 ≤ q then m * Nat.pow 2 q.toNat else m / Nat.pow 2 (-q).toNat
    some (if negative then -(n : Int) else n)
  | _ => none

end Binary64

end Tenancy
