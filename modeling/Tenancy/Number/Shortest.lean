import Tenancy.Number.Binary64
import Tenancy.Text.Numeral

/-!
# The shortest decimal of a double

A double is written with the fewest digits that read back as the same double; of two such
decimals the nearer one is taken. Positional notation reaches from `0.0001` up to sixteen digits
before the point.
-/

namespace Tenancy.Binary64

/-- The decimals with `digits · 10 ^ e` around `m · 2 ^ q`: the one below and the one above. -/
def neighbours (m : Nat) (q e : Int) : List (Nat × Int) :=
  let a := m * Nat.pow 2 q.toNat * Nat.pow 10 (-e).toNat
  let b := Nat.pow 2 (-q).toNat * Nat.pow 10 e.toNat
  let low := a / b
  if 2 * (a % b) < b then [(low, e), (low + 1, e)] else [(low + 1, e), (low, e)]

/-- The first power of ten, from `e` downwards, at which a neighbour reads back. -/
def shortestFrom (m : Nat) (q : Int) : Nat → Int → Nat × Int
  | 0, e => (m, e)
  | steps + 1, e =>
    match (neighbours m q e).find? fun d =>
        ofDecimal (.finite false d.1 d.2) = .finite false m q with
    | some found => found
    | none => shortestFrom m q steps (e - 1)

/-- The shortest digits of a positive double and the power of ten of the last of them. -/
def shortest (m : Nat) (q : Int) : Nat × Int :=
  shortestFrom m q 700 (if 0 ≤ q then (Nat.toDigits 10 (m * Nat.pow 2 q.toNat)).length else 17)

/-- Zeros. -/
def zeros (n : Nat) : List Char :=
  List.replicate n '0'

/-- Positional or exponential notation of `digits · 10 ^ e`. -/
def layout (digits : Nat) (e : Int) : List Char :=
  let ds := Nat.toDigits 10 digits
  let ds := ds.reverse.dropWhile (· = '0') |>.reverse
  let point : Int := (Nat.toDigits 10 digits).length + e
  if -4 < point ∧ point ≤ 16 then
    if point ≤ 0 then '0' :: '.' :: zeros (-point).toNat ++ ds
    else if (ds.length : Int) ≤ point then ds ++ zeros (point.toNat - ds.length) ++ ['.', '0']
    else ds.take point.toNat ++ '.' :: ds.drop point.toNat
  else
    let x := point - 1
    let size := Nat.toDigits 10 x.natAbs
    ds.take 1 ++ (if ds.length ≤ 1 then [] else '.' :: ds.drop 1) ++
      'e' :: (if x < 0 then '-' else '+') :: zeros (2 - size.length) ++ size

/-- The text of a double. -/
def text : Binary64 → List Char
  | .nan => "nan".toList
  | .infinite negative => (if negative then ['-'] else []) ++ "inf".toList
  | .finite negative m q =>
    (if negative then ['-'] else []) ++
      (if m = 0 then ['0', '.', '0'] else
        let (digits, e) := shortest m q
        layout digits e)

end Tenancy.Binary64
