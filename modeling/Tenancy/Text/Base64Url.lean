/-!
# Base64 for URLs

Octets as letters of six bits each. The writer leaves padding out. The reader takes letters without
padding or with all of it, and it refuses everything that the writer does not write: other signs,
a single letter that is left over, and bits behind the last octet that are not zero.
-/

namespace Tenancy.Text.Base64Url

/-- The letter with a value below 64. -/
def letter (v : Nat) : UInt8 :=
  UInt8.ofNat (if v < 26 then 65 + v else if v < 52 then 71 + v else if v < 62 then v - 4
    else if v = 62 then 45 else 95)

/-- The value of a letter. -/
def value? (letter : UInt8) : Option Nat :=
  let n := letter.toNat
  if 65 ≤ n ∧ n ≤ 90 then some (n - 65)
  else if 97 ≤ n ∧ n ≤ 122 then some (n - 71)
  else if 48 ≤ n ∧ n ≤ 57 then some (n + 4)
  else if n = 45 then some 62
  else if n = 95 then some 63
  else none

/-- The letters of octets. -/
def encode : List UInt8 → List UInt8
  | [] => []
  | [a] => [letter (a.toNat / 4), letter (a.toNat % 4 * 16)]
  | [a, b] =>
    [letter (a.toNat / 4), letter (a.toNat % 4 * 16 + b.toNat / 16), letter (b.toNat % 16 * 4)]
  | a :: b :: c :: rest =>
    letter (a.toNat / 4) :: letter (a.toNat % 4 * 16 + b.toNat / 16) ::
      letter (b.toNat % 16 * 4 + c.toNat / 64) :: letter (c.toNat % 64) :: encode rest

/-- The padding sign. -/
def padSign : UInt8 := 61

/-- Reads letters that have no padding. -/
def decodeLetters : List UInt8 → Option (List UInt8)
  | [] => some []
  | [_] => none
  | [p, q] => do
    let (p, q) := (← value? p, ← value? q)
    if q % 16 = 0 then some [UInt8.ofNat (p * 4 + q / 16)] else none
  | [p, q, r] => do
    let (p, q, r) := (← value? p, ← value? q, ← value? r)
    if r % 4 = 0 then
      some [UInt8.ofNat (p * 4 + q / 16), UInt8.ofNat (q % 16 * 16 + r / 4)]
    else none
  | p :: q :: r :: s :: rest => do
    let (p, q, r, s) := (← value? p, ← value? q, ← value? r, ← value? s)
    let octets ← decodeLetters rest
    return UInt8.ofNat (p * 4 + q / 16) :: UInt8.ofNat (q % 16 * 16 + r / 4) ::
      UInt8.ofNat (r % 4 * 64 + s) :: octets

/-- The number of padding signs that complete the last group of four letters. -/
def padding (letters : Nat) : Nat :=
  (4 - letters % 4) % 4

/-- The octets that letters stand for, with all of the padding behind them or none of it. -/
def decode (letters : List UInt8) : Option (List UInt8) :=
  let body := letters.takeWhile (· ≠ padSign)
  let pads := letters.drop body.length
  if pads = [] ∨ pads = List.replicate (padding body.length) padSign then decodeLetters body
  else none

end Tenancy.Text.Base64Url
