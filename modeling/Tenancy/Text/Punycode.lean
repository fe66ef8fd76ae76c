/-!
# Punycode

Texts of any characters as texts of ASCII. The ASCII characters come first, then a hyphen, and then
the other characters in ascending order: for each the number of places that a walk over all
characters and all places passes before it is put in, in a notation of base 36 whose digits have
thresholds that adapt to the numbers written so far.
-/

namespace Tenancy.Text.Punycode

/-- The sign of a digit below 36. -/
def sign (d : Nat) : Char :=
  Char.ofNat (if d < 26 then 97 + d else 22 + d)

/-- The value of a sign in either case. -/
def value? (c : Char) : Option Nat :=
  let n := c.toNat
  if 97 ≤ n ∧ n ≤ 122 then some (n - 97)
  else if 65 ≤ n ∧ n ≤ 90 then some (n - 65)
  else if 48 ≤ n ∧ n ≤ 57 then some (n - 22)
  else none

/-- The threshold of the digit at a place, which counts from 36 in steps of 36. -/
def threshold (bias place : Nat) : Nat :=
  if place ≤ bias then 1 else if bias + 26 ≤ place then 26 else place - bias

theorem threshold_pos (bias place : Nat) : 0 < threshold bias place := by
  unfold threshold
  split
  · omega
  · split <;> omega

/-- Divides a number by 35 until it is small; answers it and 36 for each division. -/
def shrink (delta : Nat) : Nat × Nat :=
  if 455 < delta then
    let (small, divisions) := shrink (delta / 35)
    (small, divisions + 36)
  else (delta, 0)
  termination_by delta

/-- The bias behind a number, when `count` characters stand there. -/
def adapt (delta count : Nat) (first : Bool) : Nat :=
  let delta := if first then delta / 700 else delta / 2
  let (small, divisions) := shrink (delta + delta / count)
  divisions + 36 * small / (small + 38)

/-- The bias in front of the first number. -/
def firstBias : Nat := 72

/-- The digits of a number from a place on. -/
def writeNumber (bias place n : Nat) : List Char :=
  let t := threshold bias place
  if n < t then [sign n]
  else sign (t + (n - t) % (36 - t)) :: writeNumber bias (place + 36) ((n - t) / (36 - t))
  termination_by n
  decreasing_by
    have := threshold_pos bias place
    have := Nat.div_le_self (n - threshold bias place) (36 - threshold bias place)
    omega

/-- What the walk has written: its signs, the places passed since the last number, the bias, and the
number of characters put in. -/
structure Walk where
  signs : List Char := []
  delta : Nat := 0
  bias : Nat := firstBias
  count : Nat

/-- Passes one character of the text on the walk for the code `code`; `basic` characters are there
from the start. -/
def Walk.pass (basic code : Nat) (w : Walk) (c : Nat) : Walk :=
  if c < code then { w with delta := w.delta + 1 }
  else if c = code then
    { signs := w.signs ++ writeNumber w.bias 36 w.delta
      delta := 0
      bias := adapt w.delta (w.count + 1) (w.count = basic)
      count := w.count + 1 }
  else w

/-- Walks for all codes, in ascending order; `last` is the code before. -/
def Walk.run (codes : List Nat) (basic : Nat) (last : Nat) (w : Walk) : List Nat → Walk
  | [] => w
  | code :: rest =>
    let w := { w with delta := w.delta + (code - last) * (w.count + 1) }
    let w := codes.foldl (Walk.pass basic code) w
    Walk.run codes basic (code + 1) { w with delta := w.delta + 1 } rest

/-- A text in Punycode. -/
def encode (s : List Char) : List Char :=
  let basic := s.filter (·.toNat < 128)
  let codes := s.map Char.toNat
  let others := (codes.filter (128 ≤ ·)).mergeSort.eraseReps
  let walk := Walk.run codes basic.length 128 { count := basic.length } others
  basic ++ (if basic = [] then [] else ['-']) ++ walk.signs

/-- Reads a number from a place on; `weight` is what one counts at the place. Answers what is left
of the signs. -/
def readNumber (bias place weight : Nat) : List Char → Option (Nat × List Char)
  | [] => none
  | c :: rest => do
    let d ← value? c
    let t := threshold bias place
    if d < t then return (d * weight, rest)
    else
      let (n, rest) ← readNumber bias (place + 36) (weight * (36 - t)) rest
      return (d * weight + n, rest)

theorem length_of_readNumber {bias place weight : Nat} {s rest : List Char} {n : Nat}
    (read : readNumber bias place weight s = some (n, rest)) : rest.length < s.length := by
  induction s generalizing place weight n with
  | nil => simp [readNumber] at read
  | cons c s ih =>
    rw [readNumber] at read
    cases found : value? c with
    | none => simp [found] at read
    | some d =>
      by_cases final : d < threshold bias place
      · simp [found, final] at read
        simp [read.2]
      · cases more : readNumber bias (place + 36) (weight * (36 - threshold bias place)) s with
        | none => simp [found, final, more] at read
        | some pair =>
          obtain ⟨m, left⟩ := pair
          simp [found, final, more] at read
          have := ih (more.trans (by rw [read.2]))
          simp only [List.length_cons]
          omega

/-- The last code point. -/
def maxCode : Nat := 0x10FFFF

/-- Puts in the characters that signs tell of; `passed` counts the places passed for the code
`code`. -/
def insertAll (codes : List Nat) (bias code passed : Nat) (first : Bool) (signs : List Char) :
    Option (List Nat) :=
  if signs = [] then some codes
  else
    match read : readNumber bias 36 1 signs with
    | none => none
    | some (delta, rest) =>
      let places := codes.length + 1
      let code := code + (passed + delta) / places
      let place := (passed + delta) % places
      if maxCode < code then none
      else
        insertAll (codes.take place ++ code :: codes.drop place) (adapt delta places first) code
          (place + 1) false rest
  termination_by signs.length
  decreasing_by exact length_of_readNumber read

/-- The codes that a text in Punycode stands for. -/
def decode? (s : List Char) : Option (List Nat) :=
  let signs := (s.reverse.takeWhile (· ≠ '-')).reverse
  let basic := s.take (s.length - signs.length - 1)
  insertAll (basic.map Char.toNat) firstBias 128 0 true signs

end Tenancy.Text.Punycode
