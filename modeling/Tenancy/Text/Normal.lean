import Tenancy.Text.NormalData

/-!
# Composed normal form

Canonically equivalent texts have one composed form. A text is decomposed as far as possible, the
marks behind a character are put into the order of their classes, and then every mark that composes
with the character before it is composed, unless another mark of its class or a higher one stands
between them. Hangul syllables are composed by rule, all other characters by table.
-/

namespace Tenancy.Text

/-- The combining class of a code point. -/
def combiningClass (code : Nat) : Nat :=
  match combiningRanges.find? fun r => r.1 ≤ code && code ≤ r.2.1 with
  | some (_, _, k) => k
  | none => 0

/-- The first Hangul syllable. -/
def hangulBase : Nat := 0xAC00

/-- The first leading consonant, vowel, and the code before the first trailing consonant. -/
def hangulParts : Nat × Nat × Nat := (0x1100, 0x1161, 0x11A7)

/-- The number of Hangul syllables. -/
def hangulCount : Nat := 11172

/-- One step of decomposition. -/
def decomposeOnce (code : Nat) : List Nat :=
  if hangulBase ≤ code ∧ code < hangulBase + hangulCount then
    let s := code - hangulBase
    let (l, v, t) := hangulParts
    [l + s / 588, v + s % 588 / 28] ++ (if s % 28 = 0 then [] else [t + s % 28])
  else
    match pairDecompositions.find? (·.1 = code) with
    | some (_, first, second) => [first, second]
    | none =>
      match singleDecompositions.image? code with
      | some other => [other]
      | none => [code]

/-- The most steps that a decomposition takes. -/
def decompositionSteps : Nat := 4

/-- The text decomposed by some steps. -/
def decompose : Nat → List Nat → List Nat
  | 0, codes => codes
  | steps + 1, codes => decompose steps (codes.flatMap decomposeOnce)

/-- Puts a code in front of others, behind the marks of lower class among the first of them. -/
def placeMark (code : Nat) : List Nat → List Nat
  | [] => [code]
  | other :: rest =>
    if 0 < combiningClass other ∧ combiningClass other < combiningClass code then
      other :: placeMark code rest
    else code :: other :: rest

/-- The text with its marks in order. -/
def orderMarks (codes : List Nat) : List Nat :=
  codes.foldr placeMark []

/-- The syllable of a leading consonant and a vowel, or of an open syllable and a trailing
consonant. -/
def composeHangul? (first second : Nat) : Option Nat :=
  let (l, v, t) := hangulParts
  if l ≤ first ∧ first < l + 19 ∧ v ≤ second ∧ second < v + 21 then
    some (hangulBase + ((first - l) * 21 + (second - v)) * 28)
  else if hangulBase ≤ first ∧ first < hangulBase + hangulCount ∧ (first - hangulBase) % 28 = 0 ∧
      t < second ∧ second < t + 28 then
    some (first + (second - t))
  else none

/-- The character that two characters compose to. -/
def compose? (first second : Nat) : Option Nat :=
  (composeHangul? first second).or
    ((pairDecompositions.find? fun (code, a, b) =>
      a = first && b = second && !uncomposed.has code).map (·.1))

/-- Composes a text behind a character; `passed` holds the marks between them that stay, the last
one first. -/
def composeFrom (base : Nat) (passed : List Nat) : List Nat → List Nat
  | [] => base :: passed.reverse
  | code :: rest =>
    let k := combiningClass code
    let blocked := combiningClass base ≠ 0 ∨ passed.any (k ≤ combiningClass ·)
    match if blocked then none else compose? base code with
    | some composed => composeFrom composed passed rest
    | none =>
      if k = 0 then base :: passed.reverse ++ composeFrom code [] rest
      else composeFrom base (code :: passed) rest

/-- The composed normal form of a text. -/
def normal (s : List Char) : List Char :=
  if s.all (·.toNat < 128) then s
  else
    match orderMarks (decompose decompositionSteps (s.map Char.toNat)) with
    | [] => []
    | base :: rest => (composeFrom base [] rest).map Char.ofNat

end Tenancy.Text
