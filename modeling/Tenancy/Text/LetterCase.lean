import Tenancy.Text.CaseData

/-!
# Lower and upper case

Full case conversion of a text. Every character is converted on its own, with one exception: a
capital sigma that ends a word becomes the final sigma. A sigma ends a word when, passing over
case-ignorable characters, a cased character stands before it and none stands after it.
-/

namespace Tenancy.Text

/-- The lower case of one character, taken on its own. -/
def lowerChar (edition : CaseEdition) (c : Char) : List Char :=
  if c.toNat = 0x130 then ['i', Char.ofNat 0x307]
  else
    match shifted? edition.shifts c.toNat with
    | some code => [Char.ofNat code]
    | none => [c]

/-- Whether the first character that is not passed over has a case. -/
def startsCased (edition : CaseEdition) (s : List Char) : Bool :=
  match s.dropWhile fun c => edition.isIgnorable c.toNat with
  | [] => false
  | c :: _ => edition.isCased c.toNat

/-- Lower case of a text; `before` holds the characters already read, the last one first. -/
def lowerAfter (edition : CaseEdition) (before : List Char) : List Char → List Char
  | [] => []
  | c :: rest =>
    (if c = 'Σ' then
      [if startsCased edition before && !startsCased edition rest then 'ς' else 'σ']
    else lowerChar edition c) ++ lowerAfter edition (c :: before) rest

/-- The text in lower case. -/
def lower (edition : CaseEdition) (s : List Char) : List Char :=
  lowerAfter edition [] s

/-- The upper case of one character. -/
def upperChar (c : Char) : List Char :=
  match upperExpansions.lookup c.toNat with
  | some codes => codes.map Char.ofNat
  | none =>
    match shifted? upperShifts c.toNat with
    | some code => [Char.ofNat code]
    | none => [c]

/-- The text in upper case. -/
def upper (s : List Char) : List Char :=
  s.flatMap upperChar

/-! ## Letters that differ in case only -/

/-- The small letter of a code, as one code. -/
def smallCode (code : Nat) : Nat :=
  if code = 0x130 then 0x69 else (shifted? edition14.shifts code).getD code

/-- The capital form of the small letter of a code, which letters that differ in case only have in
common. -/
def foldedCase (code : Nat) : List Char :=
  upperChar (Char.ofNat (smallCode code))

/-- The codes that shifts of a table move to `code`. -/
def unshifted (table : List CodeShift) (code : Nat) : List Nat :=
  table.filterMap fun s =>
    let origin := (Int.ofNat code - s.delta).toNat
    if s.covers origin then some origin else none

/-- The codes that may have a capital form. -/
def smallCandidates (capital : List Char) : List Nat :=
  match capital with
  | [c] => c.toNat :: unshifted upperShifts c.toNat
  | _ => (upperExpansions.filter fun (_, codes) => codes.map Char.ofNat = capital).map (·.1)

/-- The codes of all letters that differ from a letter in case only, and its own. -/
def caseVariants (code : Nat) : List Nat :=
  let folded := foldedCase code
  let small := smallCandidates folded
  let candidates := small ++ small.flatMap (unshifted edition14.shifts) ++ [0x130]
  code :: candidates.filter fun other => other ≠ code && foldedCase other = folded

end Tenancy.Text
