import Tenancy.Domain.LabelData
import Tenancy.Domain.Mapping
import Tenancy.Text.Mark
import Tenancy.Text.Punycode
import Tenancy.Text.WordChar

/-!
# Labels

A label is a part of a domain between points. It consists of letters, digits, marks and inner
hyphens, is composed, and does not begin with a mark. A few characters may stand next to certain
others only. A label with characters that are written from right to left begins with one of them,
has none that is written from left to right, and does not mix two kinds of digits.

A label with other characters than ASCII has a second form, in ASCII: the sign `xn--` and its
Punycode.
-/

namespace Tenancy.Domain

open Text

/-- Characters that are neither letters, digits nor marks and may stand anywhere inside a label. -/
def extraCodes : List Nat :=
  [0x2D, 0x6FD, 0x6FE, 0xF0B]

/-- The letters, digits and marks that may stand anywhere in a label: those that the mapping keeps,
except for the barred ones. -/
def isLabelChar (c : Char) : Bool :=
  extraCodes.contains c.toNat ||
    ((isWordChar c || isMark c) && !barredRanges.has c.toNat && mapChar? c == some [c])

/-- Whether neighbours are passed over when letters are joined. -/
def isTransparent (c : Char) : Bool :=
  isNonspacingMark c || transparentLetters.has c.toNat

/-- Whether the nearest neighbour that is not passed over belongs to one of the sets. -/
def joins (sets : List CodeRanges) (side : List Char) : Bool :=
  ((side.dropWhile isTransparent).head?).any fun c => sets.any (·.has c.toNat)

/-- The combining class of the marks that take the vowel from a consonant. -/
def viramaClass : Nat := 9

/-- Whether such a mark stands right in front. -/
def afterVirama (before : List Char) : Bool :=
  before.head?.any fun c => combiningClass c.toNat = viramaClass

/-- The Arabic digits. -/
def isArabicDigit (c : Char) : Bool :=
  0x660 ≤ c.toNat && c.toNat ≤ 0x669

/-- The Arabic digits of other shapes, east of Arabia. -/
def isEasternDigit (c : Char) : Bool :=
  0x6F0 ≤ c.toNat && c.toNat ≤ 0x6F9

/-- Whether a character that is no plain label character may stand between its neighbours: a joiner,
the point between two `l`, a numeral or number sign, the point between words, or an Arabic digit.
`before` begins with the nearest neighbour. -/
def mayStand (before after : List Char) (c : Char) : Bool :=
  match c.toNat with
  | 0x200C => afterVirama before ||
    (joins [leftJoiningRanges, dualJoiningRanges] before &&
      joins [rightJoiningRanges, dualJoiningRanges] after)
  | 0x200D => afterVirama before
  | 0xB7 => before.head? = some 'l' && after.head? = some 'l'
  | 0x375 => after.head?.any (greekRanges.has ·.toNat)
  | 0x5F3 | 0x5F4 => before.head?.any (hebrewRanges.has ·.toNat)
  | 0x30FB => (before ++ after).any (kanaOrHanRanges.has ·.toNat)
  | _ =>
    (isArabicDigit c && !(before ++ after).any isEasternDigit) ||
      (isEasternDigit c && !(before ++ after).any isArabicDigit)

/-- Whether all characters may stand where they are; `before` holds the ones already looked at, the
last one first. -/
def allMayStand (before : List Char) : List Char → Bool
  | [] => true
  | c :: rest => (isLabelChar c || mayStand before rest c) && allMayStand (c :: before) rest

/-- In which direction a character is written. -/
inductive Direction where
  | leftToRight
  | rightToLeft
  | arabicDigit
  | europeanDigit
  | neutral
  | mark
  deriving DecidableEq, Repr

/-- The direction of a character. -/
def Direction.of (c : Char) : Direction :=
  let code := c.toNat
  if rightToLeftRanges.has code then .rightToLeft
  else if arabicDigitRanges.has code then .arabicDigit
  else if europeanDigitRanges.has code then .europeanDigit
  else if neutralRanges.has code then .neutral
  else if isNonspacingMark c && !leftToRightMarks.has code then .mark
  else .leftToRight

/-- Whether the directions of a label go together. -/
def isDirected (directions : List Direction) : Bool :=
  let last := (directions.reverse.dropWhile (· = .mark)).head?
  if .rightToLeft ∉ directions ∧ .arabicDigit ∉ directions then true
  else
    match directions with
    | .rightToLeft :: _ =>
      .leftToRight ∉ directions &&
        last.any (fun d => d = .rightToLeft ∨ d = .europeanDigit ∨ d = .arabicDigit) &&
        !(directions.contains .arabicDigit && directions.contains .europeanDigit)
    | _ => false

/-- Whether a text is a label. -/
def isLabel (s : List Char) : Bool :=
  !s.isEmpty && normal s == s && (s.drop 2).take 2 != ['-', '-'] && s.head? != some '-' &&
    s.getLast? != some '-' && !s.head?.any isMark && allMayStand [] s &&
    isDirected (s.map Direction.of)

/-- What an encoded label begins with. -/
def encodedSign : List Char := ['x', 'n', '-', '-']

/-- The longest label in ASCII. -/
def maxLabel : Nat := 63

/-- The label that a label in ASCII stands for. -/
def decodeLabel? (s : List Char) : Option (List Char) := do
  let label ←
    if encodedSign.isPrefixOf s then
      if s.getLast? = some '-' then none
      else (Punycode.decode? (s.drop encodedSign.length)).map (·.map Char.ofNat)
    else some s
  if isLabel label then some label else none

/-- The form of a label in ASCII. -/
def encodeLabel? (s : List Char) : Option (List Char) := do
  let encoded ←
    if s.all (·.toNat < 128) then (decodeLabel? s).map fun _ => s
    else if isLabel s then some (encodedSign ++ Punycode.encode s)
    else none
  if encoded.length ≤ maxLabel then some encoded else none

end Tenancy.Domain
