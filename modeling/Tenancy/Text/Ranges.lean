/-!
# Tables of code points

A property of characters is kept as a list of closed ranges of code points. A mapping of characters
is kept as shifts, which move many code points by one distance, and as rows, which give the image of
every code point from a first one on.
-/

namespace Tenancy.Text

/-- A set of code points: closed ranges `(first, last)`. -/
abbrev CodeRanges := List (Nat × Nat)

/-- The first code point of the range that holds `code`. -/
def CodeRanges.row? (ranges : CodeRanges) (code : Nat) : Option Nat :=
  (ranges.find? fun r => r.1 ≤ code && code ≤ r.2).map (·.1)

/-- Whether some range holds `code`. -/
def CodeRanges.has (ranges : CodeRanges) (code : Nat) : Bool :=
  ranges.any fun r => r.1 ≤ code && code ≤ r.2

/-- Every `step`-th code point from `first` to `last` moves by `delta`. -/
structure CodeShift where
  first : Nat
  last : Nat
  step : Nat
  delta : Int

/-- Whether the shift moves the code point. -/
def CodeShift.covers (s : CodeShift) (code : Nat) : Bool :=
  s.first ≤ code && code ≤ s.last && (code - s.first) % s.step == 0

/-- The code point that a table of shifts gives for `code`. -/
def shifted? (table : List CodeShift) (code : Nat) : Option Nat :=
  (table.find? (·.covers code)).map fun s => (Int.ofNat code + s.delta).toNat

/-- Rows of images: `(first, images)` holds the images of the code points from `first` on. -/
abbrev CodeRows := List (Nat × List Nat)

/-- The image of a code point in some row. -/
def CodeRows.image? (rows : CodeRows) (code : Nat) : Option Nat :=
  rows.findSome? fun (first, images) => if first ≤ code then images[code - first]? else none

end Tenancy.Text
