import Tenancy.Domain.MappingData
import Tenancy.Text.Normal

/-!
# Domain mapping

A domain is mapped character by character and then composed, before it is cut into labels: capital
letters turn small, layout forms turn plain, some characters vanish, and every kind of full stop
turns into a point. Some characters may not stand in a domain at all.
-/

namespace Tenancy.Domain

open Text

/-- The codes that a code becomes. -/
def imageOf (code : Nat) : List Nat :=
  match shifted? mappedShifts code, mappedRows.image? code with
  | some other, _ => [other]
  | none, some other => [other]
  | none, none =>
    match mappedPairs.find? (·.1 = code) with
    | some (_, first, second) => [first, second]
    | none => (mappedTexts.lookup code).getD [code]

/-- The characters that a character becomes, or `none` for one that may not stand in a domain. -/
def mapChar? (c : Char) : Option (List Char) :=
  if refusedRanges.has c.toNat then none
  else if ignoredRanges.has c.toNat then some []
  else some ((imageOf c.toNat).map Char.ofNat)

/-- The mapped form of a domain. -/
def map? (s : List Char) : Option (List Char) :=
  (s.mapM mapChar?).map fun parts => normal parts.flatten

end Tenancy.Domain
