import Tenancy.Domain.Label
import Tenancy.Text.Blank
import Tenancy.Text.Printable
import Tenancy.Text.Split

/-!
# Domains

The domain of a mail address: two labels at least, the last of which ends with a letter, and no
domain that is set aside for special use. A domain has two forms, one to be shown and one in ASCII.
-/

namespace Tenancy.Domain

open Text

/-- A character beyond ASCII that can be seen. -/
def isWide (c : Char) : Bool :=
  128 ≤ c.toNat && isPrintable c && !isSpacing c

/-- Whether a text has no mark at its front that would combine with something before it. -/
def standsAlone (s : List Char) : Bool :=
  !s.head?.any isMark

/-- The characters of a domain. -/
def isDomainChar (c : Char) : Bool :=
  c.isAlphanum || c == '-' || c == '.' || isWide c

/-- Whether a part between points is neither empty nor kept for other encodings, and has hyphens
inside only. -/
def isPart (s : List Char) : Bool :=
  !s.isEmpty && s.head? != some '-' && s.getLast? != some '-' &&
    !((s.drop 2).take 2 == ['-', '-'] && s.take 2 != ['x', 'n'])

/-- The domains set aside for special use. -/
def specialDomains : List (List (List Char)) :=
  ["arpa", "invalid", "local", "localhost", "onion", "test"].map fun s => [s.toList]

/-- The longest domain in ASCII. -/
def maxDomain : Nat := 253

/-- A domain in its two forms. -/
structure Name where
  shown : List Char
  ascii : List Char
  deriving DecidableEq, Repr

/-- Labels with points between them. -/
def join (labels : List (List Char)) : List Char :=
  ['.'].intercalate labels

/-- The domain that a text stands for. -/
def Name.of? (s : List Char) : Option Name :=
  if !s.all isDomainChar || !standsAlone s then none
  else do
    let mapped ← map? s
    let parts := splitAt '.' mapped
    if !mapped.all (fun c => c.isAlphanum || c == '-' || c == '.' || 128 ≤ c.toNat) then none
    else if !parts.all isPart || parts.length < 2 then none
    else do
      let labels ← parts.mapM encodeLabel?
      let ascii := join labels
      if maxDomain < ascii.length || !ascii.getLast?.any Char.isAlpha then none
      else if specialDomains.any (·.isSuffixOf labels) then none
      else return { shown := join (← labels.mapM decodeLabel?), ascii }

end Tenancy.Domain
