/-!
# Blanks

Two sets of blank characters are in use. `isBlank` is the Unicode property `White_Space`, which
input validation strips. `isSpacing` adds the four information separators U+001C to U+001F, which
search texts and header values are stripped of as well.
-/

namespace Tenancy.Text

/-- The Unicode property `White_Space`. -/
def isBlank (c : Char) : Bool :=
  let n := c.toNat
  (9 ≤ n && n ≤ 13) || n == 0x20 || n == 0x85 || n == 0xA0 || n == 0x1680 ||
    (0x2000 ≤ n && n ≤ 0x200A) || n == 0x2028 || n == 0x2029 || n == 0x202F || n == 0x205F ||
    n == 0x3000

/-- A blank or one of the information separators U+001C to U+001F. -/
def isSpacing (c : Char) : Bool :=
  isBlank c || (0x1C ≤ c.toNat && c.toNat ≤ 0x1F)

/-- The text without the characters at both ends that `drop` accepts. -/
def trimWith (drop : Char → Bool) (s : List Char) : List Char :=
  ((s.dropWhile drop).reverse.dropWhile drop).reverse

/-- The text without blanks at both ends. -/
def trim (s : List Char) : List Char :=
  trimWith isBlank s

/-- The text without blanks and information separators at both ends. -/
def strip (s : List Char) : List Char :=
  trimWith isSpacing s

end Tenancy.Text
