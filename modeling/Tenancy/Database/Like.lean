/-!
# Search patterns

In a pattern, a percent sign stands for any characters and an underscore for any one character.
Letters of the Latin alphabet are compared without regard to case, all others exactly. The
character with code zero ends a pattern and a text.
-/

namespace Tenancy

/-- Whether two characters are the same up to the case of Latin letters. -/
def sameLetter (a b : Char) : Bool :=
  a == b || a.toLower == b.toLower

/-- Whether a text has the form of a pattern. -/
def like : List Char → List Char → Bool
  | [], s => s.isEmpty
  | p :: pattern, [] => p == '%' && like pattern []
  | p :: pattern, c :: s =>
    if p = '%' then like pattern (c :: s) || like (p :: pattern) s
    else (p == '_' || sameLetter p c) && like pattern s
  termination_by pattern s => pattern.length + s.length

/-- The text up to the character with code zero. -/
def uptoZero (s : List Char) : List Char :=
  s.takeWhile (· ≠ Char.ofNat 0)

/-- Whether a text holds something of the form of a pattern. -/
def containsLike (pattern text : String) : Bool :=
  like (uptoZero ('%' :: pattern.toList ++ ['%'])) (uptoZero text.toList)

end Tenancy
