import Tenancy.Access.Expression.Parse

/-!
# Path patterns

A path pattern is a path in which `:name` stands for one non-empty segment and `*` behind a slash
for anything. It is turned into a regular expression that has to match the whole path; characters
that mean something in regular expressions keep that meaning.
-/

namespace Tenancy.Access.Pattern

/-- Puts `.*` for every `*` behind a slash. -/
def wildcards : List Char → List Char
  | [] => []
  | '/' :: '*' :: rest => '/' :: '.' :: '*' :: wildcards rest
  | c :: rest => c :: wildcards rest

/-- Whether a name may begin here: with any character but a slash. -/
def startsName : List Char → Bool
  | [] => false
  | c :: _ => c ≠ '/'

/-- The expression for one non-empty segment. -/
def segment : List Char := ['[', '^', '\\', '/', ']', '+']

/-- Puts the expression for a segment in the place of every colon and the name behind it, which
reaches to the next slash; `inside` tells that a name is being passed over. -/
def parameters (inside : Bool) : List Char → List Char
  | [] => []
  | c :: rest =>
    if inside then
      if c = '/' then c :: parameters false rest else parameters true rest
    else if c = ':' ∧ startsName rest then segment ++ parameters true rest
    else c :: parameters false rest

/-- The expression of a pattern, between the anchors of both ends. The pattern `*` matches every
path. -/
def expressionText (pattern : String) : List Char :=
  let text := parameters false (wildcards pattern.toList)
  '^' :: (if text = ['*'] then ['(', '.', '*', ')'] else text) ++ ['$']

/-- Whether the pattern matches the path; a pattern may fail to be an expression. -/
def matchesPath (pattern path : String) : Except ExpressionError Bool := do
  return (← Expression.parse (expressionText pattern)).matchesFront path.toList

end Tenancy.Access.Pattern
