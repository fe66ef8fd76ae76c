import Tenancy.Text.Blank
import Tenancy.Text.Digit
import Tenancy.Text.Numeral

/-!
# Integers in texts

An integer may be written with a sign, with decimal digits of any script, and with single
underscores between digits; blanks around it do not count. The information separators count as
blanks only in a text that has a character beyond ASCII.
-/

namespace Tenancy.Text

/-- The values of decimal digits, with single underscores allowed between them. -/
def digitValues? : List Char → Option (List Nat)
  | [] => none
  | [c] => (decimalDigit? c).map ([·])
  | c :: '_' :: rest => do return (← decimalDigit? c) :: (← digitValues? rest)
  | c :: rest => do return (← decimalDigit? c) :: (← digitValues? rest)

/-- The number with the given decimal digits. -/
def ofDigits (ds : List Nat) : Nat :=
  ds.foldl (fun n d => 10 * n + d) 0

/-- The text without the blanks around it. -/
def bare (s : List Char) : List Char :=
  if s.all (·.toNat < 128) then trim s else strip s

/-- The integer that a text holds. -/
def integer? (s : List Char) : Option Int := do
  let (negative, body) := match bare s with
    | '+' :: rest => (false, rest)
    | '-' :: rest => (true, rest)
    | rest => (false, rest)
  let ds ← digitValues? body
  if maxDigits < ds.length then none
  else return if negative then -(ofDigits ds : Int) else ofDigits ds

end Tenancy.Text
