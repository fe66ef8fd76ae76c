import Tenancy.Json.Basic
import Tenancy.Text.Integer

/-!
# The subject of a token

The subject names an account by its id: a minus sign at most, and decimal digits of any script.
Other subjects are refused for one of three reasons: they are no texts of digit signs behind minus
signs at all, they are but show no number, or too many digits stand in front.
-/

namespace Tenancy

/-- Why a subject names no account. -/
inductive SubjectFault where
  | malformed
  | noNumeral (text : List Char)
  | tooLong (digits : Nat)
  deriving DecidableEq, Repr

/-- The account id that a subject text names. -/
def readSubject (s : List Char) : Except SubjectFault Int :=
  let body := s.dropWhile (· = '-')
  let signs := s.length - body.length
  if body.isEmpty || !body.all Text.isDigitLike then .error .malformed
  else
    let numeral := body.takeWhile fun c => (Text.decimalDigit? c).isSome
    if 1 < signs then .error (.noNumeral s)
    else if Text.maxDigits < numeral.length then .error (.tooLong numeral.length)
    else
      match body.mapM Text.decimalDigit? with
      | none => .error (.noNumeral s)
      | some ds => .ok (if signs = 1 then -(Text.ofDigits ds : Int) else Text.ofDigits ds)

/-- The account id that claims name. -/
def subjectOf (claims : Json.Members) : Except SubjectFault Int :=
  match claims.get? "sub" with
  | some (.str s) => readSubject s.toList
  | _ => .error .malformed

end Tenancy
