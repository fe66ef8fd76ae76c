import Tenancy.Json.Basic
import Tenancy.Number.Binary64
import Tenancy.Settings

/-!
# The lifetime of a token

A lifetime is given in minutes, which may be a number with a fraction; it is rounded to
microseconds, a half going to the even neighbour, and the token expires at the whole second before
its end. A lifetime is refused if it has too many days, or if it ends outside the years 1 to 9999.
-/

namespace Tenancy

/-- Why there is no lifetime. -/
inductive LifetimeFault where
  /-- A value that gives no minutes. -/
  | notNumeric (value : Json)
  | notANumber
  | infinite
  /-- A number of days beyond 32 bits. -/
  | tooManyDays
  | daysOutOfRange (days : Int)
  | dateOutOfRange

namespace Token

/-- The microseconds of a minute. -/
def minute : Nat := 60000000

/-- The microseconds of a number of minutes. The part behind the point is multiplied as a double. -/
def microsecondsOf : Binary64 → Except LifetimeFault Int
  | .nan => .error .notANumber
  | .infinite _ => .error .infinite
  | .finite negative m q =>
    let unit := Nat.pow 2 (-q).toNat
    let minutes := m * Nat.pow 2 q.toNat
    let n := minutes / unit * minute +
      match Binary64.ofRatio false (minute * (minutes % unit)) unit with
      | .finite _ k r => Binary64.roundDiv (k * Nat.pow 2 r.toNat) (Nat.pow 2 (-r).toNat)
      | _ => 0
    .ok (if negative then -(n : Int) else n)

/-- The microseconds of a lifetime. Whatever counts as false stands for what is set. -/
def lifetimeMicroseconds (settings : Settings) (value : Json) : Except LifetimeFault Int :=
  if !value.truthy then .ok (settings.minutes * minute)
  else
    match value with
    | .bool _ => .ok minute
    | .int minutes => .ok (minutes * minute)
    | .real d => microsecondsOf (.ofDecimal d)
    | value => .error (.notNumeric value)

/-- The most days of a lifetime, forwards or backwards. -/
def maxDays : Nat := 999999999

/-- The first second of the year 1. -/
def firstSecond : Int := -62135596800

/-- The last second of the year 9999. -/
def lastSecond : Int := 253402300799

/-- The lifetime, in seconds, of a token that is issued at `now`. -/
def lifetime (settings : Settings) (now : Int) (value : Json) : Except LifetimeFault Int := do
  let seconds := (← lifetimeMicroseconds settings value).fdiv 1000000
  let days := seconds.fdiv 86400
  if days < -0x80000000 ∨ 0x80000000 ≤ days then .error .tooManyDays
  else if maxDays < days.natAbs then .error (.daysOutOfRange days)
  else if now + seconds < firstSecond ∨ lastSecond < now + seconds then .error .dateOutOfRange
  else return seconds

end Token

end Tenancy
