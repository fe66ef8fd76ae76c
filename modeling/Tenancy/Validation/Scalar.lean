import Tenancy.Json.Basic
import Tenancy.Number.Binary64
import Tenancy.Number.Width
import Tenancy.Text.Blank
import Tenancy.Text.LetterCase
import Tenancy.Text.Numeral
import Tenancy.Validation.Issue

/-!
# Reading single values

* Texts have to be JSON strings. Blanks at both ends are stripped, then the length in code points
  is checked, and lower case comes last.
* Integers may be whole numbers, numbers without a fraction, booleans, or texts of decimal digits
  with an optional sign, surplus zeros in front, single underscores between digits and a tail of
  zeros behind a point.
* Booleans may be booleans, the numbers 0 and 1, or one of some words in any case.
-/

namespace Tenancy.Validation

/-- The bounds of the length of a text, and whether it is put into lower case. -/
structure TextRule where
  least : Nat
  most : Nat
  lower : Bool := false
  deriving DecidableEq, Repr

/-- Strips a text, checks its length and gives it the case of the rule. -/
def TextRule.apply (rule : TextRule) (s : String) : Except Complaint String :=
  let t := Text.trim s.toList
  if t.length < rule.least then .error (.tooShort rule.least)
  else if rule.most < t.length then .error (.tooLong rule.most)
  else .ok (String.ofList (if rule.lower then Text.lower Text.edition17 t else t))

/-- Reads a text under a rule. -/
def readText (rule : TextRule) : Json → Except Complaint String
  | .str s => rule.apply s
  | .string _ => .error .stringUnicode
  | _ => .error .stringType

/-- The text behind its leading zeros, among which underscores may stand. One character is kept
before a point and at the end of the text. Only a digit or a minus sign may come first, and only a
digit, a minus sign or a point may follow. -/
def afterZeros? : List Char → Option (List Char)
  | [] => none
  | c :: rest =>
    if c = '-' ∨ ('1' ≤ c ∧ c ≤ '9') then some (c :: rest)
    else if c ≠ '0' then none
    else
      let zeros := rest.takeWhile fun d => d = '0' ∨ d = '_'
      let kept := [((c :: zeros).getLast?).getD c]
      match rest.drop zeros.length with
      | [] => some kept
      | '.' :: tail => some (kept ++ '.' :: tail)
      | d :: tail => if d = '-' ∨ ('1' ≤ d ∧ d ≤ '9') then some (d :: tail) else none

/-- The text without a point that zeros and nothing else follow. -/
def withoutFraction (s : List Char) : List Char :=
  let whole := s.takeWhile (· ≠ '.')
  match s.drop whole.length with
  | '.' :: '0' :: zeros => if zeros.all (· = '0') then whole else s
  | _ => s

/-- Whether two underscores stand next to each other. -/
def hasDoubleUnderscore : List Char → Bool
  | '_' :: '_' :: _ => true
  | _ :: rest => hasDoubleUnderscore rest
  | [] => false

/-- The text without its underscores, if they all stand alone inside it. -/
def withoutUnderscores (s : List Char) : List Char :=
  if s.head? = some '_' ∨ s.getLast? = some '_' ∨ hasDoubleUnderscore s then s
  else s.filter (· ≠ '_')

/-- The digits of a numeral without surplus zeros, and whether a minus sign stands before them. -/
def numeral? (s : List Char) : Option (Bool × List Char) :=
  let (negative, digits) := match s with
    | '-' :: digits => (true, digits)
    | digits => (false, digits)
  if digits = [] ∨ !digits.all Char.isDigit then none
  else if digits.head? = some '0' ∧ digits.length ≠ 1 then none
  else some (negative, digits)

/-- The numeral that a text stands for, without surplus zeros, underscores and a tail of zeros. -/
def cleaned? (s : List Char) : Option (List Char) :=
  let clean := withoutUnderscores ∘ withoutFraction
  match s with
  | '+' :: '-' :: _ => none
  | '+' :: rest => (afterZeros? rest).map clean
  | '-' :: rest => (afterZeros? rest).map fun digits => '-' :: clean digits
  | rest => (afterZeros? rest).map clean

/-- Reads an integer from a text. A text with too many digits is told apart from other texts only
if it is a numeral as it stands. -/
def parseInt (s : String) : Except Complaint Int :=
  let t := Text.trim s.toList
  if ((numeral? t).map (·.2)).any (Text.maxDigits < ·.length) then .error .intTooLarge
  else
    match (cleaned? t).bind numeral? with
    | none => .error .intParsing
    | some (negative, digits) =>
      if Text.maxDigits < digits.length then .error .intParsing
      else
        let n : Int := Nat.ofDigitChars 10 digits 0
        .ok (if negative then -n else n)

/-- Reads an integer from a number with a fraction or an exponent; it has to lie strictly within
64 bits. -/
def intOfDecimal (d : Decimal) : Except Complaint Int :=
  match Binary64.ofDecimal d with
  | .finite negative m q =>
    match (Binary64.finite negative m q).toInt? with
    | none => .error .intFromFraction
    | some n =>
      if -0x8000000000000000 < n ∧ n < 0x8000000000000000 then .ok n else .error .intTooLarge
  | _ => .error .notFinite

/-- Reads an integer. -/
def readInt : Json → Except Complaint Int
  | .int n => .ok n
  | .bool b => .ok (if b then 1 else 0)
  | .real d => intOfDecimal d
  | .str s => parseInt s
  | .string _ => .error .stringUnicode
  | _ => .error .intType

/-- Reads an integer within bounds. -/
def readIntIn (least : Int) (most : Option Int) (j : Json) : Except Complaint Int := do
  let n ← readInt j
  if n < least then .error (.below least)
  else
    match most with
    | some bound => if bound < n then .error (.above bound) else return n
    | none => return n

/-- The boolean that 0 or 1 stands for. -/
def boolOfInt (n : Int) : Except Complaint Bool :=
  if n = 0 then .ok false else if n = 1 then .ok true else .error .boolParsing

/-- Reads a boolean. -/
def readBool : Json → Except Complaint Bool
  | .bool b => .ok b
  | .int n => if fits64 n then boolOfInt n else .error .boolType
  | .real d =>
    match intOfDecimal d with
    | .ok n => boolOfInt n
    | .error _ => .error .boolType
  | .str s =>
    let word := String.ofList (s.toList.map Char.toLower)
    if word ∈ ["1", "true", "t", "yes", "y", "on"] then .ok true
    else if word ∈ ["0", "false", "f", "no", "n", "off"] then .ok false
    else .error .boolParsing
  | .string _ => .error .stringUnicode
  | _ => .error .boolType

/-- A reader whose complaints are about the value itself. -/
def whole {α : Type} (reader : Json → Except Complaint α) (j : Json) : Checked α :=
  (reader j).mapError fun c => [{ place := [], complaint := c, echoed := j.isPlain }]

/-- Reads a list of integers; the issues of an item are placed at its index. -/
def readInts : Json → Checked (List Int)
  | .arr items =>
    (items.zipIdx.foldr (fun (item, n) found =>
      (Checked.both ((whole readInt item).within [.index n]) found).map
        fun (a, l) => a :: l) (.ok []))
  | value => whole (fun _ => .error .listType) value

end Tenancy.Validation
