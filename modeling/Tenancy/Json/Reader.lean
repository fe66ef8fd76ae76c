import Tenancy.Json.Basic
import Tenancy.Text.Hex
import Tenancy.Text.Numeral

/-!
# Reading JSON

A reader for JSON texts. Beyond the standard it accepts the words `NaN`, `Infinity` and
`-Infinity` as numbers. A failure names its cause and the place: the number of characters from
there to the end of the text. Two escaped surrogates that belong together are one character, and
an escaped surrogate without its partner stays as it is.

A text can also hold surrogates that are not escaped. They are no characters: U+FFFD stands in for
each of them, and the list of strays tells its code and the number of characters behind it.
-/

namespace Tenancy.Json

/-- Why a text is no JSON value. -/
inductive Flaw where
  | valueExpected
  | nameExpected
  | colonExpected
  | commaExpected
  | unterminated
  | control
  | escape
  | unicodeEscape
  | surplus
  | longNumeral (digits : Nat)
  deriving DecidableEq, Repr

/-- A flaw and how many characters are left from its place on. -/
structure ReadError where
  flaw : Flaw
  left : Nat
  deriving DecidableEq, Repr

/-- The blanks between the parts of a JSON text. -/
def isGap (c : Char) : Bool :=
  c == ' ' || c == '\t' || c == '\n' || c == '\r'

/-- The text from the first character on that is no gap. -/
def skipGap (s : List Char) : List Char :=
  s.dropWhile isGap

/-- The value of four hexadecimal digits. -/
def hexUnit? (a b c d : Char) : Option Nat := do
  let a ← Text.hexValue? a
  let b ← Text.hexValue? b
  let c ← Text.hexValue? c
  let d ← Text.hexValue? d
  return ((a * 16 + b) * 16 + c) * 16 + d

/-- The character that a backslash and `c` stand for. -/
def escaped? (c : Char) : Option Char :=
  match c with
  | '"' => some '"'
  | '\\' => some '\\'
  | '/' => some '/'
  | 'b' => some (Char.ofNat 8)
  | 'f' => some (Char.ofNat 12)
  | 'n' => some '\n'
  | 'r' => some '\r'
  | 't' => some '\t'
  | _ => none

/-- The unit of a surrogate that is not escaped. It lies beyond all codes, as such a surrogate is
never taken for one half of a pair. -/
def strayUnit (code : Nat) : Nat :=
  0x110000 + code

/-- The code of a unit that is no half of a pair. -/
def codeOfUnit (unit : Nat) : Nat :=
  unit % 0x110000

section Strays

variable (strays : List (Nat × Nat))

/-- The code unit of a character in front of `rest`: that of the surrogate for which it stands in,
or its own. -/
def unitOf (c : Char) (rest : List Char) : Nat :=
  if c.toNat = 0xFFFD then ((strays.lookup rest.length).map strayUnit).getD c.toNat else c.toNat

/-- Reads the code units of a string up to its closing quote; `opened` is what was left at the
opening quote. A Unicode escape needs a character after its four digits. -/
def readUnits (opened : Nat) : List Char → Except ReadError (List Nat × List Char)
  | [] => .error ⟨.unterminated, opened⟩
  | '"' :: rest => .ok ([], rest)
  | ['\\'] => .error ⟨.unterminated, opened⟩
  | '\\' :: 'u' :: a :: b :: c :: d :: rest =>
    match hexUnit? a b c d, rest with
    | some unit, _ :: _ => do
      let (units, rest) ← readUnits opened rest
      return (unit :: units, rest)
    | _, _ => .error ⟨.unicodeEscape, rest.length + 5⟩
  | '\\' :: c :: rest =>
    match escaped? c with
    | some e => do
      let (units, rest) ← readUnits opened rest
      return (e.toNat :: units, rest)
    | none =>
      if c = 'u' then .error ⟨.unicodeEscape, rest.length + 1⟩
      else .error ⟨.escape, rest.length + 2⟩
  | c :: rest =>
    if c.toNat < 0x20 then .error ⟨.control, rest.length + 1⟩
    else do
      let (units, tail) ← readUnits opened rest
      return (unitOf strays c rest :: units, tail)

/-- Reads a string behind its opening quote. -/
def readString (s : List Char) : Except ReadError (Str × List Char) := do
  let (units, rest) ← readUnits strays (s.length + 1) s
  return (.ofCodes ((Text.joinUnits units).map codeOfUnit), rest)

/-- The digits at the front of a text and what follows them. -/
def digits (s : List Char) : List Char × List Char :=
  (s.takeWhile Char.isDigit, s.dropWhile Char.isDigit)

/-- The digits of a fraction behind a point, if there is at least one. -/
def fraction (s : List Char) : List Char × List Char :=
  match s with
  | '.' :: rest =>
    match digits rest with
    | ([], _) => ([], s)
    | found => found
  | _ => ([], s)

/-- The value of an exponent, if there is one with at least one digit. -/
def exponent? (s : List Char) : Option (Int × List Char) :=
  match s with
  | e :: rest =>
    if e = 'e' ∨ e = 'E' then
      let (negative, rest) :=
        match rest with
        | '-' :: rest => (true, rest)
        | '+' :: rest => (false, rest)
        | _ => (false, rest)
      match digits rest with
      | ([], _) => none
      | (ds, rest) =>
        let n : Int := Nat.ofDigitChars 10 ds 0
        some (if negative then -n else n, rest)
    else none
  | [] => none

/-- Reads a number without its sign; `failed` is the answer when no digit stands there. -/
def readUnsigned (failed : ReadError) (negative : Bool) (s : List Char) :
    Except ReadError (Json × List Char) :=
  let (whole, rest) :=
    match s with
    | '0' :: rest => (['0'], rest)
    | _ => digits s
  if whole.isEmpty then .error failed
  else
    let (part, rest) := fraction rest
    match exponent? rest with
    | some (e, rest) =>
      .ok (.real (.finite negative (Nat.ofDigitChars 10 (whole ++ part) 0) (e - part.length)), rest)
    | none =>
      if part.isEmpty then
        if whole.length > Text.maxDigits then .error ⟨.longNumeral whole.length, s.length⟩
        else
          let n : Int := Nat.ofDigitChars 10 whole 0
          .ok (.int (if negative then -n else n), rest)
      else
        .ok (.real (.finite negative (Nat.ofDigitChars 10 (whole ++ part) 0) (-part.length)), rest)

/-- Reads a word or a number. -/
def readScalar (s : List Char) : Except ReadError (Json × List Char) :=
  match s with
  | 'n' :: 'u' :: 'l' :: 'l' :: rest => .ok (.null, rest)
  | 't' :: 'r' :: 'u' :: 'e' :: rest => .ok (.bool true, rest)
  | 'f' :: 'a' :: 'l' :: 's' :: 'e' :: rest => .ok (.bool false, rest)
  | 'N' :: 'a' :: 'N' :: rest => .ok (.real .nan, rest)
  | 'I' :: 'n' :: 'f' :: 'i' :: 'n' :: 'i' :: 't' :: 'y' :: rest =>
    .ok (.real (.infinite false), rest)
  | '-' :: 'I' :: 'n' :: 'f' :: 'i' :: 'n' :: 'i' :: 't' :: 'y' :: rest =>
    .ok (.real (.infinite true), rest)
  | '-' :: rest => readUnsigned ⟨.valueExpected, s.length⟩ true rest
  | _ => readUnsigned ⟨.valueExpected, s.length⟩ false s

mutual

/-- Reads one value; every value, item and member takes one of the `Nat` away, which starts above
the number of characters. -/
def readValue : Nat → List Char → Except ReadError (Json × List Char)
  | 0, s => .error ⟨.valueExpected, s.length⟩
  | fuel + 1, s =>
    match s with
    | '"' :: rest => do
      let (text, rest) ← readString strays rest
      return (.string text, rest)
    | '[' :: rest =>
      match skipGap rest with
      | ']' :: rest => .ok (.arr [], rest)
      | rest => do
        let (items, rest) ← readItems fuel rest
        return (.arr items, rest)
    | '{' :: rest =>
      match skipGap rest with
      | '}' :: rest => .ok (.obj [], rest)
      | rest => do
        let (members, rest) ← readMembers fuel [] rest
        return (.obj members, rest)
    | _ => readScalar s

/-- Reads the items of an array up to its closing bracket. -/
def readItems : Nat → List Char → Except ReadError (List Json × List Char)
  | 0, s => .error ⟨.valueExpected, s.length⟩
  | fuel + 1, s => do
    let (item, rest) ← readValue fuel s
    match skipGap rest with
    | ']' :: rest => return ([item], rest)
    | ',' :: rest => do
      let (items, rest) ← readItems fuel (skipGap rest)
      return (item :: items, rest)
    | rest => .error ⟨.commaExpected, rest.length⟩

/-- Reads the members of an object up to its closing brace, after the ones in `before`. -/
def readMembers : Nat → Members → List Char → Except ReadError (Members × List Char)
  | 0, _, s => .error ⟨.nameExpected, s.length⟩
  | fuel + 1, before, s =>
    match s with
    | '"' :: rest => do
      let (name, rest) ← readString strays rest
      match skipGap rest with
      | ':' :: rest => do
        let (value, rest) ← readValue fuel (skipGap rest)
        let members := before.set name value
        match skipGap rest with
        | '}' :: rest => return (members, rest)
        | ',' :: rest => readMembers fuel members (skipGap rest)
        | rest => .error ⟨.commaExpected, rest.length⟩
      | rest => .error ⟨.colonExpected, rest.length⟩
    | _ => .error ⟨.nameExpected, s.length⟩

end

/-- Reads a text that holds one value and nothing else. -/
def read (s : List Char) : Except ReadError Json := do
  let (value, rest) ← readValue strays (s.length + 1) (skipGap s)
  match skipGap rest with
  | [] => return value
  | rest => .error ⟨.surplus, rest.length⟩

end Strays

/-- The offset of the flaw in the text `s`. -/
def ReadError.offset (e : ReadError) (s : List Char) : Nat :=
  s.length - e.left

/-- Wording of a flaw. -/
def Flaw.text : Flaw → String
  | .valueExpected => "Expecting value"
  | .nameExpected => "Expecting property name enclosed in double quotes"
  | .colonExpected => "Expecting ':' delimiter"
  | .commaExpected => "Expecting ',' delimiter"
  | .unterminated => "Unterminated string starting at"
  | .control => "Invalid control character at"
  | .escape => "Invalid \\escape"
  | .unicodeEscape => "Invalid \\uXXXX escape"
  | .surplus => "Extra data"
  | .longNumeral digits => Text.tooManyDigits digits

/-- Wording of a failure to read `s`: the flaw, and its line, column and offset. -/
def ReadError.text (e : ReadError) (s : List Char) : String :=
  match e.flaw with
  | .longNumeral _ => e.flaw.text
  | _ =>
    let before := s.take (e.offset s)
    let line := before.count '\n' + 1
    let column := (before.reverse.takeWhile (· ≠ '\n')).length + 1
    e.flaw.text ++ ": line " ++ Text.decimal line ++ " column " ++ Text.decimal column ++
      " (char " ++ Text.decimal (e.offset s) ++ ")"

end Tenancy.Json
