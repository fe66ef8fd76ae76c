import Tenancy.Json.Basic
import Tenancy.Number.Shortest
import Tenancy.Text.Hex
import Tenancy.Text.Numeral

/-!
# Writing JSON

The written form has no blanks and only ASCII characters: every other character is escaped, one
beyond U+FFFF as two surrogates. A number with a fraction is written as the nearest double.
-/

namespace Tenancy.Json

/-- The escape of a code unit. -/
def unitEscape (u : Nat) : List Char :=
  '\\' :: 'u' :: Text.hexDigits 4 u

/-- The written form of a code inside a string. -/
def writeCode (code : Nat) : List Char :=
  if code = 0x22 then ['\\', '"']
  else if code = 0x5C then ['\\', '\\']
  else if code = 10 then ['\\', 'n']
  else if code = 13 then ['\\', 'r']
  else if code = 9 then ['\\', 't']
  else if code = 8 then ['\\', 'b']
  else if code = 12 then ['\\', 'f']
  else if 0x20 ≤ code ∧ code < 0x7F then [Char.ofNat code]
  else if code < 0x10000 then unitEscape code
  else
    unitEscape (0xD800 + (code - 0x10000) / 1024) ++ unitEscape (0xDC00 + (code - 0x10000) % 1024)

/-- The written form of a string, in quotes. -/
def writeString (t : Str) : List Char :=
  '"' :: t.codes.flatMap writeCode ++ ['"']

/-- The written form of a double. -/
def writeDouble : Binary64 → List Char
  | .nan => "NaN".toList
  | .infinite negative => (if negative then ['-'] else []) ++ "Infinity".toList
  | number => number.text

mutual

/-- The written form of a value. -/
def write : Json → List Char
  | .null => ['n', 'u', 'l', 'l']
  | .bool true => ['t', 'r', 'u', 'e']
  | .bool false => ['f', 'a', 'l', 's', 'e']
  | .int n => Text.numeral n
  | .real d => writeDouble (.ofDecimal d)
  | .string t => writeString t
  | .arr items => '[' :: writeItems items
  | .obj members => '{' :: writeMembers members

/-- The written form of the items and the closing bracket. -/
def writeItems : List Json → List Char
  | [] => [']']
  | [item] => write item ++ [']']
  | item :: items => write item ++ ',' :: writeItems items

/-- The written form of the members and the closing brace. -/
def writeMembers : List (Str × Json) → List Char
  | [] => ['}']
  | [(name, value)] => writeString name ++ ':' :: write value ++ ['}']
  | (name, value) :: members =>
    writeString name ++ ':' :: write value ++ ',' :: writeMembers members

end

end Tenancy.Json
