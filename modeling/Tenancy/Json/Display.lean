import Tenancy.Json.Basic
import Tenancy.Number.Shortest
import Tenancy.Text.Quoted

/-!
# Showing JSON values

Values as they are shown to a reader. A string alone is shown as it is; inside a list or an object
it is quoted, and a surrogate that stands alone is shown as an escape.
-/

namespace Tenancy.Json

/-- A code inside quotes of the given kind. -/
def quoteCode (quote : Char) (code : Nat) : List Char :=
  if Text.isSurrogate code then '\\' :: 'u' :: Text.hexDigits 4 code
  else Text.quoteChar quote (Char.ofNat code)

/-- The text in quotes. -/
def Str.quoted : Str → List Char
  | .sound s => Text.quoted s.toList
  | .unsound codes =>
    let quote := if 0x27 ∈ codes ∧ 0x22 ∉ codes then '"' else '\''
    quote :: codes.flatMap (quoteCode quote) ++ [quote]

mutual

/-- A value as it is shown inside another one. -/
def shown : Json → List Char
  | .null => "None".toList
  | .bool b => (if b then "True" else "False").toList
  | .int n => Text.numeral n
  | .real d => (Binary64.ofDecimal d).text
  | .string t => t.quoted
  | .arr items => '[' :: shownItems items
  | .obj members => '\x7b' :: shownMembers members

/-- Items with commas between them, and the closing bracket. -/
def shownItems : List Json → List Char
  | [] => [']']
  | [item] => shown item ++ [']']
  | item :: items => shown item ++ ',' :: ' ' :: shownItems items

/-- Members with commas between them, and the closing brace. -/
def shownMembers : List (Str × Json) → List Char
  | [] => ['\x7d']
  | [(name, value)] => name.quoted ++ ':' :: ' ' :: shown value ++ ['\x7d']
  | (name, value) :: members =>
    name.quoted ++ ':' :: ' ' :: shown value ++ ',' :: ' ' :: shownMembers members

end

/-- The text that a value is shown as. -/
def display : Json → Str
  | .string t => t
  | value => .sound (String.ofList (shown value))

end Tenancy.Json
