import Tenancy.Number.Binary64
import Tenancy.Text.Surrogate

/-!
# JSON values

Values as they stand in a text: whole numbers are kept apart from numbers with a fraction or an
exponent, and the latter are kept as the decimal that was written. An object keeps its members in
the order in which their names first occur; a name that is given again replaces the value.

A JSON text can spell half of a surrogate pair. A text with such a code is `unsound`: it is not
made of characters, and nothing can be done with it but to compare it and to write it again.
-/

namespace Tenancy

/-- A text in a JSON value: characters, or codes of which at least one is no character. -/
inductive Json.Str where
  | sound (s : String)
  | unsound (codes : List Nat)
  deriving DecidableEq, Repr, Inhabited

namespace Json.Str

instance : Coe String Str := ⟨.sound⟩

/-- The text with the given codes. -/
def ofCodes (codes : List Nat) : Str :=
  if codes.any Text.isSurrogate then .unsound codes
  else .sound (String.ofList (codes.map Char.ofNat))

/-- The codes of a text. -/
def codes : Str → List Nat
  | .sound s => s.toList.map Char.toNat
  | .unsound codes => codes

/-- Whether a text is made of characters. -/
def isSound : Str → Bool
  | .sound _ => true
  | .unsound _ => false

/-- The text with U+FFFD in the place of every code that is no character. -/
def masked : Str → String
  | .sound s => s
  | .unsound codes => String.ofList (codes.map Text.charOfCode)

end Json.Str

/-- A JSON value. -/
inductive Json where
  | null
  | bool (b : Bool)
  | int (n : Int)
  | real (d : Decimal)
  | string (t : Json.Str)
  | arr (items : List Json)
  | obj (members : List (Json.Str × Json))
  deriving Inhabited

namespace Json

/-- A text of characters as a value. -/
@[match_pattern]
abbrev str (s : String) : Json :=
  .string (.sound s)

/-- The members of an object. -/
abbrev Members := List (Str × Json)

/-- The value of the member called `name`. -/
def Members.get? (members : Members) (name : String) : Option Json :=
  List.lookup (Str.sound name) members

/-- Gives the member called `name` a value; a new name goes to the end. -/
def Members.set (name : Str) (value : Json) : Members → Members
  | [] => [(name, value)]
  | (n, v) :: rest => if n = name then (n, value) :: rest else (n, v) :: Members.set name value rest

/-- A text or `null`. -/
def ofText? : Option String → Json
  | none => .null
  | some s => .str s

/-- Whether a condition counts the value as true: everything but `null`, `false`, zero and what is
empty. -/
def truthy : Json → Bool
  | .null => false
  | .bool b => b
  | .int n => n ≠ 0
  | .real d => !(Binary64.ofDecimal d).isZero
  | .string t => t ≠ .sound ""
  | .arr items => !items.isEmpty
  | .obj members => !members.isEmpty

mutual

/-- Whether a value can be sent: its texts are made of characters and its numbers are finite. -/
def isPlain : Json → Bool
  | .real d => (Binary64.ofDecimal d).isFinite
  | .string t => t.isSound
  | .arr items => allPlain items
  | .obj members => allMembersPlain members
  | _ => true

/-- Whether all items can be sent. -/
def allPlain : List Json → Bool
  | [] => true
  | item :: items => isPlain item && allPlain items

/-- Whether all members can be sent, with their names. -/
def allMembersPlain : List (Str × Json) → Bool
  | [] => true
  | (name, value) :: members => name.isSound && isPlain value && allMembersPlain members

end

end Json

end Tenancy
