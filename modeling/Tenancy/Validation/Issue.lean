import Tenancy.Json.Basic
import Tenancy.Text.Numeral

/-!
# Issues of input

What is wrong with an input, and where. All fields of an input are looked at, so that an input has
a list of issues, in the order of the fields.
-/

namespace Tenancy

/-- A step on the way to the place of an issue. -/
inductive Place where
  | name (s : String)
  | index (n : Nat)
  deriving DecidableEq, Repr

/-- What is wrong. -/
inductive Complaint where
  | missing
  | stringType
  | stringUnicode
  | tooShort (least : Nat)
  | tooLong (most : Nat)
  | intType
  | intParsing
  | intTooLarge
  | intFromFraction
  | notFinite
  | below (least : Int)
  | above (most : Int)
  | boolType
  | boolParsing
  | listType
  | modelType (model : String)
  | bodyType
  | brokenJson
  | limitType
  | email
  deriving DecidableEq, Repr

namespace Complaint

/-- The name of the kind of a complaint. -/
def kind : Complaint → String
  | missing => "missing"
  | stringType => "string_type"
  | stringUnicode => "string_unicode"
  | tooShort _ => "string_too_short"
  | tooLong _ => "string_too_long"
  | intType => "int_type"
  | intParsing => "int_parsing"
  | intTooLarge => "int_parsing_size"
  | intFromFraction => "int_from_float"
  | notFinite => "finite_number"
  | below _ => "greater_than_equal"
  | above _ => "less_than_equal"
  | boolType => "bool_type"
  | boolParsing => "bool_parsing"
  | listType => "list_type"
  | modelType _ => "model_type"
  | bodyType => "model_attributes_type"
  | brokenJson => "json_invalid"
  | limitType => "enum"
  | email => "value_error"

/-- Wording of a complaint; that of an e-mail address has none. -/
def message? : Complaint → Option String
  | missing => some "Field required"
  | stringType => some "Input should be a valid string"
  | stringUnicode =>
    some "Input should be a valid string, unable to parse raw data as a unicode string"
  | tooShort least =>
    some ("String should have at least " ++ Text.decimal least ++ " characters")
  | tooLong most => some ("String should have at most " ++ Text.decimal most ++ " characters")
  | intType => some "Input should be a valid integer"
  | intParsing => some "Input should be a valid integer, unable to parse string as an integer"
  | intTooLarge => some "Unable to parse input string as an integer, exceeded maximum size"
  | intFromFraction =>
    some "Input should be a valid integer, got a number with a fractional part"
  | notFinite => some "Input should be a finite number"
  | below least => some ("Input should be greater than or equal to " ++ Text.decimal least)
  | above most => some ("Input should be less than or equal to " ++ Text.decimal most)
  | boolType => some "Input should be a valid boolean"
  | boolParsing => some "Input should be a valid boolean, unable to interpret input"
  | listType => some "Input should be a valid list"
  | modelType model => some ("Input should be a valid dictionary or instance of " ++ model)
  | bodyType =>
    some "Input should be a valid dictionary or object to extract fields from"
  | brokenJson => some "JSON decode error"
  | limitType =>
    some ("Input should be 'root', 'first_level', 'sub_organization' or " ++
      "'sub_organization_include_self'")
  | email => none

end Complaint

/-- A complaint and its place, and whether the input that it is about can be sent back with it. -/
structure Issue where
  place : List Place
  complaint : Complaint
  echoed : Bool := true
  deriving DecidableEq, Repr

/-- An issue as it is answered. -/
def Issue.toJson (i : Issue) : Json :=
  let place := i.place.map fun
    | .name s => .str s
    | .index n => .int n
  let message : Json.Members := match i.complaint.message? with
    | some text => [("msg", .str text)]
    | none => []
  .obj (("type", .str i.complaint.kind) :: ("loc", .arr place) :: message)

/-- A value, or the issues that forbid it. -/
abbrev Checked (α : Type) := Except (List Issue) α

namespace Checked

variable {α β : Type}

/-- Both values, or the issues of both. -/
def both (x : Checked α) (y : Checked β) : Checked (α × β) :=
  match x, y with
  | .ok a, .ok b => .ok (a, b)
  | .error i, .ok _ => .error i
  | .ok _, .error j => .error j
  | .error i, .error j => .error (i ++ j)

@[simp] theorem both_eq_ok {x : Checked α} {y : Checked β} {a : α} {b : β} :
    both x y = .ok (a, b) ↔ x = .ok a ∧ y = .ok b := by
  cases x <;> cases y <;> simp [both]

/-- Puts the place of every issue below another one. -/
def within (outer : List Place) (x : Checked α) : Checked α :=
  x.mapError (·.map fun i => { i with place := outer ++ i.place })

@[simp] theorem within_eq_ok {outer : List Place} {x : Checked α} {a : α} :
    within outer x = .ok a ↔ x = .ok a := by
  cases x with
  | ok b => rfl
  | error issues => exact ⟨nofun, nofun⟩

end Checked

end Tenancy
