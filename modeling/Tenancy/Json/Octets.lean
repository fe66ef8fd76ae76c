import Tenancy.Json.Reader
import Tenancy.Text.Encoding

/-!
# JSON in octets

A JSON text that comes as octets shows its encoding by its first octets. Values may stand inside
each other to a depth that is limited; the limit is given, as it depends on the interpreter and on
the place from which it is asked.
-/

namespace Tenancy.Json

/-- What a text has read up to a place: how many lists and objects are open there, and whether the
place is inside a string, behind a backslash in one, or outside. -/
inductive Scan where
  | outside
  | inside
  | escaped
  deriving DecidableEq, Repr

variable (limit : Nat)

/-- The number of characters up to the first bracket that opens a value too deep inside others;
`depth` values are open, and `count` characters have been read. -/
def depthExceeded? (depth count : Nat) : Scan → List Char → Option Nat
  | _, [] => none
  | .escaped, _ :: rest => depthExceeded? depth (count + 1) .inside rest
  | .inside, c :: rest =>
    depthExceeded? depth (count + 1)
      (if c = '"' then .outside else if c = '\\' then .escaped else .inside) rest
  | .outside, c :: rest =>
    if c = '"' then depthExceeded? depth (count + 1) .inside rest
    else if c = '[' ∨ c = '\x7b' then
      if limit ≤ depth then some (count + 1)
      else depthExceeded? (depth + 1) (count + 1) .outside rest
    else if c = ']' ∨ c = '\x7d' then depthExceeded? (depth - 1) (count + 1) .outside rest
    else depthExceeded? depth (count + 1) .outside rest

/-- Why octets are no JSON value: they are no text, the text `s` is no value, or a list or an object
stands too deep inside others. -/
inductive OctetsFlaw where
  | octets (e : Text.Encoding.Error)
  | text (e : ReadError) (s : List Char)
  | depth (isList : Bool)

/-- The surrogates among codes, each with the number of codes behind it. -/
def straysOf : List Nat → List (Nat × Nat)
  | [] => []
  | code :: rest =>
    if Text.isSurrogate code then (rest.length, code) :: straysOf rest else straysOf rest

/-- Reads the codes of a text that holds one value and nothing else. A flaw in front of a value that
stands too deep is found first; the codes of surrogates have no part in it. -/
def readCodes (codes : List Nat) : Except OctetsFlaw Json :=
  let s := codes.map Text.charOfCode
  let whole := (read (straysOf codes) s).mapError (OctetsFlaw.text · s)
  match depthExceeded? limit 0 0 .outside s with
  | none => whole
  | some count =>
    match read [] (s.take count) with
    | .error e => if 0 < e.left then whole else .error (.depth (s[count - 1]? = some '['))
    | .ok _ => .error (.depth (s[count - 1]? = some '['))

/-- Reads octets that hold one value and nothing else. -/
def readOctets (octets : List UInt8) : Except OctetsFlaw Json :=
  match Text.Encoding.decode octets with
  | .error e => .error (.octets e)
  | .ok codes => readCodes limit codes

/-- Wording of a flaw of octets. -/
def OctetsFlaw.message : OctetsFlaw → String
  | .octets e => e.message
  | .text e s => e.text s
  | .depth isList =>
    "maximum recursion depth exceeded while decoding a JSON " ++
      (if isList then "array" else "object") ++ " from a unicode string"

end Tenancy.Json
