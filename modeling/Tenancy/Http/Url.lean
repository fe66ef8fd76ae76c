import Tenancy.Text.Hex
import Tenancy.Text.Split
import Tenancy.Text.Utf8

/-!
# Parts of a URL

Percent escapes stand for octets of UTF-8. `unescape` reads them leniently; `escape` writes what
may not stand in a URL as it is. A query is a list of names and values.
-/

namespace Tenancy.Http

/-- The octets of a text with percent escapes. A percent sign without two hexadecimal digits behind
it stands for itself. -/
def octetsOf : List Char → List UInt8
  | [] => []
  | '%' :: a :: b :: rest =>
    match Text.hexValue? a, Text.hexValue? b with
    | some x, some y => UInt8.ofNat (16 * x + y) :: octetsOf rest
    | _, _ => 37 :: octetsOf (a :: b :: rest)
  | c :: rest => Text.Utf8.encodeChar c ++ octetsOf rest

/-- The text that a text with percent escapes stands for. -/
def unescape (s : List Char) : List Char :=
  Text.Utf8.decodeLenient (octetsOf s)

/-- The characters that stand in a location as they are. -/
def isPlain (c : Char) : Bool :=
  c.isAlphanum || "_.-~:/%#?=@[]!$&'()*+,;".toList.contains c

/-- A text with percent escapes for all characters that may not stand in a location. -/
def escape (s : List Char) : List Char :=
  s.flatMap fun c =>
    if isPlain c then [c]
    else (Text.Utf8.encodeChar c).flatMap fun b =>
      '%' :: (Text.hexDigits 2 b.toNat).map Char.toUpper

/-- Octets as characters of the same codes. -/
def headerText (octets : List UInt8) : List Char :=
  octets.map fun b => Char.ofNat b.toNat

/-- The text of a part of a query, in which a plus sign is a blank. -/
def queryText (s : List Char) : String :=
  String.ofList (unescape (s.map fun c => if c = '+' then ' ' else c))

/-- The names and values of a query. -/
def parameters (query : List Char) : List (String × String) :=
  ((Text.splitAt '&' query).filter (· ≠ [])).map fun part =>
    let name := part.takeWhile (· ≠ '=')
    (queryText name, queryText (part.drop (name.length + 1)))

/-- The value of a parameter; of several the last one counts. -/
def parameter? (parameters : List (String × String)) (name : String) : Option String :=
  parameters.reverse.lookup name

end Tenancy.Http
