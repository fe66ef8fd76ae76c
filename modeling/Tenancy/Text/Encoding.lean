import Tenancy.Text.Hex
import Tenancy.Text.Numeral
import Tenancy.Text.Surrogate
import Tenancy.Text.Utf8

/-!
# Encodings of texts

A text comes as octets in units of one, two or four. The encoding shows in the first four octets:
in a byte order mark, or in the zeros among them, as long as the text begins with ASCII. Surrogates
that stand alone are let through in all encodings, so that a text is given by its codes.
-/

namespace Tenancy.Text

/-- Which octet of a unit comes first. -/
inductive ByteOrder where
  | big
  | little
  deriving DecidableEq, Repr

/-- The number that the octets of a unit stand for. -/
def ByteOrder.unit (order : ByteOrder) (octets : List UInt8) : Nat :=
  let ordered := match order with
    | .big => octets
    | .little => octets.reverse
  ordered.foldl (fun n b => 256 * n + b.toNat) 0

/-- The encodings. -/
inductive Encoding where
  | utf8
  | utf16 (order : ByteOrder)
  | utf32 (order : ByteOrder)
  deriving DecidableEq, Repr

namespace Encoding

/-- The name of an encoding. -/
def name : Encoding → String
  | utf8 => "utf-8"
  | utf16 .big => "utf-16-be"
  | utf16 .little => "utf-16-le"
  | utf32 .big => "utf-32-be"
  | utf32 .little => "utf-32-le"

/-- The byte order marks and what they announce. Where one begins with another, the longer one is
first. -/
def marks : List (List UInt8 × Encoding) :=
  [([0, 0, 0xFE, 0xFF], utf32 .big), ([0xFF, 0xFE, 0, 0], utf32 .little),
    ([0xFE, 0xFF], utf16 .big), ([0xFF, 0xFE], utf16 .little), ([0xEF, 0xBB, 0xBF], utf8)]

/-- The encoding of octets without a mark, by the zeros in front. -/
def unmarked : List UInt8 → Encoding
  | a :: b :: c :: d :: _ =>
    if a = 0 then (if b = 0 then utf32 .big else utf16 .big)
    else if b = 0 then (if c = 0 ∧ d = 0 then utf32 .little else utf16 .little)
    else utf8
  | [a, b] => if a = 0 then utf16 .big else if b = 0 then utf16 .little else utf8
  | _ => utf8

/-- The encoding of octets, and the size of the byte order mark in front of them. -/
def detect (octets : List UInt8) : Encoding × Nat :=
  match marks.find? (·.1.isPrefixOf octets) with
  | some (mark, encoding) => (encoding, mark.length)
  | none => (unmarked octets, 0)

/-- Why octets are no text. -/
inductive Reason where
  | character (flaw : Utf8.Flaw)
  | truncated
  | outOfRange
  deriving DecidableEq, Repr

/-- Wording of a reason. -/
def Reason.text : Reason → String
  | character flaw => flaw.text
  | truncated => "truncated data"
  | outOfRange => "code point not in range(0x110000)"

/-- The first flaw of octets: its reason, its offset, its size and its first octet. -/
structure Error where
  encoding : Encoding
  reason : Reason
  offset : Nat
  size : Nat
  octet : UInt8
  deriving DecidableEq, Repr

/-- Wording of a flaw. -/
def Error.message (e : Error) : String :=
  let place :=
    if e.size = 1 then
      "byte 0x" ++ String.ofList (hexDigits 2 e.octet.toNat) ++ " in position " ++
        decimal e.offset
    else
      "bytes in position " ++ decimal e.offset ++ "-" ++ decimal (e.offset + e.size - 1)
  "'" ++ e.encoding.name ++ "' codec can't decode " ++ place ++ ": " ++ e.reason.text

/-- The code of the surrogate whose three octets begin with `lead`. -/
def surrogate? (lead : UInt8) : List UInt8 → Option Nat
  | b :: c :: _ =>
    if lead = 0xED ∧ 0xA0 ≤ b ∧ b < 0xC0 ∧ 0x80 ≤ c ∧ c < 0xC0 then
      some (0xD000 + (b.toNat - 0x80) * 64 + (c.toNat - 0x80))
    else none
  | _ => none

/-- The codes of characters and surrogates from `offset` on, where `skip` octets belong to a code
that has been read. -/
def octetCodes (offset : Nat) : Nat → List UInt8 → Except Error (List Nat)
  | _, [] => .ok []
  | skip + 1, _ :: rest => octetCodes (offset + 1) skip rest
  | 0, b :: rest =>
    match surrogate? b rest with
    | some code => (code :: ·) <$> octetCodes (offset + 1) 2 rest
    | none =>
      match Utf8.front b rest with
      | .char c size => (c.toNat :: ·) <$> octetCodes (offset + 1) (size - 1) rest
      | .flaw kind size => .error ⟨utf8, .character kind, offset, size, b⟩

/-- The units of two octets from `offset` on. -/
def pairs (order : ByteOrder) (offset : Nat) : List UInt8 → Except Error (List Nat)
  | [] => .ok []
  | [a] => .error ⟨utf16 order, .truncated, offset, 1, a⟩
  | a :: b :: rest => (order.unit [a, b] :: ·) <$> pairs order (offset + 2) rest

/-- The units of four octets from `offset` on. -/
def quads (order : ByteOrder) (offset : Nat) : List UInt8 → Except Error (List Nat)
  | [] => .ok []
  | a :: b :: c :: d :: rest =>
    let code := order.unit [a, b, c, d]
    if code < 0x110000 then (code :: ·) <$> quads order (offset + 4) rest
    else .error ⟨utf32 order, .outOfRange, offset, 4, a⟩
  | a :: rest => .error ⟨utf32 order, .truncated, offset, rest.length + 1, a⟩

/-- The codes that octets spell, with the byte order mark left out. The offset of a flaw counts the
byte order mark in if its units have more than one octet. -/
def decode (octets : List UInt8) : Except Error (List Nat) :=
  let (encoding, mark) := detect octets
  let body := octets.drop mark
  match encoding with
  | utf8 => octetCodes 0 0 body
  | utf16 order => joinUnits <$> pairs order mark body
  | utf32 order => quads order mark body

end Encoding

end Tenancy.Text
