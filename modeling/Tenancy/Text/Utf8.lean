/-!
# UTF-8

Characters as octets. The reader is strict: it refuses surplus length, surrogates and code points
beyond U+10FFFF, and names the first group of octets that is no character. The lenient reader puts
U+FFFD in the place of every such group.
-/

namespace Tenancy.Text.Utf8

/-- The octets of one character. -/
def encodeChar (c : Char) : List UInt8 :=
  let n := c.toNat
  if n < 0x80 then [UInt8.ofNat n]
  else if n < 0x800 then [UInt8.ofNat (0xC0 + n / 64), UInt8.ofNat (0x80 + n % 64)]
  else if n < 0x10000 then
    [UInt8.ofNat (0xE0 + n / 4096), UInt8.ofNat (0x80 + n / 64 % 64), UInt8.ofNat (0x80 + n % 64)]
  else
    [UInt8.ofNat (0xF0 + n / 262144), UInt8.ofNat (0x80 + n / 4096 % 64),
      UInt8.ofNat (0x80 + n / 64 % 64), UInt8.ofNat (0x80 + n % 64)]

/-- The octets of a text. -/
def encode (s : List Char) : List UInt8 :=
  s.flatMap encodeChar

/-- Why octets are no character. -/
inductive Flaw where
  | start
  | continuation
  | ending
  deriving DecidableEq, Repr

/-- What stands at the front of octets: a character or a flaw, and how many octets it takes. -/
inductive Front where
  | char (c : Char) (size : Nat)
  | flaw (kind : Flaw) (size : Nat)

/-- The six bits of a continuation octet. -/
def tail? (b : UInt8) : Option Nat :=
  if 0x80 ≤ b.toNat ∧ b.toNat < 0xC0 then some (b.toNat - 0x80) else none

/-- Whether a lead octet allows this second octet: no surplus length, no surrogate, nothing beyond
U+10FFFF. -/
def allows (lead second : UInt8) : Bool :=
  let a := lead.toNat
  let b := second.toNat
  !((a == 0xE0 && b < 0xA0) || (a == 0xED && 0xA0 ≤ b) || (a == 0xF0 && b < 0x90) ||
    (a == 0xF4 && 0x90 ≤ b))

/-- The second octet of a longer character. -/
def second? (lead b : UInt8) : Option Nat :=
  if allows lead b then tail? b else none

/-- The front of octets that begin with `lead`. -/
def front (lead : UInt8) (rest : List UInt8) : Front :=
  let a := lead.toNat
  if a < 0x80 then .char (Char.ofNat a) 1
  else if a < 0xC2 then .flaw .start 1
  else if a < 0xE0 then
    match rest with
    | [] => .flaw .ending 1
    | b :: _ =>
      match tail? b with
      | none => .flaw .continuation 1
      | some x => .char (Char.ofNat ((a - 0xC0) * 64 + x)) 2
  else if a < 0xF0 then
    match rest with
    | [] => .flaw .ending 1
    | b :: rest =>
      match second? lead b, rest with
      | none, _ => .flaw .continuation 1
      | some _, [] => .flaw .ending 2
      | some x, c :: _ =>
        match tail? c with
        | none => .flaw .continuation 2
        | some y => .char (Char.ofNat ((a - 0xE0) * 4096 + x * 64 + y)) 3
  else if a < 0xF5 then
    match rest with
    | [] => .flaw .ending 1
    | b :: rest =>
      match second? lead b, rest with
      | none, _ => .flaw .continuation 1
      | some _, [] => .flaw .ending 2
      | some x, c :: rest =>
        match tail? c, rest with
        | none, _ => .flaw .continuation 2
        | some _, [] => .flaw .ending 3
        | some y, d :: _ =>
          match tail? d with
          | none => .flaw .continuation 3
          | some z => .char (Char.ofNat ((a - 0xF0) * 262144 + x * 4096 + y * 64 + z)) 4
  else .flaw .start 1

/-- The first flaw of octets: its kind, its offset, its size and its first octet. -/
structure Error where
  kind : Flaw
  offset : Nat
  size : Nat
  octet : UInt8

/-- Reads octets from `offset` on, of which `skip` belong to a character already read. -/
def decodeFrom (offset : Nat) : Nat → List UInt8 → Except Error (List Char)
  | _, [] => .ok []
  | skip + 1, _ :: rest => decodeFrom (offset + 1) skip rest
  | 0, b :: rest =>
    match front b rest with
    | .char c size => (c :: ·) <$> decodeFrom (offset + 1) (size - 1) rest
    | .flaw kind size => .error ⟨kind, offset, size, b⟩

/-- The text that the octets spell, or their first flaw. -/
def decode (octets : List UInt8) : Except Error (List Char) :=
  decodeFrom 0 0 octets

/-- Reads octets leniently, of which `skip` belong to a group already read. -/
def decodeLenientFrom : Nat → List UInt8 → List Char
  | _, [] => []
  | skip + 1, _ :: rest => decodeLenientFrom skip rest
  | 0, b :: rest =>
    match front b rest with
    | .char c size => c :: decodeLenientFrom (size - 1) rest
    | .flaw _ size => Char.ofNat 0xFFFD :: decodeLenientFrom (size - 1) rest

/-- The text that the octets spell, with U+FFFD for every group that is no character. -/
def decodeLenient (octets : List UInt8) : List Char :=
  decodeLenientFrom 0 octets

/-- Wording of a flaw. -/
def Flaw.text : Flaw → String
  | .start => "invalid start byte"
  | .continuation => "invalid continuation byte"
  | .ending => "unexpected end of data"

end Tenancy.Text.Utf8
