import Tenancy.Domain.Basic
import Tenancy.Json.Basic
import Tenancy.Text.Utf8
import Tenancy.Validation.Issue

/-!
# E-mail addresses

An address is `local@domain`, alone or as `Name <local@domain>`. The local part consists of atoms
with points between them; it is composed, and the local parts that name a common mailbox are put
into lower case. An address has a limited number of octets, however it is written.
-/

namespace Tenancy.Email

/-- The characters of an atom. -/
def isAtomChar (c : Char) : Bool :=
  c.isAlphanum || "_!#$%&'*+-/=?^\x60\x7b|\x7d~".toList.contains c || Domain.isWide c

/-- Whether the local part consists of atoms with points between them. -/
def isLocal (s : List Char) : Bool :=
  Domain.standsAlone s &&
    (Text.splitAt '.' s).all fun atom => !atom.isEmpty && atom.all isAtomChar

/-- The mailboxes whose names are the same in any case. -/
def commonMailboxes : List (List Char) :=
  ["info", "marketing", "sales", "support", "abuse", "noc", "security", "postmaster", "hostmaster",
    "usenet", "news", "webmaster", "www", "uucp", "ftp"].map String.toList

/-- The most octets of an address. -/
def maxOctets : Nat := 254

/-- Whether an address is not too long. -/
def fits (name domain : List Char) : Bool :=
  (Text.Utf8.encode (name ++ '@' :: domain)).length ≤ maxOctets

/-- The local part in normal form. -/
def normalizeLocal? (s : List Char) : Option (List Char) :=
  let composed := Text.normal s
  if isLocal s && isLocal composed then
    let lowered := composed.map Char.toLower
    some (if lowered ∈ commonMailboxes then lowered else composed)
  else none

/-- The normal form of `local@domain`. -/
def normalize? (s : List Char) : Option (List Char) :=
  let name := s.takeWhile (· ≠ '@')
  match s.drop name.length with
  | [] => none
  | _ :: domain => do
    let composed ← normalizeLocal? name
    let host ← Domain.Name.of? domain
    if fits name domain && fits composed host.shown && fits composed host.ascii then
      some (composed ++ '@' :: host.shown)
    else none

/-- The characters of a name before an address. -/
def isNameChar (c : Char) : Bool :=
  Text.isWordChar c || "!#$%&'*+-/=?^.\x60\x7b|\x7d~".toList.contains c

/-- Whether a text without blanks at its ends is a name that may stand before an address: empty,
some words, or anything in double quotes. -/
def isName (s : List Char) : Bool :=
  s.all (fun c => isNameChar c || Text.isSpacing c) ||
    (3 ≤ s.length && s.head? == some '"' && s.getLast? == some '"')

/-- The address inside angle brackets, if a text has the form of a name and an address. -/
def bracketed? (s : List Char) : Option (List Char) :=
  match (Text.strip s).reverse with
  | '>' :: body =>
    let inner := body.takeWhile (· ≠ '<')
    let before := body.drop (inner.length + 1)
    if inner.isEmpty || inner.length = body.length then none
    else if isName (Text.strip before.reverse) then some inner.reverse
    else none
  | _ => none

/-- The longest input. -/
def maxInput : Nat := 2048

/-- The address in a text, in normal form. -/
def parse? (s : String) : Option String :=
  let t := s.toList
  if t.any (fun c => c == '\r' || c == '\n') || maxInput < t.length then none
  else (normalize? (Text.strip ((bracketed? t).getD t))).map String.ofList

/-- Reads an address or `null`. -/
def read : Json → Except Complaint (Option String)
  | .null => .ok none
  | .str s =>
    match parse? s with
    | some address => .ok (some address)
    | none => .error .email
  | .string _ => .error .stringUnicode
  | _ => .error .stringType

end Tenancy.Email
