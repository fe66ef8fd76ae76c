import Tenancy.Text.Hex
import Tenancy.Text.Split

/-!
# The authority and the path of a URL

Behind the scheme and two slashes a URL has its authority: it goes up to the first slash, question
mark or number sign, and the path up to the first question mark or number sign behind it. Tabs and
line ends count nowhere. There is no path if the authority is refused:

* square brackets stand around an address of version 6 or one of a version to come;
* no character may be one that compatibility takes apart into a delimiter.
-/

namespace Tenancy.Http

/-! ## Addresses in brackets -/

/-- Whether a text is a hexadecimal group of an address. -/
def isGroup (s : List Char) : Bool :=
  s ≠ [] && s.length ≤ 4 && s.all fun c => (Text.hexValue? c).isSome

/-- Whether a text is a decimal octet, without a zero in front. -/
def isDecimalOctet (s : List Char) : Bool :=
  s ≠ [] && s.length ≤ 3 && s.all Char.isDigit && (s = ['0'] || s.head? ≠ some '0') &&
    Nat.ofDigitChars 10 s 0 ≤ 255

/-- Whether a text is four decimal octets between dots. -/
def isDottedQuad (s : List Char) : Bool :=
  let octets := Text.splitAt '.' s
  octets.length = 4 && octets.all isDecimalOctet

/-- The parts of an address. Four decimal octets at the end stand for two groups. -/
def groupParts? (s : List Char) : Option (List (List Char)) :=
  let parts := Text.splitAt ':' s
  match parts.getLast? with
  | some tail =>
    if !tail.contains '.' then some parts
    else if isDottedQuad tail then some (parts.dropLast ++ [['0'], ['0']])
    else none
  | none => some parts

/-- The number of groups on one side of a gap, which may reach to the end of the address. -/
def groupsBeside? : List (List Char) → Option Nat
  | [[]] => some 0
  | parts => if parts.all isGroup then some parts.length else none

/-- Whether parts are eight groups, or fewer around one gap. -/
def areGroups (parts : List (List Char)) : Bool :=
  let front := parts.take 1 ++ (parts.drop 1).takeWhile (· ≠ [])
  match parts.drop front.length with
  | [] => front.length = 8 && front.all isGroup
  | [_] => false
  | _ :: behind =>
    match groupsBeside? front, groupsBeside? behind with
    | some m, some n => m + n < 8
    | _, _ => false

/-- Whether a text is an address of version 6. A zone may stand behind a percent sign. -/
def isAddress (s : List Char) : Bool :=
  let address := s.takeWhile (· ≠ '%')
  (groupParts? address).any areGroups &&
    match s.drop address.length with
    | [] => true
    | _ :: zone => zone ≠ [] && !zone.contains '%'

/-- Whether a text behind its first letter is an address of a version to come. -/
def isFutureAddress (s : List Char) : Bool :=
  let version := s.takeWhile fun c => (Text.hexValue? c).isSome
  version ≠ [] &&
    match s.drop version.length with
    | '.' :: _ :: _ => true
    | _ => false

/-- Whether a text may stand in brackets. -/
def isBracketed : List Char → Bool
  | 'v' :: rest => isFutureAddress rest
  | s => isAddress s

/-! ## Authorities -/

/-- The characters with a slash, a question mark, a number sign, an at sign or a colon in their
compatibility forms. -/
def delimiterForms : List Nat :=
  [0x2047, 0x2048, 0x2049, 0x2100, 0x2101, 0x2105, 0x2106, 0x2A74, 0xFE13, 0xFE16, 0xFE55, 0xFE56,
    0xFE5F, 0xFE6B, 0xFF03, 0xFF0F, 0xFF1A, 0xFF1F, 0xFF20]

/-- Whether the brackets of an authority are in order: none, or a pair around an address. -/
def bracketsMatch (authority : List Char) : Bool :=
  if authority.contains '[' then
    authority.contains ']' &&
      isBracketed (((authority.dropWhile (· ≠ '[')).drop 1).takeWhile (· ≠ ']'))
  else !authority.contains ']'

/-- Whether an authority is not refused. -/
def isAuthority (authority : List Char) : Bool :=
  bracketsMatch authority && authority.all fun c => c.toNat ∉ delimiterForms

/-! ## Paths -/

/-- A character that counts nowhere in a URL. -/
def isSkipped (c : Char) : Bool :=
  c == '\t' || c == '\r' || c == '\n'

/-- A character that ends a path. -/
def endsPath (c : Char) : Bool :=
  c == '?' || c == '#'

/-- A character that ends an authority. -/
def endsAuthority (c : Char) : Bool :=
  c == '/' || endsPath c

/-- The path of a URL, given what stands behind its scheme and two slashes. -/
def pathBehind? (s : List Char) : Option (List Char) :=
  let s := s.filter (!isSkipped ·)
  let authority := s.takeWhile (!endsAuthority ·)
  if isAuthority authority then some ((s.drop authority.length).takeWhile (!endsPath ·)) else none

end Tenancy.Http
