import Tenancy.Access.Expression.Basic
import Tenancy.Access.Expression.Flaw
import Tenancy.Text.CharName
import Tenancy.Text.Hex

/-!
# Escapes and sets

The parts of a written expression that begin with a backslash, and sets of characters in brackets.
Every reader gets the text behind the part that is already read and answers what follows the part.
-/

namespace Tenancy.Access

/-- A flaw at the place where some characters are left. -/
def flawAt {α : Type} (flaw : ExpressionFlaw) (left : Nat) : Except Misread α :=
  .error ⟨flaw, some left⟩

/-- What is known of groups in the middle of an expression: how many there are, their names, and the
complete ones with their widths. Inside a lookbehind, the groups from `lookbehind` on belong to
it. -/
structure Groups where
  count : Nat := 0
  names : List (List Char × Nat) := []
  closed : List (Nat × Width) := []
  lookbehind : Option Nat := none

namespace Groups

/-- Whether a group is complete. -/
def isClosed (groups : Groups) (number : Nat) : Bool :=
  groups.closed.any (·.1 = number)

/-- The width of what a group captures. -/
def widthOf (groups : Groups) (number : Nat) : Width :=
  (groups.closed.lookup number).getD ⟨0, some 0⟩

/-- Requires that a lookbehind refers to complete groups before it only. -/
def checkLookbehind (groups : Groups) (number left : Nat) : Except Misread Unit :=
  match groups.lookbehind with
  | none => .ok ()
  | some first =>
    if !groups.isClosed number then flawAt .openReference left
    else if first ≤ number then flawAt .lookbehindReference left
    else .ok ()

end Groups

/-! ## Escapes -/

/-- What a backslash and the characters behind it stand for. -/
inductive Element where
  | code (n : Nat)
  | item (i : SetItem)
  | anchor (kind : Anchor)
  | reference (number : Nat)

/-- The text behind a terminator, and the text in front of it; a character behind a backslash is no
terminator. -/
def cutAt? (terminator : Char) : List Char → Option (List Char × List Char)
  | [] => none
  | ['\\'] => none
  | '\\' :: c :: rest => (cutAt? terminator rest).map fun (name, rest) => ('\\' :: c :: name, rest)
  | c :: rest =>
    if c = terminator then some ([], rest)
    else (cutAt? terminator rest).map fun (name, rest) => (c :: name, rest)

/-- Reads a name up to its terminator; `what` says what it names. -/
def readName (terminator : Char) (what : String) (s : List Char) :
    Except Misread (List Char × List Char) :=
  match cutAt? terminator s with
  | none => flawAt (if s = [] then .missing what else .openName terminator) s.length
  | some ([], rest) => flawAt (.missing what) (rest.length + 1)
  | some found => .ok found

/-- The number with the given hexadecimal digits. -/
def hexNumber (digits : List Char) : Nat :=
  digits.foldl (fun n d => 16 * n + (Text.hexValue? d).getD 0) 0

/-- Whether a character is an octal digit. -/
def isOctal (c : Char) : Bool :=
  '0' ≤ c && c ≤ '7'

/-- The number with the given octal digits. -/
def octalNumber (digits : List Char) : Nat :=
  Nat.ofDigitChars 8 digits 0

/-- Reads a code of exactly `count` hexadecimal digits. -/
def readHex (escape : Char) (count : Nat) (rest : List Char) :
    Except Misread (Element × List Char) :=
  let digits := (rest.take count).takeWhile fun c => (Text.hexValue? c).isSome
  let text := '\\' :: escape :: digits
  if digits.length < count then flawAt (.incompleteEscape text) (rest.length + 2)
  else if 0x10FFFF < hexNumber digits then flawAt (.badEscape text) (rest.length + 2)
  else .ok (.code (hexNumber digits), rest.drop count)

/-- Reads the name of a character in braces. -/
def readCharName (rest : List Char) : Except Misread (Element × List Char) :=
  match rest with
  | '\x7b' :: more => do
    let (name, more) ← readName '\x7d' "character name" more
    match Text.namedChar? name with
    | some c => return (.code c.toNat, more)
    | none => flawAt (.unknownCharacter name) (more.length + name.length + 4)
  | _ => flawAt (.missing "\x7b") rest.length

/-- Reads an octal code that begins with `c`, of up to three digits. -/
def readOctal (c : Char) (rest : List Char) : Except Misread (Element × List Char) :=
  let digits := c :: (rest.take 2).takeWhile isOctal
  if 0xFF < octalNumber digits then flawAt (.octalTooLarge ('\\' :: digits)) (rest.length + 2)
  else .ok (.code (octalNumber digits), rest.drop (digits.length - 1))

/-- Reads a reference to a group that begins with `c`, of up to two digits. Three octal digits are
an octal code. -/
def readReference (groups : Groups) (c : Char) (rest : List Char) :
    Except Misread (Element × List Char) :=
  let digits := c :: (rest.take 1).takeWhile Char.isDigit
  let more := rest.drop (digits.length - 1)
  if digits.length = 2 ∧ digits.all isOctal ∧ more.head?.any isOctal then readOctal c rest
  else
    let number := Nat.ofDigitChars 10 digits 0
    if groups.count < number then flawAt (.invalidReference number) (rest.length + 1)
    else if !groups.isClosed number then flawAt .openReference (rest.length + 2)
    else do
      groups.checkLookbehind number more.length
      return (.reference number, more)

/-- The class of characters that a letter behind a backslash names. -/
def namedClass? (ascii : Bool) (c : Char) : Option SetItem :=
  match c with
  | 'd' => some (.named .digit false ascii)
  | 'D' => some (.named .digit true ascii)
  | 'w' => some (.named .word false ascii)
  | 'W' => some (.named .word true ascii)
  | 's' => some (.named .space false ascii)
  | 'S' => some (.named .space true ascii)
  | _ => none

/-- The code of the control character that a letter behind a backslash names. -/
def controlCode? (c : Char) : Option Nat :=
  match c with
  | 'a' => some 7
  | 'f' => some 12
  | 'n' => some 10
  | 'r' => some 13
  | 't' => some 9
  | 'v' => some 11
  | _ => none

/-- The kind of places that a letter behind a backslash names. -/
def namedAnchor? (ascii : Bool) (c : Char) : Option Anchor :=
  match c with
  | 'A' => some .start
  | 'b' => some (.boundary false ascii)
  | 'B' => some (.boundary true ascii)
  | 'Z' => some .finish
  | _ => none

/-- Reads an escape that means the same inside and outside of sets; `c` is the character behind the
backslash. -/
def readCommonEscape (ascii : Bool) (c : Char) (rest : List Char) :
    Except Misread (Element × List Char) :=
  match namedClass? ascii c, controlCode? c with
  | some item, _ => .ok (.item item, rest)
  | none, some code => .ok (.code code, rest)
  | none, none =>
    match c with
    | 'x' => readHex c 2 rest
    | 'u' => readHex c 4 rest
    | 'U' => readHex c 8 rest
    | 'N' => readCharName rest
    | '0' => readOctal c rest
    | _ =>
      if c.isAlphanum then flawAt (.badEscape ['\\', c]) (rest.length + 2)
      else .ok (.code c.toNat, rest)

/-- Reads an escape outside of sets. -/
def readEscape (ascii : Bool) (groups : Groups) (c : Char) (rest : List Char) :
    Except Misread (Element × List Char) :=
  match namedAnchor? ascii c with
  | some kind => .ok (.anchor kind, rest)
  | none =>
    if '1' ≤ c ∧ c ≤ '9' then readReference groups c rest else readCommonEscape ascii c rest

/-- The code of a backspace. -/
def backspace : Nat := 8

/-- Reads an escape inside a set. -/
def readSetEscape (ascii : Bool) (c : Char) (rest : List Char) :
    Except Misread (Element × List Char) :=
  if c = 'b' then .ok (.code backspace, rest)
  else if isOctal c then readOctal c rest
  else readCommonEscape ascii c rest

/-! ## Sets -/

/-- Reads an entry of a set that begins with `c`: the entry, the characters that stand for it in the
wording of flaws, and what follows. -/
def readSetItem (ascii : Bool) (c : Char) (rest : List Char) :
    Except Misread (SetItem × List Char × List Char) :=
  match c, rest with
  | '\\', [] => flawAt .endingEscape 1
  | '\\', d :: rest => do
    let (element, rest) ← readSetEscape ascii d rest
    match element with
    | .item item => return (item, ['\\', d], rest)
    | .code n => return (.range n n, ['\\', d], rest)
    | _ => flawAt (.badEscape ['\\', d]) (rest.length + 2)
  | _, _ => .ok (.range c.toNat c.toNat, [c], rest)

/-- The code of a hyphen. -/
def hyphen : Nat := 45

/-- Reads the entries of a set up to the closing bracket, which counts as a character when it comes
first; `opened` is what is left at the opening bracket. The first number bounds the entries. -/
def readSetItems (ascii : Bool) (opened : Nat) : Nat → Bool → List Char →
    Except Misread (List SetItem × List Char)
  | 0, _, _ => flawAt .openSet opened
  | _, _, [] => flawAt .openSet opened
  | fuel + 1, first, c :: rest =>
    if c = ']' ∧ !first then .ok ([], rest)
    else do
      let (item, text, more) ← readSetItem ascii c rest
      match more with
      | ['-'] => flawAt .openSet opened
      | '-' :: ']' :: more => return ([item, .range hyphen hyphen], more)
      | '-' :: d :: more => do
        let (last, lastText, more) ← readSetItem ascii d more
        let refuse : Except Misread (List SetItem × List Char) :=
          flawAt (.badRange text lastText) (more.length + text.length + lastText.length + 1)
        match item, last with
        | .range a _, .range b _ =>
          if b < a then refuse
          else do
            let (items, more) ← readSetItems ascii opened fuel false more
            return (.range a b :: items, more)
        | _, _ => refuse
      | more => do
        let (items, more) ← readSetItems ascii opened fuel false more
        return (item :: items, more)

/-- Reads a set behind its opening bracket: whether it is negated, and its entries. -/
def readSet (ascii : Bool) (rest : List Char) :
    Except Misread (Bool × List SetItem × List Char) := do
  let (negated, body) :=
    match rest with
    | '^' :: body => (true, body)
    | _ => (false, rest)
  let (items, more) ← readSetItems ascii (rest.length + 1) (body.length + 1) true body
  return (negated, items, more)

end Tenancy.Access
