import Tenancy.Access.Expression.Element

/-!
# Flags

Letters behind `(?` change how the rest of a group is read: whether letters count in any case,
whether a point matches newlines, whether lines have ends of their own, whether blanks count, and
whether classes of characters are limited to ASCII.
-/

namespace Tenancy.Access

/-- How a part of an expression is read. -/
structure Flags where
  anyCase : Bool := false
  pointAll : Bool := false
  byLine : Bool := false
  verbose : Bool := false
  ascii : Bool := false
  deriving DecidableEq, Repr

/-- The letters of flags. -/
def flagLetters : List Char := ['i', 'L', 'm', 's', 'x', 'a', 't', 'u']

/-- The flags of which only one can be on. -/
def typeFlags : List Char := ['a', 'L', 'u']

/-- The flag that can be changed for the expression as a whole only. -/
def globalFlag : Char := 't'

namespace Flags

/-- Which letters count as the same. -/
def caseRule (flags : Flags) : CaseRule :=
  if !flags.anyCase then .exact else if flags.ascii then .anyAsciiCase else .anyCase

/-- The flags after a letter has turned its flag on. -/
def turnOn (flags : Flags) : Char → Flags
  | 'i' => { flags with anyCase := true }
  | 's' => { flags with pointAll := true }
  | 'm' => { flags with byLine := true }
  | 'x' => { flags with verbose := true }
  | 'a' => { flags with ascii := true }
  | 'u' => { flags with ascii := false }
  | _ => flags

/-- The flags after a letter has turned its flag off. -/
def turnOff (flags : Flags) : Char → Flags
  | 'i' => { flags with anyCase := false }
  | 's' => { flags with pointAll := false }
  | 'm' => { flags with byLine := false }
  | 'x' => { flags with verbose := false }
  | _ => flags

end Flags

/-- Whether a character is a letter of any script. -/
def isLetter (c : Char) : Bool :=
  Text.isWordChar c && c != '_' && !Text.isDigitLike c

/-- Reads the letters of flags that are turned on; `flag` is the first of them. Answers the letters,
the character that ends them, and what follows. -/
def readFlagsOn (on : List Char) (flag : Char) (rest : List Char) :
    Except Misread (List Char × Char × List Char) :=
  if flag = 'L' then flawAt .bytesFlag rest.length
  else
    let on := on ++ [flag]
    if flag ∈ typeFlags ∧ on.any (fun other => other ∈ typeFlags ∧ other ≠ flag) then
      flawAt .clashingFlags rest.length
    else
      match rest with
      | [] => flawAt (.missing "-, : or )") 0
      | c :: more =>
        if c ∈ [')', '-', ':'] then .ok (on, c, more)
        else if c ∈ flagLetters then readFlagsOn on c more
        else flawAt (if isLetter c then .unknownFlag else .missing "-, : or )") rest.length

/-- Reads the letters of flags that are turned off, up to a colon; `flag` is the first of them. -/
def readFlagsOff (off : List Char) (flag : Char) (rest : List Char) :
    Except Misread (List Char × List Char) :=
  if flag ∈ typeFlags then flawAt .typeFlagOff rest.length
  else
    let off := off ++ [flag]
    match rest with
    | [] => flawAt (.missing ":") 0
    | ':' :: more => .ok (off, more)
    | c :: more =>
      if c ∈ flagLetters then readFlagsOff off c more
      else flawAt (if isLetter c then .unknownFlag else .missing ":") rest.length

/-- Reads the first letter behind the hyphen, and the others. -/
def readFlagsBehindHyphen (rest : List Char) : Except Misread (List Char × List Char) :=
  match rest with
  | [] => flawAt (.missing "flag") 0
  | c :: more =>
    if c ∈ flagLetters then readFlagsOff [] c more
    else flawAt (if isLetter c then .unknownFlag else .missing "flag") rest.length

/-- Reads the flags of a group, of which `c` is the first character; `opened` is what is left at the
parenthesis. Flags for a whole expression come too late in any case. -/
def readFlags (flags : Flags) (opened : Nat) (c : Char) (rest : List Char) :
    Except Misread (Flags × List Char) := do
  let (on, stop, rest) ← if c = '-' then .ok ([], '-', rest) else readFlagsOn [] c rest
  if stop = ')' then flawAt .lateFlags opened
  else if globalFlag ∈ on then flawAt .globalFlagOn (rest.length + 1)
  else
    let (off, rest) ← if stop = '-' then readFlagsBehindHyphen rest else .ok ([], rest)
    if globalFlag ∈ off then flawAt .globalFlagOff (rest.length + 1)
    else if on.any (· ∈ off) then flawAt .flagOnAndOff (rest.length + 1)
    else return (off.foldl Flags.turnOff (on.foldl Flags.turnOn flags), rest)

end Tenancy.Access
