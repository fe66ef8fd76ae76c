import Tenancy.Text.Numeral
import Tenancy.Text.Quoted

/-!
# Flaws of written expressions

What makes a text no regular expression, and where. Most flaws have a place in the text; a few
belong to the expression as a whole.
-/

namespace Tenancy.Access

/-- Why a text is no regular expression. -/
inductive ExpressionFlaw where
  | openGroup
  | openSet
  | openComment
  | strayClose
  | nothingToRepeat
  | multipleRepeat
  | swappedBounds
  | repetitionTooLarge
  | longBound (digits : Nat)
  | badRange (first last : List Char)
  | badEscape (escape : List Char)
  | endingEscape
  | incompleteEscape (escape : List Char)
  | octalTooLarge (escape : List Char)
  | unknownCharacter (name : List Char)
  | unknownExtension (extension : List Char)
  | unexpectedEnd
  | missing (what : String)
  | openName (terminator : Char)
  | badGroupName (name : List Char)
  | unknownGroup (name : List Char)
  | repeatedGroup (name : List Char) (number former : Nat)
  | badGroupNumber
  | invalidReference (number : Nat)
  | openReference
  | lookbehindReference
  | thirdBranch
  | lateFlags
  | unknownFlag
  | bytesFlag
  | clashingFlags
  | globalFlagOn
  | globalFlagOff
  | typeFlagOff
  | flagOnAndOff
  | variableLookbehind
  | farLookbehind
  deriving DecidableEq, Repr

/-- Wording of a flaw. -/
def ExpressionFlaw.text : ExpressionFlaw → String
  | openGroup => "missing ), unterminated subpattern"
  | openSet => "unterminated character set"
  | openComment => "missing ), unterminated comment"
  | strayClose => "unbalanced parenthesis"
  | nothingToRepeat => "nothing to repeat"
  | multipleRepeat => "multiple repeat"
  | swappedBounds => "min repeat greater than max repeat"
  | repetitionTooLarge => "the repetition number is too large"
  | longBound digits => Text.tooManyDigits digits
  | badRange first last =>
    "bad character range " ++ String.ofList first ++ "-" ++ String.ofList last
  | badEscape escape => "bad escape " ++ String.ofList escape
  | endingEscape => "bad escape (end of pattern)"
  | incompleteEscape escape => "incomplete escape " ++ String.ofList escape
  | octalTooLarge escape =>
    "octal escape value " ++ String.ofList escape ++ " outside of range 0-0o377"
  | unknownCharacter name => "undefined character name " ++ String.ofList (Text.quoted name)
  | unknownExtension extension => "unknown extension " ++ String.ofList extension
  | unexpectedEnd => "unexpected end of pattern"
  | missing what => "missing " ++ what
  | openName terminator =>
    "missing " ++ String.ofList [terminator] ++ ", unterminated name"
  | badGroupName name => "bad character in group name " ++ String.ofList (Text.quoted name)
  | unknownGroup name => "unknown group name " ++ String.ofList (Text.quoted name)
  | repeatedGroup name number former =>
    "redefinition of group name " ++ String.ofList (Text.quoted name) ++ " as group " ++
      Text.decimal number ++ "; was group " ++ Text.decimal former
  | badGroupNumber => "bad group number"
  | invalidReference number => "invalid group reference " ++ Text.decimal number
  | openReference => "cannot refer to an open group"
  | lookbehindReference => "cannot refer to group defined in the same lookbehind subpattern"
  | thirdBranch => "conditional backref with more than two branches"
  | lateFlags => "global flags not at the start of the expression"
  | unknownFlag => "unknown flag"
  | bytesFlag => "bad inline flags: cannot use 'L' flag with a str pattern"
  | clashingFlags => "bad inline flags: flags 'a', 'u' and 'L' are incompatible"
  | globalFlagOn => "bad inline flags: cannot turn on global flag"
  | globalFlagOff => "bad inline flags: cannot turn off global flag"
  | typeFlagOff => "bad inline flags: cannot turn off flags 'a', 'u' and 'L'"
  | flagOnAndOff => "bad inline flags: flag turned on and off"
  | variableLookbehind => "look-behind requires fixed-width pattern"
  | farLookbehind => "looks too much behind"

/-- A flaw and what is left of the text at its place, if it has one. -/
structure Misread where
  flaw : ExpressionFlaw
  left : Option Nat
  deriving DecidableEq, Repr

/-- A place in a text: the number of characters before it, and its line and its column if the text
has several lines. -/
structure TextPlace where
  offset : Nat
  lineColumn : Option (Nat × Nat)
  deriving DecidableEq, Repr

/-- The place in a text at which some characters are left. -/
def TextPlace.of (text : List Char) (left : Nat) : TextPlace :=
  let before := text.take (text.length - left)
  let line := before.count '\n' + 1
  let column := (before.reverse.takeWhile (· ≠ '\n')).length + 1
  { offset := before.length
    lineColumn := if '\n' ∈ text then some (line, column) else none }

/-- A flaw and its place in the text. -/
structure ExpressionError where
  flaw : ExpressionFlaw
  place : Option TextPlace
  deriving DecidableEq, Repr

/-- Wording of a flaw with its place. -/
def ExpressionError.message (e : ExpressionError) : String :=
  match e.place with
  | none => e.flaw.text
  | some place =>
    let lineColumn := match place.lineColumn with
      | none => ""
      | some (line, column) =>
        " (line " ++ Text.decimal line ++ ", column " ++ Text.decimal column ++ ")"
    e.flaw.text ++ " at position " ++ Text.decimal place.offset ++ lineColumn

end Tenancy.Access
