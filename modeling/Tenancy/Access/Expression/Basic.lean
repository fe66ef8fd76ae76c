import Tenancy.Distinct
import Tenancy.Text.Blank
import Tenancy.Text.Digit
import Tenancy.Text.LetterCase
import Tenancy.Text.WordChar

/-!
# Regular expressions

Regular expressions and the texts that they match. `Expression.ends` lists the places that a match
from some places may reach, in the order in which a backtracking search would try them: the left
alternative first, and as many repetitions as possible first unless the repetition is reluctant. A
place is a cursor in the text, together with the texts that groups have captured on the way.

Lookarounds, atomic groups and possessive repetitions keep the first result of what they hold only.
-/

namespace Tenancy.Access

/-- Classes of characters that have a name. -/
inductive CharClass where
  | digit
  | word
  | space
  deriving DecidableEq, Repr

/-- Whether the class, or its part within ASCII, holds the character. -/
def CharClass.has (ascii : Bool) (kind : CharClass) (c : Char) : Bool :=
  match kind, ascii with
  | .digit, false => (Text.decimalDigit? c).isSome
  | .word, false => Text.isWordChar c
  | .space, false => Text.isSpacing c
  | .digit, true => c.isDigit
  | .word, true => c.isAlphanum || c == '_'
  | .space, true => c.toNat < 128 && Text.isBlank c

/-- One entry of a set of characters. -/
inductive SetItem where
  | range (first last : Nat)
  | named (kind : CharClass) (negated ascii : Bool)
  deriving DecidableEq, Repr

/-- Whether the entry holds the character with a code. -/
def SetItem.has : SetItem → Nat → Bool
  | .range first last, code => first ≤ code && code ≤ last
  | .named kind negated ascii, code => kind.has ascii (Char.ofNat code) != negated

/-- Which letters count as the same: none but itself, those that differ in case only, or only those
of ASCII. -/
inductive CaseRule where
  | exact
  | anyCase
  | anyAsciiCase
  deriving DecidableEq, Repr

/-- The codes of the letters that count as the same as a character. -/
def CaseRule.variants (rule : CaseRule) (c : Char) : List Nat :=
  match rule with
  | .exact => [c.toNat]
  | .anyCase => Text.caseVariants c.toNat
  | .anyAsciiCase => [c.toNat, c.toLower.toNat, c.toUpper.toNat]

/-- The form that letters that count as the same have in common when a captured text is compared. -/
def CaseRule.small (rule : CaseRule) (c : Char) : Nat :=
  match rule with
  | .exact => c.toNat
  | .anyCase => Text.smallCode c.toNat
  | .anyAsciiCase => c.toLower.toNat

/-- How a repetition chooses its number of turns. -/
inductive Greed where
  | greedy
  | reluctant
  | possessive
  deriving DecidableEq, Repr

/-- The kinds of places. -/
inductive Anchor where
  /-- The front of the text. -/
  | start
  /-- The front of the text or of a line. -/
  | lineStart
  /-- The end of the text, or before a newline at its end. -/
  | stop
  /-- The end of the text or of a line. -/
  | lineStop
  /-- The very end of the text. -/
  | finish
  /-- Between a word and what is none, or the contrary. -/
  | boundary (negated ascii : Bool)
  deriving DecidableEq, Repr

/-- A regular expression. -/
inductive Expression where
  | empty
  | char (c : Char)
  /-- Any character, a newline only if it counts. -/
  | any (newline : Bool)
  | oneOf (negated : Bool) (rule : CaseRule) (items : List SetItem)
  | seq (first second : Expression)
  | alt (left right : Expression)
  | repeated (body : Expression) (least : Nat) (most : Option Nat) (greed : Greed)
  | anchor (kind : Anchor)
  /-- Captures what the body matches. -/
  | group (number : Nat) (body : Expression)
  /-- The text that a group has captured. -/
  | captured (number : Nat) (rule : CaseRule)
  /-- Whether the body matches from `back` characters before, without moving on. -/
  | look (back : Nat) (negated : Bool) (body : Expression)
  | atomic (body : Expression)
  /-- One of two, depending on whether a group has captured anything. -/
  | ifGroup (number : Nat) (yes no : Expression)
  deriving DecidableEq, Repr

/-- A place in a text: what stands before it, the last character first, what is left behind it, and
what groups have captured. -/
structure Cursor where
  /-- The number of characters behind the place. -/
  left : Nat
  before : List Char
  rest : List Char
  groups : List (Nat × List Char)
  left_eq : left = rest.length
  deriving DecidableEq

namespace Cursor

/-- The front of a text. -/
def start (text : List Char) : Cursor :=
  { left := text.length, before := [], rest := text, groups := [], left_eq := rfl }

/-- The place with other texts around it. -/
def moved (s : Cursor) (before rest : List Char) : Cursor :=
  { s with left := rest.length, before, rest, left_eq := rfl }

/-- Passes over one character that `holds` accepts. -/
def one (holds : Char → Bool) (s : Cursor) : List Cursor :=
  match h : s.rest with
  | [] => []
  | c :: rest =>
    if holds c then
      [{ s with
        left := s.left - 1
        before := c :: s.before
        rest
        left_eq := by simp [s.left_eq, h] }]
    else []

/-- The place some characters before, if there are as many. -/
def back? (count : Nat) (s : Cursor) : Option Cursor :=
  if s.before.length < count then none
  else some (s.moved (s.before.drop count) ((s.before.take count).reverse ++ s.rest))

/-- The place some characters behind. -/
def skip (count : Nat) (s : Cursor) : Cursor :=
  s.moved ((s.rest.take count).reverse ++ s.before) (s.rest.drop count)

/-- What a group has captured. -/
def captured? (s : Cursor) (number : Nat) : Option (List Char) :=
  s.groups.lookup number

/-- The place, with what lies between `origin` and it as captured by a group. -/
def capture (number : Nat) (origin s : Cursor) : Cursor :=
  let text := origin.rest.take (origin.left - s.left)
  { s with groups := (number, text) :: s.groups.filter (·.1 ≠ number) }

/-- Passes over a text. -/
def pass (rule : CaseRule) (text : List Char) (s : Cursor) : List Cursor :=
  if text.map rule.small = (s.rest.take text.length).map rule.small then [s.skip text.length]
  else []

/-- Whether just one of the characters on both sides is part of a word. -/
def isBoundary (ascii : Bool) (s : Cursor) : Bool :=
  let isWord (c : Option Char) : Bool := c.any (CharClass.word.has ascii)
  isWord s.before.head? != isWord s.rest.head?

end Cursor

/-- Whether a place is of the kind. No place in an empty text is inside or outside of a word. -/
def Anchor.holds (kind : Anchor) (s : Cursor) : Bool :=
  match kind with
  | .start => s.before.isEmpty
  | .lineStart => s.before.isEmpty || s.before.head? == some '\n'
  | .stop => s.rest.isEmpty || s.rest == ['\n']
  | .lineStop => s.rest.isEmpty || s.rest.head? == some '\n'
  | .finish => s.rest.isEmpty
  | .boundary negated ascii =>
    !(s.before.isEmpty && s.rest.isEmpty) && s.isBoundary ascii != negated

/-! ## Repetitions

`body` answers the places that a turn from each of some places may reach. -/

/-- Exactly `n` turns from each of some places. A turn that leaves all places as they are makes the
others superfluous. -/
def turns (body : List Cursor → List Cursor) : Nat → List Cursor → List Cursor
  | 0, places => places
  | n + 1, places =>
    let next := body places
    if next = places then places else turns body n next

/-- A search among the places that turns may reach. -/
structure Walk where
  /-- The places that were found, the last one first. -/
  found : List Cursor := []
  /-- The places from which the search went on, and how many turns it had left. -/
  explored : List (Nat × Cursor) := []

namespace Walk

variable (w : Walk)

/-- Finds a place. -/
def reach (s : Cursor) : Walk :=
  if s ∈ w.found then w else { w with found := s :: w.found }

/-- Whether the search went on from a place before, with at least `n` turns. -/
def knows (n : Nat) (s : Cursor) : Bool :=
  w.explored.any fun (m, t) => t = s && n ≤ m

/-- Goes on from a place with `n` turns. -/
def explore (n : Nat) (s : Cursor) : Walk :=
  { w with explored := (n, s) :: w.explored }

end Walk

/-- At most `n` turns, of which only the last may stay where it is; `reluctant` tries fewer turns
first. More turns than there are characters behind the place, and one, are of no use. -/
def optionalTurns (body : List Cursor → List Cursor) (reluctant : Bool) :
    Nat → Walk → Cursor → Walk
  | 0, w, s => w.reach s
  | n + 1, w, s =>
    let useful := min n s.left
    if w.knows useful s then w
    else
      let turn (w : Walk) (next : Cursor) : Walk :=
        if next.left < s.left then optionalTurns body reluctant n w next else w.reach next
      let w := w.explore useful s
      if reluctant then (body [s]).foldl turn (w.reach s) else ((body [s]).foldl turn w).reach s

/-- Exactly `n` turns, the first result of each. -/
def firstTurns (body : List Cursor → List Cursor) : Nat → Cursor → Option Cursor
  | 0, s => some s
  | n + 1, s =>
    match (body [s]).head? with
    | none => none
    | some next => if next = s then some s else firstTurns body n next

/-- As many turns as possible, but at most `n`, the first result of each. -/
def possessiveTurns (body : List Cursor → List Cursor) : Nat → Cursor → Cursor
  | 0, s => s
  | n + 1, s =>
    match (body [s]).head? with
    | none => s
    | some next => if next.left < s.left then possessiveTurns body n next else next

/-- The turns of a repetition. -/
def repeatedTurns (body : List Cursor → List Cursor) (least : Nat) (most : Option Nat)
    (greed : Greed) (places : List Cursor) : List Cursor :=
  let optional (s : Cursor) : Nat :=
    match most with
    | none => s.left + 1
    | some n => min (n - least) (s.left + 1)
  match greed with
  | .possessive =>
    distinct (places.filterMap fun s =>
      (firstTurns body least s).map fun next => possessiveTurns body (optional next) next)
  | _ =>
    let walk := (turns body least places).foldl (fun w next =>
      optionalTurns body (greed == .reluctant) (optional next) w next) {}
    walk.found.reverse

/-! ## Matches -/

/-- The places that a match from one of some places may reach, in the order of the search: those
from the first place first. -/
def Expression.ends : Expression → List Cursor → List Cursor
  | .empty, places => places
  | .char c, places => places.flatMap fun s => s.one (· == c)
  | .any newline, places => places.flatMap fun s => s.one fun c => newline || c != '\n'
  | .oneOf negated rule items, places =>
    places.flatMap fun s => s.one fun c =>
      ((rule.variants c).any fun code => items.any (·.has code)) != negated
  | .seq first second, places => second.ends (first.ends places)
  | .alt left right, places =>
    distinct (places.flatMap fun s => left.ends [s] ++ right.ends [s])
  | .repeated body least most greed, places => repeatedTurns body.ends least most greed places
  | .anchor kind, places => places.filter kind.holds
  | .group number body, places =>
    distinct (places.flatMap fun s => (body.ends [s]).map (Cursor.capture number s))
  | .captured number rule, places =>
    distinct (places.flatMap fun s =>
      match s.captured? number with
      | none => []
      | some text => s.pass rule text)
  | .look back negated body, places =>
    distinct (places.filterMap fun s =>
      match (s.back? back).bind (fun origin => (body.ends [origin]).head?), negated with
      | some found, false => some { s with groups := found.groups }
      | none, true => some s
      | _, _ => none)
  | .atomic body, places => distinct (places.filterMap fun s => (body.ends [s]).head?)
  | .ifGroup number yes no, places =>
    distinct (places.flatMap fun s =>
      if (s.captured? number).isSome then yes.ends [s] else no.ends [s])

/-- Whether the expression matches the text from its front on. -/
def Expression.matchesFront (e : Expression) (text : List Char) : Bool :=
  !(e.ends [.start text]).isEmpty

/-- The groups that an expression refers to. -/
def Expression.references : Expression → List Nat
  | .captured number _ => [number]
  | .ifGroup number yes no => number :: (yes.references ++ no.references)
  | .seq first second | .alt first second => first.references ++ second.references
  | .repeated body _ _ _ | .group _ body | .look _ _ body | .atomic body => body.references
  | _ => []

/-- The expression without the captures of other groups than the given ones. -/
def Expression.keep (numbers : List Nat) : Expression → Expression
  | .seq first second => .seq (first.keep numbers) (second.keep numbers)
  | .alt left right => .alt (left.keep numbers) (right.keep numbers)
  | .repeated body least most greed => .repeated (body.keep numbers) least most greed
  | .group number body =>
    if number ∈ numbers then .group number (body.keep numbers) else body.keep numbers
  | .look back negated body => .look back negated (body.keep numbers)
  | .atomic body => .atomic (body.keep numbers)
  | .ifGroup number yes no => .ifGroup number (yes.keep numbers) (no.keep numbers)
  | e => e

/-- The expression without captures that nothing refers to. -/
def Expression.withoutIdleGroups (e : Expression) : Expression :=
  e.keep e.references

/-- The least and the greatest number of characters of a match; no greatest one stands for
infinity. -/
structure Width where
  least : Nat
  most : Option Nat
  deriving DecidableEq, Repr

/-- The width of an expression; `groups` gives the widths of captured texts. -/
def Expression.width (groups : Nat → Width) : Expression → Width
  | .char _ | .any _ | .oneOf _ _ _ => ⟨1, some 1⟩
  | .empty | .anchor _ | .look _ _ _ => ⟨0, some 0⟩
  | .seq first second =>
    let a := first.width groups
    let b := second.width groups
    ⟨a.least + b.least, do return (← a.most) + (← b.most)⟩
  | .alt left right | .ifGroup _ left right =>
    let a := left.width groups
    let b := right.width groups
    ⟨min a.least b.least, do return max (← a.most) (← b.most)⟩
  | .repeated body least most _ =>
    let a := body.width groups
    ⟨a.least * least,
      if a.most = some 0 then some 0 else do return (← a.most) * (← most)⟩
  | .group _ body | .atomic body => body.width groups
  | .captured number _ => groups number

end Tenancy.Access
