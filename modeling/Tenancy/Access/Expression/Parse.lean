import Tenancy.Access.Expression.Flags
import Tenancy.Text.Integer
import Tenancy.Text.Mark

/-!
# The written form of regular expressions

A text is read from the front, part by part. The reader keeps the items of the current alternative,
and for every group around it a frame with what was read before the group. The first flaw in reading
order is the one that is reported; a reference to a group that never comes and a lookbehind of
changing width show at the end only.
-/

namespace Tenancy.Access

/-- What may be repeated: not an anchor and not a repetition. -/
inductive ItemKind where
  | plain
  | anchor
  | repetition
  deriving DecidableEq, Repr

/-- An unfinished group: its finished alternatives and the items of the current one, the last item
first. -/
structure Branch where
  finished : List Expression := []
  items : List (Expression × ItemKind) := []

namespace Branch

/-- Adds an item. -/
def push (b : Branch) (e : Expression) (kind : ItemKind) : Branch :=
  { b with items := (e, kind) :: b.items }

/-- The items of the current alternative, one after the other. -/
def current (b : Branch) : Expression :=
  b.items.foldl (fun rest item => .seq item.1 rest) .empty

/-- Ends the current alternative. -/
def next (b : Branch) : Branch :=
  { finished := b.finished ++ [b.current] }

/-- The alternatives, the first one leftmost. -/
def close (b : Branch) : Expression :=
  b.finished.foldr (fun left right => .alt left right) b.current

end Branch

/-- What a group is for. -/
inductive GroupKind where
  | plain
  | capture (number : Nat)
  | atomic
  | ahead (negated : Bool)
  | behind (negated : Bool)
  | choice (number : Nat)
  deriving DecidableEq, Repr

/-- A group that is open: what is left of the text at its parenthesis, and what held before it. -/
structure Frame where
  kind : GroupKind
  opened : Nat
  branch : Branch
  flags : Flags
  lookbehind : Option Nat

/-- What the reader knows in the middle of a text. -/
structure Reader where
  branch : Branch := {}
  frames : List Frame := []
  groups : Groups := {}
  flags : Flags := {}
  /-- Groups that a choice refers to, and what was left of the text there. -/
  choices : List (Nat × Nat) := []
  /-- A flaw of the expression as a whole. -/
  deferred : Option ExpressionFlaw := none

namespace Reader

variable (r : Reader)

/-- Adds an item to the current alternative. -/
def push (e : Expression) (kind : ItemKind := .plain) : Reader :=
  { r with branch := r.branch.push e kind }

/-- Adds a set of characters. -/
def pushSet (negated : Bool) (items : List SetItem) : Reader :=
  r.push (.oneOf negated r.flags.caseRule items)

/-- Adds the character with a code. -/
def pushCode (code : Nat) : Reader :=
  if r.flags.anyCase || (Char.ofNat code).toNat != code then r.pushSet false [.range code code]
  else r.push (.char (Char.ofNat code))

/-- Adds what a backslash and the characters behind it stand for. -/
def pushElement : Element → Reader
  | .code code => r.pushCode code
  | .item item => r.pushSet false [item]
  | .anchor kind => r.push (.anchor kind) .anchor
  | .reference number => r.push (.captured number r.flags.caseRule)

/-! ## Repetitions -/

/-- How a repetition chooses, from the sign behind it, and what follows. -/
def greedOf (rest : List Char) : Greed × List Char :=
  match rest with
  | '?' :: more => (.reluctant, more)
  | '+' :: more => (.possessive, more)
  | _ => (.greedy, rest)

/-- Repeats the last item; `sign` is what is left at the sign of the repetition. -/
def repeatLast (least : Nat) (most : Option Nat) (sign : Nat) (rest : List Char) :
    Except Misread (Reader × List Char) :=
  match r.branch.items with
  | [] | (_, .anchor) :: _ => flawAt .nothingToRepeat sign
  | (_, .repetition) :: _ => flawAt .multipleRepeat sign
  | (e, .plain) :: items =>
    let (greed, rest) := greedOf rest
    let item := (.repeated e least most greed, .repetition)
    .ok ({ r with branch := { r.branch with items := item :: items } }, rest)

/-- The number of turns from which on a repetition cannot be kept. -/
def turnsLimit : Nat := 4294967295

/-- The number of turns that digits stand for, if there are any. -/
def readTurns (digits : List Char) : Except Misread (Option Nat) :=
  if digits.isEmpty then .ok none
  else if Text.maxDigits < digits.length then .error ⟨.longBound digits.length, none⟩
  else
    let n := Nat.ofDigitChars 10 digits 0
    if turnsLimit ≤ n then .error ⟨.repetitionTooLarge, none⟩ else .ok (some n)

/-- Reads the bounds behind an opening brace; a brace that opens no bounds stands for itself. -/
def readBounds (rest : List Char) : Except Misread (Reader × List Char) :=
  let low := rest.takeWhile Char.isDigit
  let behind := rest.drop low.length
  let (high, behind) :=
    match behind with
    | ',' :: more => (more.takeWhile Char.isDigit, more.dropWhile Char.isDigit)
    | _ => (low, behind)
  match behind with
  | '\x7d' :: more =>
    if rest.head? = some '\x7d' then .ok (r.pushCode 0x7B, rest)
    else do
      let least := (← readTurns low).getD 0
      let most ← readTurns high
      if most.any (· < least) then flawAt .swappedBounds rest.length
      else r.repeatLast least most (rest.length + 1) more
  | _ => .ok (r.pushCode 0x7B, rest)

/-! ## Groups -/

/-- Whether a name can be that of a group. -/
def isGroupName : List Char → Bool
  | [] => false
  | c :: rest =>
    (isLetter c || c == '_') &&
      rest.all fun d => isLetter d || d == '_' || (Text.decimalDigit? d).isSome || Text.isMark d

/-- Opens a group. -/
def openGroup (kind : GroupKind) (opened : Nat) : Reader :=
  { r with
    branch := {}
    frames := { kind, opened, branch := r.branch, flags := r.flags
                lookbehind := r.groups.lookbehind } :: r.frames }

/-- Opens a group that captures. -/
def openCapture (opened : Nat) : Reader :=
  let number := r.groups.count + 1
  { r with groups.count := number }.openGroup (.capture number) opened

/-- Opens a group with a name, which stands in front of `rest`. -/
def openNamed (opened : Nat) (name rest : List Char) : Except Misread Reader :=
  let place := rest.length + name.length + 1
  let number := r.groups.count + 1
  if !isGroupName name then flawAt (.badGroupName name) place
  else
    match r.groups.names.lookup name with
    | some former => flawAt (.repeatedGroup name number former) place
    | none =>
      .ok ({ r with groups.names := (name, number) :: r.groups.names }.openCapture opened)

/-- Opens a lookbehind. -/
def openBehind (negated : Bool) (opened : Nat) : Reader :=
  let outer := r.openGroup (.behind negated) opened
  { outer with
    groups.lookbehind := some (r.groups.lookbehind.getD (r.groups.count + 1)) }

/-- Adds a reference to a group by its name, which stands in front of `rest`. -/
def pushNamed (name rest : List Char) : Except Misread Reader :=
  let place := rest.length + name.length + 1
  if !isGroupName name then flawAt (.badGroupName name) place
  else
    match r.groups.names.lookup name with
    | none => flawAt (.unknownGroup name) place
    | some number =>
      if !r.groups.isClosed number then flawAt .openReference place
      else do
        r.groups.checkLookbehind number rest.length
        return r.push (.captured number r.flags.caseRule)

/-- The greatest number of a group. -/
def maxGroup : Nat := 1073741823

/-- Opens a choice by a group, whose name or number stands in front of `rest`. A number may be that
of a group that is still to come. -/
def openChoice (opened : Nat) (name rest : List Char) : Except Misread Reader := do
  let place := rest.length + name.length + 1
  let (r, number) ←
    if isGroupName name then
      match r.groups.names.lookup name with
      | none => flawAt (.unknownGroup name) place
      | some number => .ok (r, number)
    else
      match Text.integer? name with
      | some (.ofNat number) =>
        if number = 0 then flawAt .badGroupNumber place
        else if maxGroup ≤ number then flawAt (.invalidReference number) place
        else if r.choices.any (·.1 = number) then .ok (r, number)
        else .ok ({ r with choices := r.choices ++ [(number, place)] }, number)
      | _ => flawAt (.badGroupName name) place
  r.groups.checkLookbehind number rest.length
  return r.openGroup (.choice number) opened

/-- The first part of a text: a character, or a backslash and the character behind it. -/
def firstPart : List Char → List Char
  | '\\' :: c :: _ => ['\\', c]
  | c :: _ => [c]
  | [] => []

/-- Reads what stands behind `(?`. -/
def readExtension (opened : Nat) (rest : List Char) : Except Misread (Reader × List Char) :=
  let unknown (front : List Char) (more : List Char) : Except Misread (Reader × List Char) :=
    if more = [] then flawAt .unexpectedEnd 0
    else flawAt (.unknownExtension ('?' :: front ++ firstPart more)) (rest.length + 1)
  match rest with
  | [] => flawAt .unexpectedEnd 0
  | 'P' :: '<' :: more => do
    let (name, more) ← readName '>' "group name" more
    return (← r.openNamed opened name more, more)
  | 'P' :: '=' :: more => do
    let (name, more) ← readName ')' "group name" more
    return (← r.pushNamed name more, more)
  | 'P' :: more => unknown ['P'] more
  | ':' :: more => .ok (r.openGroup .plain opened, more)
  | '>' :: more => .ok (r.openGroup .atomic opened, more)
  | '=' :: more => .ok (r.openGroup (.ahead false) opened, more)
  | '!' :: more => .ok (r.openGroup (.ahead true) opened, more)
  | '<' :: '=' :: more => .ok (r.openBehind false opened, more)
  | '<' :: '!' :: more => .ok (r.openBehind true opened, more)
  | '<' :: more => unknown ['<'] more
  | '#' :: more =>
    match cutAt? ')' more with
    | none => flawAt .openComment opened
    | some (_, more) => .ok (r, more)
  | '(' :: more => do
    let (name, more) ← readName ')' "group name" more
    return (← r.openChoice opened name more, more)
  | c :: more =>
    if c ∈ flagLetters ∨ c = '-' then do
      let (flags, more) ← readFlags r.flags opened c more
      return ({ r.openGroup .plain opened with flags }, more)
    else unknown [] rest

/-- The expression of a group whose body is complete. -/
def closed (frame : Frame) : Expression :=
  match frame.kind with
  | .plain => r.branch.close
  | .capture number => .group number r.branch.close
  | .atomic => .atomic r.branch.close
  | .ahead negated => .look 0 negated r.branch.close
  | .behind negated =>
    .look (r.branch.close.width r.groups.widthOf).least negated r.branch.close
  | .choice number =>
    match r.branch.finished with
    | [] => .ifGroup number r.branch.current .empty
    | yes :: _ => .ifGroup number yes r.branch.current

/-- The greatest width of a lookbehind. -/
def maxWidth : Nat := 4294967295

/-- The flaw of a lookbehind with a body of the given width. -/
def lookbehindFlaw? (width : Width) : Option ExpressionFlaw :=
  if maxWidth < width.least then some .farLookbehind
  else if width.most = some width.least then none
  else some .variableLookbehind

/-- Closes the innermost group; `left` is what is left of the text at the parenthesis. -/
def closeGroup (left : Nat) : Except Misread Reader :=
  match r.frames with
  | [] => flawAt .strayClose left
  | frame :: frames =>
    let width := r.branch.close.width r.groups.widthOf
    let closed := match frame.kind with
      | .capture number => (number, width) :: r.groups.closed
      | _ => r.groups.closed
    let deferred := match frame.kind with
      | .behind _ => r.deferred.or (lookbehindFlaw? width)
      | _ => r.deferred
    .ok { r with
      branch := frame.branch.push (r.closed frame) .plain
      frames, deferred
      flags := frame.flags
      groups := { r.groups with closed, lookbehind := frame.lookbehind } }

/-- Ends an alternative; a choice has two. `left` is what is left of the text at the bar. -/
def nextBranch (left : Nat) : Except Misread Reader :=
  let isChoice := r.frames.head?.any fun frame =>
    match frame.kind with
    | .choice _ => true
    | _ => false
  if isChoice && !r.branch.finished.isEmpty then flawAt .thirdBranch left
  else .ok { r with branch := r.branch.next }

/-! ## Texts -/

/-- The blanks that do not count where blanks do not count. -/
def isIdleBlank (c : Char) : Bool :=
  c == ' ' || (9 ≤ c.toNat && c.toNat ≤ 13)

/-- Reads the part that begins with `c`. -/
def step (c : Char) (rest : List Char) : Except Misread (Reader × List Char) :=
  if r.flags.verbose && isIdleBlank c then .ok (r, rest)
  else if r.flags.verbose && c == '#' then .ok (r, ((cutAt? '\n' rest).map (·.2)).getD [])
  else
    match c with
    | '.' => .ok (r.push (.any r.flags.pointAll), rest)
    | '^' => .ok (r.push (.anchor (if r.flags.byLine then .lineStart else .start)) .anchor, rest)
    | '$' => .ok (r.push (.anchor (if r.flags.byLine then .lineStop else .stop)) .anchor, rest)
    | '|' => return (← r.nextBranch (rest.length + 1), rest)
    | ')' => return (← r.closeGroup (rest.length + 1), rest)
    | '(' =>
      match rest with
      | '?' :: more => r.readExtension (rest.length + 1) more
      | _ => .ok (r.openCapture (rest.length + 1), rest)
    | '[' => do
      let (negated, items, more) ← readSet r.flags.ascii rest
      return (r.pushSet negated items, more)
    | '*' => r.repeatLast 0 none (rest.length + 1) rest
    | '+' => r.repeatLast 1 none (rest.length + 1) rest
    | '?' => r.repeatLast 0 (some 1) (rest.length + 1) rest
    | '\x7b' => r.readBounds rest
    | '\\' =>
      match rest with
      | [] => flawAt .endingEscape 1
      | d :: more => do
        let (element, more) ← readEscape r.flags.ascii r.groups d more
        return (r.pushElement element, more)
    | _ => .ok (r.pushCode c.toNat, rest)

/-- The expression that was read. -/
def finish : Except Misread Expression :=
  match r.frames with
  | frame :: _ => flawAt .openGroup frame.opened
  | [] =>
    match r.choices.find? (r.groups.count < ·.1), r.deferred with
    | some (number, left), _ => flawAt (.invalidReference number) left
    | none, some flaw => .error ⟨flaw, none⟩
    | none, none => .ok r.branch.close

/-- Reads a text, of which `skip` characters belong to a part that is already read. -/
def readFrom (r : Reader) : Nat → List Char → Except Misread Expression
  | _, [] => r.finish
  | skip + 1, _ :: rest => readFrom r skip rest
  | 0, c :: rest => do
    let (r, more) ← r.step c rest
    readFrom r (rest.length - more.length) rest

end Reader

/-- The expression that a text stands for. -/
def Expression.parse (text : List Char) : Except ExpressionError Expression :=
  match Reader.readFrom {} 0 text with
  | .ok e => .ok e.withoutIdleGroups
  | .error misread => .error ⟨misread.flaw, misread.left.map (TextPlace.of text)⟩

end Tenancy.Access
