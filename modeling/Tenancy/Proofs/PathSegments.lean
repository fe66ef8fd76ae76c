import Tenancy.Proofs.Openings
import Tenancy.Proofs.PolicyRelation
import Tenancy.Proofs.Repetition
import Tenancy.Proofs.Splitting

/-!
# Paths segment by segment

A plain pattern is made of literals and names between slashes. Its text becomes a regular expression
which is then searched for in the path with all ways to go back; what comes out is a comparison of
the segments on both sides.

* `parameters_segments`, `parse_segments`: the text of the expression, and the expression that is
  read from it.
* `exists_mem_segments`: where a match from some places may lead, by induction on the segments. A
  name is a repetition (`exists_mem_parameter`), which tries to stop anywhere before the next slash.
* `IsPlain.matchesPath`: a plain pattern matches the paths whose segments its own segments face.
* `parameters_match_one_segment`: what an account with one such permission may do.
-/

namespace Tenancy.Access

namespace Pattern

/-! ## Plain patterns -/

/-- The characters of literals and names: letters and digits of ASCII, hyphens and underscores. -/
def isNameChar (c : Char) : Bool :=
  c.isAlphanum || c == '-' || c == '_'

/-- A literal, which may be empty, or a colon and a name. -/
def isPlainSegment : List Char → Bool
  | ':' :: name => !name.isEmpty && name.all isNameChar
  | literal => literal.all isNameChar

/-- The pattern begins with a slash, and what stands between its slashes is a literal or a colon and
a name. -/
def IsPlain (pattern : String) : Prop :=
  pattern.toList.head? = some '/' ∧
    ∀ segment ∈ Text.splitAt '/' pattern.toList, isPlainSegment segment = true

instance (pattern : String) : Decidable (IsPlain pattern) :=
  inferInstanceAs (Decidable (_ ∧ _))

/-- The patterns of the catalogue are plain. -/
theorem isPlain_foundedRoutes : ∀ route ∈ foundedRoutes, IsPlain route.name := by
  decide +kernel

/-- A literal stands for itself, and a name for everything but the empty text. -/
def Faces (seg part : List Char) : Prop :=
  if seg.head? = some ':' then part ≠ [] else part = seg

instance (seg part : List Char) : Decidable (Faces seg part) :=
  inferInstanceAs (Decidable (if seg.head? = some ':' then part ≠ [] else part = seg))

/-- The expression of a name. -/
def parameter : Expression :=
  .repeated (.oneOf true .exact [.range 47 47]) 1 none .greedy

/-- What a segment becomes in the text of the expression. -/
def written : List Char → List Char
  | ':' :: _ => segment
  | literal => literal

/-- What a segment becomes in the expression. -/
def items : List Char → List Expression
  | ':' :: _ => [parameter]
  | literal => literal.map .char

variable {seg part name literal rest : List Char} {segs parts : List (List Char)} {c : Char}

theorem plain_cases (plain : isPlainSegment seg = true) :
    (∃ name, seg = ':' :: name ∧ name ≠ [] ∧ ∀ c ∈ name, isNameChar c = true) ∨
      ∀ c ∈ seg, isNameChar c = true := by
  unfold isPlainSegment at plain
  split at plain
  · next name =>
    simp only [Bool.and_eq_true, Bool.not_eq_true', List.isEmpty_eq_false_iff,
      List.all_eq_true] at plain
    exact .inl ⟨name, rfl, plain.1, plain.2⟩
  · exact .inr (List.all_eq_true.mp plain)

theorem isNameChar_ne {d : Char} (other : isNameChar d = false) (named : isNameChar c = true) :
    c ≠ d := by
  rintro rfl
  rw [named] at other
  cases other

/-- A literal has no colon, so it is no name. -/
theorem literal_cases (named : ∀ c ∈ seg, isNameChar c = true) :
    written seg = seg ∧ items seg = seg.map .char ∧ ∀ part, Faces seg part ↔ part = seg := by
  cases seg with
  | nil => exact ⟨rfl, rfl, fun _ => Iff.rfl⟩
  | cons c rest =>
    have noColon : c ≠ ':' := isNameChar_ne (by decide) (named c List.mem_cons_self)
    refine ⟨?_, ?_, fun part => ?_⟩
    · unfold written
      split
      · next same => exact absurd (List.cons.inj same).1 noColon
      · rfl
    · unfold items
      split
      · next same => exact absurd (List.cons.inj same).1 noColon
      · rfl
    · have literal : ¬(c :: rest).head? = some ':' := fun same => noColon (Option.some.inj same)
      rw [Faces, if_neg literal]

/-! ## The text of the expression -/

theorem wildcards_eq_self (free : '*' ∉ rest) : wildcards rest = rest := by
  fun_induction wildcards rest with
  | case1 => rfl
  | case2 rest ih => simp at free
  | case3 c rest _ ih => rw [ih (List.not_mem_of_not_mem_cons free)]

theorem parameters_literal (named : ∀ c ∈ literal, isNameChar c = true) :
    parameters false (literal ++ rest) = literal ++ parameters false rest := by
  induction literal with
  | nil => rfl
  | cons c more ih =>
    have noColon : c ≠ ':' := isNameChar_ne (by decide) (named c List.mem_cons_self)
    have later := ih fun d listed => named d (List.mem_cons_of_mem _ listed)
    simp [parameters, noColon, later]

theorem parameters_name (named : ∀ c ∈ name, isNameChar c = true) :
    parameters true (name ++ rest) = parameters true rest := by
  induction name with
  | nil => rfl
  | cons c more ih =>
    have noSlash : c ≠ '/' := isNameChar_ne (by decide) (named c List.mem_cons_self)
    have later := ih fun d listed => named d (List.mem_cons_of_mem _ listed)
    simp [parameters, noSlash, later]

/-- Every name becomes the expression of a segment; a slash ends what was passed over. -/
theorem parameters_segments (inside : Bool) (plain : ∀ seg ∈ segs, isPlainSegment seg = true) :
    parameters inside (segs.flatMap ('/' :: ·)) = segs.flatMap fun seg => '/' :: written seg := by
  induction segs generalizing inside with
  | nil => rfl
  | cons seg rest ih =>
    obtain ⟨own, others⟩ := List.forall_mem_cons.mp plain
    have slash : ∀ text, parameters inside ('/' :: text) = '/' :: parameters false text := by
      intro text
      cases inside <;> simp [parameters]
    rw [List.flatMap_cons, List.cons_append, slash, List.flatMap_cons, List.cons_append]
    congr 1
    rcases plain_cases own with ⟨name, rfl, some, named⟩ | named
    · obtain ⟨first, more, rfl⟩ := List.exists_cons_of_ne_nil some
      have noSlash : first ≠ '/' := isNameChar_ne (by decide) (named first List.mem_cons_self)
      have starts : startsName (first :: more ++ rest.flatMap ('/' :: ·)) = true := by
        simpa [startsName] using noSlash
      rw [List.cons_append, parameters, if_neg (by decide), if_pos ⟨rfl, starts⟩,
        parameters_name named, ih true others]
      rfl
    · rw [parameters_literal named, ih false others, (literal_cases named).1]

/-! ## The expression -/

/-- Expressions one after the other. -/
def inOrder (l : List Expression) : Expression :=
  l.foldr .seq .empty

/-- A reader that has read some items, the last one first, and is in no group. -/
def reading (read : List (Expression × ItemKind)) : Reader :=
  { branch := { items := read } }

variable {read : List (Expression × ItemKind)}

theorem readFrom_of_step {r next : Reader} (stepped : r.step c rest = .ok (next, rest)) :
    r.readFrom 0 (c :: rest) = next.readFrom 0 rest := by
  rw [Reader.readFrom, stepped]
  show next.readFrom (rest.length - rest.length) rest = _
  rw [Nat.sub_self]

theorem readFrom_char (plain : isNameChar c = true ∨ c = '/') :
    (reading read).readFrom 0 (c :: rest) =
      (reading ((.char c, .plain) :: read)).readFrom 0 rest := by
  have other : ∀ d, isNameChar d = false → d ≠ '/' → c ≠ d := by
    rintro d unnamed noSlash rfl
    rcases plain with named | slash
    · rw [unnamed] at named
      cases named
    · exact noSlash slash
  refine readFrom_of_step ?_
  have pushed : (reading read).pushCode c.toNat = reading ((.char c, .plain) :: read) := by
    simp [Reader.pushCode, reading, Reader.push, Branch.push]
  unfold Reader.step
  simp only [reading, Bool.false_and, Bool.false_eq_true, if_false]
  -- every other case is that of a sign with a meaning of its own
  split
  all_goals
    first
    | exact absurd rfl (other _ (by decide) (by decide))
    | exact congrArg (fun r => Except.ok (r, rest)) pushed

theorem readFrom_literal (named : ∀ c ∈ literal, isNameChar c = true) :
    (reading read).readFrom 0 (literal ++ rest) =
      (reading ((literal.map fun c => (.char c, .plain)).reverse ++ read)).readFrom 0 rest := by
  induction literal generalizing read with
  | nil => rfl
  | cons c more ih =>
    rw [List.cons_append, readFrom_char (.inl (named c List.mem_cons_self)),
      ih fun d listed => named d (List.mem_cons_of_mem _ listed)]
    simp

theorem readFrom_segment (next : rest.head? = some '/' ∨ rest.head? = some '$') :
    (reading read).readFrom 0 (segment ++ rest) =
      (reading ((parameter, .repetition) :: read)).readFrom 0 rest := by
  have greedy : Reader.greedOf rest = (.greedy, rest) := by
    unfold Reader.greedOf
    split
    · simp at next
    · simp at next
    · rfl
  have set : readSet false ('^' :: '\\' :: '/' :: ']' :: '+' :: rest) =
      .ok (true, [.range 47 47], '+' :: rest) := rfl
  have opened : (reading read).readFrom 0 (segment ++ rest) =
      (reading ((.oneOf true .exact [.range 47 47], .plain) :: read)).readFrom 0 ('+' :: rest) := by
    show (reading read).readFrom 0 ('[' :: '^' :: '\\' :: '/' :: ']' :: '+' :: rest) = _
    have stepped : (reading read).step '[' ('^' :: '\\' :: '/' :: ']' :: '+' :: rest) =
        .ok (reading ((.oneOf true .exact [.range 47 47], .plain) :: read), '+' :: rest) := by
      simp only [Reader.step, reading, Bool.false_and, Bool.false_eq_true, if_false, set]
      rfl
    rw [Reader.readFrom, stepped]
    show Reader.readFrom _ (_ - _) _ = _
    have skipped :
        ('^' :: '\\' :: '/' :: ']' :: '+' :: rest).length - ('+' :: rest).length = 4 := by
      simp only [List.length_cons]
      omega
    rw [skipped]
    rfl
  rw [opened]
  refine readFrom_of_step ?_
  simp only [Reader.step, reading, Bool.false_and, Bool.false_eq_true, if_false, Reader.repeatLast,
    greedy]
  rfl

theorem close_reading : (reading read).branch.close = inOrder (read.reverse.map (·.1)) := by
  show read.foldl (fun rest item => Expression.seq item.1 rest) Expression.empty = _
  rw [inOrder, List.foldr_map, List.foldl_eq_foldr_reverse]

theorem readFrom_stop :
    (reading read).readFrom 0 ['$'] =
      .ok (inOrder (read.reverse.map (·.1) ++ [.anchor .stop])) := by
  have stepped : (reading read).step '$' [] =
      .ok (reading ((.anchor .stop, .anchor) :: read), []) := rfl
  rw [readFrom_of_step stepped]
  show Except.ok (Branch.close _) = _
  rw [close_reading, List.reverse_cons, List.map_append]
  rfl

theorem readFrom_segments (plain : ∀ seg ∈ segs, isPlainSegment seg = true) :
    (reading read).readFrom 0 (segs.flatMap (fun seg => '/' :: written seg) ++ ['$']) =
      .ok (inOrder (read.reverse.map (·.1) ++ (segs.flatMap (fun seg => .char '/' :: items seg) ++
        [.anchor .stop]))) := by
  induction segs generalizing read with
  | nil => exact readFrom_stop
  | cons seg rest ih =>
    obtain ⟨own, others⟩ := List.forall_mem_cons.mp plain
    rw [List.flatMap_cons, List.append_assoc, List.cons_append, readFrom_char (.inr rfl)]
    rcases plain_cases own with ⟨name, rfl, -, -⟩ | named
    · have next : (rest.flatMap (fun seg => '/' :: written seg) ++ ['$']).head? = some '/' ∨
          (rest.flatMap (fun seg => '/' :: written seg) ++ ['$']).head? = some '$' := by
        cases rest with
        | nil => exact .inr rfl
        | cons following _ => exact .inl rfl
      show Reader.readFrom _ 0 (segment ++ _) = _
      rw [readFrom_segment next, ih others]
      simp [items]
    · rw [(literal_cases named).1, readFrom_literal named, ih others, List.flatMap_cons,
        (literal_cases named).2.1]
      simp [Function.comp_def]

/-- The expression of a plain pattern, segment by segment. -/
def expressionOf (segs : List (List Char)) : Expression :=
  inOrder (.anchor .start :: (segs.flatMap (fun seg => .char '/' :: items seg) ++ [.anchor .stop]))

/-- No part of the expression captures anything. -/
theorem keep_expressionOf (numbers : List Nat) :
    (expressionOf segs).keep numbers = expressionOf segs := by
  have kept : ∀ l : List Expression, (∀ e ∈ l, e.keep numbers = e) →
      (inOrder l).keep numbers = inOrder l := by
    intro l each
    induction l with
    | nil => rfl
    | cons e rest ih =>
      obtain ⟨own, others⟩ := List.forall_mem_cons.mp each
      show Expression.seq (e.keep numbers) ((inOrder rest).keep numbers) = _
      rw [own, ih others]
      rfl
  refine kept _ fun e listed => ?_
  simp only [List.mem_cons, List.mem_append, List.mem_flatMap, List.not_mem_nil, or_false] at listed
  rcases listed with rfl | ⟨seg, -, rfl | item⟩ | rfl
  · rfl
  · rfl
  · unfold items at item
    split at item
    · rw [List.mem_singleton.mp item]
      rfl
    · obtain ⟨c, -, rfl⟩ := List.mem_map.mp item
      rfl
  · rfl

/-- A plain pattern is an expression. -/
theorem parse_segments (plain : ∀ seg ∈ segs, isPlainSegment seg = true) :
    Expression.parse ('^' :: (segs.flatMap (fun seg => '/' :: written seg) ++ ['$'])) =
      .ok (expressionOf segs) := by
  have stepped : Reader.step {} '^' (segs.flatMap (fun seg => '/' :: written seg) ++ ['$']) =
      .ok (reading [(.anchor .start, .anchor)], _) := rfl
  unfold Expression.parse
  rw [readFrom_of_step stepped, readFrom_segments plain]
  show Except.ok ((expressionOf segs).keep _) = _
  rw [keep_expressionOf]

theorem star_not_mem (plain : isPlainSegment seg = true) : '*' ∉ seg := by
  have other : ∀ c ∈ seg, isNameChar c = true → c ≠ '*' := fun c _ => isNameChar_ne (by decide)
  intro listed
  rcases plain_cases plain with ⟨name, rfl, -, named⟩ | named
  · rcases List.mem_cons.mp listed with same | inner
    · cases same
    · exact other _ listed (named _ inner) rfl
  · exact other _ listed (named _ listed) rfl

/-- A plain pattern has segments behind slashes, and it is the expression that they make up. -/
theorem IsPlain.exists_segments {pattern : String} (plain : IsPlain pattern) :
    ∃ segs, Text.splitAt '/' pattern.toList = [] :: segs ∧
      (∀ seg ∈ segs, isPlainSegment seg = true) ∧
      Expression.parse (expressionText pattern) = .ok (expressionOf segs) := by
  obtain ⟨front, each⟩ := plain
  obtain ⟨rest, text⟩ := List.head?_eq_some_iff.mp front
  have cut : Text.splitAt '/' pattern.toList = [] :: Text.splitAt '/' rest := by
    rw [text, Text.splitAt, if_pos rfl]
  rw [cut] at each
  have plain := (List.forall_mem_cons.mp each).2
  refine ⟨_, cut, plain, ?_⟩
  have joined := (Text.intercalate_splitAt '/' pattern.toList).1
  rw [cut, Text.intercalate_cons, List.nil_append] at joined
  have noStar : '*' ∉ pattern.toList := by
    rw [← joined, List.mem_flatMap]
    rintro ⟨seg, listed, inside⟩
    rcases List.mem_cons.mp inside with same | inner
    · cases same
    · exact star_not_mem (plain seg listed) inner
  have written : parameters false (wildcards pattern.toList) =
      (Text.splitAt '/' rest).flatMap fun seg => '/' :: written seg := by
    rw [wildcards_eq_self noStar, ← joined, parameters_segments false plain]
  have notStar :
      (Text.splitAt '/' rest).flatMap (fun seg => '/' :: Pattern.written seg) ≠ ['*'] := by
    intro same
    cases list : Text.splitAt '/' rest with
    | nil => simp [list] at same
    | cons first more => simp [list] at same
  show Expression.parse ('^' :: ((if _ = _ then _ else _) ++ ['$'])) = _
  rw [written, if_neg notStar, parse_segments plain]

/-! ## Matches -/

variable {places : List Cursor} {x : List Char}

/-- Passing over one character leads behind it, from wherever it stands in front. -/
theorem exists_mem_one {holds : Char → Bool} :
    (∃ q ∈ places.flatMap fun s => s.one holds, q.rest = x) ↔
      ∃ s ∈ places, ∃ c, holds c = true ∧ s.rest = c :: x := by
  constructor
  · rintro ⟨q, listed, rfl⟩
    obtain ⟨s, start, passed⟩ := List.mem_flatMap.mp listed
    exact ⟨s, start, Expression.rest_of_one passed⟩
  · rintro ⟨s, start, c, held, text⟩
    have passed : ∃ q ∈ s.one holds, q.rest = x := by
      unfold Cursor.one
      split
      · next none =>
        rw [text] at none
        cases none
      · next d rest same =>
        rw [text] at same
        obtain ⟨rfl, rfl⟩ := List.cons.inj same
        rw [if_pos held]
        exact ⟨_, List.mem_singleton_self _, rfl⟩
    obtain ⟨q, one, left⟩ := passed
    exact ⟨q, List.mem_flatMap.mpr ⟨s, start, one⟩, left⟩

theorem ends_append (first second : List Expression) :
    (inOrder (first ++ second)).ends places =
      (inOrder second).ends ((inOrder first).ends places) := by
  induction first generalizing places with
  | nil => rfl
  | cons e rest ih => exact ih

/-- A literal leads behind its own occurrence. -/
theorem exists_mem_literal :
    (∃ q ∈ (inOrder (literal.map .char)).ends places, q.rest = x) ↔
      ∃ s ∈ places, s.rest = literal ++ x := by
  induction literal generalizing places with
  | nil => rfl
  | cons c more ih =>
    show (∃ q ∈ (inOrder (more.map .char)).ends (places.flatMap fun s => s.one (· == c)), _) ↔ _
    rw [ih, exists_mem_one]
    simp

/-- One turn of the expression of a name. -/
def turn : List Cursor → List Cursor :=
  (Expression.oneOf true .exact [.range 47 47]).ends

/-- A turn passes over a character that is no slash. -/
theorem exists_mem_turn :
    (∃ q ∈ turn places, q.rest = x) ↔ ∃ s ∈ places, ∃ c ≠ '/', s.rest = c :: x := by
  have held : ∀ c : Char, ((CaseRule.exact.variants c).any
      fun code => [SetItem.range 47 47].any (·.has code)) != true ↔ c ≠ '/' := by
    intro c
    have code : c.toNat = 47 ↔ c = '/' := Char.toNat_inj (d := '/')
    rw [ne_eq, ← code]
    simp only [CaseRule.variants, SetItem.has, List.any_cons, List.any_nil, Bool.or_false,
      bne_iff_ne, ne_eq, Bool.and_eq_true, decide_eq_true_eq]
    omega
  refine exists_mem_one.trans ?_
  simp only [held]

theorem left_lt_of_turn : ∀ s, ∀ next ∈ turn [s], next.left < s.left := by
  intro s next listed
  obtain ⟨_, same, c, -, text⟩ := exists_mem_turn.mp ⟨next, listed, rfl⟩
  rw [List.mem_singleton.mp same] at text
  rw [next.left_eq, s.left_eq, text, List.length_cons]
  exact Nat.lt_succ_self _

/-- Turns lead behind a text without slashes. -/
theorem exists_reaches {s : Cursor} :
    (∃ q, Reaches turn s q ∧ q.rest = x) ↔ ∃ part, '/' ∉ part ∧ s.rest = part ++ x := by
  constructor
  · rintro ⟨q, reached, rfl⟩
    induction reached using Relation.ReflTransGen.head_induction_on with
    | refl => exact ⟨[], List.not_mem_nil, rfl⟩
    | head step _ ih =>
      obtain ⟨part, free, text⟩ := ih
      obtain ⟨_, same, c, other, front⟩ := exists_mem_turn.mp ⟨_, step, rfl⟩
      rw [List.mem_singleton.mp same, text] at front
      exact ⟨c :: part, List.not_mem_cons_of_ne_of_not_mem other.symm free, front⟩
  · rintro ⟨part, free, text⟩
    induction part generalizing s with
    | nil => exact ⟨s, .refl, text⟩
    | cons c more ih =>
      have other : c ≠ '/' := (List.ne_of_not_mem_cons free).symm
      obtain ⟨next, step, left⟩ :=
        exists_mem_turn.mpr ⟨s, List.mem_singleton_self s, c, other, text⟩
      obtain ⟨q, reached, behind⟩ := ih (List.not_mem_of_not_mem_cons free) left
      exact ⟨q, .head step reached, behind⟩

/-- The expression of a name leads behind a text without slashes that is not empty. -/
theorem exists_mem_parameter :
    (∃ q ∈ parameter.ends places, q.rest = x) ↔
      ∃ s ∈ places, ∃ part, part ≠ [] ∧ '/' ∉ part ∧ s.rest = part ++ x := by
  have reached : ∀ q, q ∈ parameter.ends places ↔ ∃ s ∈ turn places, Reaches turn s q :=
    fun q => mem_repeatedTurns left_lt_of_turn
  constructor
  · rintro ⟨q, listed, text⟩
    obtain ⟨next, first, onward⟩ := (reached q).mp listed
    obtain ⟨s, start, c, other, front⟩ := exists_mem_turn.mp ⟨next, first, rfl⟩
    obtain ⟨part, free, behind⟩ := exists_reaches.mp ⟨q, onward, text⟩
    rw [behind] at front
    exact ⟨s, start, c :: part, List.cons_ne_nil _ _,
      List.not_mem_cons_of_ne_of_not_mem other.symm free, front⟩
  · rintro ⟨s, start, part, some, free, text⟩
    obtain ⟨c, more, rfl⟩ := List.exists_cons_of_ne_nil some
    have other : c ≠ '/' := (List.ne_of_not_mem_cons free).symm
    obtain ⟨next, first, left⟩ := exists_mem_turn.mpr ⟨s, start, c, other, text⟩
    obtain ⟨q, onward, behind⟩ :=
      exists_reaches.mpr ⟨more, List.not_mem_of_not_mem_cons free, left⟩
    exact ⟨q, (reached q).mpr ⟨next, first, onward⟩, behind⟩

/-- A segment leads behind a slash and a part that it faces. -/
theorem exists_mem_segment (plain : isPlainSegment seg = true) :
    (∃ q ∈ (inOrder (.char '/' :: items seg)).ends places, q.rest = x) ↔
      ∃ s ∈ places, ∃ part, Faces seg part ∧ '/' ∉ part ∧ s.rest = '/' :: (part ++ x) := by
  have slash : ∀ y, (∃ q ∈ (Expression.char '/').ends places, q.rest = y) ↔
      ∃ s ∈ places, s.rest = '/' :: y := by
    intro y
    exact exists_mem_one.trans (by simp)
  rcases plain_cases plain with ⟨name, rfl, -, -⟩ | named
  · show (∃ q ∈ parameter.ends ((Expression.char '/').ends places), q.rest = x) ↔ _
    rw [exists_mem_parameter]
    constructor
    · rintro ⟨q, listed, part, some, free, text⟩
      obtain ⟨s, start, front⟩ := (slash _).mp ⟨q, listed, text⟩
      exact ⟨s, start, part, some, free, front⟩
    · rintro ⟨s, start, part, some, free, front⟩
      obtain ⟨q, listed, text⟩ := (slash _).mpr ⟨s, start, front⟩
      exact ⟨q, listed, part, some, free, text⟩
  · obtain ⟨-, same, faces⟩ := literal_cases named
    have free : '/' ∉ seg := fun inside => isNameChar_ne (by decide) (named _ inside) rfl
    rw [same]
    show (∃ q ∈ (inOrder (seg.map .char)).ends ((Expression.char '/').ends places), _) ↔ _
    rw [exists_mem_literal, slash]
    simp [faces, free]

/-- Segments lead behind parts that they face, each behind a slash. -/
theorem exists_mem_segments (plain : ∀ seg ∈ segs, isPlainSegment seg = true) :
    (∃ q ∈ (inOrder (segs.flatMap fun seg => .char '/' :: items seg)).ends places, q.rest = x) ↔
      ∃ s ∈ places, ∃ parts, List.Forall₂ Faces segs parts ∧ (∀ part ∈ parts, '/' ∉ part) ∧
        s.rest = parts.flatMap ('/' :: ·) ++ x := by
  induction segs generalizing places with
  | nil => simp [inOrder, Expression.ends]
  | cons seg rest ih =>
    obtain ⟨own, others⟩ := List.forall_mem_cons.mp plain
    rw [List.flatMap_cons, ends_append, ih others]
    constructor
    · rintro ⟨q, listed, parts, faces, free, text⟩
      obtain ⟨s, start, part, faced, partFree, front⟩ :=
        (exists_mem_segment own).mp ⟨q, listed, text⟩
      refine ⟨s, start, part :: parts, .cons faced faces, ?_, by simpa using front⟩
      exact List.forall_mem_cons.mpr ⟨partFree, free⟩
    · rintro ⟨s, start, parts, faces, free, front⟩
      cases faces with
      | cons faced faces =>
        obtain ⟨partFree, free⟩ := List.forall_mem_cons.mp free
        obtain ⟨q, listed, text⟩ := (exists_mem_segment own).mpr
          ⟨s, start, _, faced, partFree, by simpa using front⟩
        exact ⟨q, listed, _, faces, free, text⟩

/-- The expression of a plain pattern has to match the whole text, but for a newline at its end. -/
theorem matchesFront_expressionOf {text : List Char}
    (plain : ∀ seg ∈ segs, isPlainSegment seg = true) (oneLine : '\n' ∉ text) :
    (expressionOf segs).matchesFront text = true ↔
      ∃ parts, List.Forall₂ Faces segs parts ∧ (∀ part ∈ parts, '/' ∉ part) ∧
        text = parts.flatMap ('/' :: ·) := by
  have ends : (expressionOf segs).ends [.start text] =
      ((inOrder (segs.flatMap fun seg => .char '/' :: items seg)).ends [.start text]).filter
        Anchor.stop.holds := ends_append _ _
  have stop : ∀ q : Cursor, Anchor.stop.holds q = true ↔ q.rest = [] ∨ q.rest = ['\n'] := by
    intro q
    simp [Anchor.holds]
  have leads : ∀ x, (∃ q ∈ (inOrder (segs.flatMap fun seg => .char '/' :: items seg)).ends
      [.start text], q.rest = x) ↔ _ := fun x => exists_mem_segments plain
  rw [Expression.matchesFront, Bool.not_eq_true', List.isEmpty_eq_false_iff_exists_mem, ends]
  simp only [List.mem_filter, stop]
  constructor
  · rintro ⟨q, listed, whole | newline⟩
    · obtain ⟨s, start, parts, faces, free, front⟩ := (leads []).mp ⟨q, listed, whole⟩
      rw [List.mem_singleton.mp start, List.append_nil] at front
      exact ⟨parts, faces, free, front⟩
    · obtain ⟨s, start, parts, -, -, front⟩ := (leads ['\n']).mp ⟨q, listed, newline⟩
      rw [List.mem_singleton.mp start] at front
      have line : text = parts.flatMap ('/' :: ·) ++ ['\n'] := front
      exact absurd (line ▸ List.mem_append_right _ List.mem_cons_self) oneLine
  · rintro ⟨parts, faces, free, front⟩
    obtain ⟨q, listed, whole⟩ := (leads []).mpr
      ⟨.start text, List.mem_singleton_self _, parts, faces, free,
        front.trans (List.append_nil _).symm⟩
    exact ⟨q, listed, .inl whole⟩

/-- A plain pattern matches the paths whose segments its own segments face. -/
theorem IsPlain.matchesPath {pattern path : String} (plain : IsPlain pattern)
    (oneLine : '\n' ∉ path.toList) :
    ∃ found, Pattern.matchesPath pattern path = .ok found ∧
      (found = true ↔ List.Forall₂ Faces (Text.splitAt '/' pattern.toList)
        (Text.splitAt '/' path.toList)) := by
  obtain ⟨segs, cut, each, parsed⟩ := plain.exists_segments
  refine ⟨_, by rw [Pattern.matchesPath, parsed]; rfl, ?_⟩
  rw [matchesFront_expressionOf each oneLine, cut]
  obtain ⟨joined, -, free⟩ := Text.intercalate_splitAt '/' path.toList
  constructor
  · rintro ⟨parts, faces, noSlash, text⟩
    have whole : path.toList = ['/'].intercalate ([] :: parts) := by
      rw [text, Text.intercalate_cons, List.nil_append]
    rw [whole, Text.splitAt_intercalate List.not_mem_nil noSlash]
    exact .cons rfl faces
  · intro faces
    cases parts : Text.splitAt '/' path.toList with
    | nil =>
      rw [parts] at faces
      cases faces
    | cons first rest =>
      rw [parts] at faces joined free
      cases faces with
      | cons empty faces =>
        cases (show first = [] from empty)
        rw [Text.intercalate_cons, List.nil_append] at joined
        exact ⟨rest, faces, (List.forall_mem_cons.mp free).2, joined.symm⟩

end Pattern

/-- An account other than the super administrator whose only role has been granted only a method on
the paths of a plain pattern may use that method on the paths that have as many segments as the
pattern, each of which is the literal that it faces, or is not empty where it faces a name; it may
do nothing else. -/
theorem parameters_match_one_segment {p : Policy} {account role : Int} {pattern granted : String}
    (plain : Pattern.IsPlain pattern) (ordinary : account ≠ superAdminId)
    (only : ∀ other, p.hasRole account other = true ↔ other = role)
    (exactly : p.permissions role = permissionsOf [(pattern, granted)]) (path method : String)
    (oneLine : '\n' ∉ path.toList) :
    ∃ allowed, p.allows account path method = .ok allowed ∧
      (allowed = true ↔ upperMethod granted = upperMethod method ∧
        List.Forall₂ Pattern.Faces (Text.splitAt '/' pattern.toList)
          (Text.splitAt '/' path.toList)) := by
  have same : permissionsOf [(pattern, granted)] = [⟨pattern, upperMethod granted⟩] := rfl
  have held : ∀ rule : Rule, rule ∈ p.rules ∧ p.hasRole account rule.role = true ↔
      rule = ⟨role, ⟨pattern, upperMethod granted⟩⟩ := by
    intro rule
    constructor
    · rintro ⟨listed, holding⟩
      obtain rfl := (only _).mp holding
      have own : rule.permission ∈ p.permissions rule.role := Policy.mem_permissions.mpr listed
      rw [exactly, same, List.mem_singleton] at own
      rw [← own]
    · rintro rfl
      refine ⟨Policy.mem_permissions.mp ?_, (only _).mpr rfl⟩
      rw [exactly, same]
      exact List.mem_singleton_self _
  have compiles : p.CompilesFor account := by
    intro rule listed holding
    obtain ⟨segs, -, -, parsed⟩ := plain.exists_segments
    rw [(held rule).mp ⟨listed, holding⟩, Compiles, parsed]
    rfl
  obtain ⟨allowed, decided, iff⟩ := Policy.allows_iff path method compiles
  obtain ⟨found, tried, faces⟩ := plain.matchesPath oneLine
  refine ⟨allowed, decided, ?_⟩
  rw [iff, ← faces]
  constructor
  · rintro (admin | ⟨rule, listed, holding, matched, fits⟩)
    · exact absurd admin ordinary
    · rw [(held rule).mp ⟨listed, holding⟩] at matched fits
      rw [tried, Except.ok.injEq] at matched
      exact ⟨fits.symm, matched⟩
  · rintro ⟨fits, rfl⟩
    obtain ⟨listed, holding⟩ := (held _).mpr rfl
    exact .inr ⟨_, listed, holding, tried, fits.symm⟩

/-- A role with one route and another one whose pattern is no expression, and who has them. -/
def lobby : Policy :=
  ((({} : Policy).grant 6 [("/api/(", "GET")]).grant 5 [("/api/accounts/:id/menus", "get")]
    |>.assign 7 5).assign 8 6

/-- In the lobby, account 7 gets through with any segment in the place of the name, but with neither
none nor two. -/
theorem lobby_lets_one_segment_through :
    Pattern.IsPlain "/api/accounts/:id/menus" ∧
    (∀ other, lobby.hasRole 7 other = true ↔ other = 5) ∧
    lobby.permissions 5 = permissionsOf [("/api/accounts/:id/menus", "get")] ∧
    lobby.allows 7 "/api/accounts/4.(2/menus" "Get" = .ok true ∧
    lobby.allows 7 "/api/accounts//menus" "GET" = .ok false ∧
    lobby.allows 7 "/api/accounts/4/2/menus" "GET" = .ok false := by
  have plain : Pattern.IsPlain "/api/accounts/:id/menus" := by decide +kernel
  have only : ∀ other, lobby.hasRole 7 other = true ↔ other = 5 := by
    intro other
    show decide ((7, other) ∈ [((7 : Int), (5 : Int)), (8, 6)]) = true ↔ _
    simp
  have exactly : lobby.permissions 5 = permissionsOf [("/api/accounts/:id/menus", "get")] := by
    decide +kernel
  have decides := parameters_match_one_segment plain (by decide) only exactly
  refine ⟨plain, only, exactly, ?_, ?_, ?_⟩
  · obtain ⟨allowed, decided, iff⟩ := decides "/api/accounts/4.(2/menus" "Get" (by decide)
    rw [decided, iff.mpr (by decide +kernel)]
  · obtain ⟨allowed, decided, iff⟩ := decides "/api/accounts//menus" "GET" (by decide)
    rw [decided, Bool.eq_false_iff.mpr (iff.not.mpr (by decide +kernel))]
  · obtain ⟨allowed, decided, iff⟩ := decides "/api/accounts/4/2/menus" "GET" (by decide)
    rw [decided, Bool.eq_false_iff.mpr (iff.not.mpr (by decide +kernel))]

end Tenancy.Access
