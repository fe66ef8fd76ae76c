import Mathlib.Data.List.Induction
import Mathlib.Data.List.TakeWhile
import Tenancy.Token.Subject

/-!
# What a subject names

A subject is looked at twice: behind all minus signs it must hold nothing but signs of digits, and
then it is read as a numeral. Neither decides alone which subjects name an account, since the first
lets superscripts and many minus signs through and the second is meant for more than what comes to
it. Together they accept decimal numerals behind at most one minus sign, in the digits of any
scripts (`subject_names_what_it_shows`).

* `spells_iff`: what the digits of a numeral spell, from the first one to the last.
* `readSubject_of_signed`, `readSubject_of_unsigned`: what is read, by the form of a subject. From
  these follows for each answer when it is given.
-/

namespace Tenancy

variable {s t body : List Char} {signs count : Nat} {n : Int}

/-! ## Numerals -/

namespace Text

/-- Decimal digits of any scripts, at least one, spell a number: with every further digit the number
before it counts ten times. -/
inductive Spells : List Char → Nat → Prop
  | digit {c : Char} {d : Nat} (value : decimalDigit? c = some d) : Spells [c] d
  | append {front : List Char} {k d : Nat} {c : Char} (before : Spells front k)
      (value : decimalDigit? c = some d) : Spells (front ++ [c]) (10 * k + d)

theorem ofDigits_append (ds : List Nat) (d : Nat) :
    ofDigits (ds ++ [d]) = 10 * ofDigits ds + d := by
  rw [ofDigits, List.foldl_append]
  rfl

theorem spells_iff {k : Nat} :
    Spells s k ↔ s ≠ [] ∧ ∃ ds, s.mapM decimalDigit? = some ds ∧ ofDigits ds = k := by
  constructor
  · intro spells
    induction spells with
    | digit value => exact ⟨by simp, _, by simp [value]; rfl, by simp [ofDigits]⟩
    | append before value ih =>
      obtain ⟨-, ds, read, rfl⟩ := ih
      exact ⟨by simp, ds ++ [_], by simp [List.mapM_append, read, value], ofDigits_append ds _⟩
  · rintro ⟨some, ds, read, rfl⟩
    induction s using List.reverseRecOn generalizing ds with
    | nil => exact absurd rfl some
    | append_singleton front c ih =>
      simp only [List.mapM_append, List.mapM_cons, List.mapM_nil, Option.pure_def,
        Option.bind_eq_bind, Option.bind_some, Option.bind_eq_some_iff, Option.some.injEq] at read
      obtain ⟨before, readBefore, last, ⟨d, value, rfl⟩, rfl⟩ := read
      rw [ofDigits_append]
      rcases eq_or_ne front [] with rfl | more
      · obtain rfl : [] = before := by simpa using readBefore
        simpa [ofDigits] using Spells.digit value
      · exact .append (ih more before readBefore) value

theorem Spells.isSome {k : Nat} (spells : Spells s k) :
    ∀ c ∈ s, (decimalDigit? c).isSome = true := by
  induction spells with
  | digit value => simp [value]
  | append before value ih => simpa [or_imp, forall_and, value] using ih

theorem exists_spells (some : s ≠ []) (decimal : ∀ c ∈ s, (decimalDigit? c).isSome = true) :
    ∃ k, Spells s k := by
  induction s using List.reverseRecOn with
  | nil => exact absurd rfl some
  | append_singleton front c ih =>
    obtain ⟨before, last⟩ := List.forall_mem_append.mp decimal
    obtain ⟨d, value⟩ := Option.isSome_iff_exists.mp (last c List.mem_cons_self)
    rcases eq_or_ne front [] with rfl | more
    · exact ⟨d, .digit value⟩
    · obtain ⟨k, spells⟩ := ih more before
      exact ⟨10 * k + d, .append spells value⟩

end Text

open Text

/-! ## The form of a subject -/

/-- Signs of digits, at least one, behind so many minus signs. -/
structure Signed (s : List Char) (signs : Nat) (body : List Char) : Prop where
  text : s = List.replicate signs '-' ++ body
  some : body ≠ []
  shown : ∀ c ∈ body, isDigitLike c = true

/-- At most one minus sign, and behind it decimal digits that spell the integer, no more of them
than are read. -/
inductive ShowsInteger : List Char → Int → Prop
  | natural {digits : List Char} {k : Nat} (short : digits.length ≤ maxDigits)
      (spells : Spells digits k) : ShowsInteger digits k
  | negative {digits : List Char} {k : Nat} (short : digits.length ≤ maxDigits)
      (spells : Spells digits k) : ShowsInteger ('-' :: digits) (-k)

/-- The decimal digits that come first. -/
def numeralOf (body : List Char) : List Char :=
  body.takeWhile fun c => (decimalDigit? c).isSome

/-- At most one minus sign, and signs of digits behind it, of which more decimal digits come first
than are read. -/
def Overlong (s : List Char) (count : Nat) : Prop :=
  ∃ signs body, Signed s signs body ∧ signs ≤ 1 ∧ (numeralOf body).length = count ∧
    maxDigits < count

/-- Signs of digits that are no numeral: there are several minus signs, or one of them is no decimal
digit and not too many decimal digits come first. -/
def Unreadable (s : List Char) : Prop :=
  ∃ signs body, Signed s signs body ∧
    (1 < signs ∨ (∃ c ∈ body, decimalDigit? c = none) ∧ (numeralOf body).length ≤ maxDigits)

/-- What is read, by the form of a subject. -/
inductive Reading (s : List Char) : Except SubjectFault Int → Prop
  | malformed (plain : ¬∃ signs body, Signed s signs body) : Reading s (.error .malformed)
  | integer {n : Int} (shows : ShowsInteger s n) : Reading s (.ok n)
  | tooLong {count : Nat} (long : Overlong s count) : Reading s (.error (.tooLong count))
  | noNumeral (unreadable : Unreadable s) : Reading s (.error (.noNumeral s))

theorem Signed.drop (form : Signed s signs body) : s.dropWhile (· = '-') = body := by
  have minus : ∀ c ∈ List.replicate signs '-', decide (c = '-') = true := by
    intro c listed
    exact decide_eq_true (List.eq_of_mem_replicate listed)
  rw [form.text, List.dropWhile_append_of_pos minus]
  cases body with
  | nil => exact absurd rfl form.some
  | cons c rest =>
    refine List.dropWhile_cons_of_neg fun sign => ?_
    have digit : isDigitLike c = true := form.shown c List.mem_cons_self
    rw [of_decide_eq_true sign] at digit
    exact absurd digit (by decide)

theorem Text.Spells.signed {k : Nat} (spells : Spells body k) (signs : Nat) :
    Signed (List.replicate signs '-' ++ body) signs body where
  text := rfl
  some := (spells_iff.mp spells).1
  shown c listed := by rw [isDigitLike, spells.isSome c listed, Bool.true_or]

theorem Text.Spells.numeralOf_eq {k : Nat} (spells : Spells body k) : numeralOf body = body :=
  List.takeWhile_eq_self_iff.mpr spells.isSome

/-! ## What is read -/

theorem readSubject_of_signed (form : Signed s signs body) :
    readSubject s =
      if 1 < signs then .error (.noNumeral s)
      else if maxDigits < (numeralOf body).length then .error (.tooLong (numeralOf body).length)
      else
        match body.mapM decimalDigit? with
        | none => .error (.noNumeral s)
        | some ds => .ok (if signs = 1 then -(ofDigits ds : Int) else ofDigits ds) := by
  have filled : body.isEmpty = false := List.isEmpty_eq_false_iff.mpr form.some
  have shown : body.all isDigitLike = true := List.all_eq_true.mpr form.shown
  have minus : s.length - body.length = signs := by
    rw [form.text, List.length_append, List.length_replicate, Nat.add_sub_cancel]
  rw [readSubject, form.drop]
  simp only [filled, shown, minus, Bool.not_true, Bool.or_self, Bool.false_eq_true, if_false]
  rfl

theorem readSubject_of_unsigned (plain : ¬∃ signs body, Signed s signs body) :
    readSubject s = .error .malformed := by
  have minus : s.takeWhile (· = '-') = List.replicate (s.takeWhile (· = '-')).length '-' := by
    refine List.eq_replicate_of_mem fun c listed => ?_
    simpa using List.mem_takeWhile_imp listed
  have text : s = List.replicate (s.takeWhile (· = '-')).length '-' ++ s.dropWhile (· = '-') := by
    rw [← minus, List.takeWhile_append_dropWhile]
  have refused : ((s.dropWhile (· = '-')).isEmpty ||
      !(s.dropWhile (· = '-')).all isDigitLike) = true := by
    by_contra fine
    simp only [Bool.or_eq_true, Bool.not_eq_true', List.isEmpty_iff, not_or, Bool.not_eq_false,
      List.all_eq_true] at fine
    exact plain ⟨_, _, text, fine.1, fine.2⟩
  rw [readSubject]
  simp only [refused, if_true]

theorem readSubject_of_spells {k : Nat} (signs : Nat) (single : signs ≤ 1) (spells : Spells body k)
    (short : body.length ≤ maxDigits) :
    readSubject (List.replicate signs '-' ++ body) = .ok (if signs = 1 then -(k : Int) else k) := by
  obtain ⟨-, ds, read, rfl⟩ := spells_iff.mp spells
  rw [readSubject_of_signed (spells.signed signs), spells.numeralOf_eq,
    if_neg (Nat.not_lt.mpr single), if_neg (Nat.not_lt.mpr short), read]

theorem readSubject_of_showsInteger (shows : ShowsInteger s n) : readSubject s = .ok n := by
  cases shows with
  | natural short spells => exact readSubject_of_spells 0 (by decide) spells short
  | negative short spells => exact readSubject_of_spells 1 (by decide) spells short

theorem readSubject_of_overlong (long : Overlong s count) :
    readSubject s = .error (.tooLong count) := by
  obtain ⟨signs, body, form, single, rfl, long⟩ := long
  rw [readSubject_of_signed form, if_neg (Nat.not_lt.mpr single), if_pos long]

theorem readSubject_of_unreadable (unreadable : Unreadable s) :
    readSubject s = .error (.noNumeral s) := by
  obtain ⟨signs, body, form, several | ⟨⟨c, listed, other⟩, short⟩⟩ := unreadable
  · rw [readSubject_of_signed form, if_pos several]
  · have unread : body.mapM decimalDigit? = none := by
      refine Option.eq_none_iff_forall_ne_some.mpr fun ds read => ?_
      have digit := (spells_iff.mpr ⟨form.some, ds, read, rfl⟩).isSome c listed
      rw [other] at digit
      cases digit
    rw [readSubject_of_signed form, if_neg (Nat.not_lt.mpr short), unread, ite_self]

/-- Every subject has a form. -/
theorem exists_reading (s : List Char) : ∃ answer, Reading s answer := by
  by_cases signed : ∃ signs body, Signed s signs body
  · obtain ⟨signs, body, form⟩ := signed
    rcases Nat.lt_or_ge 1 signs with several | single
    · exact ⟨_, .noNumeral ⟨signs, body, form, .inl several⟩⟩
    rcases Nat.lt_or_ge maxDigits (numeralOf body).length with long | short
    · exact ⟨_, .tooLong ⟨signs, body, form, single, rfl, long⟩⟩
    by_cases decimal : ∀ c ∈ body, (decimalDigit? c).isSome = true
    · obtain ⟨k, spells⟩ := exists_spells form.some decimal
      rw [spells.numeralOf_eq] at short
      rw [form.text]
      rcases Nat.le_one_iff_eq_zero_or_eq_one.mp single with rfl | rfl
      · exact ⟨_, .integer (.natural short spells)⟩
      · exact ⟨_, .integer (.negative short spells)⟩
    · have other : ∃ c ∈ body, decimalDigit? c = none := by simpa using decimal
      exact ⟨_, .noNumeral ⟨signs, body, form, .inr ⟨other, short⟩⟩⟩
  · exact ⟨_, .malformed signed⟩

theorem readSubject_eq_iff {answer : Except SubjectFault Int} :
    readSubject s = answer ↔ Reading s answer := by
  have read : ∀ answer, Reading s answer → readSubject s = answer := by
    intro answer reading
    cases reading with
    | malformed plain => exact readSubject_of_unsigned plain
    | integer shows => exact readSubject_of_showsInteger shows
    | tooLong long => exact readSubject_of_overlong long
    | noNumeral unreadable => exact readSubject_of_unreadable unreadable
  constructor
  · rintro rfl
    obtain ⟨answer, reading⟩ := exists_reading s
    rwa [read answer reading]
  · exact read answer

/-! ## Claims -/

section Claims

variable {claims : Json.Members} {answer : Except SubjectFault Int}

/-- Whatever is answered but a refusal for its form is read off the text of the subject. -/
theorem subjectOf_eq_iff (fine : answer ≠ .error .malformed) :
    subjectOf claims = answer ↔
      ∃ s, claims.get? "sub" = some (.str s) ∧ Reading s.toList answer := by
  unfold subjectOf
  split
  next s given =>
    rw [readSubject_eq_iff]
    constructor
    · exact fun reading => ⟨s, given, reading⟩
    · rintro ⟨s', given', reading⟩
      cases given.symm.trans given'
      exact reading
  next other =>
    constructor
    · exact fun refused => absurd refused.symm fine
    · rintro ⟨s, given, -⟩
      exact absurd given (other s)

theorem subjectOf_eq_malformed_iff :
    subjectOf claims = .error .malformed ↔
      ¬∃ s signs body, claims.get? "sub" = some (.str s) ∧ Signed s.toList signs body := by
  unfold subjectOf
  split
  next s given =>
    rw [readSubject_eq_iff]
    constructor
    · rintro (plain | _ | _ | _) ⟨s', signs, body, given', form⟩
      cases given.symm.trans given'
      exact plain ⟨signs, body, form⟩
    · intro plain
      exact .malformed fun ⟨signs, body, form⟩ => plain ⟨s, signs, body, given, form⟩
  next other =>
    refine iff_of_true rfl ?_
    rintro ⟨s, signs, body, given, -⟩
    exact other s given

end Claims

/-- A subject names the account `n` if and only if it is a text that shows the integer `n`: at most
one minus sign, and one or more decimal digits of any scripts behind it. Any other subject is
refused: for its form if it is no text of digit signs behind minus signs, and otherwise because it
is no numeral, or one with too many digits. -/
theorem subject_names_what_it_shows (claims : Json.Members) :
    (∀ n, subjectOf claims = .ok n ↔
      ∃ s, claims.get? "sub" = some (.str s) ∧ ShowsInteger s.toList n) ∧
    (subjectOf claims = .error .malformed ↔
      ¬∃ s signs body, claims.get? "sub" = some (.str s) ∧ Signed s.toList signs body) ∧
    (∀ t, subjectOf claims = .error (.noNumeral t) ↔
      ∃ s, claims.get? "sub" = some (.str s) ∧ s.toList = t ∧ Unreadable t) ∧
    (∀ count, subjectOf claims = .error (.tooLong count) ↔
      ∃ s, claims.get? "sub" = some (.str s) ∧ Overlong s.toList count) ∧
    ((¬∃ s n, claims.get? "sub" = some (.str s) ∧ ShowsInteger s.toList n) →
      (¬∃ s count, claims.get? "sub" = some (.str s) ∧ Overlong s.toList count) →
      subjectOf claims = .error .malformed ∨ ∃ t, subjectOf claims = .error (.noNumeral t)) := by
  have ok : ∀ n, subjectOf claims = .ok n ↔
      ∃ s, claims.get? "sub" = some (.str s) ∧ ShowsInteger s.toList n := by
    refine fun n => (subjectOf_eq_iff (by simp)).trans ?_
    exact exists_congr fun s => and_congr_right fun _ => ⟨fun | .integer shows => shows, .integer⟩
  have tooLong : ∀ count, subjectOf claims = .error (.tooLong count) ↔
      ∃ s, claims.get? "sub" = some (.str s) ∧ Overlong s.toList count := by
    refine fun count => (subjectOf_eq_iff (by simp)).trans ?_
    exact exists_congr fun s => and_congr_right fun _ => ⟨fun | .tooLong long => long, .tooLong⟩
  refine ⟨ok, subjectOf_eq_malformed_iff, fun t => ?_, tooLong, fun unshown short => ?_⟩
  · refine (subjectOf_eq_iff (by simp)).trans (exists_congr fun s => and_congr_right fun _ => ?_)
    constructor
    · rintro (_ | _ | _ | unreadable)
      exact ⟨rfl, unreadable⟩
    · rintro ⟨rfl, unreadable⟩
      exact .noNumeral unreadable
  · cases answer : subjectOf claims with
    | ok n =>
      obtain ⟨s, given, shows⟩ := (ok n).mp answer
      exact absurd ⟨s, n, given, shows⟩ unshown
    | error fault =>
      cases fault with
      | malformed => exact .inl rfl
      | noNumeral t => exact .inr ⟨t, rfl⟩
      | tooLong count =>
        obtain ⟨s, given, long⟩ := (tooLong count).mp answer
        exact absurd ⟨s, count, given, long⟩ short

/-- A subject in Arabic and European digits. -/
def mixedDigits : Json.Members :=
  [("sub", .str "-١٢3")]

/-- A subject with a superscript, which is a sign of a digit. -/
def raisedDigit : Json.Members :=
  [("sub", .str "1²")]

/-- The digits of two scripts make one number, and the superscript makes none. -/
theorem mixed_digits_name_account :
    subjectOf mixedDigits = .ok (-123) ∧
    (¬∃ s n, raisedDigit.get? "sub" = some (.str s) ∧ ShowsInteger s.toList n) ∧
    (¬∃ s count, raisedDigit.get? "sub" = some (.str s) ∧ Overlong s.toList count) ∧
    (subjectOf raisedDigit = .error .malformed ∨
      ∃ t, subjectOf raisedDigit = .error (.noNumeral t)) := by
  obtain ⟨shown, -⟩ := subject_names_what_it_shows mixedDigits
  obtain ⟨other, -, -, long, refused⟩ := subject_names_what_it_shows raisedDigit
  have spells : Spells ['١', '٢', '3'] 123 :=
    spells_iff.mpr ⟨List.cons_ne_nil _ _, [1, 2, 3], by decide, rfl⟩
  have read : subjectOf raisedDigit = .error (.noNumeral ['1', '²']) := by decide
  have unshown : ¬∃ s n, raisedDigit.get? "sub" = some (.str s) ∧ ShowsInteger s.toList n := by
    rintro ⟨s, n, given, shows⟩
    cases read.symm.trans ((other n).mpr ⟨s, given, shows⟩)
  have short : ¬∃ s count, raisedDigit.get? "sub" = some (.str s) ∧ Overlong s.toList count := by
    rintro ⟨s, count, given, overlong⟩
    cases read.symm.trans ((long count).mpr ⟨s, given, overlong⟩)
  exact ⟨(shown (-123)).mpr ⟨_, rfl, .negative (by decide) spells⟩, unshown, short,
    refused unshown short⟩

end Tenancy
