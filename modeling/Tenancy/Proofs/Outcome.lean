import Mathlib.Data.List.Nodup
import Tenancy.State.Basic

/-!
# Taking a success apart

An operation is a chain of statements and succeeds only if each of them does. Every lemma here
says what the success of one kind of statement establishes, so that an operation has to be opened
only once.
-/

namespace Tenancy

section Except

variable {ε α β : Type}

instance decidableEqExcept [DecidableEq ε] [DecidableEq α] : DecidableEq (Except ε α)
  | .ok a, .ok b => decidable_of_iff (a = b) (by simp)
  | .error e, .error f => decidable_of_iff (e = f) (by simp)
  | .ok _, .error _ | .error _, .ok _ => isFalse nofun

@[simp] theorem ok_bind {a : α} {next : α → Except ε β} : (.ok a : Except ε α) >>= next = next a :=
  rfl

@[simp] theorem error_bind {e : ε} {next : α → Except ε β} :
    (.error e : Except ε α) >>= next = .error e :=
  rfl

theorem bind_eq_ok {x : Except ε α} {next : α → Except ε β} {b : β} :
    x >>= next = .ok b ↔ ∃ a, x = .ok a ∧ next a = .ok b := by
  cases x with
  | error e => simp
  | ok a => simp

theorem bind_eq_error {x : Except ε α} {next : α → Except ε β} {e : ε} :
    x >>= next = .error e ↔ x = .error e ∨ ∃ a, x = .ok a ∧ next a = .error e := by
  cases x with
  | error e => simp
  | ok a => simp

theorem pure_eq_ok {a b : α} : (pure a : Except ε α) = .ok b ↔ a = b := by
  simp [pure, Except.pure]

theorem map_eq_ok {x : Except ε α} {f : α → β} {b : β} :
    x.map f = .ok b ↔ ∃ a, x = .ok a ∧ f a = b := by
  cases x with
  | error e => simp [Except.map]
  | ok a => simp [Except.map]

theorem mapError_eq_ok {ζ : Type} {x : Except ε α} {f : ε → ζ} {a : α} :
    x.mapError f = .ok a ↔ x = .ok a := by
  cases x with
  | error e => simp [Except.mapError]
  | ok b => simp [Except.mapError]

theorem exists_of_isOk {x : Except ε α} (succeeds : x.isOk = true) : ∃ a, x = .ok a := by
  cases x with
  | error e => cases succeeds
  | ok a => exact ⟨a, rfl⟩

theorem eq_ok_of_toOption {x : Except ε α} {a : α} (known : x.toOption = some a) : x = .ok a := by
  cases x with
  | error e => cases known
  | ok b => exact congrArg _ (Option.some.inj known)

theorem exists_of_isOk_eq_false {x : Except ε α} (fails : x.isOk = false) :
    ∃ e, x = .error e := by
  cases x with
  | error e => exact ⟨e, rfl⟩
  | ok a => cases fails

theorem conflictAs_eq_ok {taken : Fault} {x : Except Fault α} {a : α} :
    conflictAs taken x = .ok a ↔ x = .ok a := by
  cases x with
  | error f => cases f <;> simp [conflictAs]
  | ok b => simp [conflictAs]

end Except

namespace Database

variable {α : Type}

theorem checkWidth_eq_ok {l : List Int} {u : Unit} :
    checkWidth l = .ok u ↔ ∀ n ∈ l, fits64 n = true := by
  simp [checkWidth]

theorem checkWidth_eq_error {l : List Int} {f : Fault} :
    checkWidth l = .error f ↔ f = .integerTooLarge ∧ ∃ n ∈ l, fits64 n = false := by
  by_cases fit : l.all fits64 = true
  · simp only [checkWidth, if_pos fit, reduceCtorEq, false_iff]
    rintro ⟨-, n, listed, wide⟩
    rw [List.all_eq_true] at fit
    rw [fit n listed] at wide
    cases wide
  · simp only [checkWidth, if_neg fit, Except.error.injEq]
    have wide : ∃ n ∈ l, fits64 n = false := by
      simpa using fit
    simp only [wide, and_true]
    exact eq_comm

theorem required_eq_ok {o : Option α} {a : α} : required o = .ok a ↔ o = some a := by
  cases o <;> simp [required]

theorem require_eq_ok {condition : Bool} {u : Unit} :
    require condition = .ok u ↔ condition = true := by
  simp [require]

theorem lookup_eq_ok {idOf : α → Int} {absent : Fault} {rows : List α} {id : Int} {row : α} :
    lookup idOf absent rows id = .ok row ↔
      fits64 id = true ∧ rows.find? (idOf · = id) = some row := by
  simp only [lookup, bind_eq_ok, checkWidth_eq_ok, List.mem_singleton, forall_eq]
  cases rows.find? (idOf · = id) <;> simp [pure_eq_ok]

/-- A row that is found is in the table and has the id that was looked for. -/
theorem mem_of_lookup {idOf : α → Int} {absent : Fault} {rows : List α} {id : Int} {row : α}
    (found : lookup idOf absent rows id = .ok row) : row ∈ rows ∧ idOf row = id := by
  have first := (lookup_eq_ok.mp found).2
  exact ⟨List.mem_of_find?_eq_some first, by simpa using List.find?_some first⟩

/-- The id of a row that is found fits. -/
theorem fits_of_lookup {idOf : α → Int} {absent : Fault} {rows : List α} {id : Int} {row : α}
    (found : lookup idOf absent rows id = .ok row) : fits64 (idOf row) = true := by
  rw [(mem_of_lookup found).2]
  exact (lookup_eq_ok.mp found).1

/-- With distinct ids, the only row that can be found under its id is the row itself. -/
theorem eq_of_lookup {idOf : α → Int} {absent : Fault} {rows : List α} {row other : α}
    (distinct : (rows.map idOf).Nodup) (present : row ∈ rows)
    (found : lookup idOf absent rows (idOf row) = .ok other) : other = row := by
  obtain ⟨otherPresent, same⟩ := mem_of_lookup found
  exact List.inj_on_of_nodup_map distinct otherPresent present same

/-- With distinct values, the first row with the value of a row is the row itself. -/
theorem find?_eq_some_of_mem {β : Type} [DecidableEq β] {f : α → β} {rows : List α} {row : α}
    (distinct : (rows.map f).Nodup) (present : row ∈ rows) :
    rows.find? (f · = f row) = some row := by
  have any : (rows.find? (f · = f row)).isSome = true :=
    List.find?_isSome.mpr ⟨row, present, by simp⟩
  obtain ⟨found, here⟩ := Option.isSome_iff_exists.mp any
  have same : f found = f row := by simpa using List.find?_some here
  rw [here, List.inj_on_of_nodup_map distinct (List.mem_of_find?_eq_some here) present same]

/-- With distinct ids, a row is found under its id, as long as this fits into the database. -/
theorem lookup_of_mem {idOf : α → Int} {absent : Fault} {rows : List α} {row : α}
    (distinct : (rows.map idOf).Nodup) (present : row ∈ rows) :
    lookup idOf absent rows (idOf row) =
      if fits64 (idOf row) then .ok row else .error .integerTooLarge := by
  rw [lookup, find?_eq_some_of_mem distinct present]
  cases fits : fits64 (idOf row) with
  | false => simp [checkWidth, fits]
  | true => simp [checkWidth, fits, pure, Except.pure]

/-- What is found under the id of a row depends on nothing but this row. -/
theorem lookup_congr {idOf : α → Int} {absent : Fault} {rows others : List α} {row : α}
    (distinct : (rows.map idOf).Nodup) (present : row ∈ rows)
    (otherDistinct : (others.map idOf).Nodup) (otherPresent : row ∈ others) :
    lookup idOf absent rows (idOf row) = lookup idOf absent others (idOf row) := by
  rw [lookup_of_mem distinct present, lookup_of_mem otherDistinct otherPresent]

end Database

namespace Journal

variable {α β γ : Type}

theorem done_bind {a : α} {next : α → Journal β} : done a >>= next = next a :=
  rfl

theorem outcome_bind_eq_ok {x : Journal α} {next : α → Journal β} {b : β} :
    (x >>= next).outcome = .ok b ↔ ∃ a, x.outcome = .ok a ∧ (next a).outcome = .ok b := by
  rw [outcome_bind, bind_eq_ok]

theorem bind_congr {x y : Journal α} {next other : α → Journal β} (same : x = y)
    (agree : ∀ a, x.outcome = .ok a → next a = other a) : x >>= next = y >>= other := by
  subst same
  show andThen x next = andThen x other
  unfold andThen
  cases done : x.outcome with
  | error f => rfl
  | ok a => simp only [agree a done]

/-- What is read may differ as long as it does not matter afterwards. -/
theorem read_bind_congr {a : α} {b : γ} {tables : List TableName} {next : α → Journal β}
    {other : γ → Journal β} (agree : next a = other b) :
    read tables a >>= next = read tables b >>= other := by
  show andThen (read tables a) next = andThen (read tables b) other
  simp only [andThen, read, query, agree]

theorem outcome_pure_eq_ok {a b : α} : (pure a : Journal α).outcome = .ok b ↔ a = b := by
  simp

end Journal

end Tenancy
