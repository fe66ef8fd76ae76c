import Mathlib.Data.List.Infix
import Tenancy.Access.Pattern
import Tenancy.Proofs.Founding

/-!
# What a match begins with

Many expressions begin with plain characters. A text that such an expression matches begins with
them as well, so two patterns whose openings differ never match the same path.

* `opening_prefix_of_match`: what an expression matches begins with its opening, whatever comes
  behind the opening.
* `opening_prefix_of_matchesPath`: so does every path that a pattern matches.
* `menu_eq_of_matches`: of the routes of the catalogue, those that match one path belong to one
  menu.
-/

namespace Tenancy.Access

/-! ## Expressions -/

namespace Expression

/-- The plain characters that an expression begins with; places in the text do not count. -/
def opening : Expression → List Char
  | .seq (.char c) rest => c :: rest.opening
  | .seq (.anchor _) rest => rest.opening
  | _ => []

/-- Without a place to begin at there is no match. -/
theorem ends_nil (e : Expression) : e.ends [] = [] := by
  induction e with
  | seq first second ihFirst ihSecond =>
    show second.ends (first.ends []) = []
    rw [ihFirst, ihSecond]
  | repeated body least most greed ih =>
    have idle : ∀ n, turns body.ends n [] = [] := by
      intro n
      cases n with
      | zero => rfl
      | succ n => simp [turns, ih]
    show repeatedTurns body.ends least most greed [] = []
    cases greed <;> simp [repeatedTurns, idle, distinct]
  | _ => rfl

/-- A match has to start at one of the places that it is given. -/
theorem exists_place_of_ends {e : Expression} {places : List Cursor} {q : Cursor}
    (reached : q ∈ e.ends places) : ∃ p, p ∈ places := by
  cases places with
  | nil =>
    rw [ends_nil] at reached
    cases reached
  | cons p _ => exact ⟨p, List.mem_cons_self⟩

theorem rest_of_one {holds : Char → Bool} {p q : Cursor} (passed : q ∈ p.one holds) :
    ∃ c, holds c = true ∧ p.rest = c :: q.rest := by
  unfold Cursor.one at passed
  split at passed
  · cases passed
  · next c rest text =>
    split at passed
    · next held =>
      rw [List.mem_singleton] at passed
      subst passed
      exact ⟨c, held, text⟩
    · cases passed

/-- What an expression matches begins with the opening of the expression. -/
theorem opening_prefix_of_match (e : Expression) {places : List Cursor} {q : Cursor}
    (reached : q ∈ e.ends places) : ∃ p ∈ places, e.opening <+: p.rest := by
  -- only the two shapes that add to the opening have to be looked into
  fun_induction opening e generalizing places q with
  | case1 c rest ih =>
    have onward : q ∈ rest.ends (places.flatMap fun s => s.one (· == c)) := reached
    obtain ⟨middle, stepped, begins⟩ := ih onward
    obtain ⟨p, listed, passed⟩ := List.mem_flatMap.mp stepped
    obtain ⟨d, same, text⟩ := rest_of_one passed
    rw [eq_of_beq same] at text
    refine ⟨p, listed, ?_⟩
    rw [text]
    exact List.cons_prefix_cons.mpr ⟨rfl, begins⟩
  | case2 kind rest ih =>
    have onward : q ∈ rest.ends (places.filter kind.holds) := reached
    obtain ⟨p, kept, begins⟩ := ih onward
    exact ⟨p, (List.mem_filter.mp kept).1, begins⟩
  | case3 e _ _ =>
    obtain ⟨p, listed⟩ := exists_place_of_ends reached
    exact ⟨p, listed, List.nil_prefix⟩

theorem opening_prefix_of_matchesFront {e : Expression} {text : List Char}
    (found : e.matchesFront text = true) : e.opening <+: text := by
  rw [matchesFront, Bool.not_eq_true', List.isEmpty_eq_false_iff_exists_mem] at found
  obtain ⟨q, reached⟩ := found
  obtain ⟨p, listed, begins⟩ := opening_prefix_of_match e reached
  rw [List.mem_singleton] at listed
  rw [listed] at begins
  exact begins

end Expression

/-! ## Patterns -/

namespace Pattern

/-- The plain characters that a pattern begins with; none if it is no expression. -/
def opening (pattern : String) : List Char :=
  match Expression.parse (expressionText pattern) with
  | .ok e => e.opening
  | .error _ => []

/-- The opening of a pattern reaches to its first name. -/
example : opening "/api/accounts/:id" = "/api/accounts/".toList := by decide +kernel

theorem opening_prefix_of_matchesPath {pattern path : String}
    (found : matchesPath pattern path = .ok true) : opening pattern <+: path.toList := by
  obtain ⟨e, parsed, result⟩ := bind_eq_ok.mp found
  have front : e.matchesFront path.toList = true := Except.ok.inj result
  rw [opening, parsed]
  exact Expression.opening_prefix_of_matchesFront front

end Pattern

end Tenancy.Access

namespace Tenancy

/-- Routes of different menus of the catalogue begin differently. -/
theorem openings_differ : ∀ r ∈ foundedRoutes, ∀ r' ∈ foundedRoutes, r.menuId ≠ r'.menuId →
    ¬Access.Pattern.opening r.name <+: Access.Pattern.opening r'.name := by
  decide +kernel

/-- Routes of the catalogue that match the same path belong to the same menu, whatever their
methods are. -/
theorem menu_eq_of_matches {r r' : Route} (listed : r ∈ foundedRoutes)
    (listed' : r' ∈ foundedRoutes) {path : String}
    (found : Access.Pattern.matchesPath r.name path = .ok true)
    (found' : Access.Pattern.matchesPath r'.name path = .ok true) : r.menuId = r'.menuId := by
  by_contra apart
  -- both openings begin the path, so one of them begins the other
  rcases List.prefix_or_prefix_of_prefix (Access.Pattern.opening_prefix_of_matchesPath found)
    (Access.Pattern.opening_prefix_of_matchesPath found') with before | before
  · exact openings_differ r listed r' listed' apart before
  · exact openings_differ r' listed' r listed (Ne.symm apart) before

end Tenancy
