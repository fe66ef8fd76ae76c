import Tenancy.Organization.Guard
import Tenancy.Proofs.Ancestry
import Tenancy.Proofs.Outcome

/-!
# What the guard lets pass

When a check of the guard passes, and what that says about an account whose home climbs to a
first-level organization: its scopes are those of its home, by a first-level check it acts on
organizations that climb to the same one and is denied the other ones, and it makes organizations
at its home or below.
-/

namespace Tenancy.Hierarchy

variable {h : Hierarchy} {caller : Caller} {target x a : Int} {limit : LimitType}

theorem scopeOf_eq_ok {scope : List Int} :
    (h.scopeOf caller limit).outcome = .ok scope ↔
      h.resolveScope caller.home (isSuperAdmin caller.id) limit = .ok scope := by
  unfold scopeOf
  cases h.resolveScope caller.home (isSuperAdmin caller.id) limit with
  | ok other => simp [Journal.done]
  | error fault => cases fault <;> simp [Journal.fail]

/-- The limit that a check looks its scope up with. -/
def checkedLimit (limit : LimitType) : LimitType :=
  if limit = .root then .firstLevel else limit

theorem checkScope_eq_ok {u : Unit} :
    (h.checkScope caller target limit).outcome = .ok u ↔
      (caller.home = rootOrganizationId ∧ limit = .firstLevel) ∨
      (limit = .subOrganizationIncludeSelf ∧ target = caller.home) ∨
      ∃ scope, h.resolveScope caller.home (isSuperAdmin caller.id) (checkedLimit limit) =
        .ok scope ∧ target ∈ scope := by
  unfold checkScope
  by_cases atRoot : caller.home = rootOrganizationId ∧ limit = .firstLevel
  · simp [atRoot, Journal.done]
  by_cases atHome : limit = .subOrganizationIncludeSelf ∧ target = caller.home
  · simp [atHome, Journal.done]
  simp only [atRoot, atHome, ↓reduceIte, false_or, Journal.outcome_bind_eq_ok, scopeOf_eq_ok,
    checkedLimit]
  refine exists_congr fun scope => and_congr_right fun _ => ?_
  by_cases inside : target ∈ scope
  · simp [inside, Journal.done]
  · simp [inside]

/-- A check that passes leaves nothing in the history. -/
theorem checkScope_eq_done {u : Unit}
    (passed : (h.checkScope caller target limit).outcome = .ok u) :
    h.checkScope caller target limit = .done () := by
  rw [checkScope_eq_ok] at passed
  unfold checkScope
  split
  · rfl
  split
  · rfl
  · next notRoot notHome =>
    rcases passed with root | atHome | ⟨scope, found, inside⟩
    · exact absurd root notRoot
    · exact absurd atHome notHome
    · unfold checkedLimit at found
      have resolved : h.scopeOf caller (if limit = .root then .firstLevel else limit) =
          .done scope := by
        simp only [scopeOf, found]
      simp only [resolved]
      rw [Journal.done_bind, if_pos inside]

theorem checkParent_eq_ok {parent : Int} {u : Unit} :
    (h.checkParent caller parent).outcome = .ok u ↔
      isSuperAdmin caller.id = true ∨
      (h.checkScope caller parent .subOrganizationIncludeSelf).outcome = .ok () := by
  unfold checkParent
  split
  · next admin => simp [admin, Journal.done]
  · next member => simp [member]

theorem listingScope_of_superAdmin (admin : isSuperAdmin caller.id = true) :
    (h.listingScope caller).outcome = .ok ([], h.ids) := by
  rw [listingScope, if_pos admin]
  rfl

/-! ## Scopes, by where the home is -/

/-- An absent home has no scope below it. -/
theorem resolveScope_of_absent (inner : x ≠ rootOrganizationId)
    (absent : h.contains x = false) :
    h.resolveScope x false .firstLevel = .ok [] ∧
      h.resolveScope x false .subOrganizationIncludeSelf = .ok [] := by
  simp [resolveScope, inner, absent]

section Known

variable (inner : x ≠ rootOrganizationId) (known : x ∈ h.ids)
include inner known

theorem resolveScope_firstLevel_of_mem :
    h.resolveScope x false .firstLevel =
      match h.firstLevelAncestor x with
      | .error reason => .error (.unresolved reason)
      | .ok a => .ok (a :: h.descendants a) := by
  cases climb : h.firstLevelAncestor x <;>
    simp [resolveScope, inner, contains_iff.mpr known, climb]

theorem resolveScope_below_of_mem :
    h.resolveScope x false .subOrganization = .ok (h.descendants x) := by
  simp [resolveScope, inner, contains_iff.mpr known]

theorem resolveScope_withSelf_of_mem :
    h.resolveScope x false .subOrganizationIncludeSelf = .ok (x :: h.descendants x) := by
  simp [resolveScope, inner, contains_iff.mpr known]

end Known

section Member

variable (proper : h.Proper) (member : h.Resolves x a)
include proper member

theorem resolveScope_firstLevel :
    h.resolveScope x false .firstLevel = .ok (a :: h.descendants a) := by
  rw [resolveScope_firstLevel_of_mem (proper.ne_root member.mem_ids) member.mem_ids,
    firstLevelAncestor_eq_ok_iff.mpr member]

theorem resolveScope_subOrganization :
    h.resolveScope x false .subOrganization = .ok (h.descendants x) :=
  resolveScope_below_of_mem (proper.ne_root member.mem_ids) member.mem_ids

theorem resolveScope_subOrganizationIncludeSelf :
    h.resolveScope x false .subOrganizationIncludeSelf = .ok (x :: h.descendants x) :=
  resolveScope_withSelf_of_mem (proper.ne_root member.mem_ids) member.mem_ids

variable (ordinary : isSuperAdmin caller.id = false) (home : caller.home = x)
include ordinary home

theorem checkScope_firstLevel :
    (h.checkScope caller target .firstLevel).outcome = .ok () ↔ target ∈ a :: h.descendants a := by
  have inner := proper.ne_root member.mem_ids
  rw [checkScope_eq_ok, checkedLimit, if_neg (by decide), ordinary, home,
    resolveScope_firstLevel proper member]
  simp [inner]

theorem checkScope_subOrganizationIncludeSelf :
    (h.checkScope caller target .subOrganizationIncludeSelf).outcome = .ok () ↔
      target ∈ x :: h.descendants x := by
  rw [checkScope_eq_ok, checkedLimit, if_neg (by decide), ordinary, home,
    resolveScope_subOrganizationIncludeSelf proper member]
  simp

theorem checkScope_subOrganization :
    (h.checkScope caller target .subOrganization).outcome = .ok () ↔
      target ∈ h.descendants x := by
  rw [checkScope_eq_ok, checkedLimit, if_neg (by decide), ordinary, home,
    resolveScope_subOrganization proper member]
  simp

/-- Beyond its tenant a member is denied for being there, and for nothing else. -/
theorem checkScope_outside (outside : target ∉ a :: h.descendants a) :
    (h.checkScope caller target .firstLevel).outcome = .error .outsideScope := by
  have inner : ¬(caller.home = rootOrganizationId ∧ LimitType.firstLevel = .firstLevel) := by
    rw [home]
    exact fun root => proper.ne_root member.mem_ids root.1
  have scope : (h.scopeOf caller .firstLevel).outcome = .ok (a :: h.descendants a) := by
    rw [scopeOf_eq_ok, ordinary, home]
    exact resolveScope_firstLevel proper member
  rw [checkScope, if_neg inner, if_neg (by simp), if_neg (by decide), Journal.outcome_bind, scope]
  show (ite (target ∈ a :: h.descendants a) _ _ : Journal Unit).outcome = _
  rw [if_neg outside]
  rfl

theorem listingScope_eq_ok :
    (h.listingScope caller).outcome =
      .ok (x :: a :: h.descendants a, x :: x :: h.descendants x) := by
  simp only [listingScope, ordinary, home, Bool.false_eq_true, ↓reduceIte,
    Journal.outcome_bind_eq_ok, scopeOf_eq_ok, resolveScope_firstLevel proper member,
    resolveScope_subOrganizationIncludeSelf proper member, Except.ok.injEq, exists_eq_left',
    Journal.outcome_pure_eq_ok]

/-- By a first-level check a member acts within its tenant. -/
theorem resolves_of_checkScope {u : Unit}
    (passed : (h.checkScope caller target .firstLevel).outcome = .ok u) : h.Resolves target a := by
  rw [checkScope_firstLevel proper member ordinary home] at passed
  exact (proper.mem_firstLevel_iff member.last).mp passed

/-- A member makes organizations at its home or below. -/
theorem below_of_checkParent {u : Unit}
    (passed : (h.checkParent caller target).outcome = .ok u) :
    Relation.ReflTransGen h.Child x target := by
  rw [checkParent_eq_ok, checkScope_subOrganizationIncludeSelf proper member ordinary home,
    ordinary] at passed
  rcases passed with admin | within
  · cases admin
  · exact mem_cons_descendants_iff.mp within

end Member

end Tenancy.Hierarchy
