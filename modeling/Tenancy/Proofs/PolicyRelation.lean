import Tenancy.Access.Policy
import Tenancy.Proofs.Outcome

/-!
# The access policy as a relation

What a policy holds, without the order in which it came.

* The rules and the assignments that grants, assignments and a rebuilding from rows lead to:
  `mem_rules_grant`, `mem_assignments_assign`, `mem_rules_policy`, `mem_assignments_policy`.
* As long as the patterns of the roles that an account has are expressions, a request is decided,
  and it is allowed if and only if one of these roles has a permission that fits (`allows_iff`). So
  the answer does not depend on the order of the rules, nor on those of any other roles
  (`allows_congr_of_held`).
-/

namespace Tenancy.Access

/-! ## What a policy holds -/

namespace Policy

variable {p q : Policy} {role account : Int} {path method : String}

theorem mem_addOnce {α : Type} [DecidableEq α] {l : List α} {a b : α} :
    b ∈ addOnce l a ↔ b ∈ l ∨ b = a := by
  unfold addOnce
  split
  · next present =>
    constructor
    · exact .inl
    · rintro (old | rfl)
      · exact old
      · exact present
  · simp

theorem mem_foldl_addOnce {α : Type} [DecidableEq α] {l start : List α} {b : α} :
    b ∈ l.foldl addOnce start ↔ b ∈ start ∨ b ∈ l := by
  induction l generalizing start with
  | nil => simp
  | cons a rest ih => rw [List.foldl_cons, ih, mem_addOnce, List.mem_cons, or_assoc]

theorem mem_permissionsOf {routes : List (String × String)} {permission : Permission} :
    permission ∈ permissionsOf routes ↔
      ∃ pattern method, (pattern, method) ∈ routes ∧
        permission = ⟨pattern, upperMethod method⟩ := by
  simp only [permissionsOf, mem_distinct, List.mem_map, Prod.exists]
  constructor
  · rintro ⟨pattern, method, listed, rfl⟩
    exact ⟨pattern, method, listed, rfl⟩
  · rintro ⟨pattern, method, listed, rfl⟩
    exact ⟨pattern, method, listed, rfl⟩

theorem mem_rules_grant {routes : List (String × String)} {rule : Rule} :
    rule ∈ (p.grant role routes).rules ↔
      rule ∈ p.rules ∨ rule.role = role ∧ rule.permission ∈ permissionsOf routes := by
  rw [grant, mem_foldl_addOnce, List.mem_map]
  refine or_congr_right ⟨?_, ?_⟩
  · rintro ⟨permission, listed, rfl⟩
    exact ⟨rfl, listed⟩
  · rintro ⟨rfl, listed⟩
    exact ⟨rule.permission, listed, rfl⟩

theorem assignments_grant (p : Policy) (role : Int) (routes : List (String × String)) :
    (p.grant role routes).assignments = p.assignments := rfl

theorem rules_assign (p : Policy) (account role : Int) :
    (p.assign account role).rules = p.rules := rfl

theorem mem_assignments_assign {pair : Int × Int} :
    pair ∈ (p.assign account role).assignments ↔
      pair ∈ p.assignments ∨ pair = (account, role) := by
  rw [assign, mem_addOnce]

theorem mem_permissions {permission : Permission} :
    permission ∈ p.permissions role ↔ ⟨role, permission⟩ ∈ p.rules := by
  simp only [permissions, List.mem_map, List.mem_filter, decide_eq_true_iff]
  constructor
  · rintro ⟨rule, ⟨listed, rfl⟩, rfl⟩
    exact listed
  · intro listed
    exact ⟨⟨role, permission⟩, ⟨listed, rfl⟩, rfl⟩

end Policy

namespace PolicyRows

variable (rows : PolicyRows)

/-- The role has a menu that a route with this permission belongs to. -/
def Grants (role : Int) (permission : Permission) : Prop :=
  ∃ menu pattern method, (role, menu) ∈ rows.roleMenus ∧ (pattern, method, menu) ∈ rows.routes ∧
    permission = ⟨pattern, upperMethod method⟩

variable {rows}

theorem mem_routesOf {role : Int} {pattern method : String} :
    (pattern, method) ∈ rows.routesOf role ↔
      ∃ menu, (role, menu) ∈ rows.roleMenus ∧ (pattern, method, menu) ∈ rows.routes := by
  simp only [routesOf, List.mem_flatMap, List.mem_filter, List.mem_filterMap, decide_eq_true_iff,
    Option.ite_none_right_eq_some, Option.some.injEq, Prod.mk.injEq, Prod.exists]
  constructor
  · rintro ⟨_, _, ⟨has, rfl⟩, _, _, menu, listed, rfl, rfl, rfl⟩
    exact ⟨menu, has, listed⟩
  · rintro ⟨menu, has, listed⟩
    exact ⟨role, menu, ⟨has, rfl⟩, pattern, method, menu, listed, rfl, rfl, rfl⟩

theorem mem_members {account role : Int} :
    (account, role) ∈ rows.members ↔
      account ≠ superAdminId ∧ (some account, role) ∈ rows.accounts := by
  simp only [members, List.mem_filterMap, Prod.exists, Option.ite_none_left_eq_some,
    Option.map_eq_some_iff, Prod.mk.injEq]
  constructor
  · rintro ⟨_, _, listed, ordinary, _, rfl, rfl, rfl⟩
    exact ⟨fun admin => ordinary (isSuperAdmin_iff.mpr admin), listed⟩
  · rintro ⟨ordinary, listed⟩
    have member : ¬isSuperAdmin (some account) = true :=
      fun admin => ordinary (isSuperAdmin_iff.mp admin)
    exact ⟨some account, role, listed, member, account, rfl, rfl, rfl⟩

theorem rules_foldl_assign (members : List (Int × Int)) (p : Policy) :
    (members.foldl (fun p (account, role) => p.assign account role) p).rules = p.rules := by
  induction members generalizing p with
  | nil => rfl
  | cons pair rest ih => rw [List.foldl_cons, ih, Policy.rules_assign]

theorem mem_assignments_foldl_assign {members : List (Int × Int)} {p : Policy} {pair : Int × Int} :
    pair ∈ (members.foldl (fun p (account, role) => p.assign account role) p).assignments ↔
      pair ∈ p.assignments ∨ pair ∈ members := by
  induction members generalizing p with
  | nil => simp
  | cons first rest ih =>
    rw [List.foldl_cons, ih, Policy.mem_assignments_assign, List.mem_cons, or_assoc]

theorem mem_rules_foldl_grant {roles : List Int} {routesOf : Int → List (String × String)}
    {p : Policy} {rule : Rule} :
    rule ∈ (roles.foldl (fun p role => p.grant role (routesOf role)) p).rules ↔
      rule ∈ p.rules ∨
        rule.role ∈ roles ∧ rule.permission ∈ permissionsOf (routesOf rule.role) := by
  induction roles generalizing p with
  | nil => simp
  | cons role rest ih =>
    rw [List.foldl_cons, ih, Policy.mem_rules_grant, or_assoc, List.mem_cons, or_and_right]
    refine or_congr_right (or_congr_left (and_congr_right fun same => ?_))
    rw [same]

theorem assignments_foldl_grant (roles : List Int) (routesOf : Int → List (String × String))
    (p : Policy) :
    (roles.foldl (fun p role => p.grant role (routesOf role)) p).assignments = p.assignments := by
  induction roles generalizing p with
  | nil => rfl
  | cons role rest ih => rw [List.foldl_cons, ih, Policy.assignments_grant]

/-- A policy that is built from rows holds what the rows grant. -/
theorem mem_rules_policy {rule : Rule} :
    rule ∈ rows.policy.rules ↔ rows.Grants rule.role rule.permission := by
  rw [policy, rules_foldl_assign, mem_rules_foldl_grant, Policy.mem_permissionsOf]
  simp only [mem_routesOf, roles, mem_distinct, List.mem_map, Prod.exists, exists_and_right,
    exists_eq_right]
  constructor
  · rintro (none | ⟨-, pattern, method, ⟨menu, has, listed⟩, same⟩)
    · cases none
    · exact ⟨menu, pattern, method, has, listed, same⟩
  · rintro ⟨menu, pattern, method, has, listed, same⟩
    exact .inr ⟨⟨menu, has⟩, pattern, method, ⟨menu, has, listed⟩, same⟩

theorem mem_assignments_policy {pair : Int × Int} :
    pair ∈ rows.policy.assignments ↔ pair ∈ rows.members := by
  rw [policy, mem_assignments_foldl_assign, assignments_foldl_grant]
  simp

end PolicyRows

/-! ## What a policy decides -/

/-- The pattern is an expression. -/
def Compiles (pattern : String) : Prop :=
  (Expression.parse (Pattern.expressionText pattern)).isOk = true

theorem Compiles.matchesPath {pattern : String} (compiles : Compiles pattern) (path : String) :
    ∃ found, Pattern.matchesPath pattern path = .ok found := by
  obtain ⟨expression, parsed⟩ := exists_of_isOk compiles
  exact ⟨expression.matchesFront path.toList, by simp [Pattern.matchesPath, parsed]⟩

/-- The permission fits a request. -/
def Permission.Fits (permission : Permission) (path method : String) : Prop :=
  Pattern.matchesPath permission.pattern path = .ok true ∧ method = permission.method

namespace Policy

variable {p q : Policy} {account : Int} {path method : String}

theorem verdict_cons {holds : Int → Bool} {rule : Rule} {rest : List Rule} {found : Bool}
    (holding : holds rule.role = true)
    (tried : Pattern.matchesPath rule.permission.pattern path = .ok found) :
    verdict holds path method (rule :: rest) =
      if found && method == rule.permission.method then .ok true
      else verdict holds path method rest := by
  simp only [verdict, holding, tried, ↓reduceIte]
  rfl

/-- Whatever else is among the rules, it is one that holds and fits that allows a request. -/
theorem exists_of_verdict {holds : Int → Bool} {rules : List Rule}
    (allowed : verdict holds path method rules = .ok true) :
    ∃ rule ∈ rules, holds rule.role = true ∧ rule.permission.Fits path method := by
  induction rules with
  | nil => cases allowed
  | cons rule rest ih =>
    have later : verdict holds path method rest = .ok true →
        ∃ r ∈ rule :: rest, holds r.role = true ∧ r.permission.Fits path method := by
      intro others
      obtain ⟨r, listed, fits⟩ := ih others
      exact ⟨r, List.mem_cons_of_mem _ listed, fits⟩
    unfold verdict at allowed
    split at allowed
    · next holding =>
      obtain ⟨found, tried, allowed⟩ := bind_eq_ok.mp allowed
      split at allowed
      · next fits =>
        obtain ⟨rfl, same⟩ := Bool.and_eq_true_iff.mp fits
        exact ⟨rule, List.mem_cons_self, holding, tried, eq_of_beq same⟩
      · exact later allowed
    · exact later allowed

theorem exists_of_allows (allowed : p.allows account path method = .ok true) :
    account = superAdminId ∨ ∃ rule ∈ p.rules, p.hasRole account rule.role = true ∧
      rule.permission.Fits path (upperMethod method) := by
  unfold allows at allowed
  split at allowed
  · next admin => exact .inl (isSuperAdmin_iff.mp admin)
  · exact .inr (exists_of_verdict allowed)

/-- If the patterns that are looked at are expressions, some rule that holds and fits decides, and
no rule fails. -/
theorem verdict_of_compiles {holds : Int → Bool} {rules : List Rule} (path method : String)
    (compiles : ∀ rule ∈ rules, holds rule.role = true → Compiles rule.permission.pattern) :
    ∃ allowed, verdict holds path method rules = .ok allowed ∧
      (allowed = true ↔
        ∃ rule ∈ rules, holds rule.role = true ∧ rule.permission.Fits path method) := by
  induction rules with
  | nil => exact ⟨false, rfl, by simp⟩
  | cons rule rest ih =>
    obtain ⟨later, decided, iff⟩ := ih fun r listed => compiles r (List.mem_cons_of_mem _ listed)
    -- only a rule that holds is tried, so only its pattern has to be an expression
    by_cases holding : holds rule.role = true
    · obtain ⟨found, tried⟩ := (compiles rule List.mem_cons_self holding).matchesPath path
      by_cases fits : found = true ∧ method = rule.permission.method
      · obtain ⟨rfl, same⟩ := fits
        refine ⟨true, by rw [verdict_cons holding tried]; simp [same], ?_⟩
        simp only [true_iff]
        exact ⟨rule, List.mem_cons_self, holding, tried, same⟩
      · have skipped : (found && method == rule.permission.method) = false := by
          simpa using fits
        refine ⟨later, by rw [verdict_cons holding tried, skipped]; exact decided, ?_⟩
        rw [iff]
        constructor
        · rintro ⟨r, listed, rest⟩
          exact ⟨r, List.mem_cons_of_mem _ listed, rest⟩
        · rintro ⟨r, listed, held, matched, same⟩
          rcases List.mem_cons.mp listed with rfl | listed
          · rw [tried, Except.ok.injEq] at matched
            exact absurd ⟨matched, same⟩ fits
          · exact ⟨r, listed, held, matched, same⟩
    · refine ⟨later, by simp [verdict, holding, decided], ?_⟩
      rw [iff]
      simp [holding]

/-- Every pattern of a role that the account has is an expression. -/
def CompilesFor (p : Policy) (account : Int) : Prop :=
  ∀ rule ∈ p.rules, p.hasRole account rule.role = true → Compiles rule.permission.pattern

/-- A request is decided, and it is allowed to an ordinary account if and only if one of its roles
has a permission that fits. -/
theorem allows_iff (path method : String) (compiles : p.CompilesFor account) :
    ∃ allowed, p.allows account path method = .ok allowed ∧
      (allowed = true ↔ account = superAdminId ∨
        ∃ rule ∈ p.rules, p.hasRole account rule.role = true ∧
          rule.permission.Fits path (upperMethod method)) := by
  unfold allows
  by_cases admin : account = superAdminId
  · exact ⟨true, if_pos (isSuperAdmin_iff.mpr admin), by simp [admin]⟩
  · obtain ⟨allowed, decided, iff⟩ :=
      verdict_of_compiles path (upperMethod method) compiles
    refine ⟨allowed, by simp [isSuperAdmin_eq_false admin, decided], ?_⟩
    rw [iff]
    simp [admin]

/-- The answer does not depend on the order of rules and assignments, nor on the rules of roles that
the account does not have. -/
theorem allows_congr_of_held (compiles : p.CompilesFor account)
    (hasRole : ∀ role, p.hasRole account role = q.hasRole account role)
    (rules : ∀ rule, p.hasRole account rule.role = true → (rule ∈ p.rules ↔ rule ∈ q.rules)) :
    p.allows account path method = q.allows account path method := by
  have others : q.CompilesFor account := by
    intro rule listed held
    rw [← hasRole] at held
    exact compiles rule ((rules rule held).mpr listed) held
  obtain ⟨allowed, decided, iff⟩ := allows_iff path method compiles
  obtain ⟨allowed', decided', iff'⟩ := allows_iff path method others
  have same : ∀ rule, (rule ∈ p.rules ∧ p.hasRole account rule.role = true ∧
      rule.permission.Fits path (upperMethod method)) ↔
      (rule ∈ q.rules ∧ q.hasRole account rule.role = true ∧
        rule.permission.Fits path (upperMethod method)) := by
    intro rule
    rw [← hasRole, and_left_comm, and_left_comm (a := rule ∈ q.rules)]
    exact and_congr_right fun held => and_congr_left fun _ => rules rule held
  simp only [← same] at iff'
  rw [decided, decided', Bool.eq_iff_iff.mpr (iff.trans iff'.symm)]

theorem allows_congr (compiles : p.CompilesFor account)
    (rules : ∀ rule, rule ∈ p.rules ↔ rule ∈ q.rules)
    (hasRole : ∀ role, p.hasRole account role = q.hasRole account role) :
    p.allows account path method = q.allows account path method :=
  allows_congr_of_held compiles hasRole fun rule _ => rules rule

end Policy

end Tenancy.Access
