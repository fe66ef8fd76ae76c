import Mathlib.Data.List.Induction
import Tenancy.Proofs.PolicyRelation
import Tenancy.Proofs.SubjectNames

/-!
# What a policy has come to hold

A policy is changed by grants, by assignments, and by loading it from rows, which replaces all that
was there. What it then holds can be said without following the changes: a change brought it, and
there was no load afterwards (`Stands`).

* `mem_rules_change`, `mem_assignments_change`: what one change does.
* `mem_rules_ofChanges`, `mem_assignments_ofChanges`: what any sequence of changes leads to, by
  induction along it.
* `decisions_refine_relation`: the decisions are a plain relation between what stands, which neither
  the order of changes nor a repetition of them affects.
-/

namespace Tenancy.Access

/-- A change of the policy. -/
inductive PolicyChange where
  | grant (role : Int) (routes : List (String × String))
  | assign (account role : Int)
  | load (rows : PolicyRows)

namespace PolicyChange

/-- Whether the change replaces all that was there. -/
def isLoad : PolicyChange → Bool
  | load _ => true
  | grant _ _ | assign _ _ => false

/-- The change gives a role a route; a load does so if one of its menus of the role has the
route. -/
def Grants (role : Int) (pattern method : String) : PolicyChange → Prop
  | grant receiver routes => receiver = role ∧ (pattern, method) ∈ routes
  | assign _ _ => False
  | load rows => ∃ menu, (role, menu) ∈ rows.roleMenus ∧ (pattern, method, menu) ∈ rows.routes

/-- The change gives an account a role. A load leaves out the super administrator. -/
def Assigns (account role : Int) : PolicyChange → Prop
  | grant _ _ => False
  | assign receiver given => receiver = account ∧ given = role
  | load rows => account ≠ superAdminId ∧ (some account, role) ∈ rows.accounts

/-- A change of some kind was made, and nothing was loaded after it. -/
def Stands (kind : PolicyChange → Prop) (changes : List PolicyChange) : Prop :=
  ∃ before change after, changes = before ++ change :: after ∧
    (∀ later ∈ after, later.isLoad = false) ∧ kind change

/-- The account has been assigned the role. -/
def Assigned (changes : List PolicyChange) (account role : Int) : Prop :=
  Stands (·.Assigns account role) changes

/-- The role has been granted the method on the paths of the pattern. -/
def Granted (changes : List PolicyChange) (role : Int) (pattern method : String) : Prop :=
  Stands (·.Grants role pattern method) changes

variable {kind : PolicyChange → Prop} {changes before after others : List PolicyChange}

theorem not_stands_nil : ¬Stands kind [] := by
  rintro ⟨before, change, after, same, -⟩
  cases before <;> cases same

/-- The last change stands, and what stood before it does unless it is a load. -/
theorem stands_append_singleton {last : PolicyChange} :
    Stands kind (changes ++ [last]) ↔ last.isLoad = false ∧ Stands kind changes ∨ kind last := by
  constructor
  · rintro ⟨before, change, after, same, quiet, meets⟩
    rcases List.eq_nil_or_concat after with rfl | ⟨front, final, rfl⟩
    · exact .inr ((List.append_singleton_inj.mp same).2 ▸ meets)
    · rw [List.concat_eq_append, ← List.cons_append, ← List.append_assoc,
        List.append_singleton_inj] at same
      obtain ⟨same, rfl⟩ := same
      simp only [List.concat_eq_append, List.mem_append, List.mem_singleton, or_imp, forall_and,
        forall_eq] at quiet
      exact .inl ⟨quiet.2, before, change, front, same, quiet.1, meets⟩
  · rintro (⟨keeps, before, change, after, rfl, quiet, meets⟩ | meets)
    · refine ⟨before, change, after ++ [last], by simp, fun later listed => ?_, meets⟩
      rcases List.mem_append.mp listed with inner | final
      · exact quiet later inner
      · exact List.mem_singleton.mp final ▸ keeps
    · exact ⟨changes, last, [], rfl, nofun, meets⟩

theorem stands_append (quiet : ∀ change ∈ after, change.isLoad = false) :
    Stands kind (before ++ after) ↔ Stands kind before ∨ ∃ change ∈ after, kind change := by
  induction after using List.reverseRecOn with
  | nil => simp
  | append_singleton front last ih =>
    simp only [List.mem_append, List.mem_singleton, or_imp, forall_and, forall_eq] at quiet
    rw [← List.append_assoc, stands_append_singleton, ih quiet.1]
    simp [quiet.2, or_and_right, exists_or, or_assoc]

/-- After the last load it does not matter in which order changes are made, or how often. -/
theorem stands_congr (quiet : ∀ change ∈ after, change.isLoad = false)
    (same : ∀ change, change ∈ others ↔ change ∈ after) :
    Stands kind (before ++ others) ↔ Stands kind (before ++ after) := by
  have otherQuiet : ∀ change ∈ others, change.isLoad = false :=
    fun change listed => quiet change ((same change).mp listed)
  rw [stands_append quiet, stands_append otherQuiet]
  simp only [same]

end PolicyChange

/-! ## What a policy holds -/

namespace Policy

variable {p : Policy} {changes : List PolicyChange} {account : Int}

/-- The policy after a change. -/
def change (p : Policy) : PolicyChange → Policy
  | .grant role routes => p.grant role routes
  | .assign account role => p.assign account role
  | .load rows => rows.policy

/-- The policy that several changes lead to from the empty one. -/
def ofChanges (changes : List PolicyChange) : Policy :=
  changes.foldl change {}

theorem ofChanges_append_singleton (last : PolicyChange) :
    ofChanges (changes ++ [last]) = (ofChanges changes).change last := by
  rw [ofChanges, List.foldl_append]
  rfl

theorem mem_rules_change {change : PolicyChange} {rule : Rule} :
    rule ∈ (p.change change).rules ↔ change.isLoad = false ∧ rule ∈ p.rules ∨
      ∃ pattern method, change.Grants rule.role pattern method ∧
        rule.permission = ⟨pattern, upperMethod method⟩ := by
  cases change with
  | grant role routes =>
    simp only [Policy.change, mem_rules_grant, mem_permissionsOf, PolicyChange.isLoad,
      PolicyChange.Grants, true_and, and_assoc, exists_and_left, eq_comm (a := role)]
  | assign account role =>
    simp [Policy.change, rules_assign, PolicyChange.isLoad, PolicyChange.Grants]
  | load rows =>
    simp only [Policy.change, PolicyRows.mem_rules_policy, PolicyRows.Grants, PolicyChange.isLoad,
      PolicyChange.Grants, Bool.true_eq_false, false_and, false_or]
    constructor
    · rintro ⟨menu, pattern, method, has, listed, same⟩
      exact ⟨pattern, method, ⟨menu, has, listed⟩, same⟩
    · rintro ⟨pattern, method, ⟨menu, has, listed⟩, same⟩
      exact ⟨menu, pattern, method, has, listed, same⟩

theorem mem_assignments_change {change : PolicyChange} {role : Int} :
    (account, role) ∈ (p.change change).assignments ↔
      change.isLoad = false ∧ (account, role) ∈ p.assignments ∨ change.Assigns account role := by
  cases change with
  | grant role routes =>
    simp [Policy.change, assignments_grant, PolicyChange.isLoad, PolicyChange.Assigns]
  | assign receiver given =>
    simp [Policy.change, mem_assignments_assign, PolicyChange.isLoad, PolicyChange.Assigns,
      eq_comm (a := receiver), eq_comm (a := given)]
  | load rows =>
    simp [Policy.change, PolicyRows.mem_assignments_policy, PolicyRows.mem_members,
      PolicyChange.isLoad, PolicyChange.Assigns]

/-- The rules are those that were granted, with their methods in upper case. -/
theorem mem_rules_ofChanges {rule : Rule} :
    rule ∈ (ofChanges changes).rules ↔ ∃ pattern method,
      PolicyChange.Granted changes rule.role pattern method ∧
        rule.permission = ⟨pattern, upperMethod method⟩ := by
  induction changes using List.reverseRecOn with
  | nil => simp [ofChanges, PolicyChange.Granted, PolicyChange.not_stands_nil]
  | append_singleton front last ih =>
    rw [ofChanges_append_singleton, mem_rules_change, ih]
    simp only [PolicyChange.Granted, PolicyChange.stands_append_singleton, or_and_right, exists_or,
      and_assoc, exists_and_left]

theorem mem_assignments_ofChanges {role : Int} :
    (account, role) ∈ (ofChanges changes).assignments ↔
      PolicyChange.Assigned changes account role := by
  induction changes using List.reverseRecOn with
  | nil => simp [ofChanges, PolicyChange.Assigned, PolicyChange.not_stands_nil]
  | append_singleton front last ih =>
    rw [ofChanges_append_singleton, mem_assignments_change, ih, PolicyChange.Assigned,
      PolicyChange.Assigned, PolicyChange.stands_append_singleton]

theorem hasRole_ofChanges {role : Int} :
    (ofChanges changes).hasRole account role = true ↔
      PolicyChange.Assigned changes account role := by
  rw [hasRole, decide_eq_true_iff, mem_assignments_ofChanges]

/-- Only the patterns of roles that the account has been assigned need to be expressions. -/
theorem compilesFor_ofChanges :
    (ofChanges changes).CompilesFor account ↔ ∀ role pattern method,
      PolicyChange.Assigned changes account role →
      PolicyChange.Granted changes role pattern method → Compiles pattern := by
  constructor
  · intro compiles role pattern method assigned granted
    let rule : Rule := ⟨role, ⟨pattern, upperMethod method⟩⟩
    have held : rule ∈ (ofChanges changes).rules :=
      mem_rules_ofChanges.mpr ⟨pattern, method, granted, rfl⟩
    exact compiles rule held (hasRole_ofChanges.mpr assigned)
  · intro compiles rule held assigned
    obtain ⟨pattern, method, granted, same⟩ := mem_rules_ofChanges.mp held
    rw [same]
    exact compiles rule.role pattern method (hasRole_ofChanges.mp assigned) granted

end Policy

open PolicyChange in
/-- As long as the patterns granted to its roles are expressions, an account other than the super
administrator is allowed a request if and only if one of its roles has been granted a route that
fits. So the decision depends only on what the account has been assigned and what these roles have
been granted, and neither on the order of the changes after the last load nor on their repetition;
and a chain of links between subject names leads from the account to its roles only. -/
theorem decisions_refine_relation {changes : List PolicyChange} {account : Int}
    (ordinary : account ≠ superAdminId)
    (compiles : ∀ role pattern method, Assigned changes account role →
      Granted changes role pattern method → Compiles pattern) :
    (∀ path method, ∃ allowed,
      (Policy.ofChanges changes).allows account path method = .ok allowed ∧
      (allowed = true ↔ ∃ role pattern granted, Assigned changes account role ∧
        Granted changes role pattern granted ∧ upperMethod granted = upperMethod method ∧
        Pattern.matchesPath pattern path = .ok true)) ∧
    (∀ others, (∀ role, Assigned others account role ↔ Assigned changes account role) →
      (∀ role pattern method, Assigned changes account role →
        (Granted others role pattern method ↔ Granted changes role pattern method)) →
      ∀ path method, (Policy.ofChanges others).allows account path method =
        (Policy.ofChanges changes).allows account path method) ∧
    (∀ before after others, changes = before ++ after →
      (∀ change ∈ after, change.isLoad = false) →
      (∀ change, change ∈ others ↔ change ∈ after) →
      ∀ path method, (Policy.ofChanges (before ++ others)).allows account path method =
        (Policy.ofChanges changes).allows account path method) ∧
    ∀ role, Relation.ReflTransGen (Policy.ofChanges changes).Link (userSubject account)
      (roleSubject role) ↔ Assigned changes account role := by
  have expressions := Policy.compilesFor_ofChanges.mpr compiles
  have same : ∀ others, (∀ role, Assigned others account role ↔ Assigned changes account role) →
      (∀ role pattern method, Assigned changes account role →
        (Granted others role pattern method ↔ Granted changes role pattern method)) →
      ∀ path method, (Policy.ofChanges others).allows account path method =
        (Policy.ofChanges changes).allows account path method := by
    intro others assigned granted path method
    refine (Policy.allows_congr_of_held expressions (fun role => ?_) fun rule held => ?_).symm
    · rw [Bool.eq_iff_iff, Policy.hasRole_ofChanges, Policy.hasRole_ofChanges, assigned]
    · rw [Policy.mem_rules_ofChanges, Policy.mem_rules_ofChanges]
      simp only [granted _ _ _ (Policy.hasRole_ofChanges.mp held)]
  refine ⟨fun path method => ?_, same, fun before after others split quiet listed => ?_,
    fun role => Policy.linked_iff.trans Policy.hasRole_ofChanges⟩
  · obtain ⟨allowed, decided, iff⟩ := Policy.allows_iff path method expressions
    refine ⟨allowed, decided, iff.trans ?_⟩
    simp only [ordinary, false_or, Policy.mem_rules_ofChanges, Policy.hasRole_ofChanges]
    constructor
    · rintro ⟨rule, ⟨pattern, granted, listed, same⟩, assigned, matched, fits⟩
      rw [same] at matched fits
      exact ⟨rule.role, pattern, granted, assigned, listed, fits.symm, matched⟩
    · rintro ⟨role, pattern, granted, assigned, listed, fits, matched⟩
      exact ⟨⟨role, ⟨pattern, upperMethod granted⟩⟩, ⟨pattern, granted, listed, rfl⟩, assigned,
        matched, fits.symm⟩
  · subst split
    exact same _ (fun _ => stands_congr quiet listed) fun _ _ _ _ => stands_congr quiet listed

/-- What is loaded after a first grant: two roles, one of them with a pattern that is no expression,
and rows of an account without an id and of the super administrator. -/
def reloaded : List PolicyChange := [
    .grant 7 [("/old/:id", "GET")], .assign 5 7,
    .load
      { roleMenus := [(1, 10), (2, 11)]
        routes := [("/accounts", "get", 10), ("/menus/(", "GET", 11)]
        accounts := [(some 5, 1), (none, 1), (some 1, 2)] }]

/-- What is changed after the load; the role of the last grant, too, has a pattern that is no
expression. -/
def afterwards : List PolicyChange :=
  [.grant 3 [("/roles/:id", "post")], .assign 5 3, .grant 9 [("/broken/(", "GET")]]

/-- Account 5 keeps what the load and the changes after it gave its roles, in whatever order these
changes come; what was granted before the load is gone, and the broken patterns do not matter. -/
theorem reloaded_decides_by_roles :
    (∀ role pattern method, PolicyChange.Assigned (reloaded ++ afterwards) 5 role →
      PolicyChange.Granted (reloaded ++ afterwards) role pattern method → Compiles pattern) ∧
    (∃ role pattern granted, PolicyChange.Assigned (reloaded ++ afterwards) 5 role ∧
      PolicyChange.Granted (reloaded ++ afterwards) role pattern granted ∧
      upperMethod granted = upperMethod "Post" ∧
      Pattern.matchesPath pattern "/roles/8" = .ok true) ∧
    (Policy.ofChanges (reloaded ++ afterwards)).allows 5 "/old/8" "GET" = .ok false ∧
    (∀ path method,
      (Policy.ofChanges (reloaded ++ (afterwards.reverse ++ afterwards))).allows 5 path method =
        (Policy.ofChanges (reloaded ++ afterwards)).allows 5 path method) ∧
    Relation.ReflTransGen (Policy.ofChanges (reloaded ++ afterwards)).Link "user:5" "role:3" := by
  have expressions : (Policy.ofChanges (reloaded ++ afterwards)).CompilesFor 5 := by
    unfold Policy.CompilesFor Compiles
    decide +kernel
  have compiles := Policy.compilesFor_ofChanges.mp expressions
  obtain ⟨decided, -, reordered, linked⟩ := decisions_refine_relation (by decide) compiles
  obtain ⟨allowed, answer, iff⟩ := decided "/roles/8" "Post"
  have granted : (Policy.ofChanges (reloaded ++ afterwards)).allows 5 "/roles/8" "Post" =
    .ok true := by decide +kernel
  rw [granted, Except.ok.injEq] at answer
  have quiet : ∀ change ∈ afterwards, change.isLoad = false := by
    simp [afterwards, PolicyChange.isLoad]
  refine ⟨compiles, iff.mp answer.symm, by decide +kernel,
    reordered reloaded afterwards _ rfl quiet (by simp), (linked 3).mpr ?_⟩
  exact Policy.hasRole_ofChanges.mp (by decide +kernel)

end Tenancy.Access
