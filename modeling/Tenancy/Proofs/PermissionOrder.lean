import Mathlib.Data.List.Induction
import Tenancy.Proofs.PolicyHistory

/-!
# The order of permissions

Repetitions are dropped in two places: within a grant, before it is carried out, and by the policy,
which holds no rule twice. Both together leave every pair of a pattern and a method in upper case at
the place where it came first since the last load.

* `distinct_eq_firsts`: a list without its repetitions, place by place.
* `Policy.permissions_grant`: a grant acts on its own role only.
* `Policy.permissionsOf_append`: dropping repetitions twice is dropping them once, from everything
  that was granted.
* `Policy.permissions_ofChanges`: what a sequence of changes leaves to a role, by induction along
  the sequence.
-/

namespace Tenancy

/-! ## Lists without repetition -/

section Distinct

variable {α : Type} [DecidableEq α]

theorem distinct_eq_self {l : List α} (nodup : l.Nodup) : distinct l = l := by
  induction l with
  | nil => rfl
  | cons a rest ih =>
    obtain ⟨once, others⟩ := List.nodup_cons.1 nodup
    rw [distinct, ih others, List.filter_eq_self.2]
    intro b listed
    simpa using fun same : b = a => once (same ▸ listed)

/-- Of what is appended, only what is new counts. -/
theorem distinct_append (l m : List α) :
    distinct (l ++ m) = distinct l ++ (distinct m).filter (· ∉ l) := by
  induction l with
  | nil => simp [distinct]
  | cons a rest ih =>
    rw [List.cons_append, distinct, ih, distinct, List.filter_append, List.filter_filter,
      List.cons_append]
    congr 2
    refine List.filter_congr fun b _ => ?_
    by_cases same : b = a <;> simp [same]

/-- What is repeated in the appended list does not count either. -/
theorem distinct_append_distinct (l m : List α) :
    distinct (l ++ distinct m) = distinct (l ++ m) := by
  rw [distinct_append, distinct_append, distinct_eq_self (nodup_distinct m)]

/-- Every element stays where it occurs for the first time, and nowhere else. -/
theorem distinct_eq_firsts (l : List α) :
    distinct l = (l.zipIdx.filter fun (a, i) => a ∉ l.take i).map (·.1) := by
  induction l using List.reverseRecOn with
  | nil => rfl
  | append_singleton l a ih =>
    have early : ∀ x ∈ l.zipIdx,
        decide (x.1 ∉ (l ++ [a]).take x.2) = decide (x.1 ∉ l.take x.2) := by
      rintro ⟨b, i⟩ listed
      have before : i < l.length := by simpa using List.snd_lt_add_of_mem_zipIdx listed
      rw [List.take_append_of_le_length (Nat.le_of_lt before)]
    rw [distinct_append, List.zipIdx_append, List.filter_append, List.map_append, ih,
      List.filter_congr early]
    by_cases old : a ∈ l <;> simp [distinct, old]

end Distinct

namespace Access

/-! ## What stands of a sequence of changes -/

namespace PolicyChange

/-- The routes that a change gives a role, in order. -/
def routesFor (role : Int) : PolicyChange → List (String × String)
  | grant receiver routes => if receiver = role then routes else []
  | assign _ _ => []
  | load rows => rows.routesOf role

/-- The changes from the last load on, or all of them if nothing is loaded. -/
def sinceLoad : List PolicyChange → List PolicyChange
  | [] => []
  | change :: later => if later.any (·.isLoad) then sinceLoad later else change :: later

variable {before after : List PolicyChange} {role : Int}

theorem sinceLoad_append_singleton (changes : List PolicyChange) (last : PolicyChange) :
    sinceLoad (changes ++ [last]) =
      if last.isLoad then [last] else sinceLoad changes ++ [last] := by
  induction changes with
  | nil => cases last <;> simp [sinceLoad, isLoad]
  | cons change later ih =>
    rw [List.cons_append, sinceLoad, ih, sinceLoad]
    by_cases loaded : last.isLoad = true
    · simp [loaded]
    · have quiet : last.isLoad = false := Bool.eq_false_iff.mpr loaded
      rw [List.any_append, List.any_cons, quiet, List.any_nil, Bool.or_false, Bool.or_false]
      split <;> simp

/-- Without a load, all changes count. -/
theorem sinceLoad_of_quiet (quiet : ∀ change ∈ after, change.isLoad = false) :
    sinceLoad after = after := by
  cases after with
  | nil => rfl
  | cons change later =>
    have none : ¬later.any (·.isLoad) = true := by
      simpa using fun change listed => quiet change (List.mem_cons_of_mem _ listed)
    rw [sinceLoad, if_neg none]

/-- What came before a load does not count. -/
theorem sinceLoad_append_load (rows : PolicyRows)
    (quiet : ∀ change ∈ after, change.isLoad = false) :
    sinceLoad (before ++ load rows :: after) = load rows :: after := by
  induction before with
  | nil =>
    have none : ¬after.any (·.isLoad) = true := by
      simpa using quiet
    rw [List.nil_append, sinceLoad, if_neg none]
  | cons change later ih =>
    rw [List.cons_append, sinceLoad, if_pos, ih]
    simp [isLoad]

end PolicyChange

/-! ## The permissions of one role -/

namespace Policy

variable {p : Policy} {role : Int}

theorem permissions_addOnce (rules : List Rule) (receiver : Int) (permission : Permission) :
    ({ p with rules := addOnce rules ⟨receiver, permission⟩ } : Policy).permissions role =
      if receiver = role then addOnce (({ p with rules } : Policy).permissions role) permission
      else ({ p with rules } : Policy).permissions role := by
  have listed : permission ∈ ({ p with rules } : Policy).permissions role ↔
      ⟨role, permission⟩ ∈ rules := mem_permissions
  by_cases same : receiver = role
  · subst same
    rw [if_pos rfl, addOnce, addOnce]
    split
    · next old => rw [if_pos (listed.mpr old)]
    · next new =>
      rw [if_neg (listed.not.mpr new)]
      simp [permissions]
  · rw [if_neg same, addOnce]
    split
    · rfl
    · simp [permissions, same]

/-- A grant adds what is new to the permissions of its role, and leaves other roles alone. -/
theorem permissions_grant (p : Policy) (receiver role : Int) (routes : List (String × String)) :
    (p.grant receiver routes).permissions role =
      if receiver = role then (permissionsOf routes).foldl addOnce (p.permissions role)
      else p.permissions role := by
  have added : ∀ (l : List Permission) (p : Policy),
      ({ p with rules := (l.map (Rule.mk receiver)).foldl addOnce p.rules } : Policy).permissions
        role = if receiver = role then l.foldl addOnce (p.permissions role)
          else p.permissions role := by
    intro l
    induction l with
    | nil => simp
    | cons permission rest ih =>
      intro p
      rw [List.map_cons, List.foldl_cons,
        ih { p with rules := addOnce p.rules ⟨receiver, permission⟩ }, permissions_addOnce]
      split <;> rfl
  exact added _ p

theorem foldl_addOnce_distinct {α : Type} [DecidableEq α] (l m : List α) :
    m.foldl addOnce (distinct l) = distinct (l ++ m) := by
  induction m generalizing l with
  | nil => simp
  | cons a rest ih =>
    have step : addOnce (distinct l) a = distinct (l ++ [a]) := by
      rw [distinct_append]
      by_cases old : a ∈ l <;> simp [addOnce, distinct, old]
    rw [List.foldl_cons, step, ih, List.append_assoc, List.singleton_append]

/-- Granting in two turns is granting at once. -/
theorem permissionsOf_append (first second : List (String × String)) :
    (permissionsOf second).foldl addOnce (permissionsOf first) =
      permissionsOf (first ++ second) := by
  rw [permissionsOf, permissionsOf, foldl_addOnce_distinct, distinct_append_distinct, permissionsOf,
    List.map_append]

/-- Granting to one role after the other gives each its own. -/
theorem permissions_foldl_grant {roles : List Int} (nodup : roles.Nodup)
    (routesOf : Int → List (String × String)) (p : Policy) :
    (roles.foldl (fun p receiver => p.grant receiver (routesOf receiver)) p).permissions role =
      if role ∈ roles then (permissionsOf (routesOf role)).foldl addOnce (p.permissions role)
      else p.permissions role := by
  induction roles generalizing p with
  | nil => simp
  | cons receiver rest ih =>
    obtain ⟨once, others⟩ := List.nodup_cons.mp nodup
    rw [List.foldl_cons, ih others, permissions_grant]
    by_cases same : receiver = role
    · subst same
      simp [once]
    · simp [same, Ne.symm same]

end Policy

/-- What is loaded gives a role the routes of its menus. -/
theorem PolicyRows.permissions_policy (rows : PolicyRows) (role : Int) :
    rows.policy.permissions role = permissionsOf (rows.routesOf role) := by
  have same : rows.policy.rules =
      (rows.roles.foldl (fun p role => p.grant role (rows.routesOf role)) ({} : Policy)).rules :=
    rules_foldl_assign _ _
  have nodup : rows.roles.Nodup := nodup_distinct _
  rw [Policy.permissions, same, ← Policy.permissions, Policy.permissions_foldl_grant nodup]
  split
  · exact Policy.permissionsOf_append [] _
  · next absent =>
    have none : rows.roleMenus.filter (·.1 = role) = [] := by
      rw [List.filter_eq_nil_iff]
      intro pair listed same
      exact absent (mem_distinct.mpr (List.mem_map.mpr ⟨pair, listed, of_decide_eq_true same⟩))
    rw [PolicyRows.routesOf, none]
    rfl

namespace Policy

/-- What a role may do is what it was granted since the last load, once each. -/
theorem permissions_ofChanges (changes : List PolicyChange) (role : Int) :
    (ofChanges changes).permissions role =
      permissionsOf ((PolicyChange.sinceLoad changes).flatMap (·.routesFor role)) := by
  induction changes using List.reverseRecOn with
  | nil => rfl
  | append_singleton front last ih =>
    rw [ofChanges_append_singleton, PolicyChange.sinceLoad_append_singleton]
    cases last with
    | grant receiver routes =>
      simp only [change, permissions_grant, ih, PolicyChange.isLoad, Bool.false_eq_true, if_false,
        List.flatMap_append, List.flatMap_singleton, PolicyChange.routesFor]
      split
      · exact permissionsOf_append _ _
      · rw [List.append_nil]
    | assign account given =>
      simp only [change, PolicyChange.isLoad, Bool.false_eq_true, if_false,
        List.flatMap_append, List.flatMap_singleton, PolicyChange.routesFor, List.append_nil]
      exact ih
    | load rows =>
      simp only [change, PolicyChange.isLoad, if_true, List.flatMap_singleton,
        PolicyChange.routesFor]
      exact rows.permissions_policy role

/-- A change that gives a role nothing leaves its permissions as they are, unless it replaces
everything. -/
theorem permissions_change_of_other (p : Policy) {change : PolicyChange} {role : Int}
    (keeps : change.isLoad = false) (other : ∀ routes, change ≠ .grant role routes) :
    (p.change change).permissions role = p.permissions role := by
  cases change with
  | grant receiver routes =>
    rw [Policy.change, permissions_grant, if_neg]
    rintro rfl
    exact other routes rfl
  | assign account given => rfl
  | load rows => cases keeps

end Policy

open PolicyChange in
/-- A role has the permissions that it was granted since the last load, in the order in which they
came first: those of the load itself, for each of its menus the routes of the menu, and then those
of the grants to it. Of a list of routes, a pair of pattern and upper-case method is kept where it
stands for the first time and nowhere else. Assignments and grants to other roles change nothing. -/
theorem permissions_are_first_seen :
    (∀ changes role, (Policy.ofChanges changes).permissions role =
      permissionsOf ((sinceLoad changes).flatMap (·.routesFor role))) ∧
    (∀ before rows after, (∀ change ∈ after, change.isLoad = false) →
      sinceLoad after = after ∧
        sinceLoad (before ++ .load rows :: after) = .load rows :: after) ∧
    (∀ routes : List (String × String),
      let pairs : List Permission :=
        routes.map fun (pattern, method) => ⟨pattern, upperMethod method⟩
      permissionsOf routes =
        (pairs.zipIdx.filter fun (pair, i) => pair ∉ pairs.take i).map (·.1)) ∧
    ∀ changes change role, change.isLoad = false → (∀ routes, change ≠ .grant role routes) →
      (Policy.ofChanges (changes ++ [change])).permissions role =
        (Policy.ofChanges changes).permissions role := by
  refine ⟨Policy.permissions_ofChanges, fun before rows after quiet => ?_, fun routes => ?_,
    fun changes change role keeps other => ?_⟩
  · exact ⟨sinceLoad_of_quiet quiet, sinceLoad_append_load rows quiet⟩
  · exact distinct_eq_firsts _
  · rw [Policy.ofChanges_append_singleton, Policy.permissions_change_of_other _ keeps other]

/-- Two roles are loaded, the menus of one of them around a menu of the other. -/
def shelves : PolicyRows :=
  { roleMenus := [(3, 12), (4, 11), (3, 10)]
    routes := [("/desk", "get", 10), ("/lamp", "GET", 11), ("/stair", "straße", 12),
      ("/desk", "GET", 12), ("/desk", "put", 10)]
    accounts := [] }

/-- Grants after the load, with repetitions in one grant and across grants. -/
def furnishing : List PolicyChange := [
    .grant 3 [("/stair", "STRASSE"), ("/chair", "post"), ("/chair", "Post")],
    .grant 4 [("/chair", "DELETE")], .assign 8 3,
    .grant 3 [("/chair", "delete"), ("/chair", "POST")]]

/-- What was granted before the load is gone, and nothing is listed twice, in whatever case its
method was given. The permissions of one role do not change when another one gets a route. -/
theorem furnishing_keeps_first_places :
    (∀ change ∈ furnishing, change.isLoad = false) ∧
    (Policy.ofChanges (.grant 3 [("/attic", "GET")] :: .load shelves :: furnishing)).permissions 3 =
      [⟨"/stair", "STRASSE"⟩, ⟨"/desk", "GET"⟩, ⟨"/desk", "PUT"⟩, ⟨"/chair", "POST"⟩,
        ⟨"/chair", "DELETE"⟩] ∧
    (Policy.ofChanges (furnishing ++ [.grant 4 [("/sofa", "GET")]])).permissions 3 =
      (Policy.ofChanges furnishing).permissions 3 := by
  obtain ⟨listed, since, -, kept⟩ := permissions_are_first_seen
  have quiet : ∀ change ∈ furnishing, change.isLoad = false := by
    simp [furnishing, PolicyChange.isLoad]
  refine ⟨quiet, ?_, kept furnishing _ 3 rfl ?_⟩
  · have loaded := (since [.grant 3 [("/attic", "GET")]] shelves furnishing quiet).2
    rw [List.singleton_append] at loaded
    rw [listed, loaded]
    decide +kernel
  · intro routes same
    cases same

end Access

end Tenancy
