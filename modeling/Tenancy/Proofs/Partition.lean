import Tenancy.Proofs.Guard

/-!
# Scopes as a partition

The scopes of a hierarchy are computed downwards, by a walk along the links. Here they are compared
with the way upwards, one parent after the other (`ancestor?`), in any hierarchy without repeated
ids; cycles and parents that do not exist are allowed.

* `transGen_child_iff`: what is below an organization is what meets it on its way upwards.
* `firstLevel_scopes_partition`: a first-level scope consists of the organizations that climb to the
  same one, so that two such scopes are equal or disjoint, and nothing whose way upwards runs in a
  circle or out of the hierarchy is in any of them.
-/

namespace Tenancy.Hierarchy

variable {h : Hierarchy} {x y z a p : Int} {scope : List Int}

/-- What is met after some steps upwards, each of them from an organization to its parent. -/
def ancestor? (h : Hierarchy) : Nat → Int → Option Int
  | 0, x => some x
  | steps + 1, x => (h.parent? x).bind (h.ancestor? steps)

/-- The way upwards comes to an organization that it comes back to; it may begin there. -/
def Circles (h : Hierarchy) (x : Int) : Prop :=
  ∃ y before around, h.ancestor? before x = some y ∧ h.ancestor? (around + 1) y = some y

/-- The way upwards comes to a parent that does not exist and is not the root. -/
def Dangles (h : Hierarchy) (x : Int) : Prop :=
  ∃ p steps, h.ancestor? (steps + 1) x = some p ∧ p ∉ h.ids ∧ p ≠ rootOrganizationId

theorem ancestor?_succ {steps : Nat} :
    h.ancestor? (steps + 1) x = some y ↔
      ∃ p, h.parent? x = some p ∧ h.ancestor? steps p = some y :=
  Option.bind_eq_some_iff

/-- What is below an organization is what meets it on its way upwards. -/
theorem transGen_child_iff (nodup : h.ids.Nodup) :
    Relation.TransGen h.Child x y ↔ ∃ steps, h.ancestor? (steps + 1) y = some x := by
  constructor
  · intro below
    induction below with
    | single under => exact ⟨0, ancestor?_succ.mpr ⟨x, under.parent? nodup, rfl⟩⟩
    | tail _ under ih =>
      obtain ⟨steps, meets⟩ := ih
      exact ⟨steps + 1, ancestor?_succ.mpr ⟨_, under.parent? nodup, meets⟩⟩
  · rintro ⟨steps, meets⟩
    induction steps generalizing y with
    | zero =>
      obtain ⟨p, above, same⟩ := ancestor?_succ.mp meets
      obtain rfl : p = x := Option.some.inj same
      exact .single (child_of_parent? above)
    | succ steps ih =>
      obtain ⟨p, above, meets⟩ := ancestor?_succ.mp meets
      exact (ih meets).tail (child_of_parent? above)

/-- The organizations below another one, by their ways upwards. -/
theorem mem_descendants_iff_ancestor? (nodup : h.ids.Nodup) :
    y ∈ h.descendants x ↔ y ∈ h.ids ∧ y ≠ x ∧ ∃ steps, h.ancestor? steps y = some x := by
  rw [mem_descendants_iff, transGen_child_iff nodup]
  constructor
  · rintro ⟨different, steps, meets⟩
    obtain ⟨p, above, -⟩ := ancestor?_succ.mp meets
    exact ⟨mem_ids_of_parent? above, different, steps + 1, meets⟩
  · rintro ⟨-, different, steps, meets⟩
    cases steps with
    | zero => exact absurd (Option.some.inj meets) different
    | succ steps => exact ⟨different, steps, meets⟩

/-! ## Ways that end at the first level -/

/-- A parent on the way to the first level is itself on that way. -/
theorem Resolves.parent (resolves : h.Resolves x a) (above : h.parent? x = some p)
    (inner : p ≠ rootOrganizationId) : h.Resolves p a := by
  obtain ⟨n, climbs⟩ := resolves
  cases climbs with
  | top last => exact absurd (Option.some.inj (above.symm.trans last)) inner
  | up other _ rest =>
    obtain rfl := Option.some.inj (above.symm.trans other)
    exact ⟨_, rest⟩

/-- All that is met on the way to the first level climbs there too, until the root is met. -/
theorem Proper.resolves_of_ancestor? (proper : h.Proper) (resolves : h.Resolves x a) {steps : Nat}
    (meets : h.ancestor? steps x = some y) : y = rootOrganizationId ∨ h.Resolves y a := by
  induction steps generalizing x with
  | zero => exact .inr (Option.some.inj meets ▸ resolves)
  | succ steps ih =>
    obtain ⟨p, above, meets⟩ := ancestor?_succ.mp meets
    by_cases root : p = rootOrganizationId
    · -- the root has no parent, so the way ends there
      cases steps with
      | zero => exact .inl (Option.some.inj meets ▸ root)
      | succ steps =>
        obtain ⟨q, upper, -⟩ := ancestor?_succ.mp meets
        exact absurd (root ▸ mem_ids_of_parent? upper) proper.rootless
    · exact ih (resolves.parent above root) meets

theorem Proper.not_circles (proper : h.Proper) (resolves : h.Resolves x a) : ¬h.Circles x := by
  rintro ⟨y, before, around, meets, back⟩
  have cycle : Relation.TransGen h.Child y y := (transGen_child_iff proper.nodup).mpr ⟨_, back⟩
  rcases proper.resolves_of_ancestor? resolves meets with rfl | member
  · obtain ⟨p, above, -⟩ := ancestor?_succ.mp back
    exact proper.rootless (mem_ids_of_parent? above)
  · exact proper.not_below_itself member cycle

theorem Proper.not_dangles (proper : h.Proper) (resolves : h.Resolves x a) : ¬h.Dangles x := by
  rintro ⟨p, steps, meets, absent, inner⟩
  rcases proper.resolves_of_ancestor? resolves meets with root | member
  · exact inner root
  · exact absent member.mem_ids

/-! ## Scopes -/

/-- The first-level scope of an organization that does not exist is empty; that of any other holds
what climbs to the same organization. -/
theorem Proper.firstLevel_scope (proper : h.Proper) (inner : x ≠ rootOrganizationId)
    (found : h.resolveScope x false .firstLevel = .ok scope) :
    scope = [] ∨ ∃ a, h.Resolves x a ∧ ∀ y, y ∈ scope ↔ h.Resolves y a := by
  by_cases known : h.contains x = true
  · cases climbs : h.firstLevelAncestor x with
    | error reason => simp [resolveScope, inner, known, climbs] at found
    | ok a =>
      have member := firstLevelAncestor_eq_ok_iff.mp climbs
      rw [resolveScope_firstLevel proper member, Except.ok.injEq] at found
      subst found
      exact .inr ⟨a, member, fun y => proper.mem_firstLevel_iff member.last⟩
  · simp only [resolveScope, inner, known] at found
    exact .inl (Except.ok.inj found).symm

end Tenancy.Hierarchy

namespace Tenancy

open Hierarchy in
/-- In a hierarchy without repeated ids: the first-level scope of an organization consists of those
that climb to the same first-level organization, and the scope below it of those that meet it on
their way upwards. So two first-level scopes are equal or disjoint, and no organization whose way
upwards runs in a circle or out of the hierarchy is in any of them. The scope of the root, which is
everything, is no such scope. -/
theorem firstLevel_scopes_partition {h : Hierarchy} (proper : h.Proper) :
    (∀ x a, h.firstLevelAncestor x = .ok a →
      ∃ scope, h.resolveScope x false .firstLevel = .ok scope ∧
        ∀ y, y ∈ scope ↔ h.firstLevelAncestor y = .ok a) ∧
    (∀ x ∈ h.ids, ∃ scope, h.resolveScope x false .subOrganization = .ok scope ∧
      ∀ y, y ∈ scope ↔ y ∈ h.ids ∧ y ≠ x ∧ ∃ steps, h.ancestor? steps y = some x) ∧
    (∀ x y scope other, x ≠ rootOrganizationId → y ≠ rootOrganizationId →
      h.resolveScope x false .firstLevel = .ok scope →
      h.resolveScope y false .firstLevel = .ok other →
      (∀ z, z ∈ scope ↔ z ∈ other) ∨ ∀ z ∈ scope, z ∉ other) ∧
    ∀ x scope, x ≠ rootOrganizationId → h.resolveScope x false .firstLevel = .ok scope →
      ∀ y ∈ scope, ¬h.Circles y ∧ ¬h.Dangles y := by
  simp only [firstLevelAncestor_eq_ok_iff]
  refine ⟨fun x a member => ?_, fun x present => ?_, fun x y scope other inner otherInner found
    otherFound => ?_, fun x scope inner found y listed => ?_⟩
  · exact ⟨_, resolveScope_firstLevel proper member, fun y => proper.mem_firstLevel_iff member.last⟩
  · have known : h.contains x = true := contains_iff.mpr present
    refine ⟨h.descendants x, ?_, fun y => mem_descendants_iff_ancestor? proper.nodup⟩
    simp [resolveScope, proper.ne_root present, known]
  · rcases proper.firstLevel_scope inner found with rfl | ⟨a, -, members⟩
    · exact .inr fun z listed => absurd listed List.not_mem_nil
    rcases proper.firstLevel_scope otherInner otherFound with rfl | ⟨b, -, otherMembers⟩
    · exact .inr fun z _ => List.not_mem_nil
    by_cases same : a = b
    · exact .inl fun z => by rw [members, otherMembers, same]
    · refine .inr fun z listed otherListed => same ?_
      exact ((members z).mp listed).unique ((otherMembers z).mp otherListed)
  · rcases proper.firstLevel_scope inner found with rfl | ⟨a, -, members⟩
    · cases listed
    · have member := (members y).mp listed
      exact ⟨proper.not_circles member, proper.not_dangles member⟩

/-- Two tenants beside a cycle with an organization below it, an orphan and a row without an id. -/
def archipelago : Hierarchy := [
    ⟨some 1, some "headquarters", -1⟩, ⟨some 2, some "lab", 1⟩, ⟨some 3, some "branch", -1⟩,
    ⟨some 4, some "hen", 5⟩, ⟨some 5, some "egg", 4⟩, ⟨some 6, some "chick", 5⟩,
    ⟨some 7, some "orphan", 9⟩, ⟨none, some "ghost", 1⟩]

/-- The scopes of the two tenants are disjoint, and neither holds the cycle or the orphan; on the
cycle, each organization has the other one below it, but not itself. -/
theorem archipelago_scopes_are_apart :
    archipelago.Proper ∧
    (∃ scope, archipelago.resolveScope 2 false .firstLevel = .ok scope ∧
      ∀ y, y ∈ scope ↔ archipelago.firstLevelAncestor y = .ok 1) ∧
    (∃ scope, archipelago.resolveScope 4 false .subOrganization = .ok scope ∧
      5 ∈ scope ∧ 6 ∈ scope ∧ 4 ∉ scope) ∧
    (∀ z ∈ ([1, 2] : List Int), z ∉ ([3] : List Int)) ∧
    archipelago.Circles 6 ∧ archipelago.Dangles 7 ∧
    ∀ y ∈ ([1, 2] : List Int), ¬archipelago.Circles y ∧ ¬archipelago.Dangles y := by
  have proper : archipelago.Proper := ⟨by decide, by decide⟩
  obtain ⟨firstLevel, below, apart, resolvable⟩ := firstLevel_scopes_partition proper
  obtain ⟨scope, found, members⟩ := below 4 (by decide)
  have lab : archipelago.resolveScope 2 false .firstLevel = .ok [1, 2] := by decide +kernel
  have branch : archipelago.resolveScope 3 false .firstLevel = .ok [3] := by decide +kernel
  refine ⟨proper, firstLevel 2 1 (by decide +kernel), ⟨scope, found, ?_, ?_, ?_⟩, ?_,
    ⟨5, 1, 1, by decide, by decide⟩, ⟨9, 0, by decide, by decide, by decide⟩,
    resolvable 2 [1, 2] (by decide) lab⟩
  · exact (members 5).mpr ⟨by decide, by decide, 1, by decide⟩
  · exact (members 6).mpr ⟨by decide, by decide, 2, by decide⟩
  · exact fun listed => ((members 4).mp listed).2.1 rfl
  · rcases apart 2 3 [1, 2] [3] (by decide) (by decide) lab branch with same | disjoint
    · exact absurd ((same 3).mpr (by decide)) (by decide)
    · exact disjoint

end Tenancy
