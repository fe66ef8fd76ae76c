import Tenancy.Proofs.Guard

/-!
# What a new organization changes

A row is added to the hierarchy, at any place: a new organization under any parent, which has no
children so far. The climbs of the others stay as they are, and the scopes of those above its parent
gain the new organization and nothing else (`new_organization_joins_scopes`). The hierarchy may have
cycles and parents that do not exist, and the new parent may be on a cycle, absent, or the new
organization itself.

* `firstLevelAncestor_up`: an organization climbs to where its parent climbs.
* `Adds.firstLevelAncestor_old`: a climb from an old organization never meets the new one.
* `Adds.reflTransGen_iff`: the new organization is below what its parent is at or below, and nothing
  else has come to be below anything.
-/

namespace Tenancy

/-- The same reason for a climb that began at `x`. -/
def Unresolved.startingAt (x : Int) : Unresolved → Unresolved
  | .cycle _ => .cycle x
  | reason => reason

namespace Hierarchy

variable {h g : Hierarchy} {n p x y : Int}

/-! ## Climbs by way of the parent -/

/-- A climb that ends does not tell where it began. -/
theorem Halts.mapError_startingAt {steps : Nat} {answer : Except Unresolved Int}
    (halts : h.Halts steps x answer) (start : Int) :
    answer.mapError (·.startingAt start) = answer := by
  induction halts with
  | top => rfl
  | stray => rfl
  | up _ _ _ ih => exact ih

/-- An organization climbs to where its parent climbs. If the parent climbs in a circle, then so
does the organization, and the reason names where the climb began. -/
theorem firstLevelAncestor_up (above : h.parent? x = some p) (inner : p ≠ rootOrganizationId)
    (known : p ∈ h.ids) :
    h.firstLevelAncestor x = (h.firstLevelAncestor p).mapError (·.startingAt x) := by
  rcases halts_or_cycle known with ⟨steps, halts⟩ | ⟨around, endless⟩
  · rw [halts.mapError_startingAt]
    exact (Halts.up above inner halts).firstLevelAncestor_eq
  · rw [around]
    rcases halts_or_cycle (mem_ids_of_parent? above) with ⟨steps, halts⟩ | ⟨around, -⟩
    · generalize h.firstLevelAncestor x = answer at halts
      cases halts with
      | top last => exact absurd (Option.some.inj (above.symm.trans last)) inner
      | stray other _ absent =>
        obtain rfl := Option.some.inj (above.symm.trans other)
        exact absurd known absent
      | up other _ halts =>
        obtain rfl := Option.some.inj (above.symm.trans other)
        exact absurd halts (endless _ _)
    · rw [around]
      rfl

/-! ## One row more -/

/-- One row more, anywhere among the others: the organization `n` under `p`. -/
def Adds (h g : Hierarchy) (n p : Int) : Prop :=
  ∃ before after name, h = before ++ after ∧ g = before ++ ⟨some n, name, p⟩ :: after

namespace Adds

variable (added : h.Adds g n p)
include added

theorem child_iff : g.Child x y ↔ h.Child x y ∨ x = p ∧ y = n := by
  obtain ⟨before, after, name, rfl, rfl⟩ := added
  simp only [Child, List.mem_append, List.mem_cons, or_and_right, exists_or, exists_eq_left,
    Option.some.injEq]
  grind

theorem perm_ids : g.ids.Perm (n :: h.ids) := by
  obtain ⟨before, after, name, rfl, rfl⟩ := added
  simp only [ids, List.filterMap_append, List.filterMap_cons]
  exact List.perm_middle

theorem mem_ids_iff : x ∈ g.ids ↔ x = n ∨ x ∈ h.ids := by
  rw [added.perm_ids.mem_iff, List.mem_cons]

theorem proper (proper : h.Proper) (inner : n ≠ rootOrganizationId) (fresh : n ∉ h.ids) :
    g.Proper where
  nodup := added.perm_ids.nodup_iff.mpr (List.nodup_cons.mpr ⟨fresh, proper.nodup⟩)
  rootless := by
    rw [added.mem_ids_iff]
    rintro (root | listed)
    · exact inner root.symm
    · exact proper.rootless listed

theorem parent?_new (after : g.Proper) : g.parent? n = some p :=
  (added.child_iff.mpr (.inr ⟨rfl, rfl⟩)).parent? after.nodup

theorem parent?_old (after : g.Proper) (known : x ∈ h.ids) : g.parent? x = h.parent? x := by
  obtain ⟨q, above⟩ := exists_parent? known
  rw [above]
  exact (added.child_iff.mpr (.inl (child_of_parent? above))).parent? after.nodup

/-! ## The way up -/

section Childless

variable (after : g.Proper) (childless : ∀ y, ¬h.Child n y)
include after childless

theorem climb_old {start : Int} {steps : Nat} (known : x ∈ h.ids) :
    g.climb start steps x = h.climb start steps x := by
  induction steps generalizing x with
  | zero => rfl
  | succ steps ih =>
    obtain ⟨q, above⟩ := exists_parent? known
    have old : q ≠ n := fun same => childless x (same ▸ child_of_parent? above)
    have same : g.contains q = h.contains q := by
      rw [Bool.eq_iff_iff, contains_iff, contains_iff, added.mem_ids_iff, or_iff_right old]
    rw [climb, climb, added.parent?_old after known, above]
    simp only [same]
    split
    · rfl
    · split
      · next inside => exact ih (contains_iff.mp inside)
      · rfl

theorem firstLevelAncestor_old (known : x ∈ h.ids) :
    g.firstLevelAncestor x = h.firstLevelAncestor x := by
  have still : x ∈ g.ids := added.mem_ids_iff.mpr (.inr known)
  -- the bounds of the two climbs differ, but both are high enough
  rw [← climb_eq_firstLevelAncestor known (Nat.le_add_right h.size g.size),
    ← climb_eq_firstLevelAncestor still (Nat.le_add_left g.size h.size),
    added.climb_old after childless known]

theorem firstLevelAncestor_new (known : p ∈ h.ids) (inner : p ≠ rootOrganizationId) :
    g.firstLevelAncestor n = (h.firstLevelAncestor p).mapError (·.startingAt n) := by
  have still : p ∈ g.ids := added.mem_ids_iff.mpr (.inr known)
  rw [firstLevelAncestor_up (added.parent?_new after) inner still,
    added.firstLevelAncestor_old after childless known]

end Childless

theorem firstLevelAncestor_top (after : g.Proper) (top : p = rootOrganizationId) :
    g.firstLevelAncestor n = .ok n :=
  (Halts.top (top ▸ added.parent?_new after)).firstLevelAncestor_eq

/-- A new organization whose parent did not exist climbs nowhere, nor does one that is its own
parent. -/
theorem firstLevelAncestor_stray (after : g.Proper) (inner : p ≠ rootOrganizationId)
    (absent : p ∉ h.ids) :
    g.firstLevelAncestor n = .error (if p = n then .cycle n else .dangling n p) := by
  have above := added.parent?_new after
  by_cases itself : p = n
  · subst itself
    rw [if_pos rfl]
    rcases halts_or_cycle (mem_ids_of_parent? above) with ⟨steps, halts⟩ | ⟨around, -⟩
    · -- a climb that ends would have to be one step longer than itself
      have longer := ((Halts.up above inner halts).unique halts).1
      omega
    · exact around
  · rw [if_neg itself]
    have unknown : p ∉ g.ids := by
      rw [added.mem_ids_iff]
      exact not_or.mpr ⟨itself, absent⟩
    exact (Halts.stray above inner unknown).firstLevelAncestor_eq

/-! ## The way down -/

section Childless

variable (childless : ∀ y, ¬h.Child n y)
include childless

theorem transGen_iff :
    Relation.TransGen g.Child x y ↔
      Relation.TransGen h.Child x y ∨ y = n ∧ Relation.ReflTransGen h.Child x p := by
  constructor
  · intro below
    induction below with
    | single under =>
      rcases added.child_iff.mp under with old | ⟨rfl, rfl⟩
      · exact .inl (.single old)
      · exact .inr ⟨rfl, .refl⟩
    | tail _ under ih =>
      rcases added.child_iff.mp under with old | ⟨rfl, rfl⟩
      · rcases ih with below | ⟨rfl, -⟩
        · exact .inl (below.tail old)
        · exact absurd old (childless _)
      · rcases ih with below | ⟨-, below⟩
        · exact .inr ⟨rfl, below.to_reflTransGen⟩
        · exact .inr ⟨rfl, below⟩
  · have grown : ∀ u v, h.Child u v → g.Child u v := fun u v old => added.child_iff.mpr (.inl old)
    rintro (below | ⟨rfl, below⟩)
    · exact Relation.TransGen.mono grown _ _ below
    · exact .tail' (Relation.ReflTransGen.mono grown _ _ below)
        (added.child_iff.mpr (.inr ⟨rfl, rfl⟩))

theorem reflTransGen_iff :
    Relation.ReflTransGen g.Child x y ↔
      Relation.ReflTransGen h.Child x y ∨ y = n ∧ Relation.ReflTransGen h.Child x p := by
  rw [Relation.reflTransGen_iff_eq_or_transGen, Relation.reflTransGen_iff_eq_or_transGen,
    added.transGen_iff childless, or_assoc]

end Childless

end Adds

/-! ## Scopes -/

section Scopes

variable (proper : h.Proper) (added : h.Adds g n p) (after : g.Proper)
  (childless : ∀ y, ¬h.Child n y) (known : x ∈ h.ids)
include proper added after childless known

theorem Adds.scope_below (fresh : n ∉ h.ids) :
    ∃ old new, h.resolveScope x false .subOrganization = .ok old ∧
      g.resolveScope x false .subOrganization = .ok new ∧
      ∀ y, y ∈ new ↔ y ∈ old ∨ y = n ∧ (p = x ∨ p ∈ old) := by
  have still : x ∈ g.ids := added.mem_ids_iff.mpr (.inr known)
  refine ⟨_, _, resolveScope_below_of_mem (proper.ne_root known) known,
    resolveScope_below_of_mem (after.ne_root still) still, fun y => ?_⟩
  have reached : p = x ∨ p ∈ h.descendants x ↔ Relation.ReflTransGen h.Child x p := by
    rw [← mem_cons_descendants_iff, List.mem_cons]
  rw [reached, mem_descendants_iff, mem_descendants_iff, added.transGen_iff childless,
    and_or_left]
  refine or_congr_right (and_iff_right_of_imp ?_)
  rintro ⟨rfl, -⟩ rfl
  exact fresh known

/-- The first-level scope resolves as before, or it fails as before. -/
theorem Adds.scope_firstLevel :
    (∃ old new, h.resolveScope x false .firstLevel = .ok old ∧
      g.resolveScope x false .firstLevel = .ok new ∧
      ∀ y, y ∈ new ↔ y ∈ old ∨ y = n ∧ p ∈ old) ∨
    ∃ fault, h.resolveScope x false .firstLevel = .error fault ∧
      g.resolveScope x false .firstLevel = .error fault := by
  have still : x ∈ g.ids := added.mem_ids_iff.mpr (.inr known)
  rw [resolveScope_firstLevel_of_mem (proper.ne_root known) known,
    resolveScope_firstLevel_of_mem (after.ne_root still) still,
    added.firstLevelAncestor_old after childless known]
  cases h.firstLevelAncestor x with
  | error reason => exact .inr ⟨_, rfl, rfl⟩
  | ok a =>
    refine .inl ⟨_, _, rfl, rfl, fun y => ?_⟩
    rw [mem_cons_descendants_iff, mem_cons_descendants_iff, mem_cons_descendants_iff,
      added.reflTransGen_iff childless]

end Scopes

end Hierarchy

open Hierarchy in
/-- A new organization, which is the parent of no row so far, leaves every climb from an old one as
it was, also one that fails. The scope below an old organization gains the new one if its parent is
that organization or in the scope, the first-level scope if its parent is in it; no scope changes
otherwise. The new organization is on the first level if its parent is the root, climbs to where its
parent climbs if this exists, and climbs nowhere otherwise. -/
theorem new_organization_joins_scopes {h g : Hierarchy} {n p : Int} (proper : h.Proper)
    (added : h.Adds g n p) (inner : n ≠ rootOrganizationId) (fresh : n ∉ h.ids)
    (unused : ∀ row ∈ h, row.parent ≠ n) :
    (∀ x ∈ h.ids, g.firstLevelAncestor x = h.firstLevelAncestor x) ∧
    (∀ x ∈ h.ids, ∃ old new, h.resolveScope x false .subOrganization = .ok old ∧
      g.resolveScope x false .subOrganization = .ok new ∧
      ∀ y, y ∈ new ↔ y ∈ old ∨ y = n ∧ (p = x ∨ p ∈ old)) ∧
    (∀ x ∈ h.ids, ∀ old, h.resolveScope x false .firstLevel = .ok old →
      ∃ new, g.resolveScope x false .firstLevel = .ok new ∧
        ∀ y, y ∈ new ↔ y ∈ old ∨ y = n ∧ p ∈ old) ∧
    (∀ x ∈ h.ids, ∀ fault, h.resolveScope x false .firstLevel = .error fault →
      g.resolveScope x false .firstLevel = .error fault) ∧
    (p = rootOrganizationId → g.firstLevelAncestor n = .ok n) ∧
    (p ∈ h.ids →
      g.firstLevelAncestor n = (h.firstLevelAncestor p).mapError (·.startingAt n)) ∧
    (p ≠ rootOrganizationId → p ∉ h.ids →
      g.firstLevelAncestor n = .error (if p = n then .cycle n else .dangling n p)) := by
  have after := added.proper proper inner fresh
  have childless : ∀ y, ¬h.Child n y := by
    rintro y ⟨row, present, -, under⟩
    exact unused row present under
  refine ⟨fun x known => ?_, fun x known => ?_, fun x known old found => ?_,
    fun x known fault lost => ?_, fun top => ?_, fun known => ?_, fun notRoot absent => ?_⟩
  · exact added.firstLevelAncestor_old after childless known
  · exact added.scope_below proper after childless known fresh
  · rcases added.scope_firstLevel proper after childless known with
      ⟨_, new, same, resolved, members⟩ | ⟨fault, lost, -⟩
    · obtain rfl := Except.ok.inj (found.symm.trans same)
      exact ⟨new, resolved, members⟩
    · cases found.symm.trans lost
  · rcases added.scope_firstLevel proper after childless known with
      ⟨old, _, found, -⟩ | ⟨_, same, stillLost⟩
    · cases found.symm.trans lost
    · rwa [← same.symm.trans lost]
  · exact added.firstLevelAncestor_top after top
  · exact added.firstLevelAncestor_new after childless known (proper.ne_root known)
  · exact added.firstLevelAncestor_stray after notRoot absent

/-- A tenant beside a cycle and an orphan. -/
def quay : Hierarchy := [
    ⟨some 1, some "headquarters", -1⟩, ⟨some 2, some "lab", 1⟩, ⟨some 4, some "hen", 5⟩,
    ⟨some 5, some "egg", 4⟩, ⟨some 6, some "orphan", 9⟩]

/-- A bench in the lab, read before the lab. -/
def quayWithBench : Hierarchy := [
    ⟨some 1, some "headquarters", -1⟩, ⟨some 3, some "bench", 2⟩, ⟨some 2, some "lab", 1⟩,
    ⟨some 4, some "hen", 5⟩, ⟨some 5, some "egg", 4⟩, ⟨some 6, some "orphan", 9⟩]

/-- A chick of the hen. -/
def quayWithChick : Hierarchy :=
  quay ++ [⟨some 3, some "chick", 4⟩]

/-- The headquarters have the bench below them, which climbs there; the hen climbs in a circle as
before. A chick of the hen would do so as well, and be below the hen and the egg alone. -/
theorem bench_joins_headquarters :
    (∃ old new, quay.resolveScope 1 false .subOrganization = .ok old ∧
      quayWithBench.resolveScope 1 false .subOrganization = .ok new ∧
      ∀ y, y ∈ new ↔ y ∈ old ∨ y = 3 ∧ ((2 : Int) = 1 ∨ 2 ∈ old)) ∧
    (∃ new, quayWithBench.resolveScope 2 false .firstLevel = .ok new ∧
      ∀ y, y ∈ new ↔ y ∈ ([1, 2] : List Int) ∨ y = 3 ∧ (2 : Int) ∈ ([1, 2] : List Int)) ∧
    quayWithBench.firstLevelAncestor 3 = .ok 1 ∧
    quayWithBench.firstLevelAncestor 4 = .error (.cycle 4) ∧
    quayWithChick.firstLevelAncestor 3 = .error (.cycle 3) ∧
    ∃ new, quayWithChick.resolveScope 1 false .firstLevel = .ok new ∧
      ∀ y, y ∈ new ↔ y ∈ ([1, 2] : List Int) ∨ y = 3 ∧ (4 : Int) ∈ ([1, 2] : List Int) := by
  have proper : quay.Proper := ⟨by decide, by decide⟩
  have bench : quay.Adds quayWithBench 3 2 := ⟨quay.take 1, quay.drop 1, some "bench", rfl, rfl⟩
  have chick : quay.Adds quayWithChick 3 4 := ⟨quay, [], some "chick", rfl, rfl⟩
  have tenant : ∀ x ∈ ([1, 2] : List Int), quay.resolveScope x false .firstLevel = .ok [1, 2] := by
    decide +kernel
  obtain ⟨climbs, below, firstLevel, -, -, joined, -⟩ :=
    new_organization_joins_scopes proper bench (by decide) (by decide) (by decide)
  obtain ⟨-, -, apart, -, -, around, -⟩ :=
    new_organization_joins_scopes proper chick (by decide) (by decide) (by decide)
  refine ⟨below 1 (by decide), firstLevel 2 (by decide) _ (tenant 2 (by decide)), ?_, ?_, ?_,
    apart 1 (by decide) _ (tenant 1 (by decide))⟩
  · rw [joined (by decide)]
    decide +kernel
  · rw [climbs 4 (by decide)]
    decide +kernel
  · rw [around (by decide)]
    decide +kernel

end Tenancy
