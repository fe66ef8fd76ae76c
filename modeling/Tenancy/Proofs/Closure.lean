import Mathlib.Data.List.Chain
import Tenancy.Proofs.Guard

/-!
# What lies below, and how scopes nest

The scopes of a hierarchy are made of two walks. The one downwards follows every row, the climb to
the first level follows the last row of each id. They may disagree where ids are repeated, but a
step upwards is always a link downwards as well, so that the scopes are nested on any rows.

* `descendants_end_chains`: the walk downwards finds what a chain of rows leads to.
* `withSelf_subset_firstLevel`: what is at or below an organization is at or below the one that it
  climbs to.
* `scopes_nest`: a scope with its organization lies within the first-level scope, and holds the
  scopes of all of its members.
-/

namespace Tenancy.Hierarchy

variable {h : Hierarchy} {x y a : Int} {caller : Caller}

/-! ## Chains of rows -/

theorem transGen_iff_chain :
    Relation.TransGen h.Child x y ↔
      ∃ chain : List Int, chain.getLast? = some y ∧ List.IsChain h.Child (x :: chain) := by
  rw [Relation.TransGen.head'_iff]
  constructor
  · rintro ⟨first, link, below⟩
    obtain ⟨rest, chain, last⟩ := List.exists_isChain_cons_of_relationReflTransGen below
    refine ⟨first :: rest, ?_, .cons_cons link chain⟩
    rw [List.getLast?_eq_getLast_of_ne_nil (List.cons_ne_nil first rest), last]
  · rintro ⟨chain, last, linked⟩
    cases chain with
    | nil => cases last
    | cons first rest =>
      rw [List.isChain_cons_cons] at linked
      refine ⟨first, linked.1, ?_⟩
      refine List.relationReflTransGen_of_exists_isChain_cons rest linked.2 ?_
      rwa [List.getLast?_eq_getLast_of_ne_nil (List.cons_ne_nil first rest),
        Option.some.injEq] at last

theorem mem_ids_of_reflTransGen (known : x ∈ h.ids) (below : Relation.ReflTransGen h.Child x y) :
    y ∈ h.ids := by
  rcases Relation.reflTransGen_iff_eq_or_transGen.mp below with rfl | below
  · exact known
  · exact mem_ids_of_transGen below

/-! ## Scopes within scopes -/

/-- What is below a member is below whatever the member is below. -/
theorem cons_descendants_subset (below : y ∈ x :: h.descendants x) :
    y :: h.descendants y ⊆ x :: h.descendants x := by
  intro z listed
  rw [mem_cons_descendants_iff] at below listed ⊢
  exact below.trans listed

theorem Resolves.cons_descendants_subset (resolves : h.Resolves x a) :
    x :: h.descendants x ⊆ a :: h.descendants a :=
  Hierarchy.cons_descendants_subset (mem_cons_descendants_iff.mpr resolves.reflTransGen)

theorem cons_descendants_subset_ids (known : x ∈ h.ids) : x :: h.descendants x ⊆ h.ids :=
  fun _ listed => mem_ids_of_reflTransGen known (mem_cons_descendants_iff.mp listed)

/-- Wherever the home is, the scope at it and below lies within its first-level scope. -/
theorem withSelf_subset_firstLevel {self whole : List Int}
    (found : h.resolveScope x false .subOrganizationIncludeSelf = .ok self)
    (first : h.resolveScope x false .firstLevel = .ok whole) : self ⊆ whole := by
  by_cases root : x = rootOrganizationId
  · -- from the root, both scopes are all of the organizations
    simp only [resolveScope, root, Bool.false_eq_true, ↓reduceIte, Except.ok.injEq] at found first
    rw [← found, ← first]
    exact List.Subset.refl _
  cases known : h.contains x with
  | false =>
    obtain ⟨none, noneBelow⟩ := resolveScope_of_absent root known
    cases found.symm.trans noneBelow
    exact List.nil_subset whole
  | true =>
    have member := contains_iff.mp known
    rw [resolveScope_withSelf_of_mem root member, Except.ok.injEq] at found
    rw [resolveScope_firstLevel_of_mem root member] at first
    cases climbs : h.firstLevelAncestor x with
    | error reason =>
      rw [climbs] at first
      cases first
    | ok a =>
      rw [climbs, Except.ok.injEq] at first
      rw [← found, ← first]
      exact (firstLevelAncestor_eq_ok_iff.mp climbs).cons_descendants_subset

theorem listingScope_nests (ordinary : isSuperAdmin caller.id = false)
    {listing authorized : List Int}
    (done : (h.listingScope caller).outcome = .ok (listing, authorized)) :
    authorized ⊆ listing := by
  simp only [listingScope, ordinary, Bool.false_eq_true, ↓reduceIte, Journal.outcome_bind_eq_ok,
    scopeOf_eq_ok, Journal.outcome_pure_eq_ok, Prod.mk.injEq] at done
  obtain ⟨whole, first, self, found, rfl, rfl⟩ := done
  exact List.cons_subset_cons _ (withSelf_subset_firstLevel found first)

end Tenancy.Hierarchy

namespace Tenancy

open Hierarchy in
/-- The walk downwards ends on any rows. It lists each organization at most once, and it lists just
the organizations other than `x` to which a chain of rows leads from `x`, each row under the one
before. -/
theorem descendants_end_chains (h : Hierarchy) (x : Int) :
    (h.descendants x).Nodup ∧
    ∀ y, y ∈ h.descendants x ↔ y ≠ x ∧
      ∃ chain : List Int, chain.getLast? = some y ∧
        List.IsChain (fun p c => ∃ row ∈ h, row.id = some c ∧ row.parent = p) (x :: chain) := by
  refine ⟨nodup_descendants h x, fun y => ?_⟩
  rw [mem_descendants_iff, transGen_iff_chain]
  rfl

open Hierarchy in
/-- Scopes are nested wherever the root has no row, with ids repeated and parents in a circle. The
scope below an organization does not hold it, and is the scope with it otherwise. This one lies
within the first-level scope if there is one, and what an account at one of its members may act on
is in it as well. All of them consist of organizations. So a listing marks only what it lists. -/
theorem scopes_nest {h : Hierarchy} (rootless : rootOrganizationId ∉ h.ids) :
    (∀ x ∈ h.ids, ∃ below self,
      h.resolveScope x false .subOrganization = .ok below ∧
      h.resolveScope x false .subOrganizationIncludeSelf = .ok self ∧
      x ∉ below ∧ (∀ y, y ∈ self ↔ y = x ∨ y ∈ below) ∧ self ⊆ h.ids ∧
      (∀ a, h.firstLevelAncestor x = .ok a → ∃ whole,
        h.resolveScope x false .firstLevel = .ok whole ∧ self ⊆ whole ∧ whole ⊆ h.ids) ∧
      ∀ y ∈ self, ∃ inner,
        h.resolveScope y false .subOrganizationIncludeSelf = .ok inner ∧ inner ⊆ self) ∧
    ∀ (caller : Caller) (listing authorized : List Int), isSuperAdmin caller.id = false →
      (h.listingScope caller).outcome = .ok (listing, authorized) → authorized ⊆ listing := by
  have inner : ∀ x ∈ h.ids, x ≠ rootOrganizationId := fun x known root => rootless (root ▸ known)
  refine ⟨fun x known => ?_, fun caller listing authorized ordinary done =>
    listingScope_nests ordinary done⟩
  refine ⟨h.descendants x, x :: h.descendants x, resolveScope_below_of_mem (inner x known) known,
    resolveScope_withSelf_of_mem (inner x known) known,
    not_mem_descendants h x, fun y => List.mem_cons,
    cons_descendants_subset_ids known, fun a climbs => ?_, fun y listed => ?_⟩
  · have member := firstLevelAncestor_eq_ok_iff.mp climbs
    refine ⟨a :: h.descendants a, ?_, member.cons_descendants_subset,
      cons_descendants_subset_ids member.last.mem_ids⟩
    rw [resolveScope_firstLevel_of_mem (inner x known) known, climbs]
  · have present := cons_descendants_subset_ids known listed
    exact ⟨y :: h.descendants y, resolveScope_withSelf_of_mem (inner y present) present,
      cons_descendants_subset listed⟩

/-- The rows of the lab disagree about its parent, and a first row of the headquarters puts them
below the bench in their own lab. -/
def knot : Hierarchy := [
    ⟨some 1, some "headquarters", 3⟩, ⟨some 2, some "lab", 5⟩, ⟨some 3, some "bench", 2⟩,
    ⟨some 2, some "lab", 1⟩, ⟨some 1, some "headquarters", -1⟩, ⟨some 5, some "branch", -1⟩]

/-- The lab climbs to the headquarters, which it has below it as well, so that the two have the same
scopes with themselves. A listing for an account in the lab marks no more than it lists. -/
theorem knot_scopes_nest :
    rootOrganizationId ∉ knot.ids ∧
    (∃ below self,
      knot.resolveScope 2 false .subOrganization = .ok below ∧
      knot.resolveScope 2 false .subOrganizationIncludeSelf = .ok self ∧
      2 ∉ below ∧ self ⊆ knot.ids ∧
      (∃ whole, knot.resolveScope 2 false .firstLevel = .ok whole ∧ self ⊆ whole) ∧
      1 ∈ self ∧ ∃ inner, knot.resolveScope 1 false .subOrganizationIncludeSelf = .ok inner ∧
        inner ⊆ self) ∧
    ∃ listing authorized, (knot.listingScope ⟨some 7, 2⟩).outcome = .ok (listing, authorized) ∧
      authorized ⊆ listing := by
  have rootless : rootOrganizationId ∉ knot.ids := by decide
  obtain ⟨nested, listings⟩ := scopes_nest rootless
  obtain ⟨below, self, foundBelow, found, strict, adds, known, first, members⟩ :=
    nested 2 (by decide)
  obtain ⟨whole, foundFirst, within, -⟩ := first 1 (by decide +kernel)
  have above : 1 ∈ self := by
    have same : knot.resolveScope 2 false .subOrganizationIncludeSelf = .ok [2, 3, 1] := by
      decide +kernel
    rw [Except.ok.inj (found.symm.trans same)]
    decide
  refine ⟨rootless, ⟨below, self, foundBelow, found, strict, known, ⟨whole, foundFirst, within⟩,
    above, members 1 above⟩, ?_⟩
  have done : (knot.listingScope ⟨some 7, 2⟩).outcome = .ok ([2, 1, 2, 3], [2, 2, 3, 1]) := by
    decide +kernel
  exact ⟨_, _, done, listings _ _ _ (by decide) done⟩

end Tenancy
