import Tenancy.Organization.View
import Tenancy.Proofs.Ancestry
import Tenancy.Proofs.Labels
import Tenancy.Proofs.Outcome

/-!
# Tenants

The tenant of a first-level organization consists of the rows of the organizations that climb to
it. It is closed downwards, and what the hierarchy says about its members can be read off its rows:
if two hierarchies have the same tenant, then they agree on the parents, the scopes
(`resolveScope_congr`) and the tree views (`homeView_congr`) of its members, whatever else is in
them.
-/

namespace Tenancy.Hierarchy

/-- Whether `x` climbs to `a`. -/
def belongs (h : Hierarchy) (a x : Int) : Bool :=
  h.firstLevelAncestor x = .ok a

/-- The rows of the organizations that climb to `a`. -/
def tenant (h : Hierarchy) (a : Int) : Hierarchy :=
  h.filter fun row => row.id.any (h.belongs a)

variable {h g : Hierarchy} {a k x : Int} {row : HierarchyRow}

theorem belongs_iff : h.belongs a x = true ↔ h.Resolves x a := by
  rw [belongs, decide_eq_true_iff, firstLevelAncestor_eq_ok_iff]

theorem mem_tenant :
    row ∈ h.tenant a ↔ row ∈ h ∧ ∃ x, row.id = some x ∧ h.Resolves x a := by
  simp [tenant, Option.any_eq_true, belongs_iff]

/-- The links under a member can be read off the rows of its tenant. -/
theorem childrenOf_tenant (proper : h.Proper) (member : h.Resolves k a) :
    (h.tenant a).childrenOf k = h.childrenOf k := by
  simp only [childrenOf, Links.under, links, List.filterMap_filterMap, tenant,
    List.filterMap_filter]
  refine List.filterMap_congr fun row present => ?_
  cases own : row.id with
  | none => simp
  | some x =>
    by_cases under : row.parent = k
    · have below := proper.resolves_of_child member ⟨row, present, own, under⟩
      simp [belongs_iff.mpr below]
    · simp [under]

/-- A new organization leaves the tenants alone that it is not a member of. -/
theorem tenant_append {n b : Int} (fresh : n ∉ h.ids) (own : row.id = some n)
    (proper : (h ++ [row]).Proper) (member : (h ++ [row]).Resolves n a) (other : b ≠ a) :
    (h ++ [row]).tenant b = h.tenant b := by
  have old : ∀ r ∈ h, r ∈ h ++ [row] := fun r present => List.mem_append_left _ present
  have apart : ∀ x, (h ++ [row]).Resolves x b → x ≠ n := by
    rintro x resolves rfl
    exact other (resolves.unique member)
  have parent : ∀ x, x ≠ n → (h ++ [row]).parent? x = h.parent? x := by
    intro x different
    simp [parent?, row?, own, different.symm]
  rw [tenant, List.filter_append, List.filter_singleton, own]
  have outside : (h ++ [row]).belongs b n = false := by
    rw [Bool.eq_false_iff, ne_eq, belongs_iff]
    exact fun resolves => apart n resolves rfl
  simp only [Option.any_some, outside, cond_false, List.append_nil]
  refine List.filter_congr fun r present => ?_
  cases ownId : r.id with
  | none => rfl
  | some x =>
    rw [Option.any_some, Option.any_some, Bool.eq_iff_iff, belongs_iff, belongs_iff]
    constructor
    · -- a climb to `b` never meets the new organization, so all its parents are old
      exact fun resolves => resolves.transfer fun y p climbs above =>
        parent y (apart y climbs) ▸ above
    · exact fun resolves => resolves.mono old proper.nodup

section SameTenant

variable (same : h.tenant a = g.tenant a)
include same

/-- Members of one hierarchy are members of the other. -/
theorem Resolves.congr (member : h.Resolves x a) : g.Resolves x a := by
  obtain ⟨row, present, own⟩ := Hierarchy.mem_ids.mp member.mem_ids
  have listed := mem_tenant.mpr ⟨present, x, own, member⟩
  rw [same] at listed
  obtain ⟨-, y, otherOwn, otherMember⟩ := mem_tenant.mp listed
  rw [own, Option.some.injEq] at otherOwn
  exact otherOwn ▸ otherMember

variable (proper : h.Proper) (otherProper : g.Proper)
include proper otherProper

theorem row?_congr (member : h.Resolves x a) : h.row? x = g.row? x := by
  obtain ⟨row, present, own⟩ := mem_ids.mp member.mem_ids
  have listed := mem_tenant.mpr ⟨present, x, own, member⟩
  rw [same] at listed
  rw [row?_eq_some proper.nodup present own,
    row?_eq_some otherProper.nodup (mem_tenant.mp listed).1 own]

theorem childrenOf_congr (member : h.Resolves k a) : h.childrenOf k = g.childrenOf k := by
  rw [← childrenOf_tenant proper member, same,
    childrenOf_tenant otherProper (member.congr same)]

theorem descendants_congr (member : h.Resolves x a) : h.descendants x = g.descendants x := by
  rw [descendants, descendants, ← childrenOf_congr same proper otherProper member,
    Links.preorder_congr (fun k => childrenOf_congr same proper otherProper)
      fun k inside y => proper.resolves_of_mem_childrenOf inside]
  intro pending waits
  obtain ⟨y, under, rfl⟩ := List.mem_map.mp waits
  exact proper.resolves_of_mem_childrenOf member under

theorem resolveScope_congr (member : h.Resolves x a) (limit : LimitType) :
    h.resolveScope x false limit = g.resolveScope x false limit := by
  have known : h.contains x = true := contains_iff.mpr member.mem_ids
  have otherKnown : g.contains x = true := contains_iff.mpr (member.congr same).mem_ids
  have inner := proper.ne_root member.mem_ids
  have first : h.firstLevelAncestor x = .ok a := firstLevelAncestor_eq_ok_iff.mpr member
  have otherFirst : g.firstLevelAncestor x = .ok a :=
    firstLevelAncestor_eq_ok_iff.mpr (member.congr same)
  cases limit with
  | root | other => rfl
  | firstLevel =>
    simp only [resolveScope, inner, known, otherKnown, first, otherFirst,
      descendants_congr same proper otherProper member.last]
    rfl
  | subOrganization | subOrganizationIncludeSelf =>
    simp only [resolveScope, inner, known, otherKnown,
      descendants_congr same proper otherProper member]
    rfl

/-! ## Tree views -/

theorem view_congr {roots : List Int} (members : ∀ r ∈ roots, h.Resolves r a)
    (target : Option Int) (inherited : Bool) :
    h.view roots target inherited = g.view roots target inherited := by
  have closed : ∀ k, h.Resolves k a → ∀ y ∈ h.links.under k, h.Resolves y a :=
    fun k inside y => proper.resolves_of_mem_childrenOf inside
  rw [view, view,
    ← Links.forest_congr (fun k => childrenOf_congr same proper otherProper) closed members]
  refine Forest.map_congr fun (x, authorized) labelled => ?_
  have listed : x ∈ (h.links.forest (fun id => id) roots).labels := by
    rw [← map_fst_labels_authorize target inherited]
    exact List.mem_map_of_mem labelled
  have member : h.Resolves x a := Links.of_mem_labels_forest closed members listed
  simp only [name?, row?_congr same proper otherProper member]

theorem firstLevelView_congr (member : h.Resolves x a) (authorized : Int) :
    h.firstLevelView x authorized = g.firstLevelView x authorized := by
  have inner := proper.ne_root member.mem_ids
  have first : h.firstLevelAncestor x = .ok a := firstLevelAncestor_eq_ok_iff.mpr member
  have otherFirst : g.firstLevelAncestor x = .ok a :=
    firstLevelAncestor_eq_ok_iff.mpr (member.congr same)
  have root : ∀ r ∈ [a], h.Resolves r a :=
    fun r listed => List.mem_singleton.mp listed ▸ member.last
  simp only [firstLevelView, if_neg inner, first, otherFirst,
    view_congr same proper otherProper root]

theorem subtreeView_congr (member : h.Resolves x a) : h.subtreeView x = g.subtreeView x := by
  have below : ∀ r ∈ h.childrenOf x, h.Resolves r a :=
    fun r under => proper.resolves_of_mem_childrenOf member under
  simp only [subtreeView, ← childrenOf_congr same proper otherProper member,
    view_congr same proper otherProper below]

theorem homeView_congr (member : h.Resolves x a) (limit : LimitType) :
    h.homeView x limit = g.homeView x limit := by
  simp only [homeView, if_neg (proper.ne_root member.mem_ids),
    firstLevelView_congr same proper otherProper member,
    subtreeView_congr same proper otherProper member]

end SameTenant

end Tenancy.Hierarchy

/-! ## The hierarchy of a database -/

namespace Tenancy.Database

theorem ids_hierarchy (db : Database) : db.hierarchy.ids = db.organizations.map (·.id) := by
  simp [hierarchy, Hierarchy.ids, List.filterMap_map]

theorem proper_hierarchy {db : Database} (nodup : (db.organizations.map (·.id)).Nodup)
    (rootless : rootOrganizationId ∉ db.organizations.map (·.id)) : db.hierarchy.Proper := by
  rw [← ids_hierarchy] at nodup rootless
  exact ⟨nodup, rootless⟩

theorem hierarchy_append (db : Database) (o : Organization) :
    hierarchy { db with organizations := db.organizations ++ [o] } =
      db.hierarchy ++ [⟨some o.id, some o.name, o.parentId⟩] := by
  simp [hierarchy]

end Tenancy.Database
