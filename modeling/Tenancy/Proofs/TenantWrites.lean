import Tenancy.Proofs.Guard
import Tenancy.Proofs.Numbering

/-!
# What members of a tenant write

A run that is issued only by members of one tenant adds organizations and accounts to this tenant
and leaves the others as they are (`tenants_write_only_their_own`).

* `tenantStep_of_moved` is the step: what is new is within the tenant of its maker, a new
  organization below the home of its maker, and no other tenant gains or loses a row.
* `tenantRun_of_reaches` carries it along runs, and the scopes of the other tenants follow, as they
  can be read off their rows.
-/

namespace Tenancy

namespace Database

variable {db : Database}

theorem Extends.hierarchy {former : Database} (grown : former.Extends db) :
    ∀ row ∈ former.hierarchy, row ∈ db.hierarchy := by
  intro row present
  obtain ⟨o, listed, rfl⟩ := List.mem_map.mp present
  exact List.mem_map_of_mem (grown.organizations.subset listed)

end Database

namespace State

variable {s t u v : State} {a : Int}

/-- The account is an ordinary one whose home climbs to `a`. -/
def IsMember (s : State) (a id : Int) : Prop :=
  id ≠ superAdminId ∧ ∃ account ∈ s.database.accounts, account.id = id ∧
    s.database.hierarchy.firstLevelAncestor account.organizationId = .ok a

instance (s : State) (a id : Int) : Decidable (s.IsMember a id) :=
  inferInstanceAs (Decidable (_ ∧ _))

/-- The operation is issued by a member of the tenant of `a`. -/
def IssuedWithin (a : Int) (s : State) (operation : Operation) : Prop :=
  operation.IssuedBy (s.IsMember a)

/-- Whoever asks and is a member has its home within the tenant. -/
theorem IsMember.home (numbered : s.database.WellNumbered) {current : Account}
    (member : s.IsMember a current.id) (present : current ∈ s.database.accounts) :
    isSuperAdmin (some current.id) = false ∧
      s.database.hierarchy.Resolves current.organizationId a := by
  obtain ⟨ordinary, account, listed, same, climbs⟩ := member
  obtain rfl := List.inj_on_of_nodup_map numbered.accounts.nodup listed present same
  exact ⟨isSuperAdmin_eq_false ordinary, Hierarchy.firstLevelAncestor_eq_ok_iff.mp climbs⟩

/-! ## One step -/

/-- An organization that a member makes is below its home, and no other tenant notices. -/
theorem OrganizationMade.within (numbered : s.database.WellNumbered)
    (later : t.database.WellNumbered) {caller : Int} {request : NewOrganization} {o : Organization}
    {current : Account} (made : OrganizationMade s caller request t o current)
    (member : s.IsMember a caller) :
    t.database.hierarchy.Resolves o.id a ∧ o.parentId ≠ rootOrganizationId ∧
      o.id ∈ t.database.hierarchy.descendants current.organizationId ∧
      ∀ b, b ≠ a → t.database.hierarchy.tenant b = s.database.hierarchy.tenant b := by
  obtain ⟨present, rfl⟩ := mem_of_account made.asking
  obtain ⟨ordinary, home⟩ := member.home numbered present
  have below := Hierarchy.below_of_checkParent numbered.proper home ordinary rfl made.permitted
  rw [← made.parentId] at below
  have nested : o.parentId ≠ rootOrganizationId := by
    rcases Relation.ReflTransGen.cases_tail below with same | ⟨p, -, link⟩
    · exact same ▸ numbered.proper.ne_root home.mem_ids
    · exact numbered.proper.ne_root link.mem_ids
  let row : HierarchyRow := ⟨some o.id, some o.name, o.parentId⟩
  have grown : t.database.hierarchy = s.database.hierarchy ++ [row] := by
    rw [made.state]
    exact Database.hierarchy_append _ o
  have proper := later.proper
  rw [grown] at proper ⊢
  have old : ∀ r ∈ s.database.hierarchy, r ∈ s.database.hierarchy ++ [row] :=
    fun r listed => List.mem_append_left _ listed
  have under : (s.database.hierarchy ++ [row]).Child o.parentId o.id :=
    ⟨row, List.mem_append_right _ List.mem_cons_self, rfl, rfl⟩
  have fresh : o.id ∉ s.database.hierarchy.ids := by
    rw [Database.ids_hierarchy, made.id]
    exact Database.nextId_not_mem _
  have chain : Relation.TransGen (s.database.hierarchy ++ [row]).Child
      current.organizationId o.id := by
    refine .tail' (Relation.ReflTransGen.mono (fun p c link => ?_) _ _ below) under
    obtain ⟨r, listed, fits⟩ := link
    exact ⟨r, old r listed, fits⟩
  have resolves := proper.resolves_of_transGen (home.mono old proper.nodup) chain
  have inner : o.id ≠ current.organizationId := fun same => fresh (same ▸ home.mem_ids)
  exact ⟨resolves, nested, Hierarchy.mem_descendants_iff.mpr ⟨inner, chain⟩,
    fun b other => Hierarchy.tenant_append fresh rfl proper resolves other⟩

/-- What one operation of a member does. -/
structure TenantStep (a : Int) (s : State) (operation : Operation) (t : State) : Prop where
  organizations : ∀ o ∈ t.database.organizations, o ∉ s.database.organizations →
    t.database.hierarchy.Resolves o.id a ∧ o.parentId ≠ rootOrganizationId ∧
      ∃ creator ∈ s.database.accounts, ∃ request,
        operation = .perform creator.id (.createOrganization request) ∧
        (s.createOrganization creator.id request).outcome = .ok (t, o) ∧
        o.id ∈ t.database.hierarchy.descendants creator.organizationId
  accounts : ∀ c ∈ t.database.accounts, c ∉ s.database.accounts →
    t.database.hierarchy.Resolves c.organizationId a
  others : ∀ b, b ≠ a → t.database.hierarchy.tenant b = s.database.hierarchy.tenant b

theorem tenantStep_of_same {operation : Operation}
    (organizations : t.database.organizations = s.database.organizations)
    (accounts : t.database.accounts = s.database.accounts) : TenantStep a s operation t where
  organizations o present new := absurd (organizations ▸ present) new
  accounts c present new := absurd (accounts ▸ present) new
  others b _ := by rw [Database.hierarchy, organizations, ← Database.hierarchy]

theorem tenantStep_of_moved (numbered : s.database.WellNumbered)
    (later : t.database.WellNumbered) {operation : Operation} (moved : Moved s operation t)
    (issued : IssuedWithin a s operation) : TenantStep a s operation t := by
  cases moved with
  | still => exact tenantStep_of_same rfl rfl
  | bootstrap => exact issued.elim
  | @account caller request _ row done =>
    obtain ⟨current, made⟩ := accountMade done
    have member : s.IsMember a caller := issued
    obtain ⟨present, rfl⟩ := mem_of_account made.asking
    obtain ⟨ordinary, home⟩ := member.home numbered present
    have within := Hierarchy.resolves_of_checkScope numbered.proper home ordinary rfl made.permitted
    rw [made.state]
    refine ⟨fun o listed new => absurd listed new, fun c listed new => ?_, fun _ _ => rfl⟩
    rcases List.mem_append.mp listed with old | last
    · exact absurd old new
    · rw [List.mem_singleton.mp last]
      exact within
  | role done =>
    obtain ⟨menus, current, made⟩ := roleMade done
    rw [made.state]
    exact tenantStep_of_same rfl rfl
  | @organization caller request _ row done =>
    obtain ⟨current, made⟩ := organizationMade done
    have member : s.IsMember a caller := issued
    obtain ⟨within, nested, below, others⟩ := made.within numbered later member
    obtain ⟨present, rfl⟩ := mem_of_account made.asking
    have organizations : t.database.organizations = s.database.organizations ++ [row] := by
      rw [made.state]
    have accounts : t.database.accounts = s.database.accounts := by rw [made.state]
    refine ⟨fun o listed new => ?_, fun c listed new => absurd (accounts ▸ listed) new, others⟩
    rw [organizations] at listed
    rcases List.mem_append.mp listed with old | last
    · exact absurd old new
    · obtain rfl := List.mem_singleton.mp last
      exact ⟨within, nested, current, present, request, rfl, done, below⟩
  | policy done =>
    rw [loadPolicy_ok done]
    exact tenantStep_of_same rfl rfl
  | entry done =>
    rw [(recorded done).2]
    exact tenantStep_of_same rfl rfl

/-! ## Runs -/

/-- What a run of members does. -/
structure TenantRun (a : Int) (s t : State) : Prop where
  organizations : ∀ o ∈ t.database.organizations, o ∉ s.database.organizations →
    t.database.hierarchy.Resolves o.id a ∧ o.parentId ≠ rootOrganizationId ∧
      ∃ u v creator request, Reaches (IssuedWithin a) s u ∧ creator ∈ u.database.accounts ∧
        (u.createOrganization creator.id request).outcome = .ok (v, o) ∧
        Reaches (IssuedWithin a) v t ∧
        o.id ∈ t.database.hierarchy.descendants creator.organizationId
  accounts : ∀ c ∈ t.database.accounts, c ∉ s.database.accounts →
    t.database.hierarchy.Resolves c.organizationId a
  others : ∀ b, b ≠ a → t.database.hierarchy.tenant b = s.database.hierarchy.tenant b

theorem tenantRun_of_reaches (numbered : s.database.WellNumbered)
    (run : Reaches (IssuedWithin a) s t) : TenantRun a s t := by
  induction run with
  | refl =>
    exact ⟨fun o old new => absurd old new, fun c old new => absurd old new, fun _ _ => rfl⟩
  | @step u operation before issued ih =>
    have moved := moved_step u operation
    have middle := before.wellNumbered numbered
    have later := wellNumbered_moved moved middle
    have grown := (extends_of_moved moved).hierarchy
    have here := tenantStep_of_moved middle later moved issued
    refine ⟨fun o present new => ?_, fun c present new => ?_, fun b other => ?_⟩
    · -- made by an earlier step, it stays below its maker's home; or this step made it
      by_cases old : o ∈ u.database.organizations
      · obtain ⟨within, nested, w, v, creator, request, first, listed, done, rest, below⟩ :=
          ih.organizations o old new
        exact ⟨within.mono grown later.proper.nodup, nested, w, v, creator, request, first, listed,
          done, rest.step issued, Hierarchy.descendants_mono grown below⟩
      · obtain ⟨within, nested, creator, listed, request, -, done, below⟩ :=
          here.organizations o present old
        exact ⟨within, nested, u, _, creator, request, before, listed, done, .refl, below⟩
    · by_cases old : c ∈ u.database.accounts
      · exact (ih.accounts c old new).mono grown later.proper.nodup
      · exact here.accounts c present old
    · rw [here.others b other, ih.others b other]

end State

/-- In a run that is issued only by members of the tenant of `a`, nothing that was there changes,
all that is new belongs to that tenant, and the scopes of the other tenants stay what they were. -/
theorem tenants_write_only_their_own {s t : State} (a : Int) (reachable : s.Reachable)
    (run : State.Reaches (State.IssuedWithin a) s t) :
    s.database.organizations <+: t.database.organizations ∧
    s.database.accounts <+: t.database.accounts ∧
    (∀ o ∈ t.database.organizations, o ∉ s.database.organizations →
      t.database.hierarchy.firstLevelAncestor o.id = .ok a ∧
        ∃ u v creator request, State.Reaches (State.IssuedWithin a) s u ∧
          creator ∈ u.database.accounts ∧
          (u.createOrganization creator.id request).outcome = .ok (v, o) ∧
          State.Reaches (State.IssuedWithin a) v t ∧
          o.id ∈ t.database.hierarchy.descendants creator.organizationId) ∧
    (∀ c ∈ t.database.accounts, c ∉ s.database.accounts →
      t.database.hierarchy.firstLevelAncestor c.organizationId = .ok a) ∧
    (∀ x b, s.database.hierarchy.firstLevelAncestor x = .ok b → b ≠ a →
      t.database.hierarchy.firstLevelAncestor x = .ok b ∧
        ∀ limit, t.database.hierarchy.resolveScope x false limit =
          s.database.hierarchy.resolveScope x false limit) ∧
    ∀ o ∈ t.database.organizations, o.parentId = rootOrganizationId →
      o ∈ s.database.organizations := by
  have numbered := reachable.wellNumbered
  have later := run.wellNumbered numbered
  have grown := run.extends
  obtain ⟨organizations, accounts, others⟩ := State.tenantRun_of_reaches numbered run
  simp only [Hierarchy.firstLevelAncestor_eq_ok_iff]
  refine ⟨grown.organizations, grown.accounts, fun o present new => ?_, accounts,
    fun x b climbs other => ?_, fun o present top => ?_⟩
  · obtain ⟨within, -, made⟩ := organizations o present new
    exact ⟨within, made⟩
  · have same := (others b other).symm
    exact ⟨climbs.congr same, fun limit =>
      (Hierarchy.resolveScope_congr same numbered.proper later.proper climbs limit).symm⟩
  · by_contra new
    exact (organizations o present new).2.1 top

/-- The manager of the company makes an organization with an account, and this account makes another
organization below it. -/
def expansion : List Operation := [
    .perform 2 (.createOrganization { name := "lab", parentId := 1 }),
    .perform 2 (.createAccount
      { name := "carol", password := "carol12345", email := none, organizationId := 3
        roleId := 1 }),
    .perform 3 (.createOrganization { name := "bench", parentId := 3 })]

/-- The expansion adds to the headquarters and leaves the branch alone. -/
theorem expansion_leaves_branch_alone :
    company.Reachable ∧
    State.Reaches (State.IssuedWithin 1) company (company.run expansion) ∧
    (∃ o ∈ (company.run expansion).database.organizations,
      o ∉ company.database.organizations ∧
      (company.run expansion).database.hierarchy.firstLevelAncestor o.id = .ok 1) ∧
    ∀ limit, (company.run expansion).database.hierarchy.resolveScope 2 false limit =
      company.database.hierarchy.resolveScope 2 false limit := by
  have run : State.Reaches (State.IssuedWithin 1) company (company.run expansion) := by
    refine .run_cons ?_ (.run_cons ?_ (.run_cons ?_ .refl))
    · show company.IsMember 1 2
      decide +kernel
    · show State.IsMember _ 1 2
      decide +kernel
    · show State.IsMember _ 1 3
      decide +kernel
  obtain ⟨-, -, organizations, -, others, -⟩ :=
    tenants_write_only_their_own 1 reachable_company run
  have made : ∃ o ∈ (company.run expansion).database.organizations,
      o ∉ company.database.organizations := by decide +kernel
  obtain ⟨o, present, new⟩ := made
  exact ⟨reachable_company, run, ⟨o, present, new, (organizations o present new).1⟩,
    (others 2 2 (by decide +kernel) (by decide)).2⟩

end Tenancy
