import Tenancy.Proofs.Guard
import Tenancy.Proofs.Tenant
import Tenancy.State.Command

/-!
# What members of a tenant read

Two states that have the same tenant, with the same accounts and the same entries of these accounts,
answer its members alike, whatever else is in them (`members_read_only_their_tenant`): every row
that an answer shows or counts passes a test that only rows of the tenant pass, so it can be looked
for among these rows.
-/

namespace Tenancy

/-- Two lists with the same rows of a kind agree on every test that only rows of this kind pass. -/
theorem filter_congr_of_within {α : Type} {l m : List α} {p q r : α → Bool}
    (same : l.filter q = m.filter r) (left : ∀ x ∈ l, p x = true → q x = true)
    (right : ∀ x ∈ m, p x = true → r x = true) : l.filter p = m.filter p := by
  have within : ∀ (n : List α) (k : α → Bool), (∀ x ∈ n, p x = true → k x = true) →
      (n.filter k).filter p = n.filter p := by
    intro n k inside
    rw [List.filter_filter]
    refine List.filter_congr fun x listed => ?_
    cases passes : p x with
    | false => rfl
    | true => rw [inside x listed passes]; rfl
  rw [← within l q left, same, within m r right]

namespace Database

variable (db : Database)

/-- The organizations that climb to `a`. -/
def tenantOrganizations (a : Int) : List Organization :=
  db.organizations.filter fun o => db.hierarchy.firstLevelAncestor o.id = .ok a

/-- The accounts that are homed in an organization that climbs to `a`. -/
def tenantAccounts (a : Int) : List Account :=
  db.accounts.filter fun c => db.hierarchy.firstLevelAncestor c.organizationId = .ok a

/-- The entries of these accounts. -/
def tenantLogs (a : Int) : List OperationLog :=
  db.operationLogs.filter fun l => l.accountId ∈ (db.tenantAccounts a).map (·.id)

/-- Ids are unique, and no organization is the root. -/
structure Keyed : Prop where
  organizations : (db.organizations.map (·.id)).Nodup
  accounts : (db.accounts.map (·.id)).Nodup
  operationLogs : (db.operationLogs.map (·.id)).Nodup
  rootless : rootOrganizationId ∉ db.organizations.map (·.id)

/-- The databases have the same rows of the tenant of `a`. -/
structure SameTenant (a : Int) (first second : Database) : Prop where
  organizations : first.tenantOrganizations a = second.tenantOrganizations a
  accounts : first.tenantAccounts a = second.tenantAccounts a
  operationLogs : first.tenantLogs a = second.tenantLogs a

variable {db} {a : Int} {first second : Database}

theorem Keyed.proper (keyed : db.Keyed) : db.hierarchy.Proper :=
  proper_hierarchy keyed.organizations keyed.rootless

theorem tenant_hierarchy (db : Database) (a : Int) :
    db.hierarchy.tenant a =
      (db.tenantOrganizations a).map fun o => ⟨some o.id, some o.name, o.parentId⟩ := by
  rw [Hierarchy.tenant, hierarchy, List.filter_map, tenantOrganizations]
  rfl

theorem SameTenant.hierarchy (same : SameTenant a first second) :
    first.hierarchy.tenant a = second.hierarchy.tenant a := by
  rw [tenant_hierarchy, tenant_hierarchy, same.organizations]

theorem mem_tenantAccounts {c : Account} :
    c ∈ db.tenantAccounts a ↔
      c ∈ db.accounts ∧ db.hierarchy.Resolves c.organizationId a := by
  rw [tenantAccounts, List.mem_filter, decide_eq_true_iff, Hierarchy.firstLevelAncestor_eq_ok_iff]

end Database

@[simp] theorem Account.caller_id (c : Account) : c.caller.id = some c.id := rfl

@[simp] theorem Account.caller_home (c : Account) : c.caller.home = c.organizationId := rfl

namespace State

variable {s t : State} {a : Int} {current : Account}

/-- What the comparison of two states is about: an ordinary account that both hold, homed in the
tenant that they share. -/
structure Alike (a : Int) (current : Account) (s t : State) : Prop where
  keyed : s.database.Keyed
  otherKeyed : t.database.Keyed
  same : s.database.SameTenant a t.database
  ordinary : current.id ≠ superAdminId
  present : current ∈ s.database.accounts
  otherPresent : current ∈ t.database.accounts
  home : s.database.hierarchy.firstLevelAncestor current.organizationId = .ok a

namespace Alike

variable (alike : Alike a current s t)
include alike

theorem member : s.database.hierarchy.Resolves current.organizationId a :=
  Hierarchy.firstLevelAncestor_eq_ok_iff.mp alike.home

theorem isSuperAdmin_eq : isSuperAdmin (some current.id) = false :=
  isSuperAdmin_eq_false alike.ordinary

theorem account_eq : s.account current.id = t.account current.id := by
  simp only [State.account, Database.account,
    Database.lookup_congr alike.keyed.accounts alike.present alike.otherKeyed.accounts
      alike.otherPresent]

/-- Only the account itself is found under its id. -/
theorem eq_of_account {found : Account} (asking : (s.account current.id).outcome = .ok found) :
    found = current :=
  Database.eq_of_lookup alike.keyed.accounts alike.present asking

theorem resolveScope_eq (limit : LimitType) :
    s.database.hierarchy.resolveScope current.organizationId false limit =
      t.database.hierarchy.resolveScope current.organizationId false limit :=
  Hierarchy.resolveScope_congr alike.same.hierarchy alike.keyed.proper alike.otherKeyed.proper
    alike.member limit

theorem resolves_iff {x : Int} :
    s.database.hierarchy.Resolves x a ↔ t.database.hierarchy.Resolves x a :=
  ⟨fun climbs => climbs.congr alike.same.hierarchy,
    fun climbs => climbs.congr alike.same.hierarchy.symm⟩

/-- A scope of the account holds members only. -/
theorem within_of_scope {x : Int} :
    x ∈ current.organizationId :: s.database.hierarchy.descendants current.organizationId →
      s.database.hierarchy.Resolves x a := by
  intro listed
  rcases List.mem_cons.mp listed with rfl | below
  · exact alike.member
  · exact alike.keyed.proper.resolves_of_transGen alike.member
      (Hierarchy.mem_descendants_iff.mp below).2

/-- A test of accounts that lets only homes within the tenant pass finds the same accounts. -/
theorem filter_accounts {p : Account → Bool}
    (within : ∀ c, p c = true → s.database.hierarchy.Resolves c.organizationId a) :
    s.database.accounts.filter p = t.database.accounts.filter p := by
  refine filter_congr_of_within alike.same.accounts (fun c _ passes => ?_) fun c _ passes => ?_
  · rw [decide_eq_true_iff, Hierarchy.firstLevelAncestor_eq_ok_iff]
    exact within c passes
  · rw [decide_eq_true_iff, Hierarchy.firstLevelAncestor_eq_ok_iff, ← alike.resolves_iff]
    exact within c passes

/-! ## The three answers -/

theorem scopeOf_eq (limit : LimitType) :
    s.database.hierarchy.scopeOf current.caller limit =
      t.database.hierarchy.scopeOf current.caller limit := by
  simp only [Hierarchy.scopeOf, Account.caller_id, Account.caller_home, alike.isSuperAdmin_eq,
    alike.resolveScope_eq]

theorem listingScope_eq :
    s.database.hierarchy.listingScope current.caller =
      t.database.hierarchy.listingScope current.caller := by
  simp only [Hierarchy.listingScope, Account.caller_id, alike.isSuperAdmin_eq, Bool.false_eq_true,
    ↓reduceIte, alike.scopeOf_eq]

/-- Only accounts of the tenant are listed. -/
theorem within_of_listed {visible authorized : List Int} {x : Int}
    (found : (s.database.hierarchy.listingScope current.caller).outcome =
      .ok (visible, authorized)) (listed : visible = [] ∨ x ∈ visible) :
    s.database.hierarchy.Resolves x a := by
  have proper := alike.keyed.proper
  simp only [Hierarchy.listingScope, Account.caller_id, Account.caller_home, alike.isSuperAdmin_eq,
    Bool.false_eq_true, ↓reduceIte, Journal.outcome_bind_eq_ok, Hierarchy.scopeOf_eq_ok,
    Hierarchy.resolveScope_firstLevel proper alike.member] at found
  obtain ⟨listing, same, _, _, made⟩ := found
  cases same
  cases made
  rcases listed with none | listed
  · cases none
  · rcases List.mem_cons.mp listed with rfl | inside
    · exact alike.member
    · exact (proper.mem_firstLevel_iff alike.member.last).mp inside

theorem listAccounts_eq (page : Page) (filter : AccountFilter) :
    s.listAccounts current.id page filter = t.listAccounts current.id page filter := by
  unfold listAccounts
  refine Journal.bind_congr alike.account_eq fun found asking => ?_
  obtain rfl := alike.eq_of_account asking
  -- the hierarchies may differ, but only the scopes are read off them
  refine Journal.read_bind_congr ?_
  refine Journal.bind_congr alike.listingScope_eq fun (visible, authorized) found => ?_
  refine Journal.bind_congr rfl fun _ _ => ?_
  have rows := alike.filter_accounts
    (p := fun c => (visible = [] || c.organizationId ∈ visible) && filter.accepts c)
    fun c passes => by
      rw [Bool.and_eq_true, Bool.or_eq_true, decide_eq_true_iff, decide_eq_true_iff] at passes
      exact alike.within_of_listed found passes.1
  rw [rows]

theorem organizationTree_eq (limit : LimitType) :
    s.organizationTree current.id limit = t.organizationTree current.id limit := by
  unfold organizationTree
  refine Journal.bind_congr alike.account_eq fun found asking => ?_
  obtain rfl := alike.eq_of_account asking
  refine Journal.read_bind_congr ?_
  rw [Hierarchy.homeView_congr alike.same.hierarchy alike.keyed.proper alike.otherKeyed.proper
    alike.member limit]

theorem overseen_eq : s.overseen current = t.overseen current := by
  unfold overseen
  rw [alike.isSuperAdmin_eq]
  refine Journal.read_bind_congr ?_
  refine Journal.bind_congr (alike.scopeOf_eq _) fun scope found => ?_
  rw [Hierarchy.scopeOf_eq_ok, Account.caller_id, Account.caller_home, alike.isSuperAdmin_eq,
    Hierarchy.resolveScope_subOrganization alike.keyed.proper alike.member] at found
  cases found
  have rows := alike.filter_accounts
    (p := fun c => c.organizationId ∈ s.database.hierarchy.descendants current.organizationId)
    fun c passes => alike.within_of_scope (List.mem_cons_of_mem _ (of_decide_eq_true passes))
  rw [rows]

/-- Only entries of accounts of the tenant are seen. -/
theorem within_of_overseen {seen : Option (List Int)} {l : OperationLog}
    (found : (s.overseen current).outcome = .ok seen)
    (passes : seen.all (l.accountId ∈ ·) = true) :
    l.accountId ∈ (s.database.tenantAccounts a).map (·.id) := by
  simp only [overseen, Account.caller_id, Account.caller_home, alike.isSuperAdmin_eq,
    Bool.false_eq_true, ↓reduceIte, Journal.outcome_bind_eq_ok, Hierarchy.scopeOf_eq_ok] at found
  obtain ⟨h, read, scope, same, below, kept, made⟩ := found
  cases read
  rw [Hierarchy.resolveScope_subOrganization alike.keyed.proper alike.member] at same
  cases same
  cases kept
  cases made
  rcases List.mem_cons.mp (of_decide_eq_true passes) with own | below
  · rw [own]
    exact List.mem_map_of_mem (Database.mem_tenantAccounts.mpr ⟨alike.present, alike.member⟩)
  · obtain ⟨c, listed, same⟩ := List.mem_map.mp below
    obtain ⟨present, inside⟩ := List.mem_filter.mp listed
    rw [← same]
    exact List.mem_map_of_mem (Database.mem_tenantAccounts.mpr
      ⟨present, alike.within_of_scope (List.mem_cons_of_mem _ (of_decide_eq_true inside))⟩)

theorem listOperationLogs_eq (page : Page) :
    s.listOperationLogs current.id page = t.listOperationLogs current.id page := by
  unfold listOperationLogs
  refine Journal.bind_congr alike.account_eq fun found asking => ?_
  obtain rfl := alike.eq_of_account asking
  refine Journal.bind_congr alike.overseen_eq fun seen found => ?_
  have rows := filter_congr_of_within (p := fun l => seen.all (l.accountId ∈ ·))
    alike.same.operationLogs
    (fun l _ passes => decide_eq_true (alike.within_of_overseen found passes))
    (fun l _ passes => decide_eq_true
      (alike.same.accounts ▸ alike.within_of_overseen found passes))
  rw [rows]

end Alike

end State

/-- Two states that have the same tenant answer its members alike, whatever else is in them. -/
theorem members_read_only_their_tenant {s t : State} {a : Int} {current : Account}
    (keyed : s.database.Keyed) (otherKeyed : t.database.Keyed)
    (ordinary : current.id ≠ superAdminId)
    (present : current ∈ s.database.accounts) (otherPresent : current ∈ t.database.accounts)
    (home : s.database.hierarchy.firstLevelAncestor current.organizationId = .ok a)
    (same : s.database.SameTenant a t.database) :
    (∀ page filter,
      s.listAccounts current.id page filter = t.listAccounts current.id page filter) ∧
    (∀ limit, s.organizationTree current.id limit = t.organizationTree current.id limit) ∧
    ∀ page, s.listOperationLogs current.id page = t.listOperationLogs current.id page := by
  have alike : State.Alike a current s t :=
    ⟨keyed, otherKeyed, same, ordinary, present, otherPresent, home⟩
  exact ⟨alike.listAccounts_eq, alike.organizationTree_eq, alike.listOperationLogs_eq⟩

/-- An account that is homed in an organization. -/
def employee (id : Int) (name : String) (home : Int) : Account :=
  { id, name, passwordHash := "", email := none, phone := none, organizationId := home
    organizationName := "", roleId := 1, roleName := "manager", isDeletable := true }

/-- An entry of an account. -/
def entry (id accountId : Int) : OperationLog :=
  { id, accountId, accountName := "", ipAddress := noAddress, userAgent := noAgent
    type := "CREATE", area := "", description := "", result := "SUCCESS" }

/-- One tenant with two accounts. -/
def alone : Database :=
  { organizations := [⟨1, "headquarters", -1, none⟩, ⟨2, "lab", 1, some "headquarters"⟩]
    accounts := [employee 2 "alice" 1, employee 4 "bob" 2]
    operationLogs := [entry 1 2, entry 3 4] }

/-- The same tenant beside another one, a cycle and an orphan, with accounts of theirs. -/
def amongStrangers : Database :=
  { organizations := [⟨1, "headquarters", -1, none⟩, ⟨2, "lab", 1, some "headquarters"⟩,
      ⟨3, "branch", -1, none⟩, ⟨4, "hen", 5, none⟩, ⟨5, "egg", 4, none⟩, ⟨6, "orphan", 9, none⟩]
    accounts := [employee 2 "alice" 1, employee 3 "carol" 3, employee 4 "bob" 2,
      employee 5 "dave" 5]
    operationLogs := [entry 1 2, entry 2 3, entry 3 4, entry 4 5] }

/-- An account of the tenant cannot tell the two databases apart. -/
theorem alice_sees_no_strangers :
    alone.Keyed ∧ amongStrangers.Keyed ∧ alone.SameTenant 1 amongStrangers ∧
    alone ≠ amongStrangers ∧
    (∀ page filter, State.listAccounts { database := alone } 2 page filter =
      State.listAccounts { database := amongStrangers } 2 page filter) ∧
    (∀ limit, State.organizationTree { database := alone } 2 limit =
      State.organizationTree { database := amongStrangers } 2 limit) ∧
    ∀ page, State.listOperationLogs { database := alone } 2 page =
      State.listOperationLogs { database := amongStrangers } 2 page := by
  have keyed : alone.Keyed := by constructor <;> decide
  have otherKeyed : amongStrangers.Keyed := by constructor <;> decide
  have same : alone.SameTenant 1 amongStrangers := by constructor <;> decide +kernel
  have present : employee 2 "alice" 1 ∈ alone.accounts := by decide
  exact ⟨keyed, otherKeyed, same, by decide, members_read_only_their_tenant
    (s := { database := alone }) (t := { database := amongStrangers }) keyed otherKeyed
    (by decide) present (by decide) (by decide +kernel) same⟩

end Tenancy
