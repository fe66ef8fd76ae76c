import Tenancy.Proofs.Numbering

/-!
# The first account

Until the first account is made, a database has nothing but entries of the audit trail (`Blank`).
Its making fills the tables of menus and routes, and from then on (`Founded`) these two stay as they
are and the first account is the super administrator's. There is no third kind of reachable state
(`Reachable.blank_or_founded`).
-/

namespace Tenancy

/-- The table of menus after the first account was made. -/
def foundedMenus : List Menu := [
    ⟨1, "system", -1, none, 10⟩,
    ⟨2, "accounts", 1, some "system", 10⟩,
    ⟨3, "roles", 1, some "system", 20⟩,
    ⟨4, "organizations", 1, some "system", 30⟩,
    ⟨5, "operation logs", 1, some "system", 40⟩]

/-- The table of routes after the first account was made. -/
def foundedRoutes : List Route := [
    ⟨1, "/api/accounts", "GET", 2, "accounts"⟩,
    ⟨2, "/api/accounts", "POST", 2, "accounts"⟩,
    ⟨3, "/api/accounts/:id", "GET", 2, "accounts"⟩,
    ⟨4, "/api/roles", "GET", 3, "roles"⟩,
    ⟨5, "/api/roles", "POST", 3, "roles"⟩,
    ⟨6, "/api/roles/:id/detail", "GET", 3, "roles"⟩,
    ⟨7, "/api/organizations", "POST", 4, "organizations"⟩,
    ⟨8, "/api/organizations/:id", "GET", 4, "organizations"⟩,
    ⟨9, "/api/operation-logs", "GET", 5, "operation logs"⟩]

theorem Database.seed_eq (db : Database) (menus : db.menus = []) (routes : db.routes = []) :
    db.seed = .ok { db with menus := foundedMenus, routes := foundedRoutes } := by
  cases db
  cases menus
  cases routes
  cbv

namespace State

variable {s t : State}

/-- There are only entries of the audit trail. -/
def Blank (s : State) : Prop :=
  s.database = { operationLogs := s.database.operationLogs }

/-- There are the menus and the routes of the catalogue, and the super administrator's account. -/
structure Founded (s : State) : Prop where
  menus : s.database.menus = foundedMenus
  routes : s.database.routes = foundedRoutes
  first : ∃ a rest, s.database.accounts = a :: rest ∧ a.id = superAdminId ∧
    a.organizationId = rootOrganizationId ∧ a.roleId = superAdminRoleId

theorem Blank.not_account (blank : s.Blank) {id : Int} {a : Account} :
    s.database.account id ≠ .ok a := by
  intro found
  have present := (mem_of_account found).1
  rw [blank] at present
  cases present

theorem Blank.seeded (blank : s.Blank) {db : Database} (done : s.seeded.outcome = .ok db) :
    db = { s.database with menus := foundedMenus, routes := foundedRoutes } := by
  have menus : s.database.menus = [] := by rw [blank]
  have routes : s.database.routes = [] := by rw [blank]
  unfold State.seeded at done
  rw [Journal.outcome_bind_eq_ok] at done
  obtain ⟨_, read, done⟩ := done
  cases read
  rw [if_pos menus] at done
  simp only [Journal.outcome_bind_eq_ok, Journal.outcome_query, Journal.outcome_pure_eq_ok,
    Database.seed_eq _ menus routes, Except.ok.injEq, exists_eq_left'] at done
  obtain ⟨_, _, _, _, rfl⟩ := done
  rfl

theorem blank_or_founded_of_blank (blank : s.Blank) {operation : Operation}
    (moved : Moved s operation t) : t.Blank ∨ t.Founded := by
  cases moved with
  | still => exact .inl blank
  | @bootstrap _ _ _ row done =>
    obtain ⟨db, bootstrapped⟩ := bootstrapped done
    have seeded := blank.seeded bootstrapped.seeded
    have accounts : db.accounts = [] := by rw [seeded, bootstrapped.empty]
    refine .inr ⟨?_, ?_, row, [], ?_, ?_⟩
    · rw [bootstrapped.state, seeded]
    · rw [bootstrapped.state, seeded]
    · rw [bootstrapped.state, accounts]
      rfl
    · rw [bootstrapped.account]
      exact ⟨rfl, rfl, rfl⟩
  | account done =>
    obtain ⟨current, made⟩ := accountMade done
    exact absurd made.asking blank.not_account
  | role done =>
    obtain ⟨menus, current, made⟩ := roleMade done
    exact absurd made.asking blank.not_account
  | organization done =>
    obtain ⟨current, made⟩ := organizationMade done
    exact absurd made.asking blank.not_account
  | policy done =>
    rw [loadPolicy_ok done]
    exact .inl blank
  | entry done =>
    rw [(recorded done).2]
    refine .inl ?_
    show ({ s.database with operationLogs := _ } : Database) = _
    rw [blank]

theorem founded_of_founded (founded : s.Founded) {operation : Operation}
    (moved : Moved s operation t) : t.Founded := by
  obtain ⟨menus, routes, a, rest, accounts, administrator⟩ := founded
  cases moved with
  | still => exact ⟨menus, routes, a, rest, accounts, administrator⟩
  | bootstrap done =>
    obtain ⟨db, bootstrapped⟩ := bootstrapped done
    rw [bootstrapped.empty] at accounts
    cases accounts
  | @account _ _ _ row done =>
    obtain ⟨current, made⟩ := accountMade done
    rw [made.state]
    refine ⟨menus, routes, a, rest ++ [row], ?_, administrator⟩
    rw [accounts, List.cons_append]
  | role done =>
    obtain ⟨_, current, made⟩ := roleMade done
    rw [made.state]
    exact ⟨menus, routes, a, rest, accounts, administrator⟩
  | organization done =>
    obtain ⟨current, made⟩ := organizationMade done
    rw [made.state]
    exact ⟨menus, routes, a, rest, accounts, administrator⟩
  | policy done =>
    rw [loadPolicy_ok done]
    exact ⟨menus, routes, a, rest, accounts, administrator⟩
  | entry done =>
    rw [(recorded done).2]
    exact ⟨menus, routes, a, rest, accounts, administrator⟩

theorem blank_or_founded_moved {operation : Operation} (moved : Moved s operation t)
    (kind : s.Blank ∨ s.Founded) : t.Blank ∨ t.Founded := by
  rcases kind with blank | founded
  · exact blank_or_founded_of_blank blank moved
  · exact .inr (founded_of_founded founded moved)

theorem Reaches.blank_or_founded {allowed : State → Operation → Prop}
    (reaches : Reaches allowed s t) (start : s.Blank ∨ s.Founded) : t.Blank ∨ t.Founded := by
  induction reaches with
  | refl => exact start
  | step _ _ ih => exact blank_or_founded_moved (moved_step _ _) ih

theorem Reachable.blank_or_founded (reachable : s.Reachable) : s.Blank ∨ s.Founded := by
  obtain ⟨settings, run⟩ := reachable
  exact run.blank_or_founded (.inl rfl)

end State

end Tenancy
