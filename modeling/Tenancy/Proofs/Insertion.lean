import Tenancy.Proofs.Outcome
import Tenancy.State.Role

/-!
# What an insertion does

Every insertion of a draft without an id appends one row, whose id is above all others of its
table, and changes no other table. There is one lemma for each table that the operations write to;
it says when the insertion succeeds and with what result.
-/

namespace Tenancy

/-! ## Ids -/

/-- Ids as a table gives them out: positive and in ascending order. -/
structure Numbered (ids : List Int) : Prop where
  positive : ∀ id ∈ ids, 1 ≤ id
  ascending : ids.Pairwise (· < ·)

namespace Numbered

theorem nil : Numbered [] :=
  ⟨by simp, List.Pairwise.nil⟩

theorem nodup {ids : List Int} (numbered : Numbered ids) : ids.Nodup :=
  numbered.ascending.imp fun below => Int.ne_of_lt below

theorem nextId_pos {ids : List Int} (numbered : Numbered ids) : 1 ≤ Database.nextId ids := by
  cases ids with
  | nil => exact Int.le_refl 1
  | cons id rest =>
    have first := numbered.positive id List.mem_cons_self
    have below : id < Database.nextId (id :: rest) := Database.lt_nextId List.mem_cons_self
    omega

theorem append_nextId {ids : List Int} (numbered : Numbered ids) :
    Numbered (ids ++ [Database.nextId ids]) := by
  constructor
  · intro id present
    rcases List.mem_append.mp present with old | new
    · exact numbered.positive id old
    · rw [List.mem_singleton.mp new]
      exact numbered.nextId_pos
  · refine List.pairwise_append.mpr ⟨numbered.ascending, List.pairwise_singleton _ _, ?_⟩
    intro id old next new
    rw [List.mem_singleton.mp new]
    exact Database.lt_nextId old

end Numbered

namespace Database

theorem nextId_not_mem (ids : List Int) : nextId ids ∉ ids :=
  fun taken => Int.lt_irrefl _ (lt_nextId taken)

theorem id_ne_nextId {α : Type} {idOf : α → Int} {rows : List α} {row : α} (present : row ∈ rows) :
    idOf row ≠ nextId (rows.map idOf) := by
  intro same
  refine nextId_not_mem (rows.map idOf) ?_
  rw [← same]
  exact List.mem_map_of_mem present

theorem nextId_append_nextId (ids : List Int) : nextId (ids ++ [nextId ids]) = nextId ids + 1 := by
  have highest : (ids ++ [nextId ids]).max? = some (nextId ids) := by
    refine List.max?_eq_some_iff.mpr ⟨by simp, ?_⟩
    intro id present
    rcases List.mem_append.mp present with old | new
    · exact Int.le_of_lt (lt_nextId old)
    · exact Int.le_of_eq (List.mem_singleton.mp new)
  rw [nextId, highest]

/-- A row with the next id goes to the end. -/
theorem place_nextId {α : Type} {idOf : α → Int} {row : α} {rows : List α}
    (next : idOf row = nextId (rows.map idOf)) : place idOf row rows = rows ++ [row] := by
  apply place_eq_append
  intro other present
  rw [next]
  exact lt_nextId (List.mem_map_of_mem present)

/-! ## One lemma for each table -/

variable {db after : Database}

theorem insertOrganization_eq_ok {d : Organization.Draft} {o : Organization} (free : d.id = none) :
    db.insertOrganization d = .ok (after, o) ↔
      fits64 d.parentId = true ∧
      (∃ name, d.name = some name ∧ (∀ other ∈ db.organizations, other.name ≠ name) ∧
        o = ⟨nextId (db.organizations.map (·.id)), name, d.parentId, d.parentName⟩) ∧
      after = { db with organizations := db.organizations ++ [o] } := by
  simp only [insertOrganization, free, newId, bind_eq_ok, pure_eq_ok, checkWidth_eq_ok,
    required_eq_ok, require_eq_ok, Except.ok.injEq, exists_eq_left', place_nextId, Prod.mk.injEq]
  constructor
  · rintro ⟨_, fits, name, named, _, unique, rfl, rfl⟩
    exact ⟨by simpa using fits, ⟨name, named, by simpa using unique, rfl⟩, rfl⟩
  · rintro ⟨fits, ⟨name, named, unique, rfl⟩, rfl⟩
    exact ⟨(), by simpa using fits, name, named, (), by simpa using unique, rfl, rfl⟩

theorem insertMenu_eq_ok {d : Menu.Draft} {m : Menu} (free : d.id = none) :
    db.insertMenu d = .ok (after, m) ↔
      (fits64 d.parentId = true ∧ fits64 d.orderIndex = true) ∧
      (∃ name, d.name = some name ∧
        m = ⟨nextId (db.menus.map (·.id)), name, d.parentId, d.parentName, d.orderIndex⟩) ∧
      after = { db with menus := db.menus ++ [m] } := by
  simp only [insertMenu, free, newId, bind_eq_ok, pure_eq_ok, checkWidth_eq_ok, required_eq_ok,
    Except.ok.injEq, exists_eq_left', place_nextId, Prod.mk.injEq]
  constructor
  · rintro ⟨_, fits, name, named, rfl, rfl⟩
    exact ⟨by simpa using fits, ⟨name, named, rfl⟩, rfl⟩
  · rintro ⟨fits, ⟨name, named, rfl⟩, rfl⟩
    exact ⟨(), by simpa using fits, name, named, rfl, rfl⟩

theorem insertRoute_eq_ok {d : Route.Draft} {r : Route} (free : d.id = none) :
    db.insertRoute d = .ok (after, r) ↔
      (∀ n ∈ d.menuId, fits64 n = true) ∧
      (∃ name method menu menuName, d.name = some name ∧ d.method = some method ∧
        d.menuId = some menu ∧ d.menuName = some menuName ∧ (∃ m ∈ db.menus, m.id = menu) ∧
        r = ⟨nextId (db.routes.map (·.id)), name, method, menu, menuName⟩) ∧
      after = { db with routes := db.routes ++ [r] } := by
  simp only [insertRoute, free, newId, bind_eq_ok, pure_eq_ok, checkWidth_eq_ok, required_eq_ok,
    require_eq_ok, Except.ok.injEq, exists_eq_left', place_nextId, Prod.mk.injEq]
  constructor
  · rintro ⟨_, fits, name, named, method, used, menu, owned, menuName, menuNamed, _, refers, rfl,
      rfl⟩
    exact ⟨by simpa using fits, ⟨name, method, menu, menuName, named, used, owned, menuNamed,
      by simpa using refers, rfl⟩, rfl⟩
  · rintro ⟨fits, ⟨name, method, menu, menuName, named, used, owned, menuNamed, refers, rfl⟩, rfl⟩
    exact ⟨(), by simpa using fits, name, named, method, used, menu, owned, menuName, menuNamed, (),
      by simpa using refers, rfl, rfl⟩

theorem insertRole_eq_ok {d : Role.Draft} {r : Role} (free : d.id = none) :
    db.insertRole d = .ok (after, r) ↔
      (∀ n ∈ d.createdBy, fits64 n = true) ∧
      (∃ name maker makerName, d.name = some name ∧ d.createdBy = some maker ∧
        d.createdByName = some makerName ∧ (∀ other ∈ db.roles, other.name ≠ name) ∧
        r = ⟨nextId (db.roles.map (·.id)), name, d.description, maker, makerName,
          d.isDeletable⟩) ∧
      after = { db with roles := db.roles ++ [r] } := by
  simp only [insertRole, free, newId, bind_eq_ok, pure_eq_ok, checkWidth_eq_ok, required_eq_ok,
    require_eq_ok, Except.ok.injEq, exists_eq_left', place_nextId, Prod.mk.injEq]
  constructor
  · rintro ⟨_, fits, name, named, maker, made, makerName, makerNamed, _, unique, rfl, rfl⟩
    exact ⟨by simpa using fits,
      ⟨name, maker, makerName, named, made, makerNamed, by simpa using unique, rfl⟩, rfl⟩
  · rintro ⟨fits, ⟨name, maker, makerName, named, made, makerNamed, unique, rfl⟩, rfl⟩
    exact ⟨(), by simpa using fits, name, named, maker, made, makerName, makerNamed, (),
      by simpa using unique, rfl, rfl⟩

theorem insertAccount_eq_ok {d : Account.Draft} {a : Account} (free : d.id = none) :
    db.insertAccount d = .ok (after, a) ↔
      ((∀ n ∈ d.organizationId, fits64 n = true) ∧ ∀ n ∈ d.roleId, fits64 n = true) ∧
      (∃ name hash home homeName role, d.name = some name ∧ d.passwordHash = some hash ∧
        d.organizationId = some home ∧ d.organizationName = some homeName ∧ d.roleId = some role ∧
        (∀ other ∈ db.accounts, other.name ≠ name) ∧
        a = ⟨nextId (db.accounts.map (·.id)), name, hash, d.email, d.phone, home, homeName, role,
          d.roleName, d.isDeletable⟩) ∧
      after = { db with accounts := db.accounts ++ [a] } := by
  simp only [insertAccount, free, newId, bind_eq_ok, pure_eq_ok, checkWidth_eq_ok, required_eq_ok,
    require_eq_ok, Except.ok.injEq, exists_eq_left', place_nextId, Prod.mk.injEq]
  constructor
  · rintro ⟨_, fits, name, named, hash, hashed, home, homed, homeName, homeNamed, role, roled, _,
      unique, rfl, rfl⟩
    exact ⟨by simpa [or_imp, forall_and] using fits, ⟨name, hash, home, homeName, role, named,
      hashed, homed, homeNamed, roled, by simpa using unique, rfl⟩, rfl⟩
  · rintro ⟨fits, ⟨name, hash, home, homeName, role, named, hashed, homed, homeNamed, roled, unique,
      rfl⟩, rfl⟩
    exact ⟨(), by simpa [or_imp, forall_and] using fits, name, named, hash, hashed, home, homed,
      homeName, homeNamed, role, roled, (), by simpa using unique, rfl, rfl⟩

theorem insertOperationLog_eq_ok {d : OperationLog.Draft} {l : OperationLog} (free : d.id = none) :
    db.insertOperationLog d = .ok (after, l) ↔
      (∀ n ∈ d.accountId, fits64 n = true) ∧
      (∃ account name type result, d.accountId = some account ∧ d.accountName = some name ∧
        d.type = some type ∧ d.result = some result ∧
        l = ⟨nextId (db.operationLogs.map (·.id)), account, name, d.ipAddress, d.userAgent, type,
          d.area, d.description, result⟩) ∧
      after = { db with operationLogs := db.operationLogs ++ [l] } := by
  simp only [insertOperationLog, free, newId, bind_eq_ok, pure_eq_ok, checkWidth_eq_ok,
    required_eq_ok, Except.ok.injEq, exists_eq_left', place_nextId, Prod.mk.injEq]
  constructor
  · rintro ⟨_, fits, account, owned, name, named, type, typed, result, resulted, rfl, rfl⟩
    exact ⟨by simpa using fits, ⟨account, name, type, result, owned, named, typed, resulted, rfl⟩,
      rfl⟩
  · rintro ⟨fits, ⟨account, name, type, result, owned, named, typed, resulted, rfl⟩, rfl⟩
    exact ⟨(), by simpa using fits, account, owned, name, named, type, typed, result, resulted, rfl,
      rfl⟩

/-- The rows that give a role some menus, with ids from `first` on. -/
def roleMenuRows (role : Role) (first : Int) : List Menu → List RoleMenu
  | [] => []
  | menu :: rest =>
    ⟨first, role.id, role.name, menu.id, menu.name⟩ :: roleMenuRows role (first + 1) rest

/-- What one more row with the next id preserves, the menus of a new role preserve. -/
theorem append_roleMenuRows {kept : List RoleMenu → Prop}
    (one : ∀ {rows row}, kept rows → row.id = nextId (rows.map (·.id)) → kept (rows ++ [row]))
    {role : Role} {menus : List Menu} {rows : List RoleMenu} (start : kept rows) :
    kept (rows ++ roleMenuRows role (nextId (rows.map (·.id))) menus) := by
  induction menus generalizing rows with
  | nil => simpa [roleMenuRows] using start
  | cons menu rest ih =>
    -- the rows that follow are numbered as if the first one had been there before
    let first : RoleMenu := ⟨nextId (rows.map (·.id)), role.id, role.name, menu.id, menu.name⟩
    have grown : kept (rows ++ [first]) := one start rfl
    have next := ih grown
    have following : nextId ((rows ++ [first]).map (·.id)) = nextId (rows.map (·.id)) + 1 := by
      rw [List.map_append, List.map_singleton]
      exact nextId_append_nextId _
    rw [following, List.append_assoc] at next
    exact next

theorem map_menuId_roleMenuRows (role : Role) (first : Int) (menus : List Menu) :
    (roleMenuRows role first menus).map (·.menuId) = menus.map (·.id) := by
  induction menus generalizing first with
  | nil => rfl
  | cons menu rest ih => simp [roleMenuRows, ih]

/-- Each of these rows is for the role and for one of the menus. -/
theorem of_mem_roleMenuRows {role : Role} {first : Int} {menus : List Menu} {row : RoleMenu}
    (present : row ∈ roleMenuRows role first menus) :
    (row.roleId = role.id ∧ row.roleName = role.name) ∧
      ∃ menu ∈ menus, menu.id = row.menuId ∧ menu.name = row.menuName := by
  induction menus generalizing first with
  | nil => simp [roleMenuRows] at present
  | cons menu rest ih =>
    rcases List.mem_cons.mp present with rfl | later
    · exact ⟨⟨rfl, rfl⟩, menu, List.mem_cons_self, rfl, rfl⟩
    · obtain ⟨own, other, listed, fits⟩ := ih later
      exact ⟨own, other, List.mem_cons_of_mem _ listed, fits⟩

theorem roleId_of_mem_roleMenuRows {role : Role} {first : Int} {menus : List Menu} {row : RoleMenu}
    (present : row ∈ roleMenuRows role first menus) : row.roleId = role.id :=
  (of_mem_roleMenuRows present).1.1

theorem addRoleMenu_eq_ok {role : Role} {menu : Menu} :
    addRoleMenu role db menu = .ok after ↔
      (fits64 role.id = true ∧ fits64 menu.id = true) ∧
      ((∃ r ∈ db.roles, r.id = role.id) ∧ ∃ m ∈ db.menus, m.id = menu.id) ∧
      after = { db with roleMenus := db.roleMenus ++
        [⟨nextId (db.roleMenus.map (·.id)), role.id, role.name, menu.id, menu.name⟩] } := by
  simp only [addRoleMenu, insertRoleMenu, newId, bind_eq_ok, pure_eq_ok, checkWidth_eq_ok,
    required_eq_ok, require_eq_ok, Except.ok.injEq, Option.some.injEq, exists_eq_left',
    place_nextId]
  constructor
  · rintro ⟨_, ⟨_, fits, _, refers, rfl⟩, rfl⟩
    exact ⟨by simpa using fits, by simpa using refers, rfl⟩
  · rintro ⟨fits, refers, rfl⟩
    exact ⟨_, ⟨(), by simpa using fits, (), by simpa using refers, rfl⟩, rfl⟩

/-- Giving a role several menus appends one row for each of them. -/
theorem addRoleMenus_ok {role : Role} {menus : List Menu}
    (added : menus.foldlM (addRoleMenu role) db = .ok after) :
    after = { db with roleMenus :=
      db.roleMenus ++ roleMenuRows role (nextId (db.roleMenus.map (·.id))) menus } := by
  induction menus generalizing db with
  | nil =>
    rw [List.foldlM_nil, pure_eq_ok] at added
    simp [roleMenuRows, ← added]
  | cons menu rest ih =>
    rw [List.foldlM_cons, bind_eq_ok] at added
    obtain ⟨middle, first, others⟩ := added
    obtain ⟨-, -, rfl⟩ := addRoleMenu_eq_ok.mp first
    rw [ih others]
    simp [roleMenuRows, nextId_append_nextId]

end Database

end Tenancy
