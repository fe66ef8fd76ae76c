import Tenancy.Proofs.Integrity

/-!
# Credentials

An account is made with a raw name and a raw password. What is stored is the name in its normal form
and the digest of the normal form of the password; the models for making an account and for entering
with it bring texts into the same form.

* `Registered.stored`: what the making of an account leaves in the table.
* `login_eq_ok`: whom credentials let in. Names are unique, so it is the only account that has the
  name.
* `createAccount_of_taken`: an account that passes all checks is refused for its name alone.

No operation changes a row, so that what is stored remains, and with it whom the credentials let in
(`credentials_last`).
-/

namespace Tenancy

namespace Database

/-- With distinct values, there is no other row with the value of a row. -/
theorem filter_eq_singleton {α β : Type} [DecidableEq β] {f : α → β} {rows : List α} {row : α}
    (nodup : (rows.map f).Nodup) (present : row ∈ rows) :
    rows.filter (f · = f row) = [row] := by
  have distinct : (rows.filter (f · = f row)).Nodup := (List.Nodup.of_map f nodup).filter _
  refine List.perm_singleton.mp ?_
  rw [List.perm_ext_iff_of_nodup distinct (List.nodup_singleton row)]
  intro other
  simp only [List.mem_filter, decide_eq_true_eq, List.mem_singleton]
  constructor
  · rintro ⟨listed, same⟩
    exact List.inj_on_of_nodup_map nodup listed present same
  · rintro rfl
    exact ⟨present, rfl⟩

/-- A draft whose name is taken is refused. -/
theorem insertAccount_of_taken {db : Database} {d : Account.Draft} {name hash homeName : String}
    {home role : Int} (free : d.id = none) (named : d.name = some name)
    (hashed : d.passwordHash = some hash) (homed : d.organizationId = some home)
    (homeNamed : d.organizationName = some homeName) (roled : d.roleId = some role)
    (fits : fits64 home = true ∧ fits64 role = true)
    (taken : ∃ other ∈ db.accounts, other.name = name) :
    db.insertAccount d = .error .integrityViolated := by
  have narrow : checkWidth [home, role] = .ok () := by
    simpa [checkWidth_eq_ok] using fits
  have refused : require (db.accounts.all (·.name ≠ name)) = .error .integrityViolated := by
    simpa [require] using taken
  simp only [insertAccount, free, named, hashed, homed, homeNamed, roled, required, newId,
    Option.toList, List.nil_append, List.cons_append, narrow, refused, ok_bind, error_bind]

end Database

/-! ## Normal forms -/

namespace Validation

theorem required_text_eq_ok {m : Json.Members} {field x : String} {rule : TextRule} {text : String}
    (given : m.get? field = some (.str x)) :
    required m field (whole (readText rule)) = .ok text ↔ rule.apply x = .ok text := by
  rw [required, given, Checked.within_eq_ok, whole, mapError_eq_ok]
  rfl

end Validation

section Read

variable {m : Json.Members} {x y : String}

/-- A name and a password are accepted if they have normal forms, and these are read. -/
theorem Credentials.read_eq_ok (name : m.get? "username" = some (.str x))
    (password : m.get? "password" = some (.str y)) {c : Credentials} :
    Credentials.read m = .ok c ↔
      accountNameRule.apply x = .ok c.username ∧ passwordRule.apply y = .ok c.password := by
  simp only [Credentials.read, map_eq_ok, Prod.exists, Checked.both_eq_ok,
    Validation.required_text_eq_ok name, Validation.required_text_eq_ok password]
  constructor
  · rintro ⟨_, _, forms, rfl⟩
    exact forms
  · exact fun forms => ⟨_, _, forms, rfl⟩

/-- Where an account is to be made, the normal forms are the same. -/
theorem NewAccount.name_of_read (name : m.get? "name" = some (.str x)) {request : NewAccount}
    (read : NewAccount.read m = .ok request) : accountNameRule.apply x = .ok request.name := by
  simp only [NewAccount.read, map_eq_ok, Prod.exists, Checked.both_eq_ok] at read
  obtain ⟨_, _, _, _, _, ⟨named, -⟩, rfl⟩ := read
  exact (Validation.required_text_eq_ok name).mp named

theorem NewAccount.password_of_read (password : m.get? "password" = some (.str y))
    {request : NewAccount} (read : NewAccount.read m = .ok request) :
    passwordRule.apply y = .ok request.password := by
  simp only [NewAccount.read, map_eq_ok, Prod.exists, Checked.both_eq_ok] at read
  obtain ⟨_, _, _, _, _, ⟨-, worded, -⟩, rfl⟩ := read
  exact (Validation.required_text_eq_ok password).mp worded

end Read

namespace State

variable {s t u : State} {caller : Int} {a : Account} {x y : String}

/-! ## Making accounts -/

/-- The account has been made from the raw name `x` and the raw password `y`: as the first one, or
by an account that asked for it. -/
inductive Registered (s : State) (x y : String) : State → Account → Prop
  | first {m : Json.Members} {c : Credentials} {t : State} {a : Account} :
      m.get? "username" = some (.str x) → m.get? "password" = some (.str y) →
      Credentials.read m = .ok c → (s.bootstrap c).outcome = .ok (t, a) → Registered s x y t a
  | further {m : Json.Members} {request : NewAccount} {caller : Int} {t : State} {a : Account} :
      m.get? "name" = some (.str x) → m.get? "password" = some (.str y) →
      NewAccount.read m = .ok request → (s.createAccount caller request).outcome = .ok (t, a) →
      Registered s x y t a

/-- The account is stored with the normal form of its name and with the digest of that of its
password. -/
theorem Registered.stored (registered : Registered s x y t a) :
    a ∈ t.database.accounts ∧ accountNameRule.apply x = .ok a.name ∧
      ∃ password, passwordRule.apply y = .ok password ∧
        a.passwordHash = passwordHash s.settings.salt password := by
  cases registered with
  | first name password read done =>
    obtain ⟨named, worded⟩ := (Credentials.read_eq_ok name password).mp read
    obtain ⟨db, made⟩ := bootstrapped done
    rw [made.account]
    refine ⟨?_, named, _, worded, rfl⟩
    rw [made.state, made.account]
    exact Database.mem_place.mpr (.inl rfl)
  | further name password read done =>
    obtain ⟨current, made⟩ := accountMade done
    refine ⟨?_, ?_, _, NewAccount.password_of_read password read, made.hash⟩
    · rw [made.state]
      exact List.mem_append_right _ List.mem_cons_self
    · rw [made.name]
      exact NewAccount.name_of_read name read

/-- A command that is carried out leaves the state that it answers with. -/
theorem step_of_done {command : Command} {answer : Answer}
    (done : (s.perform caller command).outcome = .ok (t, answer)) :
    s.step (.perform caller command) = t := by
  simp only [step, done]

/-- Making an account is one operation. -/
theorem Registered.reaches (registered : Registered s x y t a) :
    Reaches (fun _ _ => True) s t := by
  cases registered with
  | @first _ c _ _ _ _ _ done =>
    have carried : (s.perform 0 (.bootstrap c)).outcome = .ok (t, .account a) :=
      Journal.outcome_bind_eq_ok.mpr ⟨_, done, rfl⟩
    rw [← step_of_done carried]
    exact .step .refl trivial
  | @further _ request caller _ _ _ _ _ done =>
    have carried : (s.perform caller (.createAccount request)).outcome = .ok (t, .created a.id) :=
      Journal.outcome_bind_eq_ok.mpr ⟨_, done, rfl⟩
    rw [← step_of_done carried]
    exact .step .refl trivial

/-! ## Refusals -/

/-- All that is checked before an account is stored: who asks, that the organization is within its
scope and there, and that the role is there and covers its menus. -/
structure Admits (s : State) (caller : Int) (request : NewAccount) (current : Account)
    (o : Organization) (r : Role) : Prop where
  asking : (s.account caller).outcome = .ok current
  permitted : (s.database.hierarchy.checkScope current.caller request.organizationId
    .firstLevel).outcome = .ok ()
  home : (s.organization request.organizationId).outcome = .ok o
  role : (s.role request.roleId).outcome = .ok r
  covered : (s.requireCover current (s.menusOf r.id)).outcome = .ok ()

/-- An account that passes all checks is refused if its name is taken. -/
theorem createAccount_of_taken {request : NewAccount} {current : Account} {o : Organization}
    {r : Role} (admits : s.Admits caller request current o r)
    (taken : ∃ other ∈ s.database.accounts, other.name = request.name) :
    (s.createAccount caller request).outcome = .error .accountNameTaken := by
  have homeFits : fits64 o.id = true := Database.fits_of_lookup admits.home
  have roleFits : fits64 r.id = true := Database.fits_of_lookup admits.role
  have refused : s.database.insertAccount
      { name := request.name
        passwordHash := passwordHash s.settings.salt request.password
        email := request.email, organizationId := o.id, organizationName := o.name
        roleId := r.id, roleName := r.name } = .error .integrityViolated :=
    Database.insertAccount_of_taken rfl rfl rfl rfl rfl rfl ⟨homeFits, roleFits⟩ taken
  simp only [createAccount, Journal.outcome_bind, admits.asking, admits.permitted, admits.home,
    admits.role, admits.covered, hierarchy, Journal.outcome_read, Journal.outcome_query, refused,
    conflictAs, ok_bind, error_bind]

/-- There is no second first account. -/
theorem bootstrap_of_mem (c : Credentials) (present : a ∈ s.database.accounts) :
    (s.bootstrap c).outcome = .error .alreadyInitialized := by
  have some : s.database.accounts ≠ [] := List.ne_nil_of_mem present
  simp only [bootstrap, Journal.outcome_bind, Journal.outcome_read, ok_bind, if_pos some]
  rfl

/-! ## Entering -/

/-- Credentials let in the first account with their name, if they have its password. -/
theorem login_eq_ok {c : Credentials} :
    (s.login c).outcome = .ok a ↔
      s.database.accounts.find? (·.name = c.username) = some a ∧
        a.passwordHash = passwordHash s.settings.salt c.password := by
  unfold login login.refuse
  rw [Journal.outcome_bind_eq_ok]
  simp only [Journal.outcome_read, Except.ok.injEq, exists_eq_left']
  cases s.database.accounts.find? (·.name = c.username) with
  | none => simp [Journal.outcome_bind]
  | some b =>
    dsimp only
    split
    · next known =>
      rw [Journal.outcome_pure_eq_ok]
      constructor
      · rintro rfl
        exact ⟨rfl, known⟩
      · exact fun same => Option.some.inj same.1
    · next unknown =>
      constructor
      · intro done
        simp [Journal.outcome_bind] at done
      · rintro ⟨same, known⟩
        cases same
        exact absurd known unknown

/-- Whom credentials let in has their name, which nobody else has, and their password. -/
theorem of_login {c : Credentials} (consistent : s.database.Consistent)
    (entered : (s.login c).outcome = .ok a) :
    s.database.accounts.filter (·.name = c.username) = [a] ∧
      a.passwordHash = passwordHash s.settings.salt c.password := by
  obtain ⟨found, known⟩ := login_eq_ok.mp entered
  have named : a.name = c.username := by simpa using List.find?_some found
  refine ⟨?_, known⟩
  rw [← named]
  exact Database.filter_eq_singleton consistent.accountNames (List.mem_of_find?_eq_some found)

/-- What an account has been made with lets it in as long as its row is there. -/
theorem exists_login {m : Json.Members} {password : String} (consistent : s.database.Consistent)
    (present : a ∈ s.database.accounts) (named : accountNameRule.apply x = .ok a.name)
    (worded : passwordRule.apply y = .ok password)
    (hash : a.passwordHash = passwordHash s.settings.salt password)
    (name : m.get? "username" = some (.str x)) (word : m.get? "password" = some (.str y)) :
    ∃ c, Credentials.read m = .ok c ∧ (s.login c).outcome = .ok a := by
  refine ⟨⟨a.name, password⟩, (Credentials.read_eq_ok name word).mpr ⟨named, worded⟩, ?_⟩
  rw [login_eq_ok]
  exact ⟨Database.find?_eq_some_of_mem consistent.accountNames present, hash⟩

end State

/-- Once an account has been made with some name and password, these let it in for good, however
the request is written; and whoever asks for another account with this name, or for another first
one, meets with a conflict. Whenever credentials let an account in, it is the only one that has
their name, and what it has stored is the digest of their password. -/
theorem credentials_last {s : State} (reached : s.Reachable) :
    (∀ {x y : String} {t u : State} {a : Account}, s.Registered x y t a →
      State.Reaches (fun _ _ => True) t u →
      (∀ m : Json.Members, m.get? "username" = some (.str x) →
        m.get? "password" = some (.str y) →
        ∃ c, Credentials.read m = .ok c ∧ (u.login c).outcome = .ok a) ∧
      (∀ (m : Json.Members) (x' : String), m.get? "name" = some (.str x') →
        accountNameRule.apply x' = accountNameRule.apply x →
        ∀ request, NewAccount.read m = .ok request →
        ∀ caller current o r, u.Admits caller request current o r →
          (u.createAccount caller request).outcome = .error .accountNameTaken) ∧
      ∀ c, (u.bootstrap c).outcome = .error .alreadyInitialized) ∧
    ∀ c a, (s.login c).outcome = .ok a →
      s.database.accounts.filter (·.name = c.username) = [a] ∧
        a.passwordHash = passwordHash s.settings.salt c.password := by
  refine ⟨fun {x y t u a} registered later => ?_, fun c a entered =>
    State.of_login reached.consistent entered⟩
  obtain ⟨stored, named, password, worded, hash⟩ := registered.stored
  have present : a ∈ u.database.accounts := later.extends.accounts.subset stored
  have run : State.Reaches (fun _ _ => True) s u := registered.reaches.trans later
  have consistent : u.database.Consistent := (run.reachable reached).consistent
  rw [← run.settings] at hash
  refine ⟨fun m name word => State.exists_login consistent present named worded hash name word,
    fun m x' name same request read caller current o r admits => ?_,
    fun c => State.bootstrap_of_mem c present⟩
  have taken : a.name = request.name := by
    have form : accountNameRule.apply x' = .ok request.name := NewAccount.name_of_read name read
    rw [same, named] at form
    exact Except.ok.inj form
  exact State.createAccount_of_taken admits ⟨a, present, taken⟩

/-- A request for an account, with blanks around the name and the password. -/
def bobsRequest : Json.Members :=
  [("name", .str "  Bob-Smith "), ("password", .str "\tsecret word "), ("organization_id", .int 1),
    ("role_id", .int 1)]

/-- A request for another account, with the same name in other letters. -/
def rivalsRequest : Json.Members :=
  [("name", .str "BOB-SMITH"), ("password", .str "another word"), ("organization_id", .int 1),
    ("role_id", .int 1)]

/-- A request for entering with the name and the password of the first of these requests. -/
def bobsEntry : Json.Members :=
  [("username", .str "  Bob-Smith "), ("password", .str "\tsecret word ")]

/-- In the company, the manager makes an account for Bob and then an organization. Bob gets in with
what was written in the request, and nobody else gets his name. -/
theorem bob_gets_in_and_rival_does_not :
    ∃ t bob, company.Registered "  Bob-Smith " "\tsecret word " t bob ∧ bob.name = "bob-smith" ∧
      (∃ c, Credentials.read bobsEntry = .ok c ∧ ((t.run labSetup).login c).outcome = .ok bob) ∧
      ∃ request, NewAccount.read rivalsRequest = .ok request ∧
        ((t.run labSetup).createAccount 2 request).outcome = .error .accountNameTaken := by
  have read : NewAccount.read bobsRequest = .ok ⟨"bob-smith", "secret word", none, 1, 1⟩ := by
    decide +kernel
  have made : ((company.createAccount 2 ⟨"bob-smith", "secret word", none, 1, 1⟩).outcome).isOk =
      true := by
    decide +kernel
  obtain ⟨⟨t, bob⟩, made⟩ := exists_of_isOk made
  have registered : company.Registered "  Bob-Smith " "\tsecret word " t bob :=
    .further rfl rfl read made
  have later : State.Reaches (fun _ _ => True) t (t.run labSetup) := .run fun _ _ _ => trivial
  obtain ⟨⟨enters, refused, -⟩, -⟩ :=
    (credentials_last reachable_company).imp (fun kept => kept registered later) id
  have named : bob.name = "bob-smith" := by
    obtain ⟨current, row⟩ := State.accountMade made
    exact row.name
  have state : company.step (.perform 2 (.createAccount ⟨"bob-smith", "secret word", none, 1, 1⟩)) =
      t :=
    State.step_of_done (Journal.outcome_bind_eq_ok.mpr ⟨_, made, rfl⟩)
  have rival : NewAccount.read rivalsRequest = .ok ⟨"bob-smith", "another word", none, 1, 1⟩ := by
    decide +kernel
  have same : accountNameRule.apply "BOB-SMITH" = accountNameRule.apply "  Bob-Smith " := by
    decide +kernel
  refine ⟨t, bob, registered, named, enters bobsEntry rfl rfl, _, rival, ?_⟩
  have admits : (t.run labSetup).Admits 2 ⟨"bob-smith", "another word", none, 1, 1⟩
      ⟨2, "alice", passwordHash company.settings.salt "alice12345", none, none, 1, "headquarters",
        1, "manager", true⟩
      ⟨1, "headquarters", -1, none⟩ ⟨1, "manager", "", 1, "admin", true⟩ := by
    rw [← state]
    constructor <;> decide +kernel
  exact refused rivalsRequest "BOB-SMITH" rfl same _ rival 2 _ _ _ admits

end Tenancy
