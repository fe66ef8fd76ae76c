import Tenancy.Http.Server
import Tenancy.Proofs.Regularity
import Tenancy.Proofs.ShownPaths

/-!
# Who writes through the server

A request changes something besides the audit trail only if it makes the first account, or if it is
one of an account that exists and that the policy permits to make accounts, roles or organizations
on the path that the URL shows (`writes_are_permitted`). This holds for every server, whatever its
tables hold and whichever of them can be used. The path that is shown is the one of the request as
long as the host is no more than a host, and else it is what the sender says
(`disguised_request_is_not_permitted`).

* `MayWrite` says what a command needs in order to write anything, `endpoint_of_command` that an
  endpoint gives none but its own commands.
* `Gated` lists what the gates of the token and the policy come to, once and for all
  (`enter_gated`).
* Then gate by gate, from the last one to the first: `carryOut_state`, `serve_state`, `enter_state`,
  `take_state`. Recording a request comes after all of them (`answer_state`).
-/

namespace Tenancy

/-! ## Commands -/

namespace State

variable {s t : State} {caller : Int} {command : Command}

/-- All but the audit trail is the same. -/
def SameButLogs (s t : State) : Prop :=
  t = { s with database := { s.database with operationLogs := t.database.operationLogs } }

theorem sameButLogs_refl (s : State) : s.SameButLogs s := rfl

theorem organizations_of_sameButLogs (same : s.SameButLogs t) :
    t.database.organizations = s.database.organizations := by
  rw [same]

/-- What a command needs in order to write anything: for the first account that there is no account
yet, and for others that the account that asks exists. -/
def MayWrite (s : State) (caller : Int) : Command → Prop
  | .bootstrap _ => s.database.accounts = []
  | .createAccount _ | .createRole _ | .createOrganization _ =>
    ∃ a ∈ s.database.accounts, a.id = caller
  | _ => False

theorem mayWrite_of_asking {current : Account} (asking : s.database.account caller = .ok current) :
    ∃ a ∈ s.database.accounts, a.id = caller :=
  ⟨current, mem_of_account asking⟩

theorem eq_of_not_mayWrite {answer : Answer} (idle : ¬s.MayWrite caller command)
    (done : (s.perform caller command).outcome = .ok (t, answer)) : t = s := by
  cases moved_perform done with
  | still => rfl
  | bootstrap done =>
    obtain ⟨db, bootstrapped⟩ := bootstrapped done
    exact absurd bootstrapped.empty idle
  | account done =>
    obtain ⟨current, made⟩ := accountMade done
    exact absurd (mayWrite_of_asking made.asking) idle
  | role done =>
    obtain ⟨menus, current, made⟩ := roleMade done
    exact absurd (mayWrite_of_asking made.asking) idle
  | organization done =>
    obtain ⟨current, made⟩ := organizationMade done
    exact absurd (mayWrite_of_asking made.asking) idle

/-- Nothing is kept either, not even on the way to a failure. -/
theorem quiet_of_not_mayWrite (idle : ¬s.MayWrite caller command) :
    (s.perform caller command).Quiet := by
  -- only two commands keep anything, and both are refused by their first statement
  cases command with
  | bootstrap c =>
    have taken : s.database.accounts ≠ [] := idle
    have refused : (s.bootstrap c).Quiet := by
      refine Journal.quiet_bind_of_ok (Journal.quiet_query _ _) rfl ?_
      rw [if_pos taken]
      exact Journal.quiet_fail _
    exact Journal.quiet_bind refused fun _ => Journal.quiet_pure _
  | createRole request =>
    have absent : ∃ f, s.database.account caller = .error f := by
      cases asking : s.database.account caller with
      | error f => exact ⟨f, rfl⟩
      | ok current => exact absurd (mayWrite_of_asking asking) idle
    obtain ⟨f, failed⟩ := absent
    have refused : (s.createRole caller request).Quiet :=
      Journal.quiet_bind_of_error (Journal.quiet_query _ _) failed
    exact Journal.quiet_bind refused fun _ => Journal.quiet_pure _
  | _ => exact quiet_perform rfl

end State

namespace Http

open Validation

/-! ## Endpoints -/

/-- The endpoint that a command comes from. -/
def commandEndpoint : Command → Endpoint
  | .bootstrap _ => .bootstrap
  | .login _ => .login
  | .createAccount _ => .createAccount
  | .listAccounts _ _ => .listAccounts
  | .currentAccount => .currentAccount
  | .accountDetail _ => .accountDetail
  | .createRole _ => .createRole
  | .listRoles _ _ => .listRoles
  | .roleDetail _ => .roleDetail
  | .createOrganization _ => .createOrganization
  | .organizationTree _ => .organizationTree
  | .organizationDetail _ => .organizationDetail
  | .menus => .menus
  | .listOperationLogs _ => .listOperationLogs

theorem endpoint_of_command {endpoint : Endpoint} {part : List Char} {ps : Parameters}
    {body : Payload} {command : Command}
    (given : endpoint.command part ps body = .ok (some command)) :
    commandEndpoint command = endpoint := by
  have read : ∀ {α : Type} {checked : Checked α} {make : α → Command},
      checked.map (some ∘ make) = .ok (some command) → ∃ a, make a = command := by
    intro α checked make done
    cases checked with
    | error issues => cases done
    | ok a => exact ⟨a, Option.some.inj (Except.ok.inj done)⟩
  cases endpoint with
  | currentAccount | menus =>
    cases given
    rfl
  | health | readiness => cases given
  | _ =>
    obtain ⟨_, rfl⟩ := read given
    rfl

/-- The endpoints by which accounts, roles and organizations are made. -/
def makers : List Endpoint :=
  [.createAccount, .createRole, .createOrganization]

theorem entrance_of_maker {endpoint : Endpoint} (maker : endpoint ∈ makers) :
    endpoint.entrance = .permitted := by
  simp only [makers, List.mem_cons, List.not_mem_nil, or_false] at maker
  rcases maker with rfl | rfl | rfl <;> rfl

/-- A command that may write comes from one of four endpoints. -/
theorem endpoint_of_mayWrite {s : State} {caller : Int} {command : Command}
    (able : s.MayWrite caller command) :
    (commandEndpoint command = .bootstrap ∧ s.database.accounts = []) ∨
      (commandEndpoint command ∈ makers ∧ ∃ a ∈ s.database.accounts, a.id = caller) := by
  cases command with
  | bootstrap c => exact .inl ⟨rfl, able⟩
  | createAccount | createRole | createOrganization =>
    exact .inr ⟨by simp [commandEndpoint, makers], able⟩
  | _ => cases able

theorem fits_of_found {method : String} {path part : List Char} {endpoint : Endpoint}
    (found : Target.of method path = .found endpoint part) :
    endpoint.method = method ∧ endpoint.form.part? path = some part := by
  unfold Target.of at found
  split at found
  · next e given first =>
    cases found
    obtain ⟨other, -, fits⟩ := List.exists_of_findSome?_eq_some first
    obtain ⟨same, fits⟩ := Option.ite_none_right_eq_some.mp fits
    obtain ⟨_, open_, pair⟩ := Option.map_eq_some_iff.mp fits
    cases pair
    exact ⟨same, open_⟩
  · simp only at found
    split at found
    · cases found
    · split at found <;> cases found

theorem eq_append_of_behind? {front s rest : List Char} (found : behind? front s = some rest) :
    s = front ++ rest := by
  unfold behind? at found
  split at found
  · next isFront =>
    obtain ⟨tail, rfl⟩ := List.isPrefixOf_iff_prefix.mp isFront
    simpa using found
  · cases found

/-- What has a fixed form is the text of the form, or has a line end behind it. -/
theorem fixed_part?_eq_some {text : String} {path part : List Char} :
    (PathForm.fixed text).part? path = some part ↔
      part = [] ∧ (path = text.toList ∨ path = text.toList ++ ['\n']) := by
  have front : ∀ rest, behind? text.toList (text.toList ++ rest) = some rest := by
    intro rest
    rw [behind?, if_pos (List.isPrefixOf_iff_prefix.mpr (List.prefix_append _ _)),
      List.drop_left]
  constructor
  · intro fits
    obtain ⟨rest, found, ends⟩ := Option.bind_eq_some_iff.mp fits
    obtain ⟨last, none⟩ := Option.ite_none_right_eq_some.mp ends
    refine ⟨(Option.some.inj none).symm, ?_⟩
    rw [eq_append_of_behind? found]
    rcases Bool.or_eq_true_iff.mp last with nothing | lineEnd
    · rw [eq_of_beq nothing, List.append_nil]
      exact .inl rfl
    · rw [eq_of_beq lineEnd]
      exact .inr rfl
  · rintro ⟨rfl, rfl | rfl⟩
    · exact Option.bind_eq_some_iff.mpr ⟨[], by simpa using front [], rfl⟩
    · exact Option.bind_eq_some_iff.mpr ⟨['\n'], front _, rfl⟩

theorem Request.postsTo_of_found {r : Request} {endpoint : Endpoint} {path : String}
    {part : List Char} (found : Target.of r.method r.plainPath = .found endpoint part)
    (post : endpoint.method = "POST") (fixed : endpoint.form = .fixed path) : r.PostsTo path := by
  obtain ⟨method, fits⟩ := fits_of_found found
  rw [fixed] at fits
  exact ⟨method.symm.trans post, (fixed_part?_eq_some.mp fits).2⟩

/-! ## The gates -/

namespace Server

variable {s : Server} {r : Request}

/-- The request has the token of an account that exists, and the policy permits this account to use
the method on the path. -/
def Vouches (s : Server) (r : Request) (path : String) : Prop :=
  ∃ token claims account, r.token? = some token ∧
    Token.verify s.state.settings s.clock (Text.Utf8.encode token) = .ok claims ∧
    subjectOf claims = .ok account ∧
    (∃ a ∈ s.state.database.accounts, a.id = account) ∧
    (account = superAdminId ∨ ∃ rule ∈ s.state.policy.rules,
      s.state.policy.hasRole account rule.role = true ∧
        rule.permission.Fits path (Access.upperMethod r.method))

/-- What has to be the case for a request to write through an endpoint. -/
def Admits (s : Server) (r : Request) (endpoint : Endpoint) : Prop :=
  (endpoint = .bootstrap ∧ s.state.database.accounts = []) ∨
    (endpoint ∈ makers ∧ ∃ shown, r.urlPath? = some shown ∧ s.Vouches r shown)

theorem carryOut_state (account : Option (Int × Json.Str)) (command : Command) :
    (s.carryOut account command).state = s.state ∨
      s.state.MayWrite ((account.map (·.1)).getD 0) command := by
  by_cases able : s.state.MayWrite ((account.map (·.1)).getD 0) command
  · exact .inr able
  refine .inl ?_
  have quiet := (State.quiet_of_not_mayWrite able).within s.usable
  unfold carryOut
  cases done : ((s.state.perform ((account.map (·.1)).getD 0) command).within s.usable).outcome with
  | error f => simp only [done, quiet.kept]
  | ok result =>
    simp only [done]
    exact State.eq_of_not_mayWrite able (Journal.ok_of_within done)

theorem serve_state (endpoint : Endpoint) (part : List Char) (body : Payload)
    (account : Option (Int × Json.Str)) :
    (s.serve endpoint part r body account).state = s.state ∨
      (endpoint = .bootstrap ∧ s.state.database.accounts = []) ∨
      (endpoint ∈ makers ∧
        ∃ a ∈ s.state.database.accounts, a.id = (account.map (·.1)).getD 0) := by
  unfold serve
  split
  · exact .inl rfl
  · exact .inl rfl
  · next command given =>
    rcases carryOut_state account command with same | able
    · exact .inl same
    · exact .inr (endpoint_of_command given ▸ endpoint_of_mayWrite able)

/-- The account that a request names is the one of its token. -/
theorem token_of_account {settings : Settings} {now : Int} {account : Int × Json.Str}
    (named : r.account settings now = .ok account) :
    ∃ token claims, r.token? = some token ∧
      Token.verify settings now (Text.Utf8.encode token) = .ok claims ∧
      subjectOf claims = .ok account.1 := by
  unfold Request.account at named
  split at named
  · cases named
  next token held =>
  split at named
  · cases named
  next claims verified =>
  split at named
  · cases named
  next id subject =>
  cases named
  exact ⟨token, claims, held, verified, subject⟩

theorem allows_of_mayUse {u : State} {account : Int} {path method : String}
    (allowed : (u.mayUse account path method).outcome = .ok true) :
    u.policy.allows account path method = .ok true := by
  rw [State.mayUse_outcome, mapError_eq_ok] at allowed
  exact allowed

/-- What the gates of the token and the policy come to. They let a request through to the last gates
on behalf of an account, or of nobody where everybody may enter, or they do nothing about it. -/
inductive Gated (s : Server) (endpoint : Endpoint) (part : List Char) (r : Request)
    (body : Payload) : Turn → Prop
  | everybody : endpoint.entrance = .everybody →
      Gated s endpoint part r body (s.serve endpoint part r body none)
  | unnamed {response : Response} : endpoint.entrance ≠ .everybody →
      r.account s.state.settings s.clock = .error response →
      Gated s endpoint part r body { state := s.state, response := some response }
  | named {account : Int × Json.Str} : endpoint.entrance = .account →
      r.account s.state.settings s.clock = .ok account →
      Gated s endpoint part r body (s.serve endpoint part r body account)
  | pathless {account : Int × Json.Str} : endpoint.entrance = .permitted →
      r.account s.state.settings s.clock = .ok account → r.urlPath? = none →
      Gated s endpoint part r body { state := s.state, account, response := none }
  | undecided {account : Int × Json.Str} {path : String} {f : Fault} {lines : List LogLine} :
      endpoint.entrance = .permitted → r.account s.state.settings s.clock = .ok account →
      r.urlPath? = some path → (s.state.mayUse account.1 path r.method).outcome = .error f →
      Gated s endpoint part r body { state := s.state, account, lines, response := faultResponse f }
  | denied {account : Int × Json.Str} {path : String} {lines : List LogLine} :
      endpoint.entrance = .permitted → r.account s.state.settings s.clock = .ok account →
      r.urlPath? = some path → (s.state.mayUse account.1 path r.method).outcome = .ok false →
      Gated s endpoint part r body
        { state := s.state, account, lines, response := some (.missingPermission r.method path) }
  | permitted {account : Int × Json.Str} {path : String} {lines : List LogLine} :
      endpoint.entrance = .permitted → r.account s.state.settings s.clock = .ok account →
      r.urlPath? = some path → (s.state.mayUse account.1 path r.method).outcome = .ok true →
      Gated s endpoint part r body { s.serve endpoint part r body account with lines }

theorem enter_gated (s : Server) (endpoint : Endpoint) (part : List Char) (r : Request)
    (body : Payload) : s.Gated endpoint part r body (s.enter endpoint part r body) := by
  unfold enter
  cases entrance : endpoint.entrance with
  | everybody => exact .everybody entrance
  | account =>
    cases named : r.account s.state.settings s.clock with
    | error response => exact .unnamed (by rw [entrance]; decide) named
    | ok account => exact .named entrance named
  | permitted =>
    cases named : r.account s.state.settings s.clock with
    | error response => exact .unnamed (by rw [entrance]; decide) named
    | ok account =>
      cases shown : r.urlPath? with
      | none => exact .pathless entrance named shown
      | some path =>
        cases decided : (s.state.mayUse account.1 path r.method).outcome with
        | error f =>
          simp only [decided]
          exact .undecided entrance named shown decided
        | ok allowed =>
          cases allowed with
          | false =>
            simp only [decided]
            exact .denied entrance named shown decided
          | true =>
            simp only [decided]
            exact .permitted entrance named shown decided

theorem enter_state (endpoint : Endpoint) (part : List Char) (body : Payload) :
    (s.enter endpoint part r body).state = s.state ∨ s.Admits r endpoint := by
  -- the endpoints that make something let in only whom the policy permits
  have elsewhere (account : Option (Int × Json.Str)) (other : endpoint.entrance ≠ .permitted) :
      (s.serve endpoint part r body account).state = s.state ∨ s.Admits r endpoint := by
    rcases serve_state endpoint part body account with same | first | ⟨maker, -⟩
    · exact .inl same
    · exact .inr (.inl first)
    · exact absurd (entrance_of_maker maker) other
  have gated := enter_gated s endpoint part r body
  generalize s.enter endpoint part r body = turn at gated ⊢
  cases gated with
  | everybody entrance => exact elsewhere none (by rw [entrance]; decide)
  | named entrance _ => exact elsewhere _ (by rw [entrance]; decide)
  | @permitted account path _ _ named shown decided =>
    rcases serve_state endpoint part body account with same | first | ⟨maker, present⟩
    · exact .inl same
    · exact .inr (.inl first)
    · obtain ⟨token, claims, held, verified, subject⟩ := token_of_account named
      exact .inr (.inr ⟨maker, path, shown, token, claims, account.1, held, verified, subject,
        present, Access.Policy.exists_of_allows (allows_of_mayUse decided)⟩)
  | _ => exact .inl rfl

/-- The first two gates turn a request away, or it goes on to the others. -/
theorem take_cases (s : Server) (r : Request) :
    ((s.take r).state = s.state ∧ (s.take r).account = none) ∨
    ∃ endpoint part body, Target.of r.method r.plainPath = .found endpoint part ∧
      (endpoint.readsBody = true → r.payload s.state.settings.bodyDepth = .ok body) ∧
      s.take r = s.enter endpoint part r body := by
  unfold take
  cases found : Target.of r.method r.plainPath with
  | unknown | otherMethod | redirect path => exact .inl ⟨rfl, rfl⟩
  | found endpoint part =>
    by_cases reads : endpoint.readsBody = true
    · simp only [if_pos reads]
      cases read : r.payload s.state.settings.bodyDepth with
      | error response => exact .inl ⟨rfl, rfl⟩
      | ok body => exact .inr ⟨endpoint, part, body, rfl, fun _ => rfl, rfl⟩
    · simp only [if_neg reads]
      exact .inr ⟨endpoint, part, .absent, rfl, fun present => absurd present reads, rfl⟩

theorem take_state :
    (s.take r).state = s.state ∨ ∃ endpoint part,
      Target.of r.method r.plainPath = .found endpoint part ∧ s.Admits r endpoint := by
  rcases take_cases s r with ⟨same, -⟩ | ⟨endpoint, part, body, found, -, entered⟩
  · exact .inl same
  · rw [entered]
    exact (enter_state endpoint part body).imp id fun admitted =>
      ⟨endpoint, part, found, admitted⟩

/-- Recording leaves the trail as it is, or puts one entry behind it, and nothing else changes. -/
theorem record_cases (s : Server) (r : Request) (path : String) (id : Int) (name : Json.Str)
    (status : Nat) :
    (s.record r path id name status).1 = s ∨
      ∃ entry, (s.record r path id name status).1 =
        { s with state := { s.state with database := { s.state.database with
          operationLogs := s.state.database.operationLogs ++ [entry] } } } := by
  unfold record
  cases name with
  | unsound text => exact .inl rfl
  | sound name =>
    simp only
    split
    · next t entry done =>
      obtain ⟨-, rfl, rfl⟩ := State.record_eq_ok.mp (Journal.ok_of_within done)
      exact .inr ⟨_, rfl⟩
    · exact .inl rfl

/-- The audit trail is all that recording adds to. -/
theorem record_state (s : Server) (r : Request) (path : String) (id : Int) (name : Json.Str)
    (status : Nat) : s.state.SameButLogs (s.record r path id name status).1.state := by
  rcases record_cases s r path id name status with same | ⟨entry, same⟩
  · rw [same]
    exact s.state.sameButLogs_refl
  · rw [same]
    rfl

/-- The server on which a request is recorded. -/
def taken (s : Server) (r : Request) : Server :=
  { s with state := (s.take r).state }

/-- A request is recorded under the path that is shown if it is answered, is neither to read nor to
ask for the health of the server, and an account was found out. -/
theorem answer_server (s : Server) (r : Request) :
    (s.answer r).1 = s.taken r ∨
      ∃ response path id name, (s.take r).response = some response ∧ r.urlPath? = some path ∧
        (s.take r).account = some (id, name) ∧ r.method ≠ "GET" ∧ path ∉ skippedPaths ∧
        (s.answer r).1 = ((s.taken r).record r path id name response.status).1 := by
  unfold answer taken
  cases answered : (s.take r).response with
  | none => exact .inl (by simp only [answered])
  | some response =>
    cases shown : r.urlPath? with
    | none => exact .inl (by simp only [answered])
    | some path =>
      cases named : (s.take r).account with
      | none => exact .inl (by simp only [answered, named])
      | some account =>
        by_cases passed : r.method = "GET" ∨ path ∈ skippedPaths
        · exact .inl (by simp only [answered, named, if_pos passed])
        · refine .inr ⟨response, path, account.1, account.2, rfl, rfl, rfl,
            (not_or.mp passed).1, (not_or.mp passed).2, ?_⟩
          simp only [answered, named, if_neg passed]

/-- An answer adds to the audit trail what was done about the request, unless it was a reading. -/
theorem answer_state (s : Server) (r : Request) :
    (s.take r).state.SameButLogs (s.answer r).1.state ∧
      (r.method = "GET" → (s.answer r).1.state = (s.take r).state) := by
  rcases answer_server s r with same | ⟨response, path, id, name, -, -, -, writes, -, same⟩
  · rw [same]
    exact ⟨State.sameButLogs_refl _, fun _ => rfl⟩
  · rw [same]
    exact ⟨record_state _ _ _ _ _ _, fun reads => absurd reads writes⟩

/-- The paths on which accounts, roles and organizations are made. -/
def makingPaths : List String :=
  ["/api/accounts", "/api/roles", "/api/organizations"]

/-- The request makes the first account. -/
def Founds (s : Server) (r : Request) : Prop :=
  r.PostsTo "/api/bootstrap-admin" ∧ s.state.database.accounts = []

/-- The request makes an account, a role or an organization, and the policy permits the account that
it is of to do so on the path that is shown. -/
def Permits (s : Server) (r : Request) : Prop :=
  ∃ path ∈ makingPaths, r.PostsTo path ∧ ∃ shown, r.urlPath? = some shown ∧ s.Vouches r shown

/-- The paths that are posted to in order to make something, and the endpoints behind them. -/
theorem makingPath_of_maker : ∀ endpoint ∈ makers, endpoint.method = "POST" ∧
    ∃ path ∈ makingPaths, endpoint.form = .fixed path := by
  decide

theorem making_of_maker {endpoint : Endpoint} {part : List Char} (maker : endpoint ∈ makers)
    (found : Target.of r.method r.plainPath = .found endpoint part) :
    ∃ path ∈ makingPaths, r.PostsTo path := by
  obtain ⟨post, path, making, fixed⟩ := makingPath_of_maker endpoint maker
  exact ⟨path, making, Request.postsTo_of_found found post fixed⟩

/-- All gates together. -/
theorem take_state_of_refused (refused : ¬(s.Founds r ∨ s.Permits r)) :
    (s.take r).state = s.state := by
  rcases take_state with same | ⟨endpoint, part, found, ⟨rfl, empty⟩ | ⟨maker, vouched⟩⟩
  · exact same
  · exact absurd (.inl ⟨Request.postsTo_of_found found rfl rfl, empty⟩) refused
  · obtain ⟨path, making, posts⟩ := making_of_maker maker found
    exact absurd (.inr ⟨path, making, posts, vouched⟩) refused

theorem method_of_allowed (allowed : s.Founds r ∨ s.Permits r) : r.method = "POST" := by
  rcases allowed with ⟨posts, -⟩ | ⟨_, -, posts, -⟩
  · exact posts.1
  · exact posts.1

/-- The paths that something is made on are shown as they are, unless the host says otherwise. -/
theorem shown_of_makingPath (named : r.NamesHost) {path shown : String}
    (making : path ∈ makingPaths) (posts : r.PostsTo path) (told : r.urlPath? = some shown) :
    shown = path := by
  have plain : ∀ path ∈ makingPaths, path.toList = '/' :: path.toList.tail ∧
      StaysShown path.toList := by
    decide
  exact Request.urlPath?_of_namesHost named (plain path making).1 (plain path making).2 posts told

/-- A request that changes more than the audit trail makes the first account, or it makes something
else and is of an account that the policy permits to do so on the path that is shown. That is the
path it is posted to if the host is no more than a host. A request to read changes nothing, the
audit trail included. -/
theorem writes_are_permitted (s : Server) (r : Request) :
    (¬s.state.SameButLogs (s.answer r).1.state → s.Founds r ∨ s.Permits r) ∧
      (¬s.state.SameButLogs (s.answer r).1.state → r.NamesHost →
        s.Founds r ∨ ∃ path ∈ makingPaths, r.PostsTo path ∧ s.Vouches r path) ∧
      (r.method = "GET" → (s.answer r).1.state = s.state) := by
  obtain ⟨onlyLogs, unrecorded⟩ := answer_state s r
  have allowed (changed : ¬s.state.SameButLogs (s.answer r).1.state) :
      s.Founds r ∨ s.Permits r := by
    by_contra refused
    rw [take_state_of_refused refused] at onlyLogs
    exact changed onlyLogs
  refine ⟨allowed, fun changed named => ?_, fun reads => ?_⟩
  · refine (allowed changed).imp id ?_
    rintro ⟨path, making, posts, shown, told, vouched⟩
    rw [shown_of_makingPath named making posts told] at vouched
    exact ⟨path, making, posts, vouched⟩
  · have refused : ¬(s.Founds r ∨ s.Permits r) := by
      intro allowed
      rw [method_of_allowed allowed] at reads
      revert reads
      decide
    exact (unrecorded reads).trans (take_state_of_refused refused)

/-- The octets of a text. -/
def octets (text : String) : List UInt8 :=
  Text.Utf8.encode text.toList

/-- The company's server, one second after the epoch. -/
def companyServer : Server :=
  { state := company, clock := 1 }

/-- The credentials of an account on the company's server. -/
def credentials (account : Int) (name : String) : List UInt8 :=
  let settings := company.settings
  octets "Bearer " ++ Token.sign settings
    (Token.claimsFor companyServer.clock account name settings.lifetime)

/-- The manager's request to make an organization under the headquarters. -/
def depotRequest : Request :=
  { method := "POST", path := "/api/organizations", host := octets "localhost"
    authorization := some (credentials 2 "alice"), contentType := some (octets "application/json")
    body := octets "\x7b\"name\": \"depot\", \"parent_id\": 1\x7d" }

/-- The manager's request changes the company, so the policy permits it; the request to read what
is there does not change it. -/
theorem company_permits_depot :
    ¬company.SameButLogs (companyServer.answer depotRequest).1.state ∧
      companyServer.Permits depotRequest ∧
      (∃ path ∈ makingPaths, depotRequest.PostsTo path ∧ companyServer.Vouches depotRequest path) ∧
      (companyServer.answer { depotRequest with method := "GET" }).1.state = company := by
  have grown : (companyServer.answer depotRequest).1.state.database.organizations.length ≠
      company.database.organizations.length := by
    decide +kernel
  have changed : ¬company.SameButLogs (companyServer.answer depotRequest).1.state :=
    fun same => grown (congrArg _ (State.organizations_of_sameButLogs same))
  have occupied : company.database.accounts ≠ [] := by decide +kernel
  obtain ⟨allowed, named, -⟩ := writes_are_permitted companyServer depotRequest
  refine ⟨changed, ?_, ?_, (writes_are_permitted companyServer _).2.2 rfl⟩
  · exact (allowed changed).resolve_left fun founds => occupied founds.2
  · exact (named changed (by decide)).resolve_left fun founds => occupied founds.2

/-- Nobody vouches for an account that the policy denies. -/
theorem not_vouches_of_denied (regular : s.state.Regular) {account : Int × Json.Str} {path : String}
    (named : r.account s.state.settings s.clock = .ok account)
    (denied : s.state.policy.allows account.1 path r.method = .ok false) : ¬s.Vouches r path := by
  rintro ⟨token, claims, id, held, verified, subject, -, fits⟩
  obtain ⟨token', claims', held', verified', subject'⟩ := token_of_account named
  rw [held] at held'
  cases held'
  rw [verified] at verified'
  cases verified'
  rw [subject] at subject'
  cases subject'
  obtain ⟨allowed, decided, allows⟩ :=
    Access.Policy.allows_iff path r.method (regular.compilesFor account.1)
  rw [denied] at decided
  cases decided
  exact Bool.false_ne_true (allows.mpr fits)

/-- A role that may make accounts and nothing else, and an account that has it. -/
def clerkSetup : List Operation := [
    .perform 1 (.createRole
      { name := "clerk", description := none, isDeletable := true, menuIds := [2] }),
    .perform 1 (.createAccount
      { name := "carol", password := "carol12345", email := none, organizationId := 1
        roleId := 2 })]

/-- The company's server with the clerk. -/
def clerkServer : Server :=
  { state := company.run clerkSetup, clock := 1 }

/-- The clerk's request to make an organization, by way of a host in which the path for accounts
stands. -/
def disguisedRequest : Request :=
  { depotRequest with
    host := octets "x/api/accounts?", authorization := some (credentials 3 "carol") }

/-- The policy does not let the clerk make an organization, and the clerk makes one. -/
theorem disguised_request_is_not_permitted :
    clerkServer.state.Reachable ∧ disguisedRequest.PostsTo "/api/organizations" ∧
      disguisedRequest.urlPath? = some "/api/accounts" ∧
      (clerkServer.answer disguisedRequest).2.2.status = 201 ∧
      ¬clerkServer.state.SameButLogs (clerkServer.answer disguisedRequest).1.state ∧
      ¬(clerkServer.Founds disguisedRequest ∨ ∃ path ∈ makingPaths,
        disguisedRequest.PostsTo path ∧ clerkServer.Vouches disguisedRequest path) := by
  have reached : clerkServer.state.Reachable :=
    (State.Reaches.run fun _ _ _ => trivial).reachable reachable_company
  have posts : disguisedRequest.PostsTo "/api/organizations" := ⟨rfl, .inl (by decide)⟩
  have kept : StaysShown ('/' :: "api/accounts".toList) := by decide
  have shown : disguisedRequest.urlPath? = some "/api/accounts" :=
    Request.urlPath?_of_disguise kept (by decide) (by decide)
  have made : (clerkServer.answer disguisedRequest).2.2.status = 201 ∧
      (clerkServer.answer disguisedRequest).1.state.database.organizations.length ≠
        clerkServer.state.database.organizations.length := by
    decide +kernel
  have changed : ¬clerkServer.state.SameButLogs (clerkServer.answer disguisedRequest).1.state :=
    fun same => made.2 (congrArg _ (State.organizations_of_sameButLogs same))
  refine ⟨reached, posts, shown, made.1, changed, ?_⟩
  have named : disguisedRequest.account clerkServer.state.settings clerkServer.clock =
      .ok (3, .sound "carol") :=
    eq_ok_of_toOption (by decide +kernel)
  have denied : clerkServer.state.policy.allows 3 "/api/organizations" "POST" = .ok false :=
    eq_ok_of_toOption (by decide +kernel)
  have occupied : clerkServer.state.database.accounts ≠ [] := by decide +kernel
  rintro (founds | ⟨path, making, other, vouched⟩)
  · exact occupied founds.2
  · have only : ∀ path ∈ makingPaths, disguisedRequest.PostsTo path →
        path = "/api/organizations" := by
      decide
    rw [only path making other] at vouched
    exact not_vouches_of_denied reached.regular named denied vouched

end Server

end Http

end Tenancy
