import Tenancy.Proofs.RequestRuns

/-!
# Internal errors

A request is accepted if its target leads to an endpoint, its body can be read, and path, query and
body give what the endpoint asks for. Integers are accepted whatever their size. So an accepted
request is answered with an internal error just if one of these is the case
(`internal_errors_are_overflows`):

* its URL has no path, as its host or its query cannot be understood;
* it passes the gates of the token and the policy and then hands the database an integer that is too
  wide;
* it passes them and the answer does not fit into a response, being nested too deeply or having a
  token that cannot be dated.

The ids in the tables have no part in it as long as there is room for them, which takes more
requests to use up than a database will ever see (`room_for_ids`).

`carryOut_response` tells what is answered about a command, in terms of its outcome, and
`enter_cases` that the gates answer a request themselves or let it through on behalf of one account.
-/

namespace Tenancy.Http

/-- The statuses that are documented for the endpoints. -/
def documentedStatuses : List Nat :=
  [200, 201, 401, 403, 404, 409, 422]

/-- What can be read of a request gives the command, if the endpoint asks for one. -/
def Request.Accepted (depth : Nat) (r : Request) (endpoint : Endpoint) (command : Option Command) :
    Prop :=
  ∃ part body, Target.of r.method r.plainPath = .found endpoint part ∧
    (if endpoint.readsBody then r.payload depth = .ok body else body = .absent) ∧
    endpoint.command part r.parameters body = .ok command

theorem status_of_answered {f : Fault} (answered : f.Answered) :
    ∃ response, faultResponse f = some response ∧ response.status ∈ documentedStatuses := by
  obtain ⟨status, known⟩ := Option.isSome_iff_exists.mp answered
  refine ⟨_, Option.map_eq_some_iff.mpr ⟨status, known, rfl⟩, ?_⟩
  show status ∈ documentedStatuses
  cases kind : f.kind <;> rw [kind] at known <;> cases known <;> decide

theorem status_of_answer (answer : Answer) : answer.status ∈ documentedStatuses := by
  cases answer <;> simp [Answer.status, documentedStatuses]

/-- Only the header decides which account a request names. -/
theorem Request.account_congr {r r' : Request} (same : r.authorization = r'.authorization)
    (settings : Settings) (now : Int) : r.account settings now = r'.account settings now := by
  unfold Request.account Request.token?
  rw [same]

namespace Server

variable {s : Server} {r : Request} {endpoint : Endpoint}

/-- The gates of the token and the policy let the request through on behalf of the account with this
id. An endpoint for everybody is entered on behalf of nobody, for which 0 stands. -/
def Lets (s : Server) (r : Request) (endpoint : Endpoint) (caller : Int) : Prop :=
  match endpoint.entrance with
  | .everybody => caller = 0
  | .account => ∃ name, r.account s.state.settings s.clock = .ok (caller, name)
  | .permitted => ∃ name path, r.account s.state.settings s.clock = .ok (caller, name) ∧
      r.urlPath? = some path ∧ (s.state.mayUse caller path r.method).outcome = .ok true

/-- The command succeeds with an answer that does not fit into a response. -/
def AnswersUnfit (s : Server) (caller : Int) (command : Command) : Prop :=
  ∃ t answer, (s.state.perform caller command).outcome = .ok (t, answer) ∧
    answer.fits s.state.settings s.clock = false

/-- What the gates come to about a request is a documented answer, or there is none for a reason. -/
def Settled (response : Option Response) (reason : Prop) : Prop :=
  (response = none ↔ reason) ∧ ∀ answer ∈ response, answer.status ∈ documentedStatuses

theorem settled_of_some {response : Response} {reason : Prop}
    (documented : response.status ∈ documentedStatuses) (unfounded : ¬reason) :
    Settled (some response) reason := by
  refine ⟨iff_of_false nofun unfounded, ?_⟩
  rintro _ ⟨⟩
  exact documented

theorem Settled.status {response : Option Response} {reason : Prop}
    (settled : Settled response reason) :
    ((response.getD .internalError).status ∈ documentedStatuses ∨
        (response.getD .internalError).status = 500) ∧
      ((response.getD .internalError).status = 500 ↔ reason) := by
  obtain ⟨unanswered, documented⟩ := settled
  cases response with
  | none => exact ⟨.inr rfl, iff_of_true rfl (unanswered.mp rfl)⟩
  | some answer =>
    have known := documented answer rfl
    have other : answer.status ≠ 500 := by
      intro same
      rw [same] at known
      exact absurd known (by decide)
    exact ⟨.inl known, iff_of_false other fun reason => nomatch unanswered.mpr reason⟩

theorem take_of_accepted {command : Option Command}
    (accepted : r.Accepted s.state.settings.bodyDepth endpoint command) :
    ∃ part body, s.take r = s.enter endpoint part r body ∧
      endpoint.command part r.parameters body = .ok command := by
  obtain ⟨part, body, found, read, given⟩ := accepted
  refine ⟨part, body, ?_, given⟩
  unfold take
  rw [found]
  by_cases reads : endpoint.readsBody = true
  · rw [if_pos reads] at read
    simp only [if_pos reads, read]
  · rw [if_neg reads] at read
    simp only [if_neg reads, read]

/-- A request without a valid token is answered. -/
theorem status_of_account {response : Response}
    (refused : r.account s.state.settings s.clock = .error response) :
    response.status ∈ documentedStatuses := by
  have unauthorized : response.status = 401 := by
    unfold Request.account at refused
    repeat' split at refused
    all_goals first | cases refused; rfl | cases refused
  rw [unauthorized]
  decide

/-- The policy decides about every request, as all of its patterns are expressions. -/
theorem exists_mayUse (regular : s.state.Regular) (caller : Int) (path method : String) :
    ∃ allowed, (s.state.mayUse caller path method).outcome = .ok allowed := by
  obtain ⟨allowed, decided, -⟩ :=
    Access.Policy.allows_iff path method (regular.compilesFor caller)
  refine ⟨allowed, ?_⟩
  rw [State.mayUse_outcome, decided]
  rfl

/-- Whoever is let through an entrance that is not free has a token. -/
theorem account_of_lets {caller : Int} (closed : endpoint.entrance ≠ .everybody)
    (passes : s.Lets r endpoint caller) :
    ∃ name, r.account s.state.settings s.clock = .ok (caller, name) := by
  unfold Lets at passes
  split at passes
  · next entrance => exact absurd entrance closed
  · exact passes
  · obtain ⟨name, path, named, -⟩ := passes
    exact ⟨name, named⟩

/-- If the URL has a path, the gates answer a request themselves, or they let it through on behalf
of one account. -/
theorem enter_cases (regular : s.state.Regular) {path : String} (shown : r.urlPath? = some path)
    (part : List Char) (body : Payload) :
    (∀ caller, ¬s.Lets r endpoint caller) ∧
      (∃ response, (s.enter endpoint part r body).response = some response ∧
        response.status ∈ documentedStatuses) ∨
    ∃ account caller, (account.map (·.1)).getD 0 = caller ∧
      (∀ other, s.Lets r endpoint other ↔ other = caller) ∧
      (s.enter endpoint part r body).response =
        (s.serve endpoint part r body account).response := by
  have gated := enter_gated s endpoint part r body
  generalize s.enter endpoint part r body = turn at gated ⊢
  cases gated with
  | everybody entrance =>
    refine .inr ⟨none, 0, rfl, fun other => ?_, rfl⟩
    rw [Lets, entrance]
  | unnamed closed refused =>
    refine .inl ⟨fun caller passes => ?_, _, rfl, status_of_account refused⟩
    obtain ⟨name, named⟩ := account_of_lets closed passes
    rw [refused] at named
    cases named
  | @named account entrance named =>
    refine .inr ⟨some account, account.1, rfl, fun other => ?_, rfl⟩
    rw [Lets, entrance, named]
    constructor
    · rintro ⟨name, ⟨⟩⟩
      rfl
    · rintro rfl
      exact ⟨account.2, rfl⟩
  | pathless _ _ pathless =>
    rw [shown] at pathless
    cases pathless
  | @undecided account asked _ _ _ _ _ failed =>
    obtain ⟨allowed, decided⟩ := exists_mayUse regular account.1 asked r.method
    rw [failed] at decided
    cases decided
  | @denied account asked _ entrance named told decided =>
    refine .inl ⟨fun caller passes => ?_, _, rfl, ?_⟩
    · rw [Lets, entrance, named, told] at passes
      obtain ⟨name, _, ⟨⟩, ⟨⟩, permitted⟩ := passes
      rw [decided] at permitted
      cases permitted
    · show 403 ∈ documentedStatuses
      decide
  | @permitted account asked _ entrance named told decided =>
    refine .inr ⟨some account, account.1, rfl, fun other => ?_, rfl⟩
    rw [Lets, entrance, named, told]
    constructor
    · rintro ⟨name, _, ⟨⟩, -⟩
      rfl
    · rintro rfl
      exact ⟨account.2, asked, rfl, rfl, decided⟩

section Whole

variable (whole : s.Whole)
include whole

/-- A command is answered unless it overflows or its answer does not fit into a response. -/
theorem carryOut_response {command : Command} (account : Option (Int × Json.Str)) {l : List Int}
    (hands : Hands (s.state.perform ((account.map (·.1)).getD 0) command).outcome l) :
    Settled (s.carryOut account command).response
      (Wide l ∨ s.AnswersUnfit ((account.map (·.1)).getD 0) command) := by
  unfold carryOut AnswersUnfit
  rw [whole.within]
  cases done : (s.state.perform ((account.map (·.1)).getD 0) command).outcome with
  | error f =>
    rw [done] at hands
    simp only [done]
    rcases hands.answered f rfl with rfl | answered
    · exact ⟨iff_of_true rfl (.inl (hands.tooLarge.mp rfl)), nofun⟩
    · obtain ⟨response, shown, documented⟩ := status_of_answered answered
      rw [shown]
      refine settled_of_some documented ?_
      rintro (wide | ⟨t, answer, other, -⟩)
      · cases hands.tooLarge.mpr wide
        cases answered
      · cases other
  | ok result =>
    obtain ⟨t, answer⟩ := result
    rw [done] at hands
    have narrow : ¬Wide l := by
      rw [← hands.tooLarge]
      exact nofun
    have settings : t.settings = s.state.settings := State.settings_moved (State.moved_perform done)
    simp only [done, settings]
    cases fits : answer.fits s.state.settings s.clock with
    | true =>
      refine settled_of_some (status_of_answer answer) ?_
      rintro (wide | ⟨_, _, same, deep⟩)
      · exact narrow wide
      · cases same
        rw [fits] at deep
        cases deep
    | false => exact ⟨iff_of_true rfl (.inr ⟨t, answer, rfl, fits⟩), nofun⟩

/-- What is accepted and let through is answered, with the exceptions of its command. -/
theorem serve_response (regular : s.state.Regular) (readable : s.state.Readable)
    (roomy : s.state.Roomy) {part : List Char} {body : Payload} {command : Option Command}
    (given : endpoint.command part r.parameters body = .ok command)
    (account : Option (Int × Json.Str)) :
    Settled (s.serve endpoint part r body account).response
      (∃ c, command = some c ∧ (Wide (s.state.handed ((account.map (·.1)).getD 0) c) ∨
        s.AnswersUnfit ((account.map (·.1)).getD 0) c)) := by
  unfold serve
  rw [given]
  cases command with
  | none =>
    refine settled_of_some ?_ (by simp)
    have well : (s.wellness endpoint).status = 200 := by
      unfold wellness
      rw [whole.1]
      split <;> rfl
    rw [well]
    decide
  | some c =>
    have hands : Hands (s.state.perform ((account.map (·.1)).getD 0) c).outcome _ :=
      State.hands_perform regular readable roomy.role c
    simpa using carryOut_response whole account hands

/-- An accepted request gets a documented answer or an internal error, and the latter just if its
URL has no path, for an integer that is too wide, or for an answer that does not fit into a
response. If it is a stored account that asks, the integers which can be too wide are those of the
page, the filter, the path and the new account. -/
theorem internal_errors_are_overflows (reached : s.state.Reachable) (roomy : s.state.Roomy)
    {command : Option Command}
    (accepted : r.Accepted s.state.settings.bodyDepth endpoint command) :
    ((s.answer r).2.2.status ∈ documentedStatuses ∨ (s.answer r).2.2.status = 500) ∧
    ((s.answer r).2.2.status = 500 ↔ r.urlPath? = none ∨
      ∃ caller c, command = some c ∧ s.Lets r endpoint caller ∧
        (Wide (s.state.handed caller c) ∨ s.AnswersUnfit caller c)) ∧
    ∀ a ∈ s.state.database.accounts, ∀ c,
      Wide (s.state.handed a.id c) ↔ s.state.Overflows a c := by
  have regular := reached.regular
  rw [← and_assoc]
  refine ⟨?_, fun a present c => State.wide_handed_iff regular roomy present c⟩
  cases shown : r.urlPath? with
  | none =>
    rw [answer_of_pathless s shown]
    exact ⟨.inr rfl, iff_of_true rfl (.inl rfl)⟩
  | some path =>
    obtain ⟨part, body, taken, given⟩ := take_of_accepted accepted
    rw [answer_of_shown s shown, taken]
    refine Settled.status ?_
    rcases @enter_cases s r endpoint regular path shown part body with
      ⟨closed, response, answered, documented⟩ | ⟨account, caller, own, passes, served⟩
    · rw [answered]
      refine settled_of_some documented ?_
      rintro (pathless | ⟨caller, c, -, passes, -⟩)
      · cases pathless
      · exact closed caller passes
    · rw [served]
      have settled := serve_response whole regular reached.readable roomy given account
      simp only [own] at settled
      simpa [passes, and_left_comm] using settled

end Whole

theorem roomy_company : company.Roomy :=
  (State.RunsTo.run {} companySetup).roomy (by decide)

/-- A request of the first account to read something on the company's server. -/
def inquiry (path : String) (query : List UInt8) : Request :=
  { method := "GET", path, query, host := octets "localhost"
    authorization := some (credentials 1 "admin") }

theorem account_inquiry (path : String) (query : List UInt8) :
    (inquiry path query).account companyServer.state.settings companyServer.clock =
      .ok (1, .sound "admin") := by
  have same : (inquiry path query).authorization = (inquiry "/" []).authorization := rfl
  rw [Request.account_congr same]
  exact eq_ok_of_toOption (by decide +kernel)

end Server

open Server

/-- A request for the first page of roles that begins behind every row a database can have. -/
def farPage : Request :=
  inquiry "/api/roles" (octets "page_no=922337203685477582")

/-- The page before is answered and this one is not, though its number fits by itself. -/
theorem far_page_is_not_answered :
    companyServer.Whole ∧ company.Reachable ∧ company.Roomy ∧
    farPage.Accepted company.settings.bodyDepth .listRoles
      (some (.listRoles ⟨922337203685477582, 10⟩ none)) ∧
    (companyServer.answer
      (inquiry "/api/roles" (octets "page_no=922337203685477581"))).2.2.status = 200 ∧
    (companyServer.answer farPage).2.2.status = 500 := by
  have whole : companyServer.Whole := ⟨rfl, rfl⟩
  have accepted : farPage.Accepted company.settings.bodyDepth .listRoles
      (some (.listRoles ⟨922337203685477582, 10⟩ none)) :=
    ⟨[], .absent, by decide +kernel, rfl, rfl⟩
  have passes : companyServer.Lets farPage .listRoles 1 :=
    ⟨.sound "admin", "/api/roles", account_inquiry _ _, by decide +kernel, by decide +kernel⟩
  have admin : ∃ a ∈ company.database.accounts, a.id = 1 := by decide +kernel
  obtain ⟨a, present, own⟩ := admin
  obtain ⟨-, unanswered, overflows⟩ :=
    Server.internal_errors_are_overflows whole reachable_company roomy_company accepted
  have wide := (overflows a present (.listRoles ⟨922337203685477582, 10⟩ none)).mpr rfl
  rw [own] at wide
  exact ⟨whole, reachable_company, roomy_company, accepted, by decide +kernel,
    unanswered.mpr (.inr ⟨1, _, rfl, passes, .inl wide⟩)⟩

/-- A request for an account with an id that is one more than the greatest of a database. -/
def farAccount : Request :=
  inquiry "/api/accounts/9223372036854775808" []

/-- Every integer is accepted in a path, and this one has no documented answer. -/
theorem far_account_is_not_answered :
    companyServer.Whole ∧ company.Reachable ∧ company.Roomy ∧
    farAccount.Accepted company.settings.bodyDepth .accountDetail
      (some (.accountDetail 9223372036854775808)) ∧
    fits64 9223372036854775808 = false ∧
    (companyServer.answer farAccount).2.2.status ∉ documentedStatuses :=
  ⟨⟨rfl, rfl⟩, reachable_company, roomy_company,
    ⟨"9223372036854775808".toList, .absent, by decide +kernel, rfl, rfl⟩, by decide,
    by decide +kernel⟩

end Tenancy.Http
