import Tenancy.Proofs.AuditTrail
import Tenancy.Proofs.Capacity

/-!
# Requests as operations

Whatever a request is answered with, all that it does to the system is one command and one entry of
the audit trail at most. So what every operation preserves holds wherever requests lead to
(`reachable_serveAll`), and ids become too wide for the database only after more requests than it
will ever see (`room_for_ids`).

The gates are gone through from the last one to the first, as for the audit trail:
`carryOut_runsTo`, `serve_runsTo`, `enter_runsTo`, `take_runsTo`, and `record_runsTo` behind them
(`answer_runsTo`).
-/

namespace Tenancy.Http

namespace Server

variable {s : Server} {r : Request}

section Whole

variable (whole : s.Whole)
include whole

/-! ## One request -/

theorem carryOut_runsTo (account : Option (Int × Json.Str)) (command : Command) :
    s.state.RunsTo 1 (s.carryOut account command).state := by
  have carried : (s.carryOut account command).state =
      s.state.step (.perform ((account.map (·.1)).getD 0) command) := by
    unfold carryOut State.step
    rw [whole.within]
    cases done : (s.state.perform ((account.map (·.1)).getD 0) command).outcome <;>
      simp only [done]
  rw [carried]
  exact .step _ _

theorem serve_runsTo (endpoint : Endpoint) (part : List Char) (body : Payload)
    (account : Option (Int × Json.Str)) :
    s.state.RunsTo 1 (s.serve endpoint part r body account).state := by
  unfold serve
  split
  · exact .refl _ _
  · exact .refl _ _
  · exact carryOut_runsTo whole _ _

theorem enter_runsTo (endpoint : Endpoint) (part : List Char) (body : Payload) :
    s.state.RunsTo 1 (s.enter endpoint part r body).state := by
  have gated := enter_gated s endpoint part r body
  generalize s.enter endpoint part r body = turn at gated ⊢
  cases gated with
  | everybody | named | permitted => exact serve_runsTo whole _ _ _ _
  | _ => exact .refl _ _

theorem take_runsTo : s.state.RunsTo 1 (s.taken r).state := by
  rcases take_cases s r with ⟨same, -⟩ | ⟨endpoint, part, body, -, -, entered⟩
  · rw [taken, same]
    exact .refl _ _
  · rw [taken, entered]
    exact enter_runsTo whole _ _ _

theorem record_runsTo (path : String) (id : Int) (name : Json.Str) (status : Nat) :
    s.state.RunsTo 1 (s.record r path id name status).1.state := by
  cases name with
  | unsound text => exact .refl _ _
  | sound name =>
    rw [record_step whole]
    exact .step _ _

/-- A request makes the system carry out one command and write one entry at most. -/
theorem answer_runsTo : s.state.RunsTo 2 (s.answer r).1.state := by
  have taken : s.state.RunsTo 1 (s.taken r).state := take_runsTo whole
  rcases answer_server s r with same | ⟨response, path, id, name, -, -, -, -, -, same⟩
  · rw [same]
    exact taken.mono (by decide)
  · rw [same]
    exact taken.trans (record_runsTo (taken_whole whole) path id name response.status)

/-! ## Runs of requests -/

theorem serveAll_runsTo (visits : List (Int × Request)) :
    s.state.RunsTo (2 * visits.length) (s.serveAll visits).state := by
  induction visits generalizing s with
  | nil => exact .refl _ _
  | cons visit rest ih =>
    have waiting : ({ s with clock := visit.1 } : Server).Whole := whole
    have first := answer_runsTo (r := visit.2) waiting
    have all := first.trans (ih (answer_whole waiting))
    exact all.mono (by rw [List.length_cons]; omega)

/-- Wherever requests lead to from the empty database, operations lead to as well. -/
theorem reachable_serveAll {settings : Settings} (fresh : s.state = { settings })
    (visits : List (Int × Request)) : (s.serveAll visits).state.Reachable := by
  have runs := serveAll_runsTo whole visits
  rw [fresh] at runs
  exact runs.reachable (State.reachable_start settings)

end Whole

end Server

/-- Requests lead from the empty database to states that operations lead to, with ids that the
database can hold and with room for one more role, as long as there are fewer than `2 ^ 62` of
them. -/
theorem room_for_ids {start : Server} {settings : Settings} (whole : start.Whole)
    (fresh : start.state = { settings }) {visits : List (Int × Request)}
    (few : visits.length < 0x4000000000000000) :
    (start.serveAll visits).state.Reachable ∧ (start.serveAll visits).state.Roomy ∧
      (start.serveAll visits).state.Held := by
  have runs := Server.serveAll_runsTo whole visits
  rw [fresh] at runs
  exact ⟨Server.reachable_serveAll whole fresh visits, runs.roomy (by omega), runs.held (by omega)⟩

end Tenancy.Http
