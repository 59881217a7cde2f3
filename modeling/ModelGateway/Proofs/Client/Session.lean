import ModelGateway.Client
import ModelGateway.Proofs.Run

/-!
# How sessions run

Outcomes leave the journal alone, a recorded call is added at its end, and an invoker's failure
surfaces in one way: gateway errors as they are, others wrapped and, if the client logs, noted.
-/
namespace ModelGateway

namespace Session

theorem run_ofOutcome (outcome : Except Fault α) (j : Journal) :
    (ofOutcome outcome).run j = (outcome, j) := rfl

theorem run_record (call : Call) (j : Journal) :
    (record call).run j = (.ok j.calls, { j with calls := j.calls ++ [call] }) := rfl

/-- An action that does not fail leaves what it gives in its place. -/
theorem run_lift (action : StateM Journal α) (j : Journal) :
    (ExceptT.lift action : Session α).run j = (.ok (action.run j).1, (action.run j).2) := rfl

end Session

namespace Client

variable {capability : Capability}

/-- What callers see of an invoker's failure. -/
def surfaced (c : Client capability) : Failure → Fault
  | .gateway e => .gateway e
  | .foreign f => .gateway (.invocation c.modelId f.summary (some f))

/-- The journal after an invoker's failure in an operation. -/
def noted (c : Client capability) (operation : String) (j : Journal) : Failure → Journal
  | .gateway _ => j
  | .foreign f =>
    ((c.log "bedrock_invoke_error" [("operation", .text operation), ("error", .text f.text),
      ("error_type", .text f.kind)]).run j).2

theorem run_fail (c : Client capability) (operation : String) (failure : Failure) (j : Journal) :
    (c.fail operation failure : Session α).run j =
      (.error (c.surfaced failure), c.noted operation j failure) := by
  cases failure with
  | gateway e => rfl
  | foreign f => rfl

theorem noted_calls (c : Client capability) (operation : String) (j : Journal) (failure : Failure) :
    (c.noted operation j failure).calls = j.calls := by
  cases failure with
  | gateway e => rfl
  | foreign f =>
    change (if c.logEvents then { j with events := _ } else j : Journal).calls = j.calls
    split <;> rfl

/-- A request that can be written is called for once, whatever the invoker answers. -/
theorem run_invoke (c : Client capability) (invoker : Invoker) {payload : Object}
    (h : Object.canWrite payload = true) (j : Journal) :
    (c.invoke invoker payload).run j =
      match invoker.invoke j.calls (c.modelRequest payload) with
      | .ok body => (.ok body, { j with calls := j.calls ++ [.invoke (c.modelRequest payload)] })
      | .error failure => (.error (c.surfaced failure), c.noted "invoke_model"
          { j with calls := j.calls ++ [.invoke (c.modelRequest payload)] } failure) := by
  unfold invoke
  rw [if_pos h, run_bind, Session.run_record]
  dsimp only
  cases invoker.invoke j.calls (c.modelRequest payload) with
  | ok body => rfl
  | error failure => exact c.run_fail "invoke_model" failure _

/-- A route that passes the check for a capability is handed on as it is. -/
theorem of_require_ok {r route : Route} {cap : Capability}
    (h : Fault.ofGateway (r.require cap) = .ok route) : r.supports cap = true ∧ route = r := by
  unfold Route.require at h
  cases hs : r.supports cap with
  | false =>
    rw [hs] at h
    cases h
  | true =>
    rw [hs] at h
    exact ⟨rfl, (Except.ok.inj h).symm⟩

end Client
end ModelGateway
