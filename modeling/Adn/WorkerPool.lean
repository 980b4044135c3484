import Adn.LedgerRuns
import Adn.Network
/-!
# Workers that share one request

Any number of calls of `process_delegation_request` get the same signed request
and share one ledger. A call is cut where others can come between: `prepare`,
`begin`, the handler, `finalize`, and the `finalize` of a failure. Alone, the
cut call is `processDelegationRequest` (`process_phases`).
-/

open Lib

namespace Adn

/-! ## Before `begin` -/

section
variable {p : Platform} {env : Env} {agent : Agent} {caller : CallerContext} {signed : Dict} {clock : PrepareClock}

theorem authorize_failed {request : DelegationRequest} {key : Option Str} {r : DelegationResult}
    (h : authorize p env agent clock request key = .error (.ok r)) : r.status = .failed := by
  unfold authorize at h
  cases he : evaluateDelegationRequest p agent.policy request.action request.fromAgentId agent.identity.agentId with
  | error e => rw [he] at h; cases h
  | ok x =>
    obtain ⟨allowed, reason⟩ := x
    rw [he] at h
    cases allowed with
    | false => cases h; rfl
    | true =>
      cases hh : hasHandler agent request.action with
      | error e => simp [hh, orDone, bind, Except.bind] at h
      | ok handled =>
        cases handled with
        | false =>
          simp only [orDone, hh, bind, Except.bind, Bool.not_true, Bool.false_eq_true, if_false, Bool.not_false,
            if_true, Except.error.injEq, Except.ok.injEq] at h
          rw [← h]
          rfl
        | true =>
          cases ha : beginArgs p env agent clock request key with
          | error e => simp [hh, ha, orDone, bind, Except.bind] at h
          | ok args => simp [hh, ha, orDone, bind, Except.bind, pure, Except.pure] at h

/-- A call that does not get to `begin` does not complete. -/
theorem prepare_failed {effects : List Effect} {r : DelegationResult}
    (h : prepare p env agent caller clock signed = (effects, .error (.ok r))) : r.status = .failed := by
  unfold prepare at h
  split at h
  · cases h
  · exact authorize_failed (Prod.mk.inj h).2

/-- A call that gets to `begin` uses the request's key. -/
theorem prepare_key {effects : List Effect} {ready : Ready}
    (h : prepare p env agent caller clock signed = (effects, .ok ready)) :
    ready.args.replayKey = requestKey p signed ∧ requestKey p signed ≠ [] := by
  unfold prepare at h
  split at h
  · cases h
  · rename_i request key hr
    obtain ⟨-, -, -, auth, message, -, hv⟩ := receive_ok.1 hr
    obtain ⟨-, request', k, rfl, hacc⟩ := validateDelegationRequest_ok.1 hv
    obtain ⟨-, -, args, ha, rfl⟩ := authorize_ok.1 (Prod.mk.inj h).2
    have hk := hacc.requestKey
    exact ⟨(beginArgs_replayKey ha).trans hk, hk ▸ hacc.key_ne⟩

end

/-! ## One call, cut into phases -/

/-- What one call runs with. -/
structure Worker where
  env : Env
  agent : Agent
  caller : CallerContext
  clock : PrepareClock
  replyClock : ReplyClock

inductive Phase where
  | fresh
  | ready (r : Ready)
  | running (r : Ready) (token : Str)
  | finalizing (r : Ready) (token : Str) (outcome : Outcome)
  | failing (r : Ready) (token message : Str)
  | returned (result : DelegationResult) (signed : Except PyErr Dict)
  | crashed

/-- What a call does next; `db` says whether its transaction raises. -/
inductive Action where
  | prepare
  | begin (db : Except PyErr Unit) (now : ℚ) (token : Str)
  | handled (outcome : Outcome)
  | finalize (db : Except PyErr Unit) (now : ℚ)
  | fail (db : Except PyErr Unit) (now : ℚ)
  | crash

/-- A call returns its signed reply. -/
def Worker.finish (p : Platform) (w : Worker) (d : Done) : Phase :=
  let r := reply p w.env w.agent w.replyClock d
  .returned r.1 r.2

/-- An action out of turn does nothing. -/
def Worker.advance (p : Platform) (w : Worker) (signed : Dict) : Phase → Action → Ledger → Phase × Ledger
  | .fresh, .prepare, L =>
    match prepare p w.env w.agent w.caller w.clock signed with
    | (_, .error d) => (w.finish p d, L)
    | (_, .ok r) => (.ready r, L)
  | .ready r, .begin db now token, L =>
    let begun := beginRequestExecution p db now token r.args L
    match afterBegin w.agent w.clock r begun with
    | .error d => (w.finish p d, ledgerAfter L begun)
    | .ok token => (.running r token, ledgerAfter L begun)
  | .running r token, .handled outcome, L => (.finalizing r token outcome, L)
  | .finalizing r token outcome, .finalize db now, L =>
    let first := finalizeDelegationRequest p db now r.args.replayKey outcome.finalState r.args.integritySecretHex
      outcome.lastError (some token) L
    match afterFinalize p w.agent w.clock r.request outcome first with
    | .done d => (w.finish p d, ledgerAfter L first)
    | .failing message => (.failing r token message, ledgerAfter L first)
  | .failing r token message, .fail db now, L =>
    let second := finalizeDelegationRequest p db now r.args.replayKey stateRetryableFailure
      r.args.integritySecretHex (some message) (some token) L
    (w.finish p (afterFailing w.agent w.clock r.request message second), ledgerAfter L second)
  | .returned r signed, .crash, L => (.returned r signed, L)
  | _, .crash, L => (.crashed, L)
  | phase, _, L => (phase, L)

/-- What others do to the ledger while a handler runs. -/
def Phase.during (f : Ledger → Ledger) : Phase → Ledger → Ledger
  | .running _ _, L => f L
  | _, L => L

/-- A call that takes its turns one after the other is `processDelegationRequest`. -/
theorem process_phases (p : Platform) (w : Worker) (c : Circumstances) (signed : Dict) (L : Ledger) (records : Records)
    (hc : c.clock = w.clock) (hr : c.reply = w.replyClock) :
    let run := fun (s : Phase × Ledger) a => w.advance p signed s.1 a s.2
    let begun := [Action.prepare, .begin c.dbBegin c.begin c.token].foldl run (.fresh, L)
    let done := processDelegationRequest p w.env w.agent w.caller c signed L records
    [Action.handled c.outcome, .finalize c.dbFinalize c.finalize, .fail c.dbFailing c.failing].foldl run
      (begun.1, begun.1.during c.during begun.2) = (.returned done.reply.1 done.reply.2, done.ledger) := by
  simp only [List.foldl_cons, List.foldl_nil]
  unfold processDelegationRequest
  rw [hc]
  cases hp : prepare p w.env w.agent w.caller w.clock signed with
  | mk effects x =>
  cases x with
  | error d => simp [Worker.advance, hp, Worker.finish, Phase.during, hr]
  | ok r =>
    simp only [Worker.advance, hp, execute, hc, hr]
    cases hb : afterBegin w.agent w.clock r (beginRequestExecution p c.dbBegin c.begin c.token r.args L) with
    | error d => simp [Worker.finish, Phase.during]
    | ok token =>
      simp only [Phase.during, conclude, hc]
      cases hf : afterFinalize p w.agent w.clock r.request c.outcome (finalizeDelegationRequest p c.dbFinalize
          c.finalize r.args.replayKey c.outcome.finalState r.args.integritySecretHex c.outcome.lastError (some token)
          (c.during (ledgerAfter L (beginRequestExecution p c.dbBegin c.begin c.token r.args L)))) with
      | done d => simp [Worker.finish]
      | failing message => simp [Worker.finish]

end Adn
