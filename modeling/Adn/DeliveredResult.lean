import Adn.HonestPipeline
import Adn.SingleUse
/-!
# What a delivered result says

The other direction of `delivers`: whoever the parties are, and whatever is done
to the ledger meanwhile, a result that `deliver` returns is what the worker's
handler returned in this delegation, for the action and the parameters that were
asked for. Both policies allowed it, and the receipt in it authorizes exactly
this task (`delivered_sound`).
-/

open Lib

namespace Adn

/-- The name of a delegation: the one in its receipt, if there is one. -/
def Delegation.name (p : Platform) (d : Delegation) (receipt : Dict) : Str :=
  (d.task receipt).delegationId p d.create.freshId

/-- A delivered result is what its handler returned for this task, which the policies and the gateway allow. -/
structure Delegation.Sound (p : Platform) (d : Delegation) (receipt : Dict) (v : Json) (x : Delivered) : Prop where
  delegates : ∃ reason, evaluateDelegationRequest p d.coordinator.policy (.str d.action)
    (.str d.coordinator.identity.agentId) d.worker.identity.agentId = .ok (true, reason)
  performs : ∃ reason, evaluateDelegationRequest p d.worker.policy (.str d.action)
    (.str d.coordinator.identity.agentId) d.worker.identity.agentId = .ok (true, reason)
  handler : d.action ∈ d.worker.handlers
  outcome : d.circumstances.outcome = .returned (.json v)
  once : x.processed.effects.filter Effect.isHandler = [.handlerInvoked (.str d.action) (.obj d.parameters)]
  reply : ∃ proof, x.processed.reply.2 = .ok proof ∧ proof.get "result_data" = .obj x.resultData
  status : x.resultData.get "status" = .str "COMPLETED"
  result : x.resultData.get "result" = v
  delegationId : x.resultData.get "delegation_id" = .str (d.name p receipt)
  nonce : x.resultData.get "nonce" = .str d.circumstances.clock.resultNonce
  teeAuthorization : x.resultData.get "tee_authorization" = .obj receipt
  authorizes : Authorizes p d.resultClock.authorization receipt (d.expectedReceipt (d.name p receipt))
  proven : ∃ proof, GatewayProven p d.coordinatorEnv d.resultClock.gatewayProof receipt proof d.gatewayPublicKeyHex

/-! ## What was sent -/

section
variable {p : Platform} {env : Env} {d : Delegation} {receipt : Dict}

theorem envelopePayload_get? {agentId did publicKeyHex issuedAt expiresAt : Str} {action nonce : Json} {h : Option Str}
    {tail : Dict} {k : String} (hk : k = "delegation_data" ∨ k = "result_data") (ht : tail.get? k = none) :
    (envelopePayload agentId did publicKeyHex action nonce issuedAt expiresAt h ++ tail).get? k = none := by
  rcases hk with rfl | rfl <;> cases h <;> simp [envelopePayload, Dict.get?_append, ht]

/-- A signed envelope has no field for the data that is sent with it. -/
theorem signAction_get? {identity : AgentIdentity} {now : ℚ} {action nonce : Json} {data : Option Json} {signed : Dict}
    (h : identity.signAction p env now action nonce data = .ok signed) {k : String}
    (hk : k = "delegation_data" ∨ k = "result_data") : signed.get? k = none := by
  unfold AgentIdentity.signAction signActionRequest at h
  by_cases hm : isMock env = true
  · simp only [if_pos hm] at h
    obtain rfl := pure_ok.1 h
    exact envelopePayload_get? hk (by rcases hk with rfl | rfl <;> simp)
  · simp only [if_neg hm] at h
    cases hs : identity.signer with
    | some s =>
      rw [hs] at h
      obtain rfl := pure_ok.1 h
      exact envelopePayload_get? hk (by rcases hk with rfl | rfl <;> simp)
    | none =>
      rw [hs] at h
      obtain ⟨s, -, h⟩ := bind_ok.1 h
      obtain rfl := pure_ok.1 h
      exact envelopePayload_get? hk (by rcases hk with rfl | rfl <;> simp)

theorem orRaised_ok {α : Type} {x : Except PyErr α} {a : α} : orRaised x = .ok a ↔ x = .ok a := by
  cases x <;> simp [orRaised]

/-- What is sent carries the request for the task, and the coordinator's policy allows it. -/
theorem send_ok {name : Json} {signed : Dict} (h : d.send p receipt = .ok (name, signed)) :
    name = .str (d.name p receipt) ∧
      (∃ reason, evaluateDelegationRequest p d.coordinator.policy (.str d.action)
        (.str d.coordinator.identity.agentId) d.worker.identity.agentId = .ok (true, reason)) ∧
      delegationData signed = .obj ((d.task receipt).request p d.create d.coordinator.identity.agentId).payload := by
  obtain ⟨delegated, hd, h⟩ := bind_ok.1 h
  have hallowed : ∃ reason, evaluateDelegationRequest p d.coordinator.policy (.str d.action)
      (.str d.coordinator.identity.agentId) d.worker.identity.agentId = .ok (true, reason) := by
    rw [Agent.delegate, createDelegationRequest_eq] at hd
    obtain ⟨request, hrequest, hd⟩ := bind_ok.1 hd
    obtain rfl := Except.ok.inj hrequest
    obtain ⟨⟨allowed, reason⟩, hpolicy, hd⟩ := bind_ok.1 hd
    cases allowed with
    | false => cases hd
    | true => exact ⟨reason, orRaised_ok.1 hpolicy⟩
  obtain ⟨reason, hreason⟩ := hallowed
  obtain ⟨delegated', hd', hname, hget⟩ := delegate_stored d.create d.logged (d.task receipt) d.delegations hreason
  obtain rfl := Except.ok.inj (hd'.symm.trans hd)
  rw [hget] at h
  obtain ⟨request, hrequest, h⟩ := bind_ok.1 h
  obtain rfl := Except.ok.inj hrequest
  obtain ⟨signed', hsigned, h⟩ := bind_ok.1 h
  obtain ⟨envelope, henvelope, hsigned⟩ := bind_ok.1 (orRaised_ok.1 hsigned)
  obtain rfl := pure_ok.1 hsigned
  cases pure_ok.1 h
  refine ⟨hname, ⟨reason, hreason⟩, ?_⟩
  simp [delegationData, Dict.getD, Dict.get?_append, signAction_get? henvelope (.inl rfl)]

end

/-! ## A completed call -/

theorem value_completed {status : DelegationStatus} (h : status.value = Str.ofString "COMPLETED") : status = .completed := by
  cases status with
  | completed => rfl
  | _ => exact absurd h (by decide +kernel)

section
variable {p : Platform} {env : Env} {agent : Agent} {caller : CallerContext} {c : Circumstances} {signed : Dict} {L : Ledger}
  {records : Records}

/-- The reply carries the data of the result that it reports. -/
theorem reply_data {clock : ReplyClock} {done : Done} {proof : Dict}
    (h : (reply p env agent clock done).2 = .ok proof) :
    ∃ v, (reply p env agent clock done).1.result = .json v ∧
      proof.get "result_data" = .obj ((reply p env agent clock done).1.payload v) := by
  have hsigned : ∀ {r : DelegationResult} {now : ℚ}, r.toActionRequest p env now agent.identity = .ok proof →
      ∃ v, r.result = .json v ∧ proof.get "result_data" = .obj (r.payload v) := by
    intro r now hr
    unfold DelegationResult.toActionRequest at hr
    cases hv : r.result with
    | unserializable =>
      rw [hv] at hr
      cases hr
    | json v =>
      rw [hv] at hr
      obtain ⟨envelope, henvelope, hr⟩ := bind_ok.1 hr
      obtain rfl := pure_ok.1 hr
      exact ⟨v, rfl, by simp [Dict.get, Dict.getD, Dict.get?_append, signAction_get? henvelope (.inr rfl)]⟩
  unfold reply at h ⊢
  cases done with
  | error e => exact hsigned h
  | ok r =>
    simp only at h ⊢
    cases hr : r.toActionRequest p env clock.sign agent.identity with
    | ok signed =>
      rw [hr] at h
      obtain rfl := Except.ok.inj h
      exact hsigned hr
    | error e =>
      rw [hr] at h
      exact hsigned h

theorem processed_reply : ∃ done, (processDelegationRequest p env agent caller c signed L records).reply =
    reply p env agent c.reply done := by
  unfold processDelegationRequest
  cases prepare p env agent caller c.clock signed with
  | mk effects ready =>
    cases ready with
    | error done => exact ⟨done, rfl⟩
    | ok ready =>
      simp only [execute]
      split
      · exact ⟨_, rfl⟩
      · exact ⟨_, rfl⟩

/-- A call ends with a completed result only if its handler returned one. -/
theorem conclude_returned {ready : Ready} {token : Str} {r : DelegationResult}
    (h : (conclude p agent c ready token L).2 = .ok r) (hr : r.status = .completed) :
    ∃ v, c.outcome = .returned v ∧ r = createResult agent c.clock ready.request .completed v none := by
  unfold conclude at h
  cases hx : finalizeDelegationRequest p c.dbFinalize c.finalize ready.args.replayKey c.outcome.finalState
      ready.args.integritySecretHex c.outcome.lastError (some token) L with
  | error e =>
    simp only [hx] at h
    cases ho : c.outcome with
    | returned v =>
      simp only [ho, afterFinalize, afterFailing] at h
      split at h
      · cases h
        cases hr
      · cases h
    | raised m =>
      simp only [ho, afterFinalize] at h
      cases h
  | ok y =>
    simp only [hx, afterFinalize] at h
    obtain rfl := Except.ok.inj h
    cases ho : c.outcome with
    | returned v => exact ⟨v, rfl, rfl⟩
    | raised m =>
      rw [ho] at hr
      cases hr

/-- What a worker has done when it reports a completed result. -/
structure Completed (p : Platform) (env : Env) (agent : Agent) (caller : CallerContext) (c : Circumstances) (signed : Dict)
    (x : Processed) (request : DelegationRequest) (v : Returned) : Prop where
  received : ∃ key, receive p env agent caller c.clock signed = .ok (request, key)
  allowed : ∃ reason, evaluateDelegationRequest p agent.policy request.action request.fromAgentId agent.identity.agentId =
    .ok (true, reason)
  handled : hasHandler agent request.action = .ok true
  outcome : c.outcome = .returned v
  once : x.effects.filter Effect.isHandler = [.handlerInvoked request.action request.parameters]
  result : x.reply.1 = createResult agent c.clock request .completed v none

theorem begun_unhandled {key : Str} {x : Except PyErr (BeginReply × Ledger)} :
    (beginEffects key x).filter Effect.isHandler = [] := by
  cases x <;> rfl

theorem failed_completed {done : Done} (hdone : ∀ r, done = .ok r → r.status = .failed) {clock : ReplyClock} :
    (reply p env agent clock done).1.status ≠ .completed := by
  intro h
  obtain ⟨r, hr, hcompleted⟩ := reply_completed h
  rw [hdone r hr] at hcompleted
  cases hcompleted

theorem processed_completed
    (h : (processDelegationRequest p env agent caller c signed L records).reply.1.status = .completed) :
    ∃ request v, Completed p env agent caller c signed (processDelegationRequest p env agent caller c signed L records)
      request v := by
  unfold processDelegationRequest at h ⊢
  unfold prepare at h ⊢
  cases hreceive : receive p env agent caller c.clock signed with
  | error e =>
    rw [hreceive] at h
    exact absurd h (failed_completed (by intro r hr; cases hr))
  | ok received =>
    obtain ⟨request, key⟩ := received
    simp only [hreceive] at h ⊢
    cases hauthorize : authorize p env agent c.clock request key with
    | error done =>
      rw [hauthorize] at h
      exact absurd h (failed_completed (by rintro r rfl; exact authorize_failed hauthorize))
    | ok ready =>
      obtain ⟨hallowed, hhandled, args, -, rfl⟩ := authorize_ok.1 hauthorize
      simp only [hauthorize, execute] at h ⊢
      cases hbegin : afterBegin agent c.clock ⟨request, args⟩
          (beginRequestExecution p c.dbBegin c.begin c.token args L) with
      | error done =>
        simp only [hbegin] at h
        refine absurd h (failed_completed ?_)
        rintro r rfl
        unfold afterBegin at hbegin
        split at hbegin
        · cases hbegin
        · split at hbegin <;> cases hbegin
          rfl
      | ok token =>
        simp only [hbegin] at h ⊢
        obtain ⟨r, hr, hcompleted⟩ := reply_completed h
        obtain ⟨v, hv, rfl⟩ := conclude_returned hr hcompleted
        have hreply : ∀ {done : Done} {clock : ReplyClock}, done = .ok (createResult agent c.clock request .completed v none) →
            (reply p env agent clock done).1.status = .completed →
            (reply p env agent clock done).1 = createResult agent c.clock request .completed v none := by
          rintro _ clock rfl hstatus
          unfold reply at hstatus ⊢
          simp only at hstatus ⊢
          split at hstatus
          · rfl
          · cases hstatus
        exact ⟨request, v, {
          received := ⟨key, hreceive⟩
          allowed := hallowed
          handled := hhandled
          outcome := hv
          once := by
            rw [List.filter_append, List.filter_append, begun_unhandled]
            rfl
          result := hreply hr h }⟩

end

/-! ## A delivered one -/

section
variable {p : Platform} {d : Delegation} {receipt : Dict} {s : VerifierState} {x : Delivered}

/-- The steps of a delegation that is delivered. -/
theorem deliver_ok (h : d.deliver p receipt s = .ok x) : ∃ signed proof, d.send p receipt =
      .ok (.str (d.name p receipt), signed) ∧
    x.processed = processDelegationRequest p d.workerEnv d.worker d.caller d.circumstances signed s.ledger d.records ∧
    x.processed.reply.2 = .ok proof ∧
    verifyWorkerResult p d.coordinatorEnv d.coordinator.integrity d.dbResult d.resultClock proof
      (d.expected receipt (.str (d.name p receipt))) ⟨s.cache, (execAll p x.processed.ledger d.between).2⟩ =
        (.ok x.resultData, x.verifier) := by
  obtain ⟨⟨name, signed⟩, hsend, h⟩ := bind_ok.1 h
  obtain ⟨rfl, -, -⟩ := send_ok hsend
  obtain ⟨proof, hproof, h⟩ := bind_ok.1 h
  generalize hv : verifyWorkerResult p d.coordinatorEnv d.coordinator.integrity d.dbResult d.resultClock proof
    (d.expected receipt (.str (d.name p receipt))) _ = verified at h
  obtain ⟨out, s'⟩ := verified
  cases out with
  | error e => cases h
  | ok rd =>
    obtain rfl := Except.ok.inj h
    exact ⟨signed, proof, hsend, rfl, orRaised_ok.1 hproof, hv⟩

theorem delivered_sound (h : d.deliver p receipt s = .ok x) : ∃ v, d.Sound p receipt v x := by
  obtain ⟨signed, proof, hsend, hx, hproof, hverified⟩ := deliver_ok h
  obtain ⟨-, hdelegates, hdata⟩ := send_ok hsend
  obtain ⟨receipt', -, hcheck, -⟩ := verifyWorkerResult_ok.1 hverified
  obtain ⟨r, expected, gatewayProof, rfl, -, hb⟩ := checkWorkerResult_ok.1 hcheck
  rw [hx] at hproof
  obtain ⟨done, hreply⟩ : ∃ done, (processDelegationRequest p d.workerEnv d.worker d.caller d.circumstances signed s.ledger
      d.records).reply = reply p d.workerEnv d.worker d.circumstances.reply done := processed_reply
  have hresult : ∃ v, x.processed.reply.1.result = .json v ∧
      proof.get "result_data" = .obj (x.processed.reply.1.payload v) := by
    rw [hx, hreply]
    exact reply_data (hreply ▸ hproof)
  obtain ⟨v, hv, hpayload⟩ := hresult
  -- what the coordinator has verified is the data of the reply
  have hrd : x.resultData = x.processed.reply.1.payload v := by
    have hdata := hb.resultData
    rw [hpayload, orEmpty_obj] at hdata
    exact (Json.obj.inj hdata).symm
  have hstatus : x.processed.reply.1.status = .completed := by
    have hstatus := hb.status
    rw [hrd] at hstatus
    apply value_completed
    simpa [DelegationResult.payload, Dict.get, Dict.getD, Dict.get?_append] using hstatus
  rw [hx] at hstatus
  obtain ⟨request, returned, hcompleted⟩ := processed_completed hstatus
  rw [← hx] at hcompleted
  obtain ⟨key, hreceived⟩ := hcompleted.received
  obtain ⟨hrequest, -⟩ := receive_ok.1 hreceived
  rw [fromActionRequest_payload hdata] at hrequest
  obtain rfl := Except.ok.inj hrequest
  have hsame := hcompleted.result
  rw [hsame] at hv hrd
  obtain rfl : returned = .json v := hv
  have hget : ∀ k : String, x.resultData.get k = ((d.result p receipt v).payload v).get k := fun k => by rw [hrd]; rfl
  have hpresent : r = receipt := by
    have hpresent := hb.present
    rw [hget] at hpresent
    simpa [Dict.get, Dict.getD, result_get?, eq_comm] using hpresent
  subst hpresent
  refine ⟨v, ?_⟩
  exact {
    delegates := hdelegates
    performs := hcompleted.allowed
    handler := by
      have hhandled := hcompleted.handled
      exact of_decide_eq_true (Except.ok.inj hhandled)
    outcome := hcompleted.outcome
    once := hcompleted.once
    reply := ⟨proof, hx ▸ hproof, by rw [hpayload, hsame, hrd]⟩
    status := hb.status
    result := by rw [hget]; simp [Dict.get, Dict.getD, result_get?]
    delegationId := by
      rw [hget]
      simp [Dict.get, Dict.getD, result_get?, Delegation.name]
    nonce := by rw [hget]; simp [Dict.get, Dict.getD, result_get?]
    teeAuthorization := hb.present
    authorizes := hb.authorizes
    proven := ⟨gatewayProof, hb.proven⟩ }

end

end Adn
