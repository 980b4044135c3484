import Adn.DelegationPolicy
/-!
# Processing a delegation request

`process_delegation_request` in the order the code runs: `prepare` (reconstruct,
validate, evaluate the policy, look the handler up), one `begin` on the replay
key, the handler, one `finalize`, and the signed reply. Other processes use the
ledger while the handler runs.

An exception anywhere before the reply turns into a signed error result. What
`finalize` returns is not looked at.
-/

open Lib

namespace Adn

/-! ## Results -/

/-- What a handler returns: a value `json.dumps` writes, or one it refuses. -/
inductive Returned where
  | json (v : Json)
  | unserializable

structure DelegationResult where
  delegationId : Json
  fromAgentId : Str
  toAgentId : Json
  status : DelegationStatus
  result : Returned
  error : Option Str
  nonce : Str
  issuedAt : ℚ
  teeAuthorization : Json

structure AgentIdentity where
  signer : Option Signer
  agentId : Str
  publicKeyHex : Str
  did : Str
  privateKeyHex : Option Str

/-- `AgentIdentity.sign_action` -/
def AgentIdentity.signAction (p : Platform) (env : Env) (now : ℚ) (identity : AgentIdentity) (action nonce : Json)
    (data : Option Json) : Except PyErr Dict :=
  signActionRequest p env now identity.signer action nonce data

/-- The payload of a result. -/
def DelegationResult.payload (r : DelegationResult) (result : Json) : Dict :=
  Dict.ofList [("delegation_id", r.delegationId), ("from_agent_id", .str r.fromAgentId), ("to_agent_id", r.toAgentId),
    ("status", .str r.status.value), ("result", result), ("error", optText r.error), ("nonce", .str r.nonce),
    ("issued_at", .float (.finite r.issuedAt))] ++
    if isNull r.teeAuthorization then [] else Dict.ofList [("tee_authorization", r.teeAuthorization)]

/-- `DelegationResult.to_action_request` -/
def DelegationResult.toActionRequest (p : Platform) (env : Env) (now : ℚ) (identity : AgentIdentity)
    (r : DelegationResult) : Except PyErr Dict :=
  match r.result with
  | .unserializable => .error .typeError
  | .json v => do
    let signed ← identity.signAction p env now (.str taskResult) (.str r.nonce) (some (.obj (r.payload v)))
    return signed ++ Dict.ofList [("result_data", .obj (r.payload v))]

/-- A signer signs any result that `json.dumps` writes. -/
theorem toActionRequest_signed {p : Platform} {env : Env} (hm : isMock env = false) {now : ℚ}
    {identity : AgentIdentity} {s : Signer} (hs : identity.signer = some s) {r : DelegationResult} {v : Json}
    (hr : r.result = .json v) : ∃ signed, r.toActionRequest p env now identity = .ok signed := by
  simp only [DelegationResult.toActionRequest, hr, AgentIdentity.signAction, hs, signActionRequest_some hm]
  exact ⟨_, rfl⟩

/-! ## Replay retention -/

/-- `_delegation_request_replay_expires_at` -/
def replayExpiresAt (p : Platform) (now : ℚ) (request : DelegationRequest) : Except PyErr PyFloat := do
  let expiresAt ← toFloat (request.expiresAt.orElse (.float (.finite now)))
  let receipt ← asDict (orEmpty request.teeAuthorization)
  let authorizationExpiresAt := receipt.get "authorization_expires_at"
  return if authorizationExpiresAt.truthy then
      match p.fromisoformat (p.str authorizationExpiresAt) with
      | some parsed => pyMin expiresAt (.finite parsed.timestamp)
      | none => expiresAt
    else expiresAt

/-- `_request_replay_integrity_key` -/
def requestReplayIntegrityKey (p : Platform) (env : Env) (cfg : IntegrityConfig) (identity : AgentIdentity) :
    Except PyErr (Option Str) := do
  let configured ← configuredIntegrityKey p env cfg "request"
  if isSet configured then return configured
  else deriveIntegrityKey p identity.privateKeyHex "request"

/-! ## An agent -/

structure Agent where
  identity : AgentIdentity
  policy : DelegationPolicy
  handlers : List Str
  integrity : IntegrityConfig

/-- The optional arguments of `process_delegation_request`. -/
structure CallerContext where
  gatewayPublicKeyHex : Option Str
  gatewayKeyId : Option Str
  buildConfigId : Option Str
  requireTeeAuthorization : Option Bool

/-- The clock readings before `begin`, and what the result is stamped with. -/
structure PrepareClock where
  postInit : ℚ
  expired : ℚ
  validation : ValidationClock
  replayExpires : ℚ
  resultIssued : ℚ
  resultNonce : Str

/-- What a call does that others can see. -/
inductive Effect where
  | policyEvaluated (delegator : Json) (target : Str) (action : Json)
  | begun (replayKey : Str) (reply : BeginReply)
  | handlerInvoked (action parameters : Json)

/-- How the `try` block ends: with a result to sign, or an exception. -/
abbrev Done := Except PyErr DelegationResult

/-- A request that is allowed, has a handler and waits for `begin`. -/
structure Ready where
  request : DelegationRequest
  args : BeginArgs

/-- `create_delegation_result` -/
def createResult (agent : Agent) (clock : PrepareClock) (request : DelegationRequest) (status : DelegationStatus)
    (result : Returned) (error : Option Str) : DelegationResult where
  delegationId := request.delegationId
  fromAgentId := agent.identity.agentId
  toAgentId := request.fromAgentId
  status
  result
  error
  nonce := clock.resultNonce
  issuedAt := clock.resultIssued
  teeAuthorization := request.teeAuthorization

def failedResult (agent : Agent) (clock : PrepareClock) (request : DelegationRequest) (error : Str) :
    DelegationResult :=
  createResult agent clock request .failed (.json .null) (some error)

/-- `if ok: raise ValueError(message)` -/
def raiseIf (ok : Bool) (message : Str) : Except PyErr Unit := if ok then .error (.valueError message) else .ok ()

theorem raiseIf_ok {ok : Bool} {message : Str} {u : Unit} : raiseIf ok message = .ok u ↔ ok = false := by
  unfold raiseIf
  split <;> simp_all

/-- What a request to this agent is validated with. -/
def WorkerAuthorizationContext.validationContext (auth : WorkerAuthorizationContext) (receiverAgentId : Str) :
    ValidationContext where
  receiverAgentId
  gatewayPublicKeyHex := auth.expectedGatewayPublicKeyHex
  gatewayKeyId := auth.expectedGatewayKeyId
  buildConfigId := auth.expectedBuildConfigId
  requireTeeAuthorization := auth.requireTeeAuthorization

/-- Reconstruct and validate; a valid request comes with its replay key. -/
def receive (p : Platform) (env : Env) (agent : Agent) (caller : CallerContext) (clock : PrepareClock)
    (signed : Dict) : Except PyErr (DelegationRequest × Option Str) := do
  let request ← DelegationRequest.fromActionRequest clock.postInit signed
  let expired ← request.isExpired clock.expired
  raiseIf expired "Delegation request has expired"
  raiseIf (!request.toAgentId.pyEq (.str agent.identity.agentId)) "Delegation request not for this agent"
  let auth ← fromTrustedConfig env caller.gatewayPublicKeyHex caller.gatewayKeyId caller.buildConfigId
    caller.requireTeeAuthorization
  let (isValid, message, key) ← validateDelegationRequest p env clock.validation
    (auth.validationContext agent.identity.agentId) signed
  raiseIf (!isValid) (Str.ofString "Invalid delegation request: " ++ message)
  return (request, key)

/-- `self._task_handlers.get(action)` -/
def hasHandler (agent : Agent) (action : Json) : Except PyErr Bool :=
  match action with
  | .str a => .ok (a ∈ agent.handlers)
  | v => if hashable v then .ok false else .error .typeError

/-- The arguments of `begin`. -/
def beginArgs (p : Platform) (env : Env) (agent : Agent) (clock : PrepareClock) (request : DelegationRequest)
    (key : Option Str) : Except PyErr BeginArgs := do
  let integritySecretHex ← requestReplayIntegrityKey p env agent.integrity agent.identity
  let replayExpiresAt ← replayExpiresAt p clock.replayExpires request
  let payloadFingerprint ← receiptFingerprint p (orEmpty request.teeAuthorization)
  return {
    replayKey := key.getD []
    replayExpiresAt
    ownerAgentId := agent.identity.agentId
    delegationId := request.delegationId
    payloadFingerprint
    integritySecretHex }

/-- An exception ends the `try` block. -/
def orDone {α : Type} : Except PyErr α → Except Done α
  | .ok a => .ok a
  | .error e => .error (.error e)

theorem orDone_ok {α : Type} {x : Except PyErr α} {a : α} : orDone x = .ok a ↔ x = .ok a := by
  cases x <;> simp [orDone]

/-- The policy, the handler table and the arguments of `begin`, for a valid request. -/
def authorize (p : Platform) (env : Env) (agent : Agent) (clock : PrepareClock) (request : DelegationRequest)
    (key : Option Str) : Except Done Ready := do
  let (allowed, reason) ← orDone (evaluateDelegationRequest p agent.policy request.action request.fromAgentId
    agent.identity.agentId)
  if !allowed then
    .error (.ok (failedResult agent clock request (Str.ofString "Not allowed by policy: " ++ reason)))
  else if !(← orDone (hasHandler agent request.action)) then
    .error (.ok (failedResult agent clock request (Str.ofString "No handler available for action: " ++
      p.str request.action)))
  else
    let args ← orDone (beginArgs p env agent clock request key)
    return { request, args }

/-- Everything before `begin`. -/
def prepare (p : Platform) (env : Env) (agent : Agent) (caller : CallerContext) (clock : PrepareClock)
    (signed : Dict) : List Effect × Except Done Ready :=
  match receive p env agent caller clock signed with
  | .error e => ([], .error (.error e))
  | .ok (request, key) =>
    ([.policyEvaluated request.fromAgentId agent.identity.agentId request.action],
      authorize p env agent clock request key)

/-- How `begin` goes on: with a token, or to a reply. -/
def afterBegin (agent : Agent) (clock : PrepareClock) (ready : Ready) : Except PyErr (BeginReply × Ledger) →
    Except Done Str
  | .error e => .error (.error e)
  | .ok (reply, _) =>
    match reply.allowed, reply.token with
    | true, some token => .ok token
    | _, _ => .error (.ok (failedResult agent clock ready.request reply.reason))

/-! ## Execution -/

/-- What the handler does: it returns a value, or raises with a text. -/
inductive Outcome where
  | returned (v : Returned)
  | raised (message : Str)

/-- The state a call finalizes with first. -/
def Outcome.finalState : Outcome → Str
  | .returned _ => stateCompleted
  | .raised _ => stateRetryableFailure

def Outcome.lastError : Outcome → Option Str
  | .returned _ => none
  | .raised message => some message

/-- The result a call signs if its first `finalize` does not raise. -/
def Outcome.result (agent : Agent) (clock : PrepareClock) (request : DelegationRequest) : Outcome → DelegationResult
  | .returned v => createResult agent clock request .completed v none
  | .raised message => failedResult agent clock request message

/-- `finalize_delegation_request_execution` -/
def finalizeDelegationRequest (p : Platform) (db : Except PyErr Unit) (now : ℚ) (key state : Str)
    (secret error token : Option Str) (L : Ledger) : Except PyErr (Bool × Ledger) :=
  if state = stateCompleted ∨ state = stateRetryableFailure then
    finalizeRequestExecution p db now key state secret error token L
  else .error (.valueError (Str.ofString "Unsupported replay state: " ++ state))

/-- After the first `finalize`: whatever it returned, the result stands. If it
raised after a successful handler, the failure is finalized in its place. -/
inductive AfterFinalize where
  | done (d : Done)
  | failing (message : Str)

def afterFinalize (p : Platform) (agent : Agent) (clock : PrepareClock) (request : DelegationRequest)
    (outcome : Outcome) : Except PyErr (Bool × Ledger) → AfterFinalize
  | .ok _ => .done (.ok (outcome.result agent clock request))
  | .error e =>
    match outcome with
    | .returned _ => .failing (p.errStr e)
    | .raised _ => .done (.error e)

/-- After the `finalize` of a failure. -/
def afterFailing (agent : Agent) (clock : PrepareClock) (request : DelegationRequest) (message : Str) :
    Except PyErr (Bool × Ledger) → Done
  | .ok _ => .ok (failedResult agent clock request message)
  | .error e => .error e

/-- What the signing of the reply and of an error reply are stamped with. -/
structure ReplyClock where
  sign : ℚ
  errorIssued : ℚ
  errorNonce : Str
  errorSign : ℚ

/-- The result that reports an exception. -/
def errorResult (p : Platform) (agent : Agent) (clock : ReplyClock) (e : PyErr) : DelegationResult where
  delegationId := .str "error"
  fromAgentId := agent.identity.agentId
  toAgentId := .str "unknown"
  status := .failed
  result := .json .null
  error := some (p.errStr e)
  nonce := clock.errorNonce
  issuedAt := clock.errorIssued
  teeAuthorization := .null

/-- The result that is signed in the end, and the signed reply. -/
def reply (p : Platform) (env : Env) (agent : Agent) (clock : ReplyClock) (d : Done) :
    DelegationResult × Except PyErr Dict :=
  let fail (e : PyErr) :=
    let r := errorResult p agent clock e
    (r, r.toActionRequest p env clock.errorSign agent.identity)
  match d with
  | .error e => fail e
  | .ok r =>
    match r.toActionRequest p env clock.sign agent.identity with
    | .ok signed => (r, .ok signed)
    | .error e => fail e

/-- An entry of the audit log. -/
structure LogEntry where
  timestamp : ℚ
  type : Str
  delegationId : Json
  fromAgent : Json
  toAgent : Str
  action : Json
  status : Str
  hasError : Option Bool

/-- What an agent remembers: `_delegations`, `_results` and `_delegation_log`. -/
structure Records where
  delegations : List (Json × DelegationRequest)
  results : List (Json × DelegationResult)
  log : List LogEntry

/-- `d[key] = v` -/
def setItem {α : Type} : List (Json × α) → Json → α → List (Json × α)
  | [], key, v => [(key, v)]
  | (k, w) :: d, key, v => if k.pyEq key then (k, v) :: d else (k, w) :: setItem d key v

/-- The records of a request that begins. -/
def Records.received (records : Records) (agent : Agent) (now : ℚ) (request : DelegationRequest) : Records :=
  { records with
    delegations := setItem records.delegations request.delegationId request
    log := records.log ++ [{
      timestamp := now
      type := "delegation_received"
      delegationId := request.delegationId
      fromAgent := request.fromAgentId
      toAgent := agent.identity.agentId
      action := request.action
      status := "in_progress"
      hasError := none }] }

/-- The records of a result; an exception leaves none. -/
def Records.concluded (records : Records) (agent : Agent) (now : ℚ) (request : DelegationRequest) : Done → Records
  | .error _ => records
  | .ok r =>
    { records with
      results := setItem records.results request.delegationId r
      log := records.log ++ [{
        timestamp := now
        type := "delegation_completed"
        delegationId := request.delegationId
        fromAgent := request.fromAgentId
        toAgent := agent.identity.agentId
        action := request.action
        status := r.status.value
        hasError := some (isSet r.error) }] }

/-- What one call meets: clock readings, the token drawn, the database, the
handler, and what other processes do to the ledger while the handler runs. -/
structure Circumstances where
  clock : PrepareClock
  begin : ℚ
  token : Str
  dbBegin : Except PyErr Unit
  received : ℚ
  during : Ledger → Ledger
  outcome : Outcome
  finalize : ℚ
  dbFinalize : Except PyErr Unit
  failing : ℚ
  dbFailing : Except PyErr Unit
  concluded : ℚ
  reply : ReplyClock

structure Processed where
  effects : List Effect
  ledger : Ledger
  records : Records
  reply : DelegationResult × Except PyErr Dict

/-- The ledger after a transaction. -/
def ledgerAfter {α : Type} (L : Ledger) : Except PyErr (α × Ledger) → Ledger
  | .ok (_, L') => L'
  | .error _ => L

/-- From the handler's outcome to the end of the `try` block. -/
def conclude (p : Platform) (agent : Agent) (c : Circumstances) (ready : Ready) (token : Str) (L : Ledger) :
    Ledger × Done :=
  let first := finalizeDelegationRequest p c.dbFinalize c.finalize ready.args.replayKey c.outcome.finalState
    ready.args.integritySecretHex c.outcome.lastError (some token) L
  let L' := ledgerAfter L first
  match afterFinalize p agent c.clock ready.request c.outcome first with
  | .done d => (L', d)
  | .failing message =>
    let second := finalizeDelegationRequest p c.dbFailing c.failing ready.args.replayKey stateRetryableFailure
      ready.args.integritySecretHex (some message) (some token) L'
    (ledgerAfter L' second, afterFailing agent c.clock ready.request message second)

def beginEffects (replayKey : Str) : Except PyErr (BeginReply × Ledger) → List Effect
  | .ok (r, _) => [.begun replayKey r]
  | .error _ => []

/-- From `begin` on. -/
def execute (p : Platform) (env : Env) (agent : Agent) (c : Circumstances) (ready : Ready) (L : Ledger)
    (records : Records) : Processed :=
  let begun := beginRequestExecution p c.dbBegin c.begin c.token ready.args L
  match afterBegin agent c.clock ready begun with
  | .error d =>
    { effects := beginEffects ready.args.replayKey begun
      ledger := ledgerAfter L begun
      records
      reply := reply p env agent c.reply d }
  | .ok token =>
    let (L', d) := conclude p agent c ready token (c.during (ledgerAfter L begun))
    { effects := beginEffects ready.args.replayKey begun ++
        [.handlerInvoked ready.request.action ready.request.parameters]
      ledger := L'
      records := (records.received agent c.received ready.request).concluded agent c.concluded ready.request d
      reply := reply p env agent c.reply d }

/-- `process_delegation_request` -/
def processDelegationRequest (p : Platform) (env : Env) (agent : Agent) (caller : CallerContext) (c : Circumstances)
    (signed : Dict) (L : Ledger) (records : Records) : Processed :=
  match prepare p env agent caller c.clock signed with
  | (effects, .error d) => ⟨effects, L, records, reply p env agent c.reply d⟩
  | (effects, .ok ready) =>
    let done := execute p env agent c ready L records
    { done with effects := effects ++ done.effects }

/-! ## What a call has done -/

variable {p : Platform} {env : Env} {agent : Agent} {caller : CallerContext} {c : Circumstances} {signed : Dict}
  {L : Ledger} {records : Records}

/-- The requests that are received: reconstructed, not expired, for this agent and valid. -/
theorem receive_ok {clock : PrepareClock} {request : DelegationRequest} {key : Option Str} :
    receive p env agent caller clock signed = .ok (request, key) ↔
      DelegationRequest.fromActionRequest clock.postInit signed = .ok request ∧
      request.isExpired clock.expired = .ok false ∧ request.toAgentId.pyEq (.str agent.identity.agentId) = true ∧
      ∃ auth message, fromTrustedConfig env caller.gatewayPublicKeyHex caller.gatewayKeyId caller.buildConfigId
          caller.requireTeeAuthorization = .ok auth ∧
        validateDelegationRequest p env clock.validation (auth.validationContext agent.identity.agentId) signed =
          .ok (true, message, key) := by
  simp only [receive, bind_ok, raiseIf_ok, pure_ok, exists_const, Prod.exists, Prod.mk.injEq, Bool.not_eq_false']
  constructor
  · rintro ⟨r, hr, b, he, rfl, ht, auth, ha, ok, message, k, hv, rfl, rfl, rfl⟩
    exact ⟨hr, he, ht, auth, message, ha, hv⟩
  · rintro ⟨hr, he, ht, auth, message, ha, hv⟩
    exact ⟨request, hr, false, he, rfl, ht, auth, ha, true, message, key, hv, rfl, rfl, rfl⟩

theorem afterBegin_ok {clock : PrepareClock} {ready : Ready} {x : Except PyErr (BeginReply × Ledger)} {token : Str}
    (h : afterBegin agent clock ready x = .ok token) :
    ∃ r L', x = .ok (r, L') ∧ r.allowed = true ∧ r.token = some token := by
  unfold afterBegin at h
  split at h
  · cases h
  · rename_i r L'
    split at h
    · rename_i t ha ht
      cases h
      exact ⟨r, L', rfl, ha, ht⟩
    · cases h

theorem authorize_ok {clock : PrepareClock} {request : DelegationRequest} {key : Option Str} {ready : Ready} :
    authorize p env agent clock request key = .ok ready ↔
      (∃ reason, evaluateDelegationRequest p agent.policy request.action request.fromAgentId agent.identity.agentId =
        .ok (true, reason)) ∧
      hasHandler agent request.action = .ok true ∧
      ∃ args, beginArgs p env agent clock request key = .ok args ∧ ready = ⟨request, args⟩ := by
  unfold authorize
  simp only [bind_ok, orDone_ok, Prod.exists]
  constructor
  · rintro ⟨allowed, reason, he, h⟩
    cases allowed with
    | false => cases h
    | true =>
      obtain ⟨handled, hh, h⟩ := bind_ok.1 h
      rw [orDone_ok] at hh
      cases handled with
      | false => cases h
      | true =>
        obtain ⟨args, ha, h⟩ := bind_ok.1 h
        rw [orDone_ok] at ha
        exact ⟨⟨reason, he⟩, hh, args, ha, (pure_ok.1 h).symm⟩
  · rintro ⟨⟨reason, he⟩, hh, args, ha, rfl⟩
    refine ⟨true, reason, he, bind_ok.2 ⟨true, orDone_ok.2 hh, bind_ok.2 ⟨args, orDone_ok.2 ha, rfl⟩⟩⟩

theorem beginArgs_replayKey {clock : PrepareClock} {request : DelegationRequest} {key : Option Str} {args : BeginArgs}
    (h : beginArgs p env agent clock request key = .ok args) : args.replayKey = key.getD [] := by
  simp only [beginArgs, bind_ok, pure_ok] at h
  obtain ⟨_, -, _, -, _, -, rfl⟩ := h
  rfl

theorem afterBegin_iff {clock : PrepareClock} {ready : Ready} {x : Except PyErr (BeginReply × Ledger)} {token : Str} :
    afterBegin agent clock ready x = .ok token ↔
      ∃ reply L', x = .ok (reply, L') ∧ reply.allowed = true ∧ reply.token = some token := by
  refine ⟨afterBegin_ok, ?_⟩
  rintro ⟨reply, L', rfl, ha, ht⟩
  simp only [afterBegin, ha, ht]

/-- From `begin` on, a call begins once and then invokes the handler, if it may. -/
theorem mem_execute {ready : Ready} {e : Effect} (h : e ∈ (execute p env agent c ready L records).effects) :
    ∃ r L', beginRequestExecution p c.dbBegin c.begin c.token ready.args L = .ok (r, L') ∧
      (e = .begun ready.args.replayKey r ∨
        (e = .handlerInvoked ready.request.action ready.request.parameters ∧ r.allowed = true)) := by
  have hbegun : ∀ {x : Except PyErr (BeginReply × Ledger)}, e ∈ beginEffects ready.args.replayKey x →
      ∃ r L', x = .ok (r, L') ∧ e = .begun ready.args.replayKey r := by
    intro x hx
    cases x with
    | error => cases hx
    | ok y => exact ⟨y.1, y.2, rfl, List.mem_singleton.1 hx⟩
  unfold execute at h
  cases hab : afterBegin agent c.clock ready (beginRequestExecution p c.dbBegin c.begin c.token ready.args L) with
  | error d =>
    simp only [hab] at h
    obtain ⟨r, L', hr, he⟩ := hbegun h
    exact ⟨r, L', hr, .inl he⟩
  | ok token =>
    simp only [hab, List.mem_append, List.mem_singleton] at h
    rcases h with h | rfl
    · obtain ⟨r, L', hr, he⟩ := hbegun h
      exact ⟨r, L', hr, .inl he⟩
    · obtain ⟨r, L', hr, ha, -⟩ := afterBegin_ok hab
      exact ⟨r, L', hr, .inr ⟨rfl, ha⟩⟩

/-- The effects before `begin`, and those from `begin` on. -/
theorem mem_effects {e : Effect}
    (h : e ∈ (processDelegationRequest p env agent caller c signed L records).effects) :
    e ∈ (prepare p env agent caller c.clock signed).1 ∨
      ∃ ready, (prepare p env agent caller c.clock signed).2 = .ok ready ∧
        e ∈ (execute p env agent c ready L records).effects := by
  unfold processDelegationRequest at h
  split at h
  · rename_i effects d hp
    rw [hp]
    exact .inl h
  · rename_i effects ready hp
    rw [hp]
    exact (List.mem_append.1 h).imp_right fun h => ⟨ready, rfl, h⟩

theorem mem_effects_prepare {e : Effect} (h : e ∈ (prepare p env agent caller c.clock signed).1) :
    e ∈ (processDelegationRequest p env agent caller c signed L records).effects := by
  unfold processDelegationRequest
  split
  · rename_i effects d hp
    rwa [hp] at h
  · rename_i effects ready hp
    rw [hp] at h
    exact List.mem_append_left _ h

end Adn
