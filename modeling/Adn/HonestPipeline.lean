import Adn.ConsumedOnce
import Adn.Delegating
/-!
# An honest delegation completes

A delegation from the gateway's receipt to the result that the coordinator
verifies, in the order the code runs: `build_tee_authorization_receipt`,
`delegate_task`, `to_action_request`, `process_delegation_request`,
`verify_worker_result`. Other processes use the ledger before the worker begins,
while its handler runs and before the coordinator verifies. `delivers` is that
nothing on this way refuses what the step before it made: where every party is
honest and every deadline is met, the coordinator gets what the handler returned.
-/

open Lib

namespace Adn

/-! ## The parties and what they meet -/

structure Delegation where
  coordinatorEnv : Env
  workerEnv : Env
  coordinator : Agent
  worker : Agent
  action : Str
  taskDescription : Str
  parameters : Dict
  deadline : Option PyFloat
  requiredCapabilities : Option (List Str)
  /-- What both are configured to expect of a receipt. -/
  gatewayPublicKeyHex : Str
  gatewayKeyId : Str
  buildConfigId : Str
  requireTeeAuthorization : Option Bool
  create : CreateClock
  logged : ℚ
  delegations : List (Json × DelegationRequest)
  requestSigned : ℚ
  circumstances : Circumstances
  records : Records
  /-- What is done to the ledger between the worker's reply and its verification. -/
  between : List Call
  resultClock : ResultClock
  dbResult : Except PyErr Unit

def Delegation.task (d : Delegation) (receipt : Dict) : Task where
  toAgentId := d.worker.identity.agentId
  action := d.action
  taskDescription := d.taskDescription
  parameters := some d.parameters
  deadline := d.deadline
  requiredCapabilities := d.requiredCapabilities
  teeAuthorization := some receipt

def Delegation.caller (d : Delegation) : CallerContext :=
  ⟨some d.gatewayPublicKeyHex, some d.gatewayKeyId, some d.buildConfigId, d.requireTeeAuthorization⟩

/-- What the coordinator expects of the result. -/
def Delegation.expected (d : Delegation) (receipt : Dict) (delegationId : Json) : ExpectedResult where
  workerId := d.worker.identity.agentId
  workerPubkeyHex := d.worker.identity.publicKeyHex
  delegationId
  coordinatorId := d.coordinator.identity.agentId
  teeAuthorization := .obj receipt
  gatewayPublicKeyHex := some d.gatewayPublicKeyHex
  gatewayKeyId := some d.gatewayKeyId
  action := .str d.action
  parameters := .obj d.parameters
  buildConfigId := some d.buildConfigId

/-- Delegate a task and sign the request that is stored for it. -/
def Delegation.send (p : Platform) (d : Delegation) (receipt : Dict) : Except DelegateError (Json × Dict) := do
  let delegated ← d.coordinator.delegate p d.create d.logged (d.task receipt) d.delegations
  let request ← getItem delegated.delegations delegated.delegationId
  let signed ← orRaised (request.toActionRequest p d.coordinatorEnv d.requestSigned d.coordinator.identity)
  return (delegated.delegationId, signed)

/-- How a delegation ends: what the worker has done, and the verified result. -/
structure Delivered where
  processed : Processed
  resultData : Dict
  verifier : VerifierState

/-- A delegation with a receipt, from the first message to the verified result. -/
def Delegation.deliver (p : Platform) (d : Delegation) (receipt : Dict) (s : VerifierState) :
    Except DelegateError Delivered := do
  let (delegationId, signed) ← d.send p receipt
  let processed := processDelegationRequest p d.workerEnv d.worker d.caller d.circumstances signed s.ledger d.records
  let result ← orRaised processed.reply.2
  let (verified, verifier) := verifyWorkerResult p d.coordinatorEnv d.coordinator.integrity d.dbResult d.resultClock
    result (d.expected receipt delegationId) { s with ledger := (execAll p processed.ledger d.between).2 }
  let resultData ← orRaised verified
  return { processed, resultData, verifier }

/-! ## A row that its holder can read -/

/-- The row passes the holder's integrity check, and can be written again. -/
structure Intact (p : Platform) (k : Str) (secret : Option Str) (row : Row) : Prop where
  mac : computeIntegrityMac p k row.record secret = .ok row.integrityMac
  ownerAgentId : encodable (row.ownerAgentId.getD []) = true
  delegationId : encodable (row.delegationId.getD []) = true
  payloadFingerprint : encodable (row.payloadFingerprint.getD []) = true
  lastError : encodable (row.lastError.getD []) = true

/-- A secret that MACs can be computed with. -/
def Usable (p : Platform) (secret : Option Str) : Prop := ∀ k r, ∃ mac, computeIntegrityMac p k r secret = .ok mac

/-- A record of texts that SQLite stores as they are. -/
structure Storable (r : Record) : Prop where
  ownerAgentId : ∃ s, r.ownerAgentId = .str s ∧ encodable s = true
  delegationId : ∃ s, r.delegationId = .str s ∧ encodable s = true
  payloadFingerprint : ∃ s, r.payloadFingerprint = .str s ∧ encodable s = true
  lastError : encodable (r.lastError.getD []) = true
  expiresAt : ∃ t : Time, r.expiresAt = t.toFloat

section
variable {p : Platform} {env : Env} {k k' : Str} {secret : Option Str} {row : Row} {r : Record} {L : Ledger}

theorem deriveIntegrityKey_usable {secretHex : Option Str} {domain : Str}
    (h : deriveIntegrityKey p secretHex domain = .ok secret) : Usable p secret := by
  intro k r
  unfold deriveIntegrityKey at h
  split at h
  · cases h
    exact ⟨none, rfl⟩
  · cases h
    exact ⟨none, rfl⟩
  · split at h
    · cases h
    · cases h
      exact computeIntegrityMac_hex p k r _

theorem requestReplayIntegrityKey_usable {cfg : IntegrityConfig} {identity : AgentIdentity}
    (h : requestReplayIntegrityKey p env cfg identity = .ok secret) : Usable p secret := by
  obtain ⟨configured, hc, h⟩ := bind_ok.1 h
  split at h
  · obtain rfl := pure_ok.1 h
    obtain ⟨secretHex, -, hc⟩ := bind_ok.1 hc
    exact deriveIntegrityKey_usable hc
  · exact deriveIntegrityKey_usable h

theorem Intact.verify (h : Intact p k secret row) : verifyIntegrity p k row secret = .ok () := verifyIntegrity_own h.mac

theorem bindText_optText {s : Option Str} (h : encodable (s.getD []) = true) : bindText p (optText s) = .ok s := by
  cases s with
  | none => rfl
  | some s => exact bindText_str h

theorem write_kept (hs : Usable p secret) (h : Storable r) (L : Ledger) : ∃ row, writeRecord p k r secret L =
    .ok (Function.update L k (some row)) ∧ Intact p k secret row ∧ Stores r row := by
  obtain ⟨o, ho, hoe⟩ := h.ownerAgentId
  obtain ⟨d, hd, hde⟩ := h.delegationId
  obtain ⟨f, hf, hfe⟩ := h.payloadFingerprint
  obtain ⟨t, ht⟩ := h.expiresAt
  obtain ⟨mac, hm⟩ := hs k r
  have hreal : bindReal r.expiresAt = .ok t := by rw [bindReal_ok, ht, time?_toFloat]
  have hw := writeRecord_eq (L := L) hm hreal (ho ▸ bindText_str hoe) (hd ▸ bindText_str hde) (hf ▸ bindText_str hfe)
    (bindText_optText h.lastError)
  refine ⟨_, hw, ⟨?_, hoe, hde, hfe, h.lastError⟩, rfl, rfl, rfl, rfl, rfl, rfl, bindReal_ok.1 hreal, rfl⟩
  -- what is read back is the record that was sealed
  rw [← hm]
  congr 1
  cases r
  simp only [Row.record, optText, ← ht, ← ho, ← hd, ← hf]

theorem rewrite_storable (h : Intact p k secret row) (now : ℚ) (state : Str) (lastError token : Option Str)
    (he : encodable (lastError.getD []) = true) : Storable (row.rewrite now state lastError token) :=
  ⟨⟨_, rfl, h.ownerAgentId⟩, ⟨_, rfl, h.delegationId⟩, ⟨_, rfl, h.payloadFingerprint⟩, he, _, rfl⟩

/-- What is under the key, if anything is, its holder can read. -/
def IntactAt (p : Platform) (k : Str) (secret : Option Str) (L : Ledger) : Prop := ∀ row, L k = some row → Intact p k secret row

/-- A call on another key, or a heartbeat of the holder. -/
def Call.Harmless (k : Str) (secret : Option Str) (c : Call) : Prop :=
  c.key = k → ∃ now token, c = .heartbeat now k secret token

theorem IntactAt.purge (h : IntactAt p k secret L) (now : ℚ) : IntactAt p k secret (L.purge now) :=
  fun row hr => h row (purge_some.1 hr).1

theorem settle_key {α : Type} {reply : α → Event} {x : Except PyErr (α × Ledger)} (h : ∀ r, (reply r).key = some k') :
    (settle L reply x).1.key = some k' ∨ (settle L reply x).1.key = none := by
  cases x with
  | error e => exact .inr rfl
  | ok y => exact .inl (h y.1)

/-- A call on another key leaves nothing new under this one. -/
theorem exec_other {c : Call} (hc : c.key ≠ k) : (c.exec p L).2 k = L k ∨ ∃ now, (c.exec p L).2 k = L.purge now k := by
  have hkey : (c.exec p L).1.key = some c.key ∨ (c.exec p L).1.key = none := by
    cases c <;> exact settle_key fun _ => rfl
  rcases step_other (k := k) (exec_step p L c) (by rcases hkey with h | h <;> simp [h, hc]) with he | ⟨now, -, he⟩
  · exact .inl he
  · exact .inr ⟨now, he⟩

theorem heartbeat_kept (hs : Usable p secret) (h : IntactAt p k secret L) (now : ℚ) (token : Option Str) :
    IntactAt p k secret (Call.exec p L (.heartbeat now k secret token)).2 := by
  rw [Call.exec]
  cases hb : heartbeatRequestExecution p (.ok ()) now k secret token L with
  | error e => exact h
  | ok x =>
    obtain ⟨b, L'⟩ := x
    change IntactAt p k secret L'
    unfold heartbeatRequestExecution at hb
    split at hb
    · cases hb
      exact h
    rw [ok_bind] at hb
    cases hr : L k with
    | none =>
      simp only [hr] at hb
      cases hb
      exact h
    | some row =>
      have hk := h row hr
      simp only [hr, hk.verify, ok_bind] at hb
      split_ifs at hb
      · cases hb
        exact h
      · cases hb
        exact h
      · obtain ⟨row', hw, hk', -⟩ := write_kept (k := k) hs
          (rewrite_storable hk now stateRunning row.lastError row.executionToken hk.lastError) L
        rw [hw, ok_bind] at hb
        cases hb
        intro row'' hr''
        rw [Function.update_self] at hr''
        exact Option.some.inj hr'' ▸ hk'

theorem exec_kept (hs : Usable p secret) (h : IntactAt p k secret L) {c : Call} (hc : c.Harmless k secret) :
    IntactAt p k secret (c.exec p L).2 := by
  by_cases hk : c.key = k
  · obtain ⟨now, token, rfl⟩ := hc hk
    exact heartbeat_kept hs h now token
  · intro row hr
    rcases exec_other hk with he | ⟨now, he⟩
    · exact h row (he.symm.trans hr)
    · exact h.purge now row (he.symm.trans hr)

/-- So does a schedule of such calls. -/
theorem execAll_kept (hs : Usable p secret) {cs : List Call} (h : IntactAt p k secret L)
    (hc : ∀ c ∈ cs, c.Harmless k secret) : IntactAt p k secret (execAll p L cs).2 := by
  induction cs generalizing L with
  | nil => exact h
  | cons c cs ih =>
    exact ih (exec_kept hs h (hc c List.mem_cons_self)) fun c' hc' => hc c' (List.mem_cons_of_mem _ hc')

/-- Calls on other keys put nothing under this one. -/
theorem execAll_none {cs : List Call} (h : L k = none) (hc : ∀ c ∈ cs, c.key ≠ k) : (execAll p L cs).2 k = none := by
  induction cs generalizing L with
  | nil => exact h
  | cons c cs ih =>
    refine ih ?_ fun c' hc' => hc c' (List.mem_cons_of_mem _ hc')
    rcases exec_other (p := p) (L := L) (hc c List.mem_cons_self) with he | ⟨now, he⟩
    · exact he.trans h
    · rw [he, Ledger.purge, h, Option.filter_none]

/-- A holder's `finalize` does not raise, whoever holds the row by now. -/
theorem finalize_kept (hs : Usable p secret) (hk : k ≠ []) (h : IntactAt p k secret L) (now : ℚ) (token : Option Str) :
    ∃ b L', finalizeDelegationRequest p (.ok ()) now k stateCompleted secret none token L = .ok (b, L') := by
  rw [finalizeDelegationRequest, if_pos (.inl rfl)]
  cases hr : L k with
  | none =>
    refine ⟨false, L, ?_⟩
    rw [finalizeRequestExecution, if_neg hk, ok_bind]
    simp only [hr]
    rfl
  | some row =>
    have hkept := h row hr
    cases ht : tokenMismatch row token with
    | true => exact ⟨false, L, finalize_mismatch hr hkept.verify ht⟩
    | false =>
      have hx : exhausted row stateCompleted = false := by
        rw [exhausted, decide_eq_false (by decide), Bool.false_and]
      obtain ⟨row', hw, -⟩ := write_kept (k := k) hs
        (rewrite_storable hkept now stateCompleted none none rfl) L
      exact ⟨true, _, finalize_match hk hr hkept.verify ht hx hw⟩

/-- A new request begins, and its row is the holder's. -/
theorem begin_kept {a : BeginArgs} {now : ℚ} {token : Str} (hs : Usable p a.integritySecretHex) (hk : a.replayKey ≠ [])
    (ha : Storable (a.first now token)) (hn : L.purge now a.replayKey = none) : ∃ row,
      beginRequestExecution p (.ok ()) now token a L =
        .ok (⟨true, [], some token⟩, Function.update (L.purge now) a.replayKey (some row)) ∧
      Intact p a.replayKey a.integritySecretHex row := by
  obtain ⟨row, hw, hkept, -⟩ := write_kept (k := a.replayKey) hs ha (L.purge now)
  exact ⟨row, begin_first hk hn hw, hkept⟩

theorem finalize_none {state : Str} {error token : Option Str} {now : ℚ} {b : Bool} {L' : Ledger} (hne : k' ≠ k)
    (h : L k' = none) (hf : finalizeDelegationRequest p (.ok ()) now k state secret error token L = .ok (b, L')) :
    L' k' = none := by
  unfold finalizeDelegationRequest at hf
  split at hf
  · cases finalize_step hf with
    | refused => exact h
    | recorded => rwa [Function.update_of_ne hne]
  · cases hf

/-- From `begin` on, a new request whose handler returns is completed, whatever harmless calls are made meanwhile. -/
theorem execute_completed (env : Env) (agent : Agent) (c : Circumstances) (ready : Ready) (records : Records)
    {v : Returned} {calls : List Call} (hs : Usable p ready.args.integritySecretHex) (hk : ready.args.replayKey ≠ [])
    (ha : Storable (ready.args.first c.begin c.token)) (hn : L.purge c.begin ready.args.replayKey = none)
    (hduring : ∀ L, c.during L = (execAll p L calls).2)
    (hcalls : ∀ c ∈ calls, c.Harmless ready.args.replayKey ready.args.integritySecretHex)
    (hout : c.outcome = .returned v) (hdb : c.dbBegin = .ok ()) (hdb' : c.dbFinalize = .ok ()) :
    (execute p env agent c ready L records).effects = [.begun ready.args.replayKey ⟨true, [], some c.token⟩,
        .handlerInvoked ready.request.action ready.request.parameters] ∧
      (execute p env agent c ready L records).reply =
        reply p env agent c.reply (.ok (createResult agent c.clock ready.request .completed v none)) ∧
      ∀ k', k' ≠ ready.args.replayKey → L k' = none → (∀ c ∈ calls, c.key ≠ k') →
        (execute p env agent c ready L records).ledger k' = none := by
  obtain ⟨row, hbegin, hkept⟩ := begin_kept hs hk ha hn
  have hrow : IntactAt p ready.args.replayKey ready.args.integritySecretHex
      (c.during (Function.update (L.purge c.begin) ready.args.replayKey (some row))) := by
    rw [hduring]
    refine execAll_kept hs (fun row' hr => ?_) hcalls
    rw [Function.update_self] at hr
    exact Option.some.inj hr ▸ hkept
  obtain ⟨b, L', hfinalize⟩ := finalize_kept hs hk hrow c.finalize (some c.token)
  have hconclude : conclude p agent c ready c.token
      (c.during (Function.update (L.purge c.begin) ready.args.replayKey (some row))) =
        (L', .ok (createResult agent c.clock ready.request .completed v none)) := by
    simp only [conclude, hout, Outcome.finalState, Outcome.lastError, hdb', hfinalize, ledgerAfter, afterFinalize,
      Outcome.result]
  have hexecute : execute p env agent c ready L records = {
      effects := [.begun ready.args.replayKey ⟨true, [], some c.token⟩,
        .handlerInvoked ready.request.action ready.request.parameters]
      ledger := L'
      records := (records.received agent c.received ready.request).concluded agent c.concluded ready.request
        (.ok (createResult agent c.clock ready.request .completed v none))
      reply := reply p env agent c.reply (.ok (createResult agent c.clock ready.request .completed v none)) } := by
    simp only [execute, hdb, hbegin, afterBegin, ledgerAfter, hconclude, beginEffects]
    rfl
  rw [hexecute]
  refine ⟨rfl, rfl, fun k' hne hL hkey => finalize_none hne ?_ hfinalize⟩
  rw [hduring]
  refine execAll_none ?_ hkey
  rw [Function.update_of_ne hne, Ledger.purge, hL, Option.filter_none]

end

/-! ## What is assumed -/

/-- What the coordinator and the worker check a receipt against. -/
def Delegation.expectedReceipt (d : Delegation) (id : Str) : ExpectedReceipt :=
  ⟨d.gatewayPublicKeyHex, d.gatewayKeyId, .str id, .str d.worker.identity.agentId, .str d.action, .obj d.parameters,
    d.buildConfigId⟩

/-- The key that the result is consumed under. -/
def Delegation.resultKey (p : Platform) (d : Delegation) (receipt : Dict) (id : Str) : Str :=
  p.hashJson (.obj (Dict.ofList [("worker_public_key_hex", .str d.worker.identity.publicKeyHex),
    ("coordinator_id", .str d.coordinator.identity.agentId), ("delegation_id", .str id),
    ("result_nonce", .str d.circumstances.clock.resultNonce),
    ("receipt_fingerprint", .str (p.hashJson (.obj (receiptBody receipt))))]))

/-- Two agents that run as they are configured, and agree on the task: both policies allow it, and the worker has a
handler, which returns `v`. -/
structure Delegation.Honest (p : Platform) (d : Delegation) (v : Json) : Prop where
  ed25519 : Ed25519 p
  sha256_injective : Function.Injective p.sha256
  sha256_ne : ∀ bs, p.sha256 bs ≠ []
  coordinatorLive : isMock d.coordinatorEnv = false
  workerLive : isMock d.workerEnv = false
  coordinator : ∃ key, loadIdentity p d.coordinatorEnv key = .ok d.coordinator.identity
  worker : ∃ key, loadIdentity p d.workerEnv key = .ok d.worker.identity
  action : d.action ≠ []
  gatewayPublicKeyHex : d.gatewayPublicKeyHex ≠ []
  delegates : ∃ reason, evaluateDelegationRequest p d.coordinator.policy (.str d.action)
    (.str d.coordinator.identity.agentId) d.worker.identity.agentId = .ok (true, reason)
  performs : ∃ reason, evaluateDelegationRequest p d.worker.policy (.str d.action)
    (.str d.coordinator.identity.agentId) d.worker.identity.agentId = .ok (true, reason)
  handler : d.action ∈ d.worker.handlers
  outcome : d.circumstances.outcome = .returned (.json v)
  requestSecret : ∃ secret, requestReplayIntegrityKey p d.workerEnv d.worker.integrity d.worker.identity = .ok secret
  resultSecret : ∃ secret, configuredIntegrityKey p d.coordinatorEnv d.coordinator.integrity "result" =
    .ok (some secret) ∧ secret ≠ []
  dbBegin : d.circumstances.dbBegin = .ok ()
  dbFinalize : d.circumstances.dbFinalize = .ok ()
  dbResult : d.dbResult = .ok ()

/-- Every message arrives before it expires. -/
structure Delegation.InTime (p : Platform) (d : Delegation) : Prop where
  requestProof : Unexpired p d.circumstances.clock.validation.proof (.str (p.isoformat (d.requestSigned + proofTtlSeconds)))
  received : d.circumstances.clock.expired ≤ d.create.now + requestTtlSeconds
  validated : d.circumstances.clock.validation.expired ≤ d.create.now + requestTtlSeconds
  resultProof : Unexpired p d.resultClock.proof (.str (p.isoformat (d.circumstances.reply.sign + proofTtlSeconds)))

/-- A receipt for this delegation, for the worker when it validates and for the coordinator when it verifies. -/
structure Delegation.Receipted (p : Platform) (d : Delegation) (receipt : Dict) (id : Str) : Prop where
  named : receipt.get "delegation_id" = .str id
  id_ne : id ≠ []
  id_encodable : encodable id = true
  authorizesWorker : Authorizes p d.circumstances.clock.validation.authorization receipt (d.expectedReceipt id)
  provenWorker : ∃ proof, GatewayProven p d.workerEnv d.circumstances.clock.validation.gatewayProof receipt proof
    d.gatewayPublicKeyHex
  authorizesCoordinator : Authorizes p d.resultClock.authorization receipt (d.expectedReceipt id)
  provenCoordinator : ∃ proof, GatewayProven p d.coordinatorEnv d.resultClock.gatewayProof receipt proof
    d.gatewayPublicKeyHex

/-- The request and the result are new, and nobody else works under their keys. -/
structure Delegation.Undisturbed (p : Platform) (d : Delegation) (receipt : Dict) (id : Str) (s : VerifierState) :
    Prop where
  unseen : ∀ name signed, d.send p receipt = .ok (name, signed) →
    s.ledger.purge d.circumstances.begin (requestKey p signed) = none
  unconsumed : s.ledger (d.resultKey p receipt id) = none
  during : ∃ calls, (∀ L, d.circumstances.during L = (execAll p L calls).2) ∧
    (∀ c ∈ calls, c.key ≠ d.resultKey p receipt id) ∧
    ∀ name signed secret, d.send p receipt = .ok (name, signed) →
      requestReplayIntegrityKey p d.workerEnv d.worker.integrity d.worker.identity = .ok secret →
      ∀ c ∈ calls, c.Harmless (requestKey p signed) secret
  between : ∀ c ∈ d.between, c.key ≠ d.resultKey p receipt id
  nonce : s.cache.Admits d.resultClock.monotonic (.str d.circumstances.clock.resultNonce)

/-! ## The request -/

/-- The signed request, as it is sent. -/
def Delegation.sent (p : Platform) (d : Delegation) (c : Signer) (receipt : Dict) : Dict :=
  let request := (d.task receipt).request p d.create d.coordinator.identity.agentId
  c.envelope p d.requestSigned (.str delegateTask) request.nonce (some (.obj request.payload)) ++
    Dict.ofList [("delegation_data", .obj request.payload)]

section
variable {p : Platform} {d : Delegation} {c w : Signer} {receipt : Dict} {id : Str} {v : Json} {s : VerifierState}

theorem Delegation.Receipted.ne (h : d.Receipted p receipt id) : receipt ≠ [] := by
  rintro rfl
  cases h.named

theorem Delegation.Receipted.delegationId (h : d.Receipted p receipt id) (freshId : Str) :
    (d.task receipt).delegationId p freshId = id := by
  simp only [Task.delegationId, Delegation.task, h.named, truthy_str.2 h.id_ne, if_true, Platform.str]

theorem send_eq (hc : d.coordinator.identity.Signs p c) (hm : isMock d.coordinatorEnv = false)
    (hr : d.Receipted p receipt id) {reason : Str} (h : evaluateDelegationRequest p d.coordinator.policy (.str d.action)
      (.str d.coordinator.identity.agentId) d.worker.identity.agentId = .ok (true, reason)) :
    d.send p receipt = .ok (.str id, d.sent p c receipt) := by
  obtain ⟨delegated, hd, hid, hget⟩ := delegate_stored d.create d.logged (d.task receipt) d.delegations h
  rw [hr.delegationId] at hid
  rw [Delegation.send, hd, ok_bind, hget, ok_bind, DelegationRequest.toActionRequest, hc.signAction hm, hid]
  rfl

theorem get?_sent (k : String) : (d.sent p c receipt).get? k =
    ((c.envelope p d.requestSigned (.str delegateTask) (.str d.create.nonce) (some (.obj
      ((d.task receipt).request p d.create d.coordinator.identity.agentId).payload))).get? k).or
      (if "delegation_data" = k then
        some (.obj ((d.task receipt).request p d.create d.coordinator.identity.agentId).payload) else none) := by
  simp only [Delegation.sent, Dict.get?_append, Dict.get?_ofList_cons, Dict.get?_ofList_nil]
  rfl

theorem delegationData_sent : delegationData (d.sent p c receipt) =
    .obj ((d.task receipt).request p d.create d.coordinator.identity.agentId).payload := by
  simp [delegationData, Dict.getD, get?_sent, Signer.get?_envelope, Signer.get?_payload]

/-- The request as a worker reads it at `now`. -/
def Delegation.read (p : Platform) (d : Delegation) (receipt : Dict) (now : ℚ) : DelegationRequest :=
  { (d.task receipt).request p d.create d.coordinator.identity.agentId with
    issuedAt := issuedAtOr now (issuedAtOr d.create.postInit (.float (.finite d.create.now))) }

theorem fromActionRequest_sent (now : ℚ) :
    DelegationRequest.fromActionRequest now (d.sent p c receipt) = .ok (d.read p receipt now) :=
  fromActionRequest_payload delegationData_sent

theorem read_unexpired {now t : ℚ} (h : t ≤ d.create.now + requestTtlSeconds) :
    (d.read p receipt now).isExpired t = .ok false := by
  have hlt : ¬((d.create.now + requestTtlSeconds : ℚ) : Time) < (t : Time) :=
    not_lt.2 (WithBot.coe_le_coe.2 (WithTop.coe_le_coe.2 h))
  exact congrArg Except.ok (decide_eq_false hlt)

theorem read_expected (hr : d.Receipted p receipt id) {now : ℚ} {auth : WorkerAuthorizationContext}
    (ha : fromTrustedConfig d.workerEnv d.caller.gatewayPublicKeyHex d.caller.gatewayKeyId d.caller.buildConfigId
      d.caller.requireTeeAuthorization = .ok auth) :
    (auth.validationContext d.worker.identity.agentId).expectedReceipt (d.read p receipt now) = d.expectedReceipt id := by
  obtain ⟨-, hpk, hkid, hbc, -⟩ := fromTrustedConfig_ok ha
  simp only [ValidationContext.expectedReceipt, WorkerAuthorizationContext.validationContext, hpk, hkid, hbc,
    Delegation.expectedReceipt, Delegation.read, Task.request, hr.delegationId]
  rfl

/-- What the coordinator sent passes the worker's checks. -/
theorem sent_accepted (hd : d.Honest p v) (ht : d.InTime p) (hr : d.Receipted p receipt id)
    (hc : d.coordinator.identity.Signs p c) {auth : WorkerAuthorizationContext}
    (ha : fromTrustedConfig d.workerEnv d.caller.gatewayPublicKeyHex d.caller.gatewayKeyId d.caller.buildConfigId
      d.caller.requireTeeAuthorization = .ok auth) :
    Accepted p d.workerEnv d.circumstances.clock.validation (auth.validationContext d.worker.identity.agentId)
      (d.sent p c receipt) (d.read p receipt d.circumstances.clock.validation.postInit)
      (requestKey p (d.sent p c receipt)) := by
  have hpresent : (d.read p receipt d.circumstances.clock.validation.postInit).teeAuthorization = .obj receipt := rfl
  have htruthy : (Json.obj receipt).truthy = true := by simpa [Json.truthy] using hr.ne
  obtain ⟨proof, hproof⟩ := hr.provenWorker
  obtain ⟨-, hpk, -, -, -⟩ := fromTrustedConfig_ok ha
  obtain ⟨text, expires, htext, hexpires, hle⟩ := ht.requestProof
  obtain rfl := Json.str.inj htext
  have hkey : replayKey p (d.sent p c receipt) (d.read p receipt d.circumstances.clock.validation.postInit) = .ok _ :=
    replayKey_ok.2 ⟨receipt, by rw [hpresent, orEmpty_obj], rfl⟩
  have haccepted : ∀ key, replayKey p (d.sent p c receipt) (d.read p receipt d.circumstances.clock.validation.postInit) =
      .ok key → Accepted p d.workerEnv d.circumstances.clock.validation
        (auth.validationContext d.worker.identity.agentId) (d.sent p c receipt)
        (d.read p receipt d.circumstances.clock.validation.postInit) key := by
    intro key hk
    exact {
      proof := ⟨[], verifyActionRequest_envelope (fun _ => hc.keyPair) hexpires hle (by simp [Dict.has])⟩
      dataHash := fun _ => by
        rw [delegationData_sent]
        simp [Dict.get, Dict.getD, get?_sent, Signer.get?_envelope, Signer.get?_payload]
      reconstructed := fromActionRequest_sent _
      unexpired := read_unexpired ht.validated
      target := rfl
      required := fun _ => by rw [hpresent, htruthy]
      authorized := fun _ => ⟨receipt, proof, {
        present := hpresent
        gatewayPublicKeyHex := by
          change auth.expectedGatewayPublicKeyHex ≠ []
          rw [hpk]
          exact hd.gatewayPublicKeyHex
        authorizes := by
          rw [read_expected hr ha]
          exact hr.authorizesWorker
        proven := by
          change GatewayProven p d.workerEnv _ receipt proof auth.expectedGatewayPublicKeyHex
          rw [hpk]
          exact hproof }⟩
      key_eq := hk
      key_ne := by
        obtain ⟨_, -, rfl⟩ := replayKey_ok.1 hk
        exact p.hashJson_ne hd.sha256_ne _ }
  rw [← (haccepted _ hkey).requestKey]
  exact haccepted _ hkey

/-- The mode is known where there is a key to seal rows with. -/
theorem fromTrustedConfig_of_secret {env : Env} {cfg : IntegrityConfig} {identity : AgentIdentity} {secret : Option Str}
    (h : requestReplayIntegrityKey p env cfg identity = .ok secret) (publicKeyHex keyId buildConfigId : Option Str)
    (requireTee : Option Bool) : ∃ auth, fromTrustedConfig env publicKeyHex keyId buildConfigId requireTee = .ok auth := by
  obtain ⟨configured, h, -⟩ := bind_ok.1 h
  obtain ⟨secretHex, h, -⟩ := bind_ok.1 h
  obtain ⟨mode, hmode, -⟩ := bind_ok.1 h
  exact ⟨_, bind_ok.2 ⟨mode, hmode, rfl⟩⟩

theorem sent_received (hd : d.Honest p v) (ht : d.InTime p) (hr : d.Receipted p receipt id)
    (hc : d.coordinator.identity.Signs p c) :
    receive p d.workerEnv d.worker d.caller d.circumstances.clock (d.sent p c receipt) =
      .ok (d.read p receipt d.circumstances.clock.postInit, some (requestKey p (d.sent p c receipt))) := by
  obtain ⟨secret, hsecret⟩ := hd.requestSecret
  obtain ⟨auth, ha⟩ := fromTrustedConfig_of_secret hsecret d.caller.gatewayPublicKeyHex d.caller.gatewayKeyId
    d.caller.buildConfigId d.caller.requireTeeAuthorization
  exact receive_ok.2 ⟨fromActionRequest_sent _, read_unexpired ht.received, Json.pyEq_str.2 rfl, auth, _, ha,
    validateDelegationRequest_ok.2 ⟨rfl, _, _, rfl, sent_accepted hd ht hr hc ha⟩⟩

/-! ## The worker -/

theorem pyMin_finite (a b : ℚ) : ∃ q, pyMin (.finite a) (.finite b) = .finite q := by
  simp only [pyMin, time?]
  split
  · exact ⟨b, rfl⟩
  · exact ⟨a, rfl⟩

/-- The row of a request expires at a finite time. -/
theorem replayExpiresAt_read (p : Platform) (d : Delegation) (receipt : Dict) (now now' : ℚ) :
    ∃ q, replayExpiresAt p now (d.read p receipt now') = .ok (.finite q) := by
  have hfloat : ∃ q, toFloat ((d.read p receipt now').expiresAt.orElse (.float (.finite now))) = .ok (.finite q) := by
    change ∃ q, toFloat ((Json.float (.finite (d.create.now + requestTtlSeconds))).orElse _) = _
    rw [Json.orElse]
    split
    · exact ⟨_, rfl⟩
    · exact ⟨_, rfl⟩
  obtain ⟨q, hq⟩ := hfloat
  have hreceipt : asDict (orEmpty (d.read p receipt now').teeAuthorization) = .ok receipt := by
    change asDict (orEmpty (.obj receipt)) = _
    rw [orEmpty_obj, asDict]
  simp only [replayExpiresAt, hq, hreceipt, ok_bind]
  split
  · split
    · obtain ⟨q', hq'⟩ := pyMin_finite q (DateTime.timestamp _)
      exact ⟨q', congrArg Except.ok hq'⟩
    · exact ⟨q, rfl⟩
  · exact ⟨q, rfl⟩

/-- What the worker begins with. -/
def Delegation.begins (p : Platform) (d : Delegation) (receipt : Dict) (id key : Str) (expiresAt : ℚ)
    (secret : Option Str) : BeginArgs :=
  ⟨key, .finite expiresAt, d.worker.identity.agentId, .str id, p.hashJson (.obj (receiptBody receipt)), secret⟩

theorem beginArgs_read (hr : d.Receipted p receipt id) {secret : Option Str}
    (hs : requestReplayIntegrityKey p d.workerEnv d.worker.integrity d.worker.identity = .ok secret) (key : Str) :
    ∃ q, beginArgs p d.workerEnv d.worker d.circumstances.clock (d.read p receipt d.circumstances.clock.postInit)
      (some key) = .ok (d.begins p receipt id key q secret) := by
  obtain ⟨q, hq⟩ := replayExpiresAt_read p d receipt d.circumstances.clock.replayExpires d.circumstances.clock.postInit
  have hfingerprint : receiptFingerprint p (orEmpty (d.read p receipt d.circumstances.clock.postInit).teeAuthorization) =
      .ok (p.hashJson (.obj (receiptBody receipt))) := by
    change receiptFingerprint p (orEmpty (.obj receipt)) = _
    rw [orEmpty_obj]
    rfl
  have hid : (d.read p receipt d.circumstances.clock.postInit).delegationId = .str id :=
    congrArg Json.str (hr.delegationId d.create.freshId)
  refine ⟨q, ?_⟩
  simp only [beginArgs, hs, hq, hfingerprint, hid, ok_bind]
  rfl

/-- The worker's result. -/
def Delegation.result (p : Platform) (d : Delegation) (receipt : Dict) (v : Json) : DelegationResult :=
  createResult d.worker d.circumstances.clock (d.read p receipt d.circumstances.clock.postInit) .completed (.json v) none

/-- The signed result, as it is sent back. -/
def Delegation.answer (p : Platform) (d : Delegation) (w : Signer) (receipt : Dict) (v : Json) : Dict :=
  w.envelope p d.circumstances.reply.sign (.str taskResult) (.str d.circumstances.clock.resultNonce)
      (some (.obj ((d.result p receipt v).payload v))) ++
    Dict.ofList [("result_data", .obj ((d.result p receipt v).payload v))]

/-- What an honest worker does for the request it is sent. -/
structure Delegation.Served (p : Platform) (d : Delegation) (c w : Signer) (receipt : Dict) (id : Str) (v : Json)
    (x : Processed) : Prop where
  effects : x.effects = [
    .policyEvaluated (.str d.coordinator.identity.agentId) d.worker.identity.agentId (.str d.action),
    .begun (requestKey p (d.sent p c receipt)) ⟨true, [], some d.circumstances.token⟩,
    .handlerInvoked (.str d.action) (.obj d.parameters)]
  reply : x.reply = (d.result p receipt v, .ok (d.answer p w receipt v))
  unconsumed : x.ledger (d.resultKey p receipt id) = none

theorem reply_answer (hm : isMock d.workerEnv = false) (hw : d.worker.identity.Signs p w) :
    reply p d.workerEnv d.worker d.circumstances.reply (.ok (d.result p receipt v)) =
      (d.result p receipt v, .ok (d.answer p w receipt v)) := by
  have hsigned : (d.result p receipt v).toActionRequest p d.workerEnv d.circumstances.reply.sign d.worker.identity =
      .ok (d.answer p w receipt v) := by
    simp only [DelegationResult.toActionRequest, Delegation.result, createResult, hw.signAction hm]
    rfl
  rw [reply, hsigned]

theorem sent_authorized (hd : d.Honest p v) {key : Str} {args : BeginArgs}
    (hargs : beginArgs p d.workerEnv d.worker d.circumstances.clock (d.read p receipt d.circumstances.clock.postInit)
      (some key) = .ok args) :
    authorize p d.workerEnv d.worker d.circumstances.clock (d.read p receipt d.circumstances.clock.postInit) (some key) =
      .ok ⟨d.read p receipt d.circumstances.clock.postInit, args⟩ := by
  refine authorize_ok.2 ⟨hd.performs, ?_, args, hargs, rfl⟩
  change Except.ok (decide (d.action ∈ d.worker.handlers)) = _
  rw [decide_eq_true hd.handler]

/-- An honest worker invokes its handler once, with the action and the parameters that were sent, and answers with what it
returned. -/
theorem sent_served (hd : d.Honest p v) (ht : d.InTime p) (hr : d.Receipted p receipt id)
    (hu : d.Undisturbed p receipt id s) (hc : d.coordinator.identity.Signs p c) (hw : d.worker.identity.Signs p w) :
    d.Served p c w receipt id v (processDelegationRequest p d.workerEnv d.worker d.caller d.circumstances
      (d.sent p c receipt) s.ledger d.records) := by
  obtain ⟨reason, hreason⟩ := hd.delegates
  have hsend := send_eq hc hd.coordinatorLive hr hreason
  obtain ⟨secret, hsecret⟩ := hd.requestSecret
  have husable := requestReplayIntegrityKey_usable hsecret
  obtain ⟨q, hargs⟩ := beginArgs_read hr hsecret (requestKey p (d.sent p c receipt))
  obtain ⟨calls, hduring, hcalls, hharmless⟩ := hu.during
  have hreceived := sent_received hd ht hr hc
  obtain ⟨-, -, -, _, _, -, hvalid⟩ := receive_ok.1 hreceived
  obtain ⟨-, request', _, hk, haccepted⟩ := validateDelegationRequest_ok.1 hvalid
  obtain rfl := Option.some.inj hk
  -- the keys of the request and of its result differ
  have hne : requestKey p (d.sent p c receipt) ≠ d.resultKey p receipt id := by
    obtain ⟨r, -, hkey⟩ := replayKey_ok.1 haccepted.key_eq
    intro he
    obtain ⟨x, hx, -⟩ := (p.hashJson_inj hd.sha256_injective (hkey.symm.trans he)).field (k := "request_hash")
      (List.mem_cons_of_mem _ List.mem_cons_self)
    simp [Dict.ofList, Text.ofString_inj] at hx
  have howner : encodable d.worker.identity.agentId = true := by
    rw [hw.agentId]
    exact hw.keyPair.encodable_agentId
  have hstorable : Storable ((d.begins p receipt id (requestKey p (d.sent p c receipt)) q secret).first
      d.circumstances.begin d.circumstances.token) :=
    ⟨⟨_, rfl, howner⟩, ⟨_, rfl, hr.id_encodable⟩,
      ⟨_, rfl, encodable_hexLower _⟩, rfl, (q : Time), rfl⟩
  obtain ⟨heffects, hreply, hledger⟩ := execute_completed d.workerEnv d.worker d.circumstances
    ⟨d.read p receipt d.circumstances.clock.postInit, d.begins p receipt id (requestKey p (d.sent p c receipt)) q secret⟩
    d.records husable haccepted.key_ne hstorable
    (hu.unseen _ _ hsend) hduring (hharmless _ _ _ hsend hsecret) hd.outcome hd.dbBegin hd.dbFinalize
  have hprepare : prepare p d.workerEnv d.worker d.caller d.circumstances.clock (d.sent p c receipt) =
      ([.policyEvaluated (.str d.coordinator.identity.agentId) d.worker.identity.agentId (.str d.action)],
        .ok ⟨d.read p receipt d.circumstances.clock.postInit,
          d.begins p receipt id (requestKey p (d.sent p c receipt)) q secret⟩) := by
    simp only [prepare, hreceived, sent_authorized hd hargs]
    rfl
  unfold processDelegationRequest
  rw [hprepare]
  exact {
    effects := congrArg (List.cons _) heffects
    reply := hreply.trans (reply_answer hd.workerLive hw)
    unconsumed := hledger _ hne.symm hu.unconsumed hcalls }

/-! ## The result -/

theorem result_get? (k : String) : ((d.result p receipt v).payload v).get? k =
    (Dict.ofList [("delegation_id", .str ((d.task receipt).delegationId p d.create.freshId)),
      ("from_agent_id", .str d.worker.identity.agentId), ("to_agent_id", .str d.coordinator.identity.agentId),
      ("status", .str "COMPLETED"), ("result", v), ("error", .null), ("nonce", .str d.circumstances.clock.resultNonce),
      ("issued_at", .float (.finite d.circumstances.clock.resultIssued)), ("tee_authorization", .obj receipt)]).get? k := by
  have h : (d.result p receipt v).payload v = Dict.ofList [
      ("delegation_id", .str ((d.task receipt).delegationId p d.create.freshId)),
      ("from_agent_id", .str d.worker.identity.agentId), ("to_agent_id", .str d.coordinator.identity.agentId),
      ("status", .str "COMPLETED"), ("result", v), ("error", .null), ("nonce", .str d.circumstances.clock.resultNonce),
      ("issued_at", .float (.finite d.circumstances.clock.resultIssued)), ("tee_authorization", .obj receipt)] := rfl
  rw [h]

theorem get?_answer (k : String) : (d.answer p w receipt v).get? k =
    ((w.envelope p d.circumstances.reply.sign (.str taskResult) (.str d.circumstances.clock.resultNonce)
      (some (.obj ((d.result p receipt v).payload v)))).get? k).or
      (if "result_data" = k then some (.obj ((d.result p receipt v).payload v)) else none) := by
  simp only [Delegation.answer, Dict.get?_append, Dict.get?_ofList_cons, Dict.get?_ofList_nil]

/-- What the worker answered passes the coordinator's checks. -/
theorem answer_checked (hd : d.Honest p v) (ht : d.InTime p) (hr : d.Receipted p receipt id)
    (hw : d.worker.identity.Signs p w) :
    checkWorkerResult p d.coordinatorEnv d.resultClock (d.answer p w receipt v) (d.expected receipt (.str id)) =
      .ok ((d.result p receipt v).payload v, .obj receipt) := by
  obtain ⟨proof, hproof⟩ := hr.provenCoordinator
  obtain ⟨text, expires, htext, hexpires, hle⟩ := ht.resultProof
  obtain rfl := Json.str.inj htext
  have hdata : (d.answer p w receipt v).get "result_data" = .obj ((d.result p receipt v).payload v) := by
    simp [Dict.get, Dict.getD, get?_answer, Signer.get?_envelope, Signer.get?_payload]
  exact checkWorkerResult_ok.2 ⟨receipt, receipt, proof, rfl, hr.ne, {
    verified := ⟨[], verifyActionRequest_envelope (fun _ => hw.keyPair) hexpires hle (by simp [Dict.has])⟩
    workerKey := by
      simp [Dict.get, Dict.getD, get?_answer, Signer.get?_envelope, Signer.get?_payload, Delegation.expected, hw.publicKeyHex]
    workerId := by
      simp [Dict.get, Dict.getD, get?_answer, Signer.get?_envelope, Signer.get?_payload, Delegation.expected, hw.agentId]
    resultData := by rw [hdata, orEmpty_obj]
    dataHash := by simp [Dict.get, Dict.getD, get?_answer, Signer.get?_envelope, Signer.get?_payload]
    nonce := by
      simp [Dict.get, Dict.getD, get?_answer, result_get?, Signer.get?_envelope, Signer.get?_payload, Json.pyEq_str]
    sender := by simp [Dict.get, Dict.getD, result_get?, Delegation.expected]
    audience := by simp [Dict.get, Dict.getD, result_get?, Delegation.expected]
    delegationId := by simp [Dict.get, Dict.getD, result_get?, Delegation.expected, hr.delegationId, Json.pyEq_str]
    status := by simp [Dict.get, Dict.getD, result_get?]
    present := by simp [Dict.get, Dict.getD, result_get?]
    expectedPresent := rfl
    fingerprint := rfl
    parameters := by
      intro h
      cases h
    authorizes := hr.authorizesCoordinator
    proven := hproof
    gatewayKey_ne := hd.gatewayPublicKeyHex
    action := truthy_str.2 hd.action }⟩

theorem answer_key (hr : d.Receipted p receipt id) :
    resultReplayKey p ((d.result p receipt v).payload v) (p.hashJson (.obj (receiptBody receipt)))
      (d.expected receipt (.str id)) = d.resultKey p receipt id := by
  have hid : ((d.result p receipt v).payload v).get "delegation_id" = .str id := by
    simp [Dict.get, Dict.getD, result_get?, hr.delegationId]
  have hnonce : ((d.result p receipt v).payload v).get "nonce" = .str d.circumstances.clock.resultNonce := by
    simp [Dict.get, Dict.getD, result_get?]
  rw [resultReplayKey, hid, hnonce]
  rfl

/-- The coordinator returns it, if the ledger has no row of it. -/
theorem answer_verified (hd : d.Honest p v) (ht : d.InTime p) (hr : d.Receipted p receipt id)
    (hu : d.Undisturbed p receipt id s) (hc : d.coordinator.identity.Signs p c) (hw : d.worker.identity.Signs p w)
    {L : Ledger} (hL : L (d.resultKey p receipt id) = none) :
    ∃ s', verifyWorkerResult p d.coordinatorEnv d.coordinator.integrity d.dbResult d.resultClock (d.answer p w receipt v)
      (d.expected receipt (.str id)) ⟨s.cache, L⟩ = (.ok ((d.result p receipt v).payload v), s') := by
  have hid : ((d.result p receipt v).payload v).get "delegation_id" = .str id := by
    simp [Dict.get, Dict.getD, result_get?, hr.delegationId]
  have hnonce : ((d.result p receipt v).payload v).get "nonce" = .str d.circumstances.clock.resultNonce := by
    simp [Dict.get, Dict.getD, result_get?]
  have hhash : (d.answer p w receipt v).get "data_hash" = .str (p.hashJson (.obj ((d.result p receipt v).payload v))) := by
    simp [Dict.get, Dict.getD, get?_answer, Signer.get?_envelope, Signer.get?_payload]
  have howner : encodable d.coordinator.identity.agentId = true := by
    rw [hc.agentId]
    exact hc.keyPair.encodable_agentId
  have hadmits : LedgerAdmits p d.coordinatorEnv d.coordinator.integrity d.dbResult d.resultClock.ledger
      (d.answer p w receipt v) ((d.result p receipt v).payload v) receipt (d.expected receipt (.str id)) L := {
    keyed := hd.resultSecret
    opens := hd.dbResult
    replayKey := p.hashJson_ne hd.sha256_ne _
    unseen := by rw [answer_key hr, Ledger.purge, hL, Option.filter_none]
    ownerAgentId := howner
    delegationId := by
      rw [hid, Json.orElse, if_pos (truthy_str.2 hr.id_ne)]
      exact ⟨_, bindText_str hr.id_encodable⟩
    payloadFingerprint := by
      rw [hhash, Json.orElse, if_pos (truthy_str.2 (p.hashJson_ne hd.sha256_ne _))]
      exact ⟨_, bindText_str (encodable_hexLower _)⟩ }
  have hnew : s.cache.Admits d.resultClock.monotonic (((d.result p receipt v).payload v).get "nonce") := by
    rw [hnonce]
    exact hu.nonce
  exact (run_ok (c := ⟨d.coordinatorEnv, d.coordinator.integrity, d.dbResult, d.resultClock, d.answer p w receipt v,
    d.expected receipt (.str id)⟩) (s := ⟨s.cache, L⟩)).2 ⟨receipt, answer_checked hd ht hr hw, hnew, hadmits⟩

/-! ## The whole way -/

/-- A delivered delegation: the worker was asked for exactly this, once, and its answer is what the coordinator has. -/
structure Delegation.Completes (p : Platform) (d : Delegation) (receipt : Dict) (id : Str) (v : Json) (x : Delivered) :
    Prop where
  allowed : Effect.policyEvaluated (.str d.coordinator.identity.agentId) d.worker.identity.agentId (.str d.action) ∈
    x.processed.effects
  once : x.processed.effects.filter (fun e => match e with | .handlerInvoked .. => true | _ => false) =
    [.handlerInvoked (.str d.action) (.obj d.parameters)]
  status : x.resultData.get "status" = .str "COMPLETED"
  result : x.resultData.get "result" = v
  delegationId : x.resultData.get "delegation_id" = .str id
  teeAuthorization : x.resultData.get "tee_authorization" = .obj receipt

/-- What is delivered has been verified against the receipt it was sent with. -/
theorem delivered_verified {x : Delivered} (h : d.deliver p receipt s = .ok x) : ∃ proof name s₁ s',
    verifyWorkerResult p d.coordinatorEnv d.coordinator.integrity d.dbResult d.resultClock proof (d.expected receipt name) s₁ =
      (.ok x.resultData, s') := by
  obtain ⟨⟨name, signed⟩, -, h⟩ := bind_ok.1 h
  obtain ⟨proof, -, h⟩ := bind_ok.1 h
  generalize hv : verifyWorkerResult p d.coordinatorEnv d.coordinator.integrity d.dbResult d.resultClock proof
    (d.expected receipt name) _ = verified at h
  obtain ⟨out, s'⟩ := verified
  cases out with
  | error e => cases h
  | ok rd =>
    obtain rfl := Except.ok.inj h
    exact ⟨proof, name, _, s', hv⟩

theorem delivers (hd : d.Honest p v) (ht : d.InTime p) (hr : d.Receipted p receipt id)
    (hu : d.Undisturbed p receipt id s) : ∃ x, d.deliver p receipt s = .ok x ∧ d.Completes p receipt id v x := by
  obtain ⟨ckey, hckey⟩ := hd.coordinator
  obtain ⟨c, hc⟩ := loadIdentity_signs hd.ed25519 hd.coordinatorLive hckey
  obtain ⟨wkey, hwkey⟩ := hd.worker
  obtain ⟨w, hw⟩ := loadIdentity_signs hd.ed25519 hd.workerLive hwkey
  obtain ⟨reason, hreason⟩ := hd.delegates
  have hsend := send_eq hc hd.coordinatorLive hr hreason
  have hserved := sent_served hd ht hr hu hc hw
  generalize hx : processDelegationRequest p d.workerEnv d.worker d.caller d.circumstances (d.sent p c receipt) s.ledger
    d.records = x at hserved
  obtain ⟨s', hverified⟩ := answer_verified hd ht hr hu hc hw
    (execAll_none (p := p) hserved.unconsumed hu.between)
  refine ⟨⟨x, (d.result p receipt v).payload v, s'⟩, ?_, ?_⟩
  · simp only [Delegation.deliver, hsend, ok_bind, hx, hserved.reply, orRaised, hverified]
    rfl
  · constructor
    · simp [hserved.effects]
    · simp [hserved.effects]
    · simp [Dict.get, Dict.getD, result_get?]
    · simp [Dict.get, Dict.getD, result_get?]
    · simp [Dict.get, Dict.getD, result_get?, hr.delegationId]
    · simp [Dict.get, Dict.getD, result_get?]

end

/-! ## With the gateway's receipt -/

/-- The gateway's part: the TEE result it has, and when it writes and signs the receipt. -/
structure GatewayCall where
  env : Env
  identity : AgentIdentity
  teeResult : Dict
  authorizedAt : ℚ
  signedAt : ℚ

/-- A delegation from the TEE result on. -/
def Delegation.run (p : Platform) (d : Delegation) (g : GatewayCall) (s : VerifierState) : Except DelegateError Delivered := do
  let receipt ← orRaised (buildTeeAuthorizationReceipt p g.env g.authorizedAt g.signedAt g.identity d.gatewayKeyId
    g.teeResult (.str d.action) (.obj d.parameters))
  d.deliver p receipt s

/-- The TEE routed this delegation to the worker under an enforced credential, for the build that both sides expect, and the
gateway they expect signs for it in time. -/
structure Delegation.Routed (p : Platform) (d : Delegation) (g : GatewayCall) (id : Str) : Prop where
  live : isMock g.env = false
  identity : ∃ key, loadIdentity p g.env key = .ok g.identity
  publicKeyHex : g.identity.publicKeyHex = d.gatewayPublicKeyHex
  gatewayKeyId : d.gatewayKeyId ≠ []
  buildConfigId : d.buildConfigId ≠ []
  named : g.teeResult.get "delegation_id" = .str id
  id_ne : id ≠ []
  id_encodable : encodable id = true
  status : g.teeResult.get "status" = .str "ROUTED"
  target : g.teeResult.get "routed_to" = .str d.worker.identity.agentId
  credentialFingerprint : (g.teeResult.get "credential_fingerprint").truthy = true
  credentialEnforced : g.teeResult.get "credential_enforced" = .bool true
  build : g.teeResult.get "build_config_id" = .str d.buildConfigId
  expiry : (g.teeResult.get "authorization_expires_at").truthy = true
  unexpiredWorker : Unexpired p d.circumstances.clock.validation.authorization (g.teeResult.get "authorization_expires_at")
  unexpiredCoordinator : Unexpired p d.resultClock.authorization (g.teeResult.get "authorization_expires_at")
  proofWorker : Unexpired p d.circumstances.clock.validation.gatewayProof
    (.str (p.isoformat (g.signedAt + proofTtlSeconds)))
  proofCoordinator : Unexpired p d.resultClock.gatewayProof (.str (p.isoformat (g.signedAt + proofTtlSeconds)))

section
variable {p : Platform} {d : Delegation} {g : GatewayCall} {k : Signer} {id : Str} {s : VerifierState} {v : Json}

/-- The receipt a gateway writes for this delegation. -/
def Delegation.receipt (p : Platform) (d : Delegation) (g : GatewayCall) (k : Signer) (id : Str) : Dict :=
  k.receipt p g.signedAt (.str id)
    (authorizationBody p g.authorizedAt d.gatewayKeyId g.teeResult (.str d.action) (.obj d.parameters)).get

theorem receipt_built (hg : d.Routed p g id) (hk : g.identity.Signs p k) (hw : d.worker.identity.agentId ≠ []) :
    buildTeeAuthorizationReceipt p g.env g.authorizedAt g.signedAt g.identity d.gatewayKeyId g.teeResult (.str d.action)
      (.obj d.parameters) = .ok (d.receipt p g k id) := by
  refine (buildTeeAuthorizationReceipt_ok hk hg.live).2 ⟨⟨?_, ?_, hg.gatewayKeyId, hg.expiry⟩, ?_⟩
  · rw [hg.named]
    exact truthy_str.2 hg.id_ne
  · rw [hg.target]
    exact truthy_str.2 hw
  · rw [hg.named]
    rfl

theorem receipt_field {f : Str} (hf : f ∈ receiptKeys) : (d.receipt p g k id).get f =
    (authorizationBody p g.authorizedAt d.gatewayKeyId g.teeResult (.str d.action) (.obj d.parameters)).get f :=
  Signer.get_receipt hf

/-- The receipt authorizes the task while the TEE's authorization has not expired. -/
theorem receipt_authorizes_task (hsha : ∀ bs, p.sha256 bs ≠ []) (hg : d.Routed p g id) {now : ℚ}
    (hnow : Unexpired p now (g.teeResult.get "authorization_expires_at")) :
    Authorizes p now (d.receipt p g k id) (d.expectedReceipt id) := by
  constructor
  case version =>
    rw [receipt_field (by simp [receiptKeys])]
    simp [authorizationBody, Dict.get, Dict.getD]
  case status =>
    rw [receipt_field (by simp [receiptKeys])]
    simpa [authorizationBody, Dict.get, Dict.getD] using hg.status
  case delegationId =>
    rw [receipt_field (by simp [receiptKeys]), Delegation.expectedReceipt, Json.pyEq_str]
    simpa [authorizationBody, Dict.get, Dict.getD] using hg.named
  case teeDelegationId =>
    rw [receipt_field (by simp [receiptKeys]), Delegation.expectedReceipt, Json.pyEq_str]
    simpa [authorizationBody, Dict.get, Dict.getD] using hg.named
  case target =>
    rw [receipt_field (by simp [receiptKeys]), Delegation.expectedReceipt, Json.pyEq_str]
    simpa [authorizationBody, Dict.get, Dict.getD] using hg.target
  case action =>
    rw [receipt_field (by simp [receiptKeys]), Delegation.expectedReceipt, Json.pyEq_str]
    simp [authorizationBody, Dict.get, Dict.getD]
  case credentialFingerprint =>
    rw [receipt_field (by simp [receiptKeys])]
    simpa [authorizationBody, Dict.get, Dict.getD] using hg.credentialFingerprint
  case credentialEnforced =>
    rw [receipt_field (by simp [receiptKeys])]
    simpa [authorizationBody, Dict.get, Dict.getD] using hg.credentialEnforced
  case teeResultDigest =>
    rw [receipt_field (by simp [receiptKeys])]
    simpa [authorizationBody, Dict.get, Dict.getD, truthy_str] using p.hashJson_ne hsha _
  case gatewayKeyId =>
    rw [receipt_field (by simp [receiptKeys])]
    simp [authorizationBody, Dict.get, Dict.getD, Delegation.expectedReceipt]
  case gatewayKeyId_ne => exact hg.gatewayKeyId
  case unexpired =>
    rw [receipt_field (by simp [receiptKeys])]
    simpa [authorizationBody, Dict.get, Dict.getD] using hnow
  case expiry =>
    rw [receipt_field (by simp [receiptKeys])]
    simpa [authorizationBody, Dict.get, Dict.getD] using hg.expiry
  case buildConfigId =>
    rw [receipt_field (by simp [receiptKeys])]
    simpa [authorizationBody, Dict.get, Dict.getD, Delegation.expectedReceipt] using hg.build
  case buildConfigId_ne => exact hg.buildConfigId
  case requestHash =>
    intro _
    have htarget := hg.target
    rw [receipt_field (by simp [receiptKeys])]
    simp only [Dict.get, Dict.getD] at htarget
    simp [authorizationBody, Dict.get, Dict.getD, htarget, Delegation.expectedReceipt]

/-- And its proof is accepted until it expires. -/
theorem receipt_proven (hg : d.Routed p g id) (hk : g.identity.Signs p k) {env : Env} {now : ℚ}
    (hnow : Unexpired p now (.str (p.isoformat (g.signedAt + proofTtlSeconds)))) :
    ∃ proof, GatewayProven p env now (d.receipt p g k id) proof d.gatewayPublicKeyHex := by
  obtain ⟨text, expires, htext, hexpires, hle⟩ := hnow
  obtain rfl := Json.str.inj htext
  rw [← hg.publicKeyHex, hk.publicKeyHex]
  exact ⟨_, gatewayProven_receipt (fun _ => hk.keyPair) hexpires hle⟩

/-- What the gateway signs is the receipt that the worker and the coordinator need. -/
theorem receipted (hsha : ∀ bs, p.sha256 bs ≠ []) (hg : d.Routed p g id) (hk : g.identity.Signs p k) :
    d.Receipted p (d.receipt p g k id) id where
  named := by
    rw [receipt_field (by simp [receiptKeys])]
    simpa [authorizationBody, Dict.get, Dict.getD] using hg.named
  id_ne := hg.id_ne
  id_encodable := hg.id_encodable
  authorizesWorker := receipt_authorizes_task hsha hg hg.unexpiredWorker
  provenWorker := receipt_proven hg hk hg.proofWorker
  authorizesCoordinator := receipt_authorizes_task hsha hg hg.unexpiredCoordinator
  provenCoordinator := receipt_proven hg hk hg.proofCoordinator

/-- A delegation that the TEE has routed completes: no honest step refuses what the honest step before it made, whatever
else is done to the ledger under other keys. -/
theorem honest_delegation_completes (hd : d.Honest p v) (ht : d.InTime p) (hg : d.Routed p g id)
    (hu : ∀ receipt, buildTeeAuthorizationReceipt p g.env g.authorizedAt g.signedAt g.identity d.gatewayKeyId g.teeResult
      (.str d.action) (.obj d.parameters) = .ok receipt → d.Undisturbed p receipt id s) :
    ∃ receipt x, d.run p g s = .ok x ∧ d.Completes p receipt id v x := by
  obtain ⟨key, hkey⟩ := hg.identity
  obtain ⟨k, hk⟩ := loadIdentity_signs hd.ed25519 hg.live hkey
  obtain ⟨wkey, hwkey⟩ := hd.worker
  obtain ⟨w, hw⟩ := loadIdentity_signs hd.ed25519 hd.workerLive hwkey
  have hbuilt := receipt_built hg hk (by rw [hw.agentId]; exact hw.keyPair.agentId_ne hd.sha256_ne)
  obtain ⟨x, hx, hcompletes⟩ := delivers hd ht (receipted hd.sha256_ne hg hk) (hu _ hbuilt)
  refine ⟨_, x, ?_, hcompletes⟩
  rw [Delegation.run, hbuilt]
  exact hx

end

/-! ### A ping that comes back -/

theorem loadIdentity_key {p : Platform} {env : Env} {key : List UInt8} (hk : key.length = 32) :
    loadIdentity p env (some (Hex.hexLower key)) = .ok ⟨some ⟨key, Hex.hexLower (p.publicKey key),
      p.fingerprint (p.publicKey key), Str.ofString "did:key:ed25519:" ++ p.fingerprint (p.publicKey key)⟩,
      p.fingerprint (p.publicKey key), Hex.hexLower (p.publicKey key),
      Str.ofString "did:key:ed25519:" ++ p.fingerprint (p.publicKey key), some (Hex.hexLower key)⟩ := by
  have hephemeral : loadIdentity p env (some (Hex.hexLower key)) = ephemeralIdentity p (Hex.hexLower key) := by
    cases hx : Hex.hexLower key with
    | nil =>
      have hlength := Hex.length_hexLower key
      rw [hx, hk] at hlength
      cases hlength
    | cons u s => rfl
  rw [hephemeral, ephemeralIdentity, Hex.fromHex_hexLower]
  simp only [hk, ne_eq, not_true_eq_false, if_false]

namespace Sample

theorem ed25519 : Ed25519 platform where
  publicKey_length _ hk := hk
  sign_length key m hk := by
    simp only [platform, signature, List.length_take, List.length_append, List.length_replicate]
    omega
  verify_sign key m _ := decide_eq_true rfl

/-- The agent whose private key is 32 times the byte `b`. -/
def agentOf (b : UInt8) : Agent where
  identity :=
    let key := List.replicate 32 b
    ⟨some ⟨key, Hex.hexLower key, platform.fingerprint key, Str.ofString "did:key:ed25519:" ++ platform.fingerprint key⟩,
      platform.fingerprint key, Hex.hexLower key, Str.ofString "did:key:ed25519:" ++ platform.fingerprint key,
      some (Hex.hexLower key)⟩
  policy := ⟨[(platform.fingerprint (List.replicate 32 b), [.str "PING"])],
    [(platform.fingerprint (List.replicate 32 b), [.str (platform.fingerprint (List.replicate 32 b))])]⟩
  handlers := ["PING"]
  integrity := resultKey

theorem agentOf_loaded (b : UInt8) : loadIdentity platform liveEnv (some (Hex.hexLower (List.replicate 32 b))) =
    .ok (agentOf b).identity := loadIdentity_key List.length_replicate

/-- Another process consumes a result of its own. -/
def elsewhere (now : ℚ) : Call := .consume now ⟨"elsewhere", "c", .str "d", .str "f", none, some "00"⟩

def pingDelegation : Delegation where
  coordinatorEnv := liveEnv
  workerEnv := liveEnv
  coordinator := agentOf 3
  worker := agentOf 4
  action := "PING"
  taskDescription := "a ping"
  parameters := []
  deadline := none
  requiredCapabilities := none
  gatewayPublicKeyHex := (agentOf 9).identity.publicKeyHex
  gatewayKeyId := "g"
  buildConfigId := "b"
  requireTeeAuthorization := none
  create := ⟨"fresh", "n", 0, 0⟩
  logged := 0
  delegations := []
  requestSigned := 0
  circumstances := { circumstances with
    outcome := .returned (.json (.str "pong"))
    during := fun L => (execAll platform L [elsewhere 0]).2 }
  records := ⟨[], [], []⟩
  between := [elsewhere 1]
  resultClock := resultClock
  dbResult := .ok ()

def pingGateway : GatewayCall where
  env := liveEnv
  identity := (agentOf 9).identity
  teeResult := Dict.ofList [("delegation_id", .str "d"), ("status", .str "ROUTED"),
    ("routed_to", .str (agentOf 4).identity.agentId), ("credential_fingerprint", .str "c"),
    ("credential_enforced", .bool true), ("build_config_id", .str "b"), ("authorization_expires_at", .str lateText)]
  authorizedAt := 0
  signedAt := 0

theorem late_unexpired : Unexpired platform 1 (.str lateText) := ⟨lateText, ⟨300, some 0⟩, rfl, rfl, one_unexpired⟩

/-- What is signed at 0 or later is current at 1. -/
theorem signed_unexpired {t : ℚ} (ht : 0 ≤ t) : Unexpired platform 1 (.str (platform.isoformat (t + proofTtlSeconds))) := by
  have h : platform.isoformat (t + proofTtlSeconds) = lateText :=
    if_neg (by simp only [proofTtlSeconds]; linarith)
  rw [h]
  exact late_unexpired

theorem pingDelegation_honest : pingDelegation.Honest platform (.str "pong") where
  ed25519 := ed25519
  sha256_injective := sha256_injective
  sha256_ne := by simp [platform]
  coordinatorLive := rfl
  workerLive := rfl
  coordinator := ⟨_, agentOf_loaded 3⟩
  worker := ⟨_, agentOf_loaded 4⟩
  action := by decide
  gatewayPublicKeyHex := by simp [pingDelegation, agentOf, Hex.hexLower, List.replicate]
  delegates := ⟨_, rfl⟩
  performs := ⟨_, rfl⟩
  handler := List.mem_singleton.2 rfl
  outcome := rfl
  requestSecret := ⟨_, rfl⟩
  resultSecret := ⟨_, result_key, by simp [resultSecret, platform, Hex.hexLower]⟩
  dbBegin := rfl
  dbFinalize := rfl
  dbResult := rfl

theorem pingDelegation_inTime : pingDelegation.InTime platform where
  requestProof := signed_unexpired (le_refl 0)
  received := by norm_num [pingDelegation, circumstances, requestTtlSeconds]
  validated := by norm_num [pingDelegation, circumstances, clock, requestTtlSeconds]
  resultProof := signed_unexpired zero_le_one

theorem pingDelegation_routed : pingDelegation.Routed platform pingGateway "d" where
  live := rfl
  identity := ⟨_, agentOf_loaded 9⟩
  publicKeyHex := rfl
  gatewayKeyId := by decide
  buildConfigId := by decide
  named := by simp [pingGateway, Dict.get, Dict.getD]
  id_ne := by decide
  id_encodable := by decide
  status := by simp [pingGateway, Dict.get, Dict.getD]
  target := by simp [pingGateway, Dict.get, Dict.getD, pingDelegation]
  credentialFingerprint := by simp [pingGateway, Dict.get, Dict.getD, Json.truthy]
  credentialEnforced := by simp [pingGateway, Dict.get, Dict.getD]
  build := by simp [pingGateway, Dict.get, Dict.getD, pingDelegation]
  expiry := by simp [pingGateway, Dict.get, Dict.getD, Json.truthy, lateText]
  unexpiredWorker := late_unexpired
  unexpiredCoordinator := late_unexpired
  proofWorker := signed_unexpired (le_refl 0)
  proofCoordinator := signed_unexpired (le_refl 0)

theorem elsewhere_length (now : ℚ) : (elsewhere now).key.length = 9 := by
  have hkey : (elsewhere now).key = Str.ofString "elsewhere" := rfl
  rw [hkey]
  decide

/-- The keys of the run are hashes, which have an even number of digits. -/
theorem elsewhere_ne_requestKey (now : ℚ) (signed : Dict) : (elsewhere now).key ≠ requestKey platform signed := by
  intro heq
  have hlength := congrArg List.length heq
  unfold requestKey at hlength
  split at hlength
  · dsimp only at hlength
    split at hlength
    · rw [elsewhere_length, Platform.hashJson, Platform.sha256Hex, Hex.length_hexLower] at hlength
      omega
    · cases hlength
  · cases hlength

theorem elsewhere_ne_resultKey (now : ℚ) (d : Delegation) (receipt : Dict) (id : Str) :
    (elsewhere now).key ≠ d.resultKey platform receipt id := by
  intro heq
  have hlength := congrArg List.length heq
  rw [elsewhere_length, Delegation.resultKey, Platform.hashJson, Platform.sha256Hex, Hex.length_hexLower] at hlength
  omega

theorem elsewhere_harmless (signed : Dict) (secret : Option Str) :
    ∀ c ∈ [elsewhere 0], c.Harmless (requestKey platform signed) secret := by
  intro c hc heq
  rw [List.mem_singleton.1 hc] at heq
  exact absurd heq (elsewhere_ne_requestKey 0 signed)

theorem pingDelegation_undisturbed (receipt : Dict) : pingDelegation.Undisturbed platform receipt "d" freshVerifier where
  unseen _ _ _ := rfl
  unconsumed := rfl
  during := ⟨[elsewhere 0], fun _ => rfl, List.forall_mem_singleton.2 (elsewhere_ne_resultKey _ _ _ _),
    fun _ signed secret _ _ => elsewhere_harmless signed secret⟩
  between := List.forall_mem_singleton.2 (elsewhere_ne_resultKey _ _ _ _)
  nonce := NonceCache.consume_ok_iff.1 (by
    simp [NonceCache.consume, NonceCache.prune, NonceCache.pruneOld, NonceCache.pruneExcess, NonceCache.empty, freshVerifier,
      NonceCache.contains, Json.truthy, hashable, pingDelegation, circumstances])

/-- The coordinator gets its pong, whatever is done elsewhere meanwhile. -/
theorem pong_delivered : ∃ receipt x, pingDelegation.run platform pingGateway freshVerifier = .ok x ∧
    pingDelegation.Completes platform receipt "d" (.str "pong") x :=
  honest_delegation_completes pingDelegation_honest pingDelegation_inTime pingDelegation_routed fun receipt _ => pingDelegation_undisturbed receipt

end Sample

end Adn
