import Adn.PrintedSummary
/-!
# An honest run succeeds

The script's modes `prepare`, `prepare_gateway` and `execute`, one after the other. What
the first two write, the third accepts: it restores the same agents and the same gateway,
and its own grants let the coordinator delegate and both workers perform
(`session_prepared`, `processing_honest`, `validating_honest`). So where the TEE routes
both delegations, messages are in time and no one else works under this run's keys, the
run prints that it succeeded (`prepared_run_succeeds`).
-/

open Lib

namespace Adn

/-! ## Grants -/

theorem SetTable.mem_add {t : SetTable} {k k' x y : Str} :
    Json.str x ∈ (t.add k (.str y)).find k' ↔ k = k' ∧ y = x ∨ Json.str x ∈ t.find k' := by
  rw [SetTable.find_add]
  split
  · rename_i hk
    subst hk
    simp [SetTable.mem_setAdd]
  · rename_i hk
    simp [hk]

section
variable (p : Platform) (agent : Agent) (coordId w1Id valId workerId action : Str)

/-- A policy that has both rules and the trust allows the delegation. -/
theorem evaluate_granted {policy : DelegationPolicy} {fromAgentId toAgentId action : Str}
    (hrule : Json.str action ∈ policy.delegationRules.find fromAgentId)
    (htrust : Json.str toAgentId ∈ policy.agentTrust.find fromAgentId)
    (hperform : Json.str action ∈ policy.delegationRules.find toAgentId) :
    ∃ reason, evaluateDelegationRequest p policy (.str action) (.str fromAgentId) toAgentId = .ok (true, reason) := by
  obtain ⟨b, reason, h, hb⟩ := policy.evaluate_texts p fromAgentId toAgentId action
  obtain rfl := hb.2 ⟨hrule, htrust, hperform⟩
  exact ⟨reason, h⟩

theorem coordinator_processes : ∃ reason, evaluateDelegationRequest p (agent.grant (coordinatorGrants coordId w1Id valId)).policy
    (.str "PROCESS_DATA") (.str coordId) w1Id = .ok (true, reason) := by
  apply evaluate_granted <;>
    simp [Agent.grant, coordinatorGrants, DelegationPolicy.Operation.run, DelegationPolicy.addDelegationRule,
      DelegationPolicy.addTrustRelationship, SetTable.mem_add]

theorem coordinator_validates : ∃ reason, evaluateDelegationRequest p (agent.grant (coordinatorGrants coordId w1Id valId)).policy
    (.str "VALIDATE_QUALITY") (.str coordId) valId = .ok (true, reason) := by
  apply evaluate_granted <;>
    simp [Agent.grant, coordinatorGrants, DelegationPolicy.Operation.run, DelegationPolicy.addDelegationRule,
      DelegationPolicy.addTrustRelationship, SetTable.mem_add]

theorem worker_performs : ∃ reason, evaluateDelegationRequest p (agent.grant (workerGrants coordId workerId action)).policy
    (.str action) (.str coordId) workerId = .ok (true, reason) := by
  apply evaluate_granted <;>
    simp [Agent.grant, workerGrants, DelegationPolicy.Operation.run, DelegationPolicy.addDelegationRule,
      DelegationPolicy.addTrustRelationship, SetTable.mem_add]

theorem mem_registered : action ∈ (agent.registerTaskHandler action).handlers := by
  unfold Agent.registerTaskHandler
  split
  · assumption
  · exact List.mem_append_right _ (List.mem_singleton_self _)

end

/-! ## A session -/

section
variable {p : Platform} {r : RunnerInput} {σ : Session}

theorem createAgent_ok {env : Env} {policyFile : Option (Except PyErr Json)} {integrity : IntegrityConfig}
    {key : Option Str} {agent : Agent} : createAgent p env policyFile integrity key = .ok agent ↔
      ∃ identity, loadIdentity p env key = .ok identity ∧
        agent = ⟨identity, (loadPolicy policyFile).policy.toDelegationPolicy, ["ECHO", "GET_AGENT_INFO", "PING"], integrity⟩ := by
  simp only [createAgent, bind_ok, pure_ok, @eq_comm _ _ agent]

/-- The gateway of a run that signs is the trusted one. -/
theorem gatekeeper_signs {gateway : AgentIdentity} (h : r.gatekeeper p = .ok (.signs gateway)) :
    (∃ key, loadIdentity p r.env key = .ok gateway) ∧ gateway.publicKeyHex = r.source.publicKeyHex := by
  unfold RunnerInput.gatekeeper at h
  split at h
  · cases h
  · obtain ⟨restored, hrestored, h⟩ := bind_ok.1 h
    cases pure_ok.1 h
    unfold restoreGatewayIdentity at hrestored
    obtain ⟨-, -, hrestored⟩ := bind_ok.1 hrestored
    obtain ⟨-, -, hrestored⟩ := bind_ok.1 hrestored
    obtain ⟨agent, hagent, hrestored⟩ := bind_ok.1 hrestored
    obtain ⟨_, hkey, hrestored⟩ := bind_ok.1 hrestored
    obtain rfl := pure_ok.1 hrestored
    obtain ⟨identity, hidentity, rfl⟩ := createAgent_ok.1 hagent
    exact ⟨⟨_, hidentity⟩, of_decide_eq_true (require_ok.1 hkey)⟩

/-- What a session is made of. -/
structure Session.Made (p : Platform) (r : RunnerInput) (σ : Session) : Prop where
  coordinator : loadIdentity p r.env r.workerKeys.coordinator = .ok σ.coordinator.identity
  worker1 : loadIdentity p r.env r.workerKeys.worker1 = .ok σ.worker1.identity
  validator : loadIdentity p r.env r.workerKeys.validator = .ok σ.validator.identity
  delegatesProcess : ∃ reason, evaluateDelegationRequest p σ.coordinator.policy (.str "PROCESS_DATA")
    (.str σ.coordinator.identity.agentId) σ.worker1.identity.agentId = .ok (true, reason)
  delegatesValidate : ∃ reason, evaluateDelegationRequest p σ.coordinator.policy (.str "VALIDATE_QUALITY")
    (.str σ.coordinator.identity.agentId) σ.validator.identity.agentId = .ok (true, reason)
  performsProcess : ∃ reason, evaluateDelegationRequest p σ.worker1.policy (.str "PROCESS_DATA")
    (.str σ.coordinator.identity.agentId) σ.worker1.identity.agentId = .ok (true, reason)
  performsValidate : ∃ reason, evaluateDelegationRequest p σ.validator.policy (.str "VALIDATE_QUALITY")
    (.str σ.coordinator.identity.agentId) σ.validator.identity.agentId = .ok (true, reason)
  handlesProcess : Str.ofString "PROCESS_DATA" ∈ σ.worker1.handlers
  handlesValidate : Str.ofString "VALIDATE_QUALITY" ∈ σ.validator.handlers
  coordinatorIntegrity : σ.coordinator.integrity = r.integrity
  worker1Integrity : σ.worker1.integrity = r.integrity
  validatorIntegrity : σ.validator.integrity = r.integrity
  publicKeyHex : σ.publicKeyHex = r.source.publicKeyHex
  publicKeyHex_ne : σ.publicKeyHex ≠ []
  gatewayKeyId : σ.gatewayKeyId = r.source.gatewayKeyId
  gatewayKeyId_ne : σ.gatewayKeyId ≠ []
  buildConfigId : σ.buildConfigId = r.teeBundle.buildConfigId.getD []
  buildConfigId_ne : σ.buildConfigId ≠ []
  gatekeeper : r.gatekeeper p = .ok σ.gatekeeper
  amounts : loadAmounts r.arithmetic r.sales = .ok σ.amounts

theorem session_made (h : r.session p = .ok σ) : σ.Made p r := by
  obtain ⟨mode, -, h⟩ := bind_ok.1 h
  obtain ⟨-, -, h⟩ := bind_ok.1 h
  obtain ⟨_, hpublic, h⟩ := bind_ok.1 h
  obtain ⟨_, hkey, h⟩ := bind_ok.1 h
  obtain ⟨_, hbuild, h⟩ := bind_ok.1 h
  obtain ⟨coordinator, hcoordinator, h⟩ := bind_ok.1 h
  obtain ⟨worker1, hworker1, h⟩ := bind_ok.1 h
  obtain ⟨worker2, -, h⟩ := bind_ok.1 h
  obtain ⟨validator, hvalidator, h⟩ := bind_ok.1 h
  obtain ⟨gatekeeper, hgatekeeper, h⟩ := bind_ok.1 h
  obtain ⟨amounts, hamounts, h⟩ := bind_ok.1 h
  obtain rfl := pure_ok.1 h
  obtain ⟨c, hc, rfl⟩ := createAgent_ok.1 hcoordinator
  obtain ⟨w, hw, rfl⟩ := createAgent_ok.1 hworker1
  obtain ⟨v, hv, rfl⟩ := createAgent_ok.1 hvalidator
  exact {
    coordinator := hc
    worker1 := hw
    validator := hv
    delegatesProcess := coordinator_processes ..
    delegatesValidate := coordinator_validates ..
    performsProcess := worker_performs ..
    performsValidate := worker_performs ..
    handlesProcess := mem_registered ..
    handlesValidate := mem_registered ..
    coordinatorIntegrity := rfl
    worker1Integrity := rfl
    validatorIntegrity := rfl
    publicKeyHex := rfl
    publicKeyHex_ne := of_decide_eq_true (require_ok.1 hpublic)
    gatewayKeyId := rfl
    gatewayKeyId_ne := of_decide_eq_true (require_ok.1 hkey)
    buildConfigId := rfl
    buildConfigId_ne := by
      have hset := require_ok.1 hbuild
      cases hb : r.teeBundle.buildConfigId with
      | none => simp [hb, isSet] at hset
      | some b => simpa [RunnerInput.grantAll, hb, isSet] using hset
    gatekeeper := hgatekeeper
    amounts := hamounts }

end

/-! ## One delegation -/

/-- What the program relies on, and what the bridge gives every process: no mock mode and a key for the ledger. -/
structure RunnerInput.Equipped (p : Platform) (r : RunnerInput) : Prop where
  ed25519 : Ed25519 p
  sha256_injective : Function.Injective p.sha256
  sha256_ne : ∀ bs, p.sha256 bs ≠ []
  live : isMock r.env = false
  integrityKey : ∀ domain, ∃ secret, configuredIntegrityKey p r.env r.integrity domain = .ok (some secret) ∧ secret ≠ []

/-- The TEE has routed this delegation, and its messages are in time. -/
structure Encounter.Meets (p : Platform) (d : Delegation) (teeResult : Dict) (id : Str) (e : Encounter) : Prop where
  enforced : Enforced teeResult d.worker.identity.agentId d.buildConfigId
  named : teeResult.get "delegation_id" = .str id
  id_ne : id ≠ []
  id_encodable : encodable id = true
  unexpiredWorker : Unexpired p d.circumstances.clock.validation.authorization (teeResult.get "authorization_expires_at")
  unexpiredCoordinator : Unexpired p d.resultClock.authorization (teeResult.get "authorization_expires_at")
  proofWorker : Unexpired p d.circumstances.clock.validation.gatewayProof (.str (p.isoformat (e.signedAt + proofTtlSeconds)))
  proofCoordinator : Unexpired p d.resultClock.gatewayProof (.str (p.isoformat (e.signedAt + proofTtlSeconds)))
  inTime : d.InTime p
  dbBegin : e.circumstances.dbBegin = .ok ()
  dbFinalize : e.circumstances.dbFinalize = .ok ()
  dbResult : e.dbResult = .ok ()

/-- What the run's gateway signs for a delegation. -/
def Encounter.sign (p : Platform) (r : RunnerInput) (gateway : AgentIdentity) (d : Delegation) (teeResult : Dict)
    (e : Encounter) : Except PyErr Dict :=
  buildTeeAuthorizationReceipt p r.env e.authorizedAt e.signedAt gateway d.gatewayKeyId teeResult (.str d.action)
    (.obj d.parameters)

section
variable {p : Platform} {r : RunnerInput} {σ : Session} {gateway : AgentIdentity} {d : Delegation}
  {teeResult : Dict} {id : Str} {s : VerifierState} {e : Encounter} {v : Json} {result : Dict}

theorem RunnerInput.Equipped.requestSecret (h : r.Equipped p) (identity : AgentIdentity) :
    ∃ secret, requestReplayIntegrityKey p r.env r.integrity identity = .ok secret := by
  obtain ⟨secret, hsecret, hne⟩ := h.integrityKey "request"
  refine ⟨some secret, bind_ok.2 ⟨_, hsecret, ?_⟩⟩
  rw [if_pos (by simpa [isSet] using hne)]
  rfl

theorem routed (hr : r.Equipped p) (hσ : σ.Made p r) (hg : σ.gatekeeper = .signs gateway)
    (hpublic : d.gatewayPublicKeyHex = σ.publicKeyHex) (hkey : d.gatewayKeyId = σ.gatewayKeyId)
    (hm : e.Meets p d teeResult id) :
    d.Routed p ⟨r.env, gateway, teeResult, e.authorizedAt, e.signedAt⟩ id := by
  obtain ⟨hidentity, hgateway⟩ := gatekeeper_signs (hg ▸ hσ.gatekeeper)
  exact {
    live := hr.live
    identity := hidentity
    publicKeyHex := by rw [hgateway, hpublic, hσ.publicKeyHex]
    gatewayKeyId := hkey ▸ hσ.gatewayKeyId_ne
    buildConfigId := hm.enforced.buildConfigId_ne
    named := hm.named
    id_ne := hm.id_ne
    id_encodable := hm.id_encodable
    status := hm.enforced.status
    target := hm.enforced.target
    credentialFingerprint := hm.enforced.credentialFingerprint
    credentialEnforced := hm.enforced.credentialEnforced
    build := hm.enforced.build
    expiry := hm.enforced.expiry
    unexpiredWorker := hm.unexpiredWorker
    unexpiredCoordinator := hm.unexpiredCoordinator
    proofWorker := hm.proofWorker
    proofCoordinator := hm.proofCoordinator }

/-- The gateway signs a receipt that the worker and the coordinator need. -/
theorem sign_receipted (hr : r.Equipped p) (hσ : σ.Made p r) (hg : σ.gatekeeper = .signs gateway) (hd : d.Honest p v)
    (hpublic : d.gatewayPublicKeyHex = σ.publicKeyHex) (hkey : d.gatewayKeyId = σ.gatewayKeyId)
    (hm : e.Meets p d teeResult id) : ∃ receipt, e.sign p r gateway d teeResult = .ok receipt ∧ d.Receipted p receipt id := by
  have hrouted := routed hr hσ hg hpublic hkey hm
  obtain ⟨key, hgateway⟩ := hrouted.identity
  obtain ⟨k, hk⟩ := loadIdentity_signs hd.ed25519 hr.live hgateway
  obtain ⟨wkey, hwkey⟩ := hd.worker
  obtain ⟨w, hw⟩ := loadIdentity_signs hd.ed25519 hd.workerLive hwkey
  have hbuilt := receipt_built hrouted hk (by rw [hw.agentId]; exact hw.keyPair.agentId_ne hd.sha256_ne)
  exact ⟨_, hbuilt, receipted hd.sha256_ne hrouted hk⟩

/-- A delegation that the run has had served. -/
structure Leg.Served (p : Platform) (d : Delegation) (id : Str) (e : Encounter) (s : VerifierState) (result : Dict)
    (leg : Leg) : Prop where
  name : d.name p leg.receipt = id
  delivered : d.deliver p leg.receipt (s.after p e.before) = .ok leg.delivered
  result : leg.result = result

/-- With a receipt for it, a delegation between honest agents gets the run what the handler returned. -/
theorem leg_of_authorized {phase : ExecutionPhase} {name : Str} {tee : Json} {receipt : Dict}
    (hauthorized : σ.authorization p r phase name tee d e = .ok receipt) (hd : d.Honest p v) (ht : d.InTime p)
    (hreceipted : d.Receipted p receipt id) (hu : d.Undisturbed p receipt id (s.after p e.before)) (hv : orEmpty v = .obj result) :
    ∃ leg, σ.leg p r phase name tee d e s = .ok leg ∧ leg.Served p d id e s result := by
  obtain ⟨x, hx, hcompletes⟩ := delivers hd ht hreceipted hu
  refine ⟨⟨receipt, x, result⟩, ?_, hreceipted.delegationId _, hx, rfl⟩
  rw [Session.leg, hauthorized]
  simp only [orRaised, ok_bind, hx, hcompletes.result, hv, asDict]
  rfl

/-- Between honest agents the run gets what the handler returned. -/
theorem leg_completes (name : Str) (hr : r.Equipped p) (hσ : σ.Made p r) (hg : σ.gatekeeper = .signs gateway)
    (hd : d.Honest p v) (hpublic : d.gatewayPublicKeyHex = σ.publicKeyHex) (hkey : d.gatewayKeyId = σ.gatewayKeyId)
    (hbuild : d.buildConfigId = σ.buildConfigId) (hm : e.Meets p d teeResult id)
    (hu : ∀ receipt, e.sign p r gateway d teeResult = .ok receipt → d.Undisturbed p receipt id (s.after p e.before))
    (hv : orEmpty v = .obj result) :
    ∃ leg, σ.leg p r .full name (.obj teeResult) d e s = .ok leg ∧ leg.Served p d id e s result := by
  obtain ⟨receipt, hsigned, hreceipted⟩ := sign_receipted hr hσ hg hd hpublic hkey hm
  refine leg_of_authorized ?_ hd hm.inTime hreceipted (hu receipt hsigned) hv
  refine bind_ok.2 ⟨teeResult, requireAuthorizationResult_ok.2 ⟨rfl, hbuild ▸ hm.enforced⟩, ?_⟩
  rw [hg, ← hkey]
  exact hsigned

/-- The `processed_data` of a delegation to `worker1` that was served. -/
theorem process_of_leg {phase : ExecutionPhase} {tee : Json} {leg : Leg} (htee : r.teeBundle.processData = tee)
    (h : σ.leg p r phase "processData" tee (σ.processing p r e) e s = .ok leg)
    (hserved : leg.Served p (σ.processing p r e) id e s (r.processResult σ)) :
    σ.process p r phase e s = .ok (leg, .obj (processedData r.arithmetic r.sales σ.amounts)) := by
  have hdata : leg.result.getD "processed_data" (.obj []) = .obj (processedData r.arithmetic r.sales σ.amounts) := by
    simp [hserved.result, RunnerInput.processResult, Dict.getD]
  subst htee
  rw [Session.process, h]
  simp only [ok_bind, hdata]
  rfl

theorem processing_honest (hr : r.Equipped p) (hσ : σ.Made p r) (hb : e.circumstances.dbBegin = .ok ())
    (hf : e.circumstances.dbFinalize = .ok ()) (hresult : e.dbResult = .ok ()) :
    (σ.processing p r e).Honest p (.obj (r.processResult σ)) where
  ed25519 := hr.ed25519
  sha256_injective := hr.sha256_injective
  sha256_ne := hr.sha256_ne
  coordinatorLive := hr.live
  workerLive := hr.live
  coordinator := ⟨_, hσ.coordinator⟩
  worker := ⟨_, hσ.worker1⟩
  action := (by decide : Str.ofString "PROCESS_DATA" ≠ [])
  gatewayPublicKeyHex := hσ.publicKeyHex_ne
  delegates := hσ.delegatesProcess
  performs := hσ.performsProcess
  handler := hσ.handlesProcess
  outcome := rfl
  requestSecret := hσ.worker1Integrity ▸ hr.requestSecret _
  resultSecret := hσ.coordinatorIntegrity ▸ hr.integrityKey _
  dbBegin := hb
  dbFinalize := hf
  dbResult := hresult

theorem validating_honest (hr : r.Equipped p) (hσ : σ.Made p r) (data : Dict)
    (delegations : List (Json × DelegationRequest)) (hb : e.circumstances.dbBegin = .ok ())
    (hf : e.circumstances.dbFinalize = .ok ()) (hresult : e.dbResult = .ok ()) :
    (σ.validating p r (.obj data) delegations e).Honest p (.obj (qualityReport data)) where
  ed25519 := hr.ed25519
  sha256_injective := hr.sha256_injective
  sha256_ne := hr.sha256_ne
  coordinatorLive := hr.live
  workerLive := hr.live
  coordinator := ⟨_, hσ.coordinator⟩
  worker := ⟨_, hσ.validator⟩
  action := (by decide : Str.ofString "VALIDATE_QUALITY" ≠ [])
  gatewayPublicKeyHex := hσ.publicKeyHex_ne
  delegates := hσ.delegatesValidate
  performs := hσ.performsValidate
  handler := hσ.handlesValidate
  outcome := by simp [Session.validating, Session.delegation, validateHandler, params2, Dict.getD, asDict]
  requestSecret := hσ.validatorIntegrity ▸ hr.requestSecret _
  resultSecret := hσ.coordinatorIntegrity ▸ hr.integrityKey _
  dbBegin := hb
  dbFinalize := hf
  dbResult := hresult

end

/-! ## Both -/

section
variable {p : Platform} {r : RunnerInput} {σ : Session} {gateway : AgentIdentity} {teeResult₁ teeResult₂ : Dict}
  {id₁ id₂ : Str} {s : VerifierState} {e₁ e₂ : Encounter}

/-- The TEE has routed both delegations, under two ids, and no one else works under the keys of the run. Everything is said of
the state that the run begins in. -/
structure MeetsBoth (p : Platform) (r : RunnerInput) (σ : Session) (gateway : AgentIdentity) (teeResult₁ teeResult₂ : Dict)
    (id₁ id₂ : Str) (e₁ e₂ : Encounter) (s : VerifierState) : Prop where
  processData : r.teeBundle.processData = .obj teeResult₁
  validateQuality : r.teeBundle.validateQuality = .obj teeResult₂
  ids : id₁ ≠ id₂
  first : e₁.Meets p (σ.processing p r e₁) teeResult₁ id₁
  second : ∀ delegations, e₂.Meets p (σ.validating p r (.obj (processedData r.arithmetic r.sales σ.amounts)) delegations e₂)
    teeResult₂ id₂
  firstAlone : ∀ receipt, e₁.sign p r gateway (σ.processing p r e₁) teeResult₁ = .ok receipt →
    (σ.processing p r e₁).Alone p receipt id₁ e₁.before e₁.during s
  secondAlone : ∀ delegations receipt,
    e₂.sign p r gateway (σ.validating p r (.obj (processedData r.arithmetic r.sales σ.amounts)) delegations e₂) teeResult₂ =
      .ok receipt →
    (σ.validating p r (.obj (processedData r.arithmetic r.sales σ.amounts)) delegations e₂).Alone p receipt id₂
      (e₁.calls ++ e₂.before) e₂.during s
  cache : s.cache.Reached e₁.resultClock.monotonic
  clock : e₁.resultClock.monotonic ≤ e₂.resultClock.monotonic
  nonce : e₂.circumstances.clock.resultNonce ≠ e₁.circumstances.clock.resultNonce

theorem session_run_succeeds (hr : r.Equipped p) (hσ : r.session p = .ok σ) (hg : σ.gatekeeper = .signs gateway)
    (hm : MeetsBoth p r σ gateway teeResult₁ teeResult₂ id₁ id₂ e₁ e₂ s) :
    ∃ run, r.full p e₁ e₂ s = .ok run ∧
      run.printed = σ.summary r (.bool true) (processedData r.arithmetic r.sales σ.amounts)
        (qualityReport (processedData r.arithmetic r.sales σ.amounts)) := by
  have hmade := session_made hσ
  have hfirst := hm.first
  obtain ⟨leg₁, hleg₁, hserved₁⟩ := leg_completes "processData" hr hmade hg
    (processing_honest hr hmade hfirst.dbBegin hfirst.dbFinalize hfirst.dbResult) rfl rfl rfl hfirst
    (fun receipt hreceipt => (hm.firstAlone receipt hreceipt).first fun _ => rfl) (orEmpty_obj (r.processResult σ))
  have hprocess := process_of_leg hm.processData hleg₁ hserved₁
  have hsecond := hm.second ((σ.processing p r e₁).stored p leg₁.receipt)
  have hhonest := validating_honest hr hmade (processedData r.arithmetic r.sales σ.amounts)
    ((σ.processing p r e₁).stored p leg₁.receipt) hsecond.dbBegin hsecond.dbFinalize hsecond.dbResult
  -- the second delegation finds its keys and its nonce as they were
  obtain ⟨receipt, hsigned, hreceipted⟩ := sign_receipted hr hmade hg hhonest rfl rfl hsecond
  have hname : (σ.validating p r _ _ e₂).name p receipt = id₂ := hreceipted.delegationId _
  have hundisturbed := (hm.secondAlone _ receipt hsigned).next hr.sha256_injective (fun _ => rfl) hserved₁.delivered
    (fun _ => rfl) (fun he => hm.ids (hserved₁.name.symm.trans (he.trans hname))) hname hm.cache hm.clock hm.nonce
  obtain ⟨leg₂, hleg₂, hserved₂⟩ := leg_completes "validateQuality" hr hmade hg hhonest rfl rfl rfl hsecond
    (fun receipt' hsigned' => Except.ok.inj (hsigned.symm.trans hsigned') ▸ hundisturbed)
    (orEmpty_obj (qualityReport (processedData r.arithmetic r.sales σ.amounts)))
  rw [← hm.validateQuality] at hleg₂
  obtain ⟨v₁, hsound₁⟩ := leg_sound hleg₁
  obtain ⟨v₂, hsound₂⟩ := leg_sound hleg₂
  refine ⟨⟨leg₁, leg₂, σ.summary r (.bool true) (processedData r.arithmetic r.sales σ.amounts)
    (qualityReport (processedData r.arithmetic r.sales σ.amounts))⟩, ?_, rfl⟩
  rw [RunnerInput.full, hσ]
  simp only [orRaised, ok_bind, hprocess, Session.validate, hleg₂, asDict, hsound₁.completed, hsound₂.completed,
    hserved₂.result]
  rfl

end

/-! ## From the first mode to the last -/

section
variable {p : Platform} {env : Env} {policyFile : Option (Except PyErr Json)} {integrity : IntegrityConfig}

/-- The identity of a secret. -/
def Secret.identity (p : Platform) (secret : Secret) : AgentIdentity :=
  let did := Str.ofString "did:key:ed25519:" ++ p.fingerprint (p.publicKey secret.bytes)
  ⟨some ⟨secret.bytes, Hex.hexLower (p.publicKey secret.bytes), p.fingerprint (p.publicKey secret.bytes), did⟩,
    p.fingerprint (p.publicKey secret.bytes), Hex.hexLower (p.publicKey secret.bytes), did, some (Hex.hexLower secret.bytes)⟩

theorem Secret.loaded (secret : Secret) : loadIdentity p env (some (Hex.hexLower secret.bytes)) = .ok (secret.identity p) :=
  loadIdentity_key secret.length_bytes

/-- The packet that is shown of a secret. -/
def Secret.packet (p : Platform) (secret : Secret) : PreparedAdnIdentity :=
  ⟨(secret.identity p).agentId, (secret.identity p).did, (secret.identity p).publicKeyHex⟩

theorem makeIdentity_eq (secret : Secret) :
    makeIdentity p env policyFile integrity secret = .ok (secret.packet p, Hex.hexLower secret.bytes) := by
  rw [makeIdentity, createAgent, secret.loaded]
  rfl

theorem prepareAdnExecution_ok {tenantDid : Str} {secrets : WorkerSecrets} {prepared : PreparedAdnExecution} {keys : WorkerKeys}
    (h : prepareAdnExecution p env policyFile integrity tenantDid secrets = .ok (prepared, keys)) :
    prepared = ⟨tenantDid, secrets.coordinator.packet p, secrets.worker1.packet p, secrets.worker2.packet p,
        secrets.validator.packet p⟩ ∧
      keys = ⟨some (Hex.hexLower secrets.coordinator.bytes), some (Hex.hexLower secrets.worker1.bytes),
        some (Hex.hexLower secrets.worker2.bytes), some (Hex.hexLower secrets.validator.bytes)⟩ := by
  obtain ⟨mode, -, h⟩ := bind_ok.1 h
  simp only [makeIdentity_eq, ok_bind] at h
  cases pure_ok.1 h
  exact ⟨rfl, rfl⟩

theorem prepareGatewayKeyBundle_ok {gatewayKeyId : Option Str} {secret : Secret} {bundle : GatewayKeyBundle}
    (h : prepareGatewayKeyBundle p env policyFile integrity gatewayKeyId secret = .ok bundle) :
    bundle.gatewayKeyId ≠ [] ∧ bundle.publicKeyHex = Hex.hexLower (p.publicKey secret.bytes) ∧
      bundle.privateKeyHex = Hex.hexLower secret.bytes := by
  obtain ⟨mode, -, h⟩ := bind_ok.1 h
  simp only [makeIdentity_eq, ok_bind] at h
  obtain rfl := pure_ok.1 h
  refine ⟨?_, rfl, rfl⟩
  unfold orStr
  split
  · simp
  · assumption

/-- The agent of a secret. -/
def Secret.agent (p : Platform) (policyFile : Option (Except PyErr Json)) (integrity : IntegrityConfig) (secret : Secret) : Agent :=
  ⟨secret.identity p, (loadPolicy policyFile).policy.toDelegationPolicy, ["ECHO", "GET_AGENT_INFO", "PING"], integrity⟩

theorem createAgent_secret (secret : Secret) : createAgent p env policyFile integrity (some (Hex.hexLower secret.bytes)) =
    .ok (secret.agent p policyFile integrity) := createAgent_ok.2 ⟨_, secret.loaded, rfl⟩

/-- What `runAdnWithRealDid` is called with, outside of live mode. -/
structure Startable (env : Env) (tee : TeeAuthorizationBundle) (arithmetic : Arithmetic) (sales : Option SalesFile)
    (amounts : List PyFloat) : Prop where
  mode : ∃ mode, resolveRuntimeMode env = .ok mode
  signs : env.runtimeMode ≠ some (Str.ofString "live")
  buildConfigId : ∃ b, tee.buildConfigId = some b ∧ b ≠ []
  amounts : loadAmounts arithmetic sales = .ok amounts

variable {env₁ : Env} {policyFile₁ : Option (Except PyErr Json)} {integrity₁ : IntegrityConfig} {tenantDid : Str}
  {secrets : WorkerSecrets} {secret : Secret} {gatewayKeyId : Option Str} {prepared : PreparedAdnExecution} {keys : WorkerKeys}
  {bundle : GatewayKeyBundle} {tee : TeeAuthorizationBundle} {arithmetic : Arithmetic} {sales : Option SalesFile}
  {amounts : List PyFloat}

/-- A script that finds the keys of these secrets has their agents. -/
theorem session_of_secrets {r : RunnerInput} {mode : RuntimeMode} {gatekeeper : Gatekeeper} (secrets : WorkerSecrets)
    (hmode : resolveRuntimeMode r.env = .ok mode) (htenant : r.preparedTenantDid = .str r.tenantDid)
    (hpublic : r.source.publicKeyHex ≠ []) (hkey : r.source.gatewayKeyId ≠ [])
    (hbuild : isSet r.teeBundle.buildConfigId = true)
    (hkeys : r.workerKeys = ⟨some (Hex.hexLower secrets.coordinator.bytes), some (Hex.hexLower secrets.worker1.bytes),
      some (Hex.hexLower secrets.worker2.bytes), some (Hex.hexLower secrets.validator.bytes)⟩)
    (hgatekeeper : r.gatekeeper p = .ok gatekeeper) (hamounts : loadAmounts r.arithmetic r.sales = .ok amounts) :
    r.session p = .ok (r.grantAll mode (secrets.coordinator.agent p r.policyFile r.integrity)
      (secrets.worker1.agent p r.policyFile r.integrity) (secrets.worker2.agent p r.policyFile r.integrity)
      (secrets.validator.agent p r.policyFile r.integrity) gatekeeper amounts) := by
  refine bind_ok.2 ⟨mode, hmode, ?_⟩
  refine bind_ok.2 ⟨(), require_ok.2 (by rw [htenant]; exact Json.pyEq_str.2 rfl), ?_⟩
  refine bind_ok.2 ⟨(), require_ok.2 (decide_eq_true hpublic), ?_⟩
  refine bind_ok.2 ⟨(), require_ok.2 (decide_eq_true hkey), ?_⟩
  refine bind_ok.2 ⟨(), require_ok.2 hbuild, ?_⟩
  rw [hkeys]
  refine bind_ok.2 ⟨_, createAgent_secret _, ?_⟩
  refine bind_ok.2 ⟨_, createAgent_secret _, ?_⟩
  refine bind_ok.2 ⟨_, createAgent_secret _, ?_⟩
  refine bind_ok.2 ⟨_, createAgent_secret _, ?_⟩
  exact bind_ok.2 ⟨gatekeeper, hgatekeeper, bind_ok.2 ⟨amounts, hamounts, rfl⟩⟩

/-- The script restores the agents and the gateway that were prepared. -/
theorem session_prepared (policyFile : Option (Except PyErr Json)) (integrity : IntegrityConfig) (hp : Ed25519 p)
    (hprepare : prepareAdnExecution p env₁ policyFile₁ integrity₁ tenantDid secrets = .ok (prepared, keys))
    (hgateway : prepareGatewayKeyBundle p env₁ policyFile₁ integrity₁ gatewayKeyId secret = .ok bundle)
    (hstart : Startable env tee arithmetic sales amounts) :
    ∃ σ, (realDidInput env tenantDid prepared keys tee bundle policyFile integrity arithmetic sales).session p = .ok σ ∧
      σ.gatekeeper = .signs (secret.identity p) ∧ σ.amounts = amounts ∧
      σ.coordinator.identity.agentId = prepared.coordinator.agentId ∧
      σ.worker1.identity.agentId = prepared.worker1.agentId ∧ σ.validator.identity.agentId = prepared.validator.agentId := by
  obtain ⟨rfl, rfl⟩ := prepareAdnExecution_ok hprepare
  obtain ⟨⟨mode, hmode⟩, hsigns, ⟨b, hbuild, hb⟩, hamounts⟩ := hstart
  obtain ⟨keyId, publicKeyHex, privateKeyHex⟩ := bundle
  obtain ⟨hkeyId, rfl, rfl⟩ := prepareGatewayKeyBundle_ok hgateway
  have hpublic : Hex.hexLower (p.publicKey secret.bytes) ≠ [] :=
    Hex.hexLower_ne (List.length_pos_iff.1 (by rw [hp.publicKey_length _ secret.length_bytes]; decide))
  have hprivate : isSet (some (Hex.hexLower secret.bytes)) = true := by
    simpa [isSet] using Hex.hexLower_ne (List.length_pos_iff.1 (by rw [secret.length_bytes]; decide))
  generalize hr : realDidInput env tenantDid _ _ tee _ policyFile integrity arithmetic sales = r
  have hgatekeeper : r.gatekeeper p = .ok (.signs (secret.identity p)) := by
    subst hr
    refine bind_ok.2 ⟨secret.identity p, ?_, rfl⟩
    refine bind_ok.2 ⟨(), require_ok.2 (decide_eq_true hsigns), ?_⟩
    refine bind_ok.2 ⟨(), require_ok.2 hprivate, ?_⟩
    exact bind_ok.2 ⟨_, createAgent_secret _, bind_ok.2 ⟨(), require_ok.2 (decide_eq_true rfl), rfl⟩⟩
  refine ⟨_, session_of_secrets secrets (by rw [← hr]; exact hmode) (by rw [← hr]; rfl) (by rw [← hr]; exact hpublic)
    (by rw [← hr]; exact hkeyId) ?_ (by rw [← hr]; rfl) hgatekeeper (by rw [← hr]; exact hamounts), rfl, rfl, rfl, rfl, rfl⟩
  rw [← hr]
  simpa [realDidInput, hbuild, isSet] using hb

/-- What was prepared runs to its end and succeeds, where the TEE routes both delegations to the prepared agents, messages are
in time and no one else works under the keys of the run. -/
theorem prepared_run_succeeds {r : RunnerInput} {teeResult₁ teeResult₂ : Dict} {id₁ id₂ : Str} {e₁ e₂ : Encounter}
    {s : VerifierState}
    (hprepare : prepareAdnExecution p env₁ policyFile₁ integrity₁ tenantDid secrets = .ok (prepared, keys))
    (hgateway : prepareGatewayKeyBundle p env₁ policyFile₁ integrity₁ gatewayKeyId secret = .ok bundle)
    (hrun : r = realDidInput env tenantDid prepared keys tee bundle policyFile integrity arithmetic sales)
    (hstart : Startable env tee arithmetic sales amounts) (hr : r.Equipped p)
    (hm : ∀ σ, r.session p = .ok σ →
      MeetsBoth p r σ (secret.identity p) teeResult₁ teeResult₂ id₁ id₂ e₁ e₂ s) :
    ∃ σ run, r.session p = .ok σ ∧ r.full p e₁ e₂ s = .ok run ∧
      run.printed = σ.summary r (.bool true) (processedData arithmetic sales amounts)
        (qualityReport (processedData arithmetic sales amounts)) ∧
      σ.coordinator.identity.agentId = prepared.coordinator.agentId ∧
      σ.worker1.identity.agentId = prepared.worker1.agentId ∧ σ.validator.identity.agentId = prepared.validator.agentId := by
  obtain ⟨σ, hσ, hgatekeeper, rfl, hids⟩ := session_prepared policyFile integrity hr.ed25519 hprepare hgateway hstart
  rw [← hrun] at hσ
  obtain ⟨run, hfull, hprinted⟩ := session_run_succeeds hr hσ hgatekeeper (hm σ hσ)
  subst hrun
  exact ⟨σ, run, hσ, hfull, hprinted, hids⟩

end

/-! ### A run over one sale -/

namespace Sample

theorem secret_length (b : UInt8) : (List.replicate 32 b).length = 32 := List.length_replicate

def secretOf (b : UInt8) : Secret := ⟨List.replicate 32 b, secret_length b⟩

def workerSecrets : WorkerSecrets := ⟨secretOf 3, secretOf 4, secretOf 5, secretOf 6⟩

def demoEnv : Env := ⟨none, some "demo", [], [], [], []⟩

/-- Arithmetic on lists of ones. -/
def oneArithmetic : Arithmetic where
  float _ := .ok (.finite 1)
  sum xs := .finite xs.length
  mean _ := .finite 1
  round2 x := x

def oneSale : SalesFile := ⟨"sales_q1.csv", [some "1.0"]⟩

/-- The TEE's answer about a delegation to the agent of a secret. -/
def routedTo (secret : Secret) (id : Str) : Dict := Dict.ofList [("delegation_id", .str id), ("status", .str "ROUTED"),
  ("routed_to", .str (secret.identity platform).agentId), ("credential_fingerprint", .str "c"),
  ("credential_enforced", .bool true), ("build_config_id", .str "b"), ("authorization_expires_at", .str lateText)]

def saleBundle : TeeAuthorizationBundle := ⟨.obj (routedTo (secretOf 4) "d"), .obj (routedTo (secretOf 6) "e"), some "b"⟩

def saleExecution : PreparedAdnExecution :=
  ⟨"tenant", (secretOf 3).packet platform, (secretOf 4).packet platform, (secretOf 5).packet platform,
    (secretOf 6).packet platform⟩

def saleKeys : WorkerKeys := ⟨some (Hex.hexLower (secretOf 3).bytes), some (Hex.hexLower (secretOf 4).bytes),
  some (Hex.hexLower (secretOf 5).bytes), some (Hex.hexLower (secretOf 6).bytes)⟩

def saleGateway : GatewayKeyBundle := ⟨"g", Hex.hexLower (secretOf 9).bytes, Hex.hexLower (secretOf 9).bytes⟩

theorem sale_prepared : prepareAdnExecution platform demoEnv none resultKey "tenant" workerSecrets =
    .ok (saleExecution, saleKeys) := by
  have hmode : resolveRuntimeMode demoEnv = .ok .demo := rfl
  simp only [prepareAdnExecution, hmode, ok_bind, makeIdentity_eq]
  rfl

theorem sale_gateway : prepareGatewayKeyBundle platform demoEnv none resultKey (some "g") (secretOf 9) = .ok saleGateway := by
  have hmode : resolveRuntimeMode demoEnv = .ok .demo := rfl
  simp only [prepareGatewayKeyBundle, hmode, ok_bind, makeIdentity_eq]
  rfl

def saleInput : RunnerInput :=
  realDidInput demoEnv "tenant" saleExecution saleKeys saleBundle saleGateway none resultKey oneArithmetic (some oneSale)

theorem sale_startable : Startable demoEnv saleBundle oneArithmetic (some oneSale) [.finite 1] where
  mode := ⟨.demo, rfl⟩
  signs := by decide
  buildConfigId := ⟨_, rfl, by decide⟩
  amounts := rfl

theorem sale_equipped : saleInput.Equipped platform where
  ed25519 := ed25519
  sha256_injective := sha256_injective
  sha256_ne := by simp [platform]
  live := rfl
  integrityKey domain := ⟨_, rfl, by simp [platform, Hex.hexLower]⟩

/-- A delegation at time 0, with these nonces. -/
def encounter (nonce resultNonce : Str) : Encounter where
  before := []
  authorizedAt := 0
  signedAt := 0
  create := ⟨"fresh", nonce, 0, 0⟩
  logged := 0
  requestSigned := 0
  circumstances := { circumstances with clock := { circumstances.clock with resultNonce } }
  during := []
  between := []
  resultClock := resultClock
  dbResult := .ok ()

section
variable {σ : Session} (hσ : saleInput.session platform = .ok σ)
include hσ

theorem sale_worker1 : σ.worker1.identity = (secretOf 4).identity platform :=
  Except.ok.inj ((session_made hσ).worker1.symm.trans (secretOf 4).loaded)

theorem sale_validator : σ.validator.identity = (secretOf 6).identity platform :=
  Except.ok.inj ((session_made hσ).validator.symm.trans (secretOf 6).loaded)

omit hσ in
theorem routedTo_expiry (secret : Secret) (id : Str) : (routedTo secret id).get "authorization_expires_at" = .str lateText := by
  simp [routedTo, Dict.get, Dict.getD]

omit hσ in
theorem sale_enforced {d : Delegation} {secret : Secret} {id : Str} (hbuild : d.buildConfigId = Str.ofString "b")
    (hw : d.worker.identity = secret.identity platform) :
    Enforced (routedTo secret id) d.worker.identity.agentId d.buildConfigId := by
  rw [hw, hbuild]
  constructor <;> simp [routedTo, Dict.get, Dict.getD, Json.truthy, lateText]

omit hσ in
/-- Both delegations arrive at 1, before anything that was signed at 0 expires. -/
theorem sale_meets {d : Delegation} {secret : Secret} {id nonce resultNonce : Str} (hid : id ≠ []) (hencodable : encodable id = true)
    (hbuild : d.buildConfigId = Str.ofString "b") (hw : d.worker.identity = secret.identity platform)
    (hcreate : d.create = ⟨"fresh", nonce, 0, 0⟩) (hsigned : d.requestSigned = 0)
    (hclock : d.circumstances.clock = { circumstances.clock with resultNonce })
    (hreply : d.circumstances.reply = circumstances.reply) (hresult : d.resultClock = resultClock) :
    (encounter nonce resultNonce).Meets platform d (routedTo secret id) id where
  enforced := sale_enforced hbuild hw
  named := by simp [routedTo, Dict.get, Dict.getD]
  id_ne := hid
  id_encodable := hencodable
  unexpiredWorker := by
    rw [hclock, routedTo_expiry]
    exact late_unexpired
  unexpiredCoordinator := by
    rw [hresult, routedTo_expiry]
    exact late_unexpired
  proofWorker := by
    rw [hclock]
    exact signed_unexpired (le_refl 0)
  proofCoordinator := by
    rw [hresult]
    exact signed_unexpired (le_refl 0)
  inTime := {
    requestProof := by
      rw [hclock, hsigned]
      exact signed_unexpired (le_refl 0)
    received := by
      rw [hclock, hcreate]
      norm_num [circumstances, requestTtlSeconds]
    validated := by
      rw [hclock, hcreate]
      norm_num [circumstances, clock, requestTtlSeconds]
    resultProof := by
      rw [hresult, hreply]
      exact signed_unexpired zero_le_one }
  dbBegin := rfl
  dbFinalize := rfl
  dbResult := rfl

omit hσ in
/-- Nothing has been done yet, and no one else does anything. -/
theorem alone_fresh {d : Delegation} {receipt : Dict} {id : Str} (hbetween : d.between = [])
    (hnonce : NonceCache.empty.Admits d.resultClock.monotonic (.str d.circumstances.clock.resultNonce)) :
    d.Alone platform receipt id [] [] freshVerifier where
  request _ _ _ := ⟨rfl, by simp, by simp⟩
  result := rfl
  earlier := by simp
  during := by simp
  between := by simp [hbetween]
  nonce := hnonce

theorem sale_meetsBoth : MeetsBoth platform saleInput σ ((secretOf 9).identity platform) (routedTo (secretOf 4) "d")
    (routedTo (secretOf 6) "e") "d" "e" (encounter "n" "r") (encounter "m" "q") freshVerifier where
  processData := rfl
  validateQuality := rfl
  ids := by decide
  first := sale_meets (by decide) (by decide) (session_made hσ).buildConfigId (sale_worker1 hσ) rfl rfl rfl rfl rfl
  second _ := sale_meets (by decide) (by decide) (session_made hσ).buildConfigId (sale_validator hσ) rfl rfl rfl rfl rfl
  firstAlone _ _ := alone_fresh rfl ⟨rfl, rfl, rfl⟩
  secondAlone _ _ _ := alone_fresh rfl ⟨rfl, rfl, rfl⟩
  cache := NonceCache.reached_empty _
  clock := le_refl _
  nonce := by decide

end

/-- The sale is processed and validated. -/
theorem sale_succeeds : ∃ σ run, saleInput.session platform = .ok σ ∧
    saleInput.full platform (encounter "n" "r") (encounter "m" "q") freshVerifier = .ok run ∧
      run.printed = σ.summary saleInput (.bool true) (processedData oneArithmetic (some oneSale) [.finite 1])
        (qualityReport (processedData oneArithmetic (some oneSale) [.finite 1])) ∧
      σ.coordinator.identity.agentId = saleExecution.coordinator.agentId ∧
      σ.worker1.identity.agentId = saleExecution.worker1.agentId ∧ σ.validator.identity.agentId = saleExecution.validator.agentId :=
  prepared_run_succeeds sale_prepared sale_gateway rfl sale_startable sale_equipped fun _ hσ => sale_meetsBoth hσ

/-- And what is printed about it is sound. -/
theorem sale_sound : ∃ run σ, saleInput.full platform (encounter "n" "r") (encounter "m" "q") freshVerifier = .ok run ∧
    saleInput.session platform = .ok σ ∧ run.Sound platform saleInput σ (encounter "n" "r") (encounter "m" "q") := by
  obtain ⟨σ, hσ, hgatekeeper, -⟩ := session_prepared none resultKey ed25519 sale_prepared sale_gateway sale_startable
  obtain ⟨run, hrun, -⟩ := session_run_succeeds sale_equipped hσ hgatekeeper (sale_meetsBoth hσ)
  obtain ⟨σ', hσ', hsound⟩ := full_sound hrun
  exact ⟨run, σ', hrun, hσ', hsound⟩

end Sample

end Adn
