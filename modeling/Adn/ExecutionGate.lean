import Adn.RequestAuthenticity
/-!
# What stands behind a handler call

In live mode with `T3_MOCK` off, whatever the caller's optional arguments, a
handler runs only behind every layer (`handlerInvoked_gated`): the envelope's
own signature, a TEE receipt that the expected gateway signed for exactly this
request, the policy engine, and an allowed `begin` on the request's replay key.
-/

open Lib

namespace Adn

section
variable {p : Platform} {env : Env} {agent : Agent} {caller : CallerContext} {c : Circumstances} {signed : Dict}
  {L : Ledger} {records : Records}

/-- What the caller expects of a receipt for a request to this agent. -/
def CallerContext.expectedReceipt (caller : CallerContext) (agent : Agent) (request : DelegationRequest) :
    ExpectedReceipt where
  gatewayPubkeyHex := caller.gatewayPublicKeyHex.getD []
  gatewayKeyId := caller.gatewayKeyId.getD []
  delegationId := request.delegationId
  toAgentId := .str agent.identity.agentId
  action := request.action
  parameters := request.parameters
  buildConfigId := caller.buildConfigId.getD []

/-- The gates a call has passed for `request`, with its TEE receipt, the
receipt's gateway proof and its replay key. -/
structure Gated (p : Platform) (env : Env) (agent : Agent) (caller : CallerContext) (c : Circumstances) (signed : Dict)
    (L : Ledger) (request : DelegationRequest) (receipt proof : Dict) (key : Str) : Prop where
  reconstructed : DelegationRequest.fromActionRequest c.clock.postInit signed = .ok request
  -- the envelope
  current : Current p c.clock.validation.proof signed delegateTask
  signedBy : ∃ signer, SignedBy p signed signer
  target : request.toAgentId = .str agent.identity.agentId
  -- the TEE receipt
  present : request.teeAuthorization = .obj receipt
  authorizes : Authorizes p c.clock.validation.authorization receipt (caller.expectedReceipt agent request)
  gatewayKey_ne : caller.gatewayPublicKeyHex.getD [] ≠ []
  gatewayKey : receipt.get "gateway_public_key_hex" = .str (caller.gatewayPublicKeyHex.getD [])
  -- its gateway proof
  proofPresent : receipt.get "gateway_proof" = .obj proof
  gatewayCurrent : Current p c.clock.validation.gatewayProof proof receiptAction
  gatewaySigned : ∃ gateway, Hex.fromHex (caller.gatewayPublicKeyHex.getD []) = some gateway ∧ SignedBy p proof gateway
  bodyHash : proof.get "data_hash" = .str (p.hashJson (.obj (receiptBody receipt)))
  -- the policy and the replay ledger
  allowed : ∃ reason, evaluateDelegationRequest p agent.policy request.action request.fromAgentId
    agent.identity.agentId = .ok (true, reason)
  replayKey : Adn.replayKey p signed request = .ok key
  begun : ∃ args reply L', args.replayKey = key ∧ reply.allowed = true ∧
    beginRequestExecution p c.dbBegin c.begin c.token args L = .ok (reply, L')

/-! ## Layer by layer -/

theorem not_mem_beginEffects {key : Str} {x : Except PyErr (BeginReply × Ledger)} {action parameters : Json} :
    Effect.handlerInvoked action parameters ∉ beginEffects key x := by
  cases x <;> simp [beginEffects]

theorem handlerInvoked_execute {ready : Ready} {action parameters : Json} :
    Effect.handlerInvoked action parameters ∈ (execute p env agent c ready L records).effects ↔
      ∃ reply L' token, beginRequestExecution p c.dbBegin c.begin c.token ready.args L = .ok (reply, L') ∧
        reply.allowed = true ∧ reply.token = some token ∧
        action = ready.request.action ∧ parameters = ready.request.parameters := by
  unfold execute
  cases hab : afterBegin agent c.clock ready (beginRequestExecution p c.dbBegin c.begin c.token ready.args L) with
  | error d =>
    simp only [hab]
    refine iff_of_false not_mem_beginEffects ?_
    rintro ⟨reply, L', token, hb, ha, ht, -⟩
    rw [afterBegin_iff.2 ⟨reply, L', hb, ha, ht⟩] at hab
    cases hab
  | ok token =>
    obtain ⟨reply, L', hb, ha, ht⟩ := afterBegin_iff.1 hab
    simp only [hab, List.mem_append, not_mem_beginEffects, false_or, List.mem_singleton, Effect.handlerInvoked.injEq]
    constructor
    · rintro ⟨rfl, rfl⟩
      exact ⟨reply, L', token, hb, ha, ht, rfl, rfl⟩
    · rintro ⟨_, _, _, -, -, -, rfl, rfl⟩
      exact ⟨rfl, rfl⟩

/-- The handler is invoked for a request that is received and authorized, once
its `begin` is allowed. -/
theorem handlerInvoked_iff {action parameters : Json} :
    Effect.handlerInvoked action parameters ∈ (processDelegationRequest p env agent caller c signed L records).effects ↔
      ∃ request key ready, receive p env agent caller c.clock signed = .ok (request, key) ∧
        authorize p env agent c.clock request key = .ok ready ∧
        ∃ reply L' token, beginRequestExecution p c.dbBegin c.begin c.token ready.args L = .ok (reply, L') ∧
          reply.allowed = true ∧ reply.token = some token ∧
          action = ready.request.action ∧ parameters = ready.request.parameters := by
  unfold processDelegationRequest prepare
  cases hr : receive p env agent caller c.clock signed with
  | error e => simp
  | ok r =>
    obtain ⟨request, key⟩ := r
    cases ha : authorize p env agent c.clock request key with
    | error d =>
      refine iff_of_false (by simp [ha]) ?_
      rintro ⟨_, _, ready, hr', ha', -⟩
      cases hr'
      rw [ha] at ha'
      cases ha'
    | ok ready =>
      simp only [ha, List.cons_append, List.nil_append, List.mem_cons, reduceCtorEq, false_or, handlerInvoked_execute]
      constructor
      · intro h
        exact ⟨request, key, ready, rfl, ha, h⟩
      · rintro ⟨_, _, ready', hr', ha', h⟩
        cases hr'
        rw [ha] at ha'
        cases ha'
        exact h

/-! ## The gate -/

theorem Accepted.teeAuthorized {clock : ValidationClock} {ctx : ValidationContext} {request : DelegationRequest}
    {key : Str} (h : Accepted p env clock ctx signed request key) (hr : ctx.requireTeeAuthorization = true) :
    ∃ receipt proof, TeeAuthorized p env clock ctx request receipt proof :=
  h.authorized (h.required hr)

/-- Two reconstructions of one request differ in their times only. -/
theorem fromActionRequest_times {now now' : ℚ} {request request' : DelegationRequest}
    (h : DelegationRequest.fromActionRequest now signed = .ok request)
    (h' : DelegationRequest.fromActionRequest now' signed = .ok request') :
    request'.delegationId = request.delegationId ∧ request'.toAgentId = request.toAgentId ∧
      request'.action = request.action ∧ request'.parameters = request.parameters ∧
      request'.teeAuthorization = request.teeAuthorization := by
  obtain ⟨data, hd, hid, -, hto, ha, hp, ht⟩ := fromActionRequest_ok h
  obtain ⟨data', hd', hid', -, hto', ha', hp', ht'⟩ := fromActionRequest_ok h'
  rw [hd] at hd'
  cases hd'
  exact ⟨hid'.trans hid.symm, hto'.trans hto.symm, ha'.trans ha.symm, hp'.trans hp.symm, ht'.trans ht.symm⟩

/-- In live mode with `T3_MOCK` off, a handler is invoked only behind every gate. -/
theorem handlerInvoked_gated (hm : isMock env = false) (hl : resolveRuntimeMode env = .ok .live)
    {action parameters : Json}
    (h : Effect.handlerInvoked action parameters ∈
      (processDelegationRequest p env agent caller c signed L records).effects) :
    ∃ request receipt proof key, action = request.action ∧ parameters = request.parameters ∧
      Gated p env agent caller c signed L request receipt proof key := by
  obtain ⟨request, key, ready, hr, ha, reply, L', token, hb, hal, -, rfl, rfl⟩ := handlerInvoked_iff.1 h
  obtain ⟨hrec, -, -, auth, message, hauth, hv⟩ := receive_ok.1 hr
  obtain ⟨hpol, -, args, hargs, rfl⟩ := authorize_ok.1 ha
  obtain ⟨hmode, hpk, hkid, hbc, htee⟩ := fromTrustedConfig_ok hauth
  have hlive : auth.runtimeMode = .live := Except.ok.inj (hmode.symm.trans hl)
  obtain ⟨-, request', k, rfl, hacc⟩ := validateDelegationRequest_ok.1 hv
  obtain ⟨err, hproof⟩ := hacc.proof
  obtain ⟨-, hcur, hsig⟩ := (verifyActionRequest_live hm).1 hproof
  obtain ⟨receipt, proof, htee⟩ := hacc.teeAuthorized (htee hlive)
  obtain ⟨hid, hto, hact, hpar, hrcpt⟩ := fromActionRequest_times hrec hacc.reconstructed
  obtain ⟨err', hgw⟩ := htee.proven.verified
  obtain ⟨-, hgcur, gateway, hgs⟩ := (verifyActionRequest_live hm).1 hgw
  have hx : (auth.validationContext agent.identity.agentId).expectedReceipt request' =
      caller.expectedReceipt agent request := by
    simp only [ValidationContext.expectedReceipt, CallerContext.expectedReceipt,
      WorkerAuthorizationContext.validationContext, hid, hact, hpar, hpk, hkid, hbc]
  obtain ⟨pub, hpub, hkey⟩ := hgs.publicKey
  have hsame : pub = caller.gatewayPublicKeyHex.getD [] := by
    have := htee.proven.proofKey
    rw [hpub] at this
    exact (Json.str.inj this).trans hpk
  obtain ⟨receipt', hr', hk'⟩ := replayKey_ok.1 hacc.key_eq
  exact ⟨request, receipt, proof, k, rfl, rfl, {
    reconstructed := hrec
    current := hcur
    signedBy := hsig
    target := hto ▸ hacc.target
    present := hrcpt ▸ htee.present
    authorizes := hx ▸ htee.authorizes
    gatewayKey_ne := hpk ▸ htee.gatewayPublicKeyHex
    gatewayKey := hpk ▸ htee.proven.receiptKey
    proofPresent := htee.proven.present
    gatewayCurrent := hgcur
    gatewaySigned := ⟨gateway, hsame ▸ hkey, hgs⟩
    bodyHash := htee.proven.dataHash
    allowed := hpol
    replayKey := replayKey_ok.2 ⟨receipt', hrcpt ▸ hr', by rw [hk', hid]⟩
    begun := ⟨args, reply, L', beginArgs_replayKey hargs, hal, hb⟩ }⟩

end

/-! ### A request behind every gate -/

namespace Sample

def liveEnv : Env := ⟨none, none, [], [], [], []⟩

/-- A `delegation_data` with the gateway's receipt. -/
def gatedData : Dict :=
  Dict.ofList [("delegation_id", .str "d"), ("from_agent_id", .str signer.agentId), ("to_agent_id", .str "worker"),
    ("action", .str "PING"), ("expires_at", .int 300), ("tee_authorization", .obj receipt)]

def gatedSigned : Dict := request (some (.obj gatedData)) gatedData

def gatedRequest : DelegationRequest where
  delegationId := .str "d"
  fromAgentId := .str signer.agentId
  toAgentId := .str "worker"
  action := .str "PING"
  taskDescription := .str []
  parameters := .obj []
  nonce := .str "n"
  deadline := .null
  issuedAt := .float (.finite 1)
  expiresAt := .int 300
  teeAuthorization := .obj receipt
  requiredCapabilities := .arr []

def gatedWorker : Agent where
  identity := ⟨none, "worker", [], [], none⟩
  policy := ⟨[(signer.agentId, [.str "PING"]), ("worker", [.str "PING"])], [(signer.agentId, [.str "worker"])]⟩
  handlers := ["PING"]
  integrity := ⟨none, some "key", ⟨.ok (), .ok "00"⟩⟩

/-- A caller that asks for no TEE authorization. -/
def gatedCaller : CallerContext := ⟨some gateway.publicKeyHex, some "g", some "b", some false⟩

theorem fromActionRequest_gated : DelegationRequest.fromActionRequest 1 gatedSigned = .ok gatedRequest := by
  have hn : gatedSigned.getD "nonce" (.str []) = .str "n" := by
    simp [gatedSigned, request, Dict.getD, Dict.get?_append, Signer.get?_envelope, Signer.get?_payload]
  rw [DelegationRequest.fromActionRequest, gatedSigned, delegationData_request, asDict, ← gatedSigned, hn]
  simp [gatedData, gatedRequest, Dict.get, Dict.getD, zeroTime, issuedAtOr, expiresAtOr, capabilitiesOr, isNull,
    Json.pyEq, Json.number?, Json.numberEq, bind, Except.bind, pure, Except.pure]

theorem unexpired_gated : gatedRequest.isExpired 1 = .ok false := by
  rw [DelegationRequest.isExpired, gatedRequest, isPast_int]
  norm_num

def gatedContext : ValidationContext := ⟨"worker", gateway.publicKeyHex, "g", "b", true⟩

theorem gated_valid : ∃ key, key ≠ [] ∧ validateDelegationRequest platform liveEnv clock gatedContext gatedSigned =
    .ok (true, "Delegation request is valid", some key) := by
  have hk : replayKey platform gatedSigned gatedRequest = .ok _ := replayKey_ok.2 ⟨receipt, rfl, rfl⟩
  have hne := platform.hashJson_ne (by simp [platform]) (.obj (Dict.ofList [("delegation_id", gatedRequest.delegationId),
        ("request_hash", (gatedSigned.get "data_hash").orElse (.str (platform.hashJson (delegationData gatedSigned)))),
        ("gateway_receipt_fingerprint", .str (platform.hashJson (.obj (receiptBody receipt))))]))
  refine ⟨_, hne, validateDelegationRequest_ok.2 ⟨rfl, gatedRequest, _, rfl, {
    proof := ⟨[], verifyActionRequest_envelope (fun _ => keyPair 7) expires_late one_unexpired
      (by simp [Dict.has])⟩
    dataHash := ?_
    reconstructed := fromActionRequest_gated
    unexpired := unexpired_gated
    target := rfl
    required := fun _ => rfl
    authorized := fun _ => ⟨receipt, _, {
      present := rfl
      gatewayPublicKeyHex := gateway_key_ne
      authorizes := receipt_authorizes
      proven := gatewayProven_receipt (fun _ => keyPair 9) expires_late one_unexpired }⟩
    key_eq := hk
    key_ne := hne }⟩⟩
  rw [gatedSigned, delegationData_request]
  simp [request, Dict.has, Dict.get, Dict.getD, Dict.get?_append, Signer.get?_envelope, Signer.get?_payload]

theorem mode : resolveRuntimeMode liveEnv = .ok .live := rfl

theorem gated_context : fromTrustedConfig liveEnv gatedCaller.gatewayPublicKeyHex gatedCaller.gatewayKeyId
    gatedCaller.buildConfigId gatedCaller.requireTeeAuthorization =
      .ok ⟨.live, true, gateway.publicKeyHex, "g", "b"⟩ := by
  rw [fromTrustedConfig, mode]
  rfl

theorem gated_allowed : ∃ reason, evaluateDelegationRequest platform gatedWorker.policy gatedRequest.action
    gatedRequest.fromAgentId gatedWorker.identity.agentId = .ok (true, reason) := ⟨_, rfl⟩

/-- A request that expires at 300, with a receipt that does, is kept until then. -/
theorem expires_with {request : DelegationRequest} {q : Json} (he : request.expiresAt = .int 300)
    (hr : request.teeAuthorization = .obj (receiptFor "worker" q)) :
    replayExpiresAt platform circumstances.clock.replayExpires request = .ok (.finite 300) := by
  have ht : toFloat ((Json.int 300).orElse (.float (.finite 1))) = .ok (.finite 300) := by decide +kernel
  have hx : (receiptFor "worker" q).get "authorization_expires_at" = .str lateText := by
    rw [receiptFor, Signer.get_receipt (by simp [receiptKeys])]
    simp [receiptValuesFor, Dict.get, Dict.getD]
  have hp : platform.fromisoformat lateText = some ⟨300, some 0⟩ := rfl
  have hm : pyMin (.finite 300) (.finite (DateTime.timestamp ⟨300, some 0⟩)) = .finite 300 := by
    simp [pyMin, DateTime.timestamp, time?]
  rw [replayExpiresAt, he, hr]
  refine bind_ok.2 ⟨_, ht, bind_ok.2 ⟨receiptFor "worker" q, by rw [orEmpty_obj]; rfl, ?_⟩⟩
  simp only [hx, Platform.str, hp, hm]
  rfl

theorem gated_expires : replayExpiresAt platform circumstances.clock.replayExpires gatedRequest = .ok (.finite 300) :=
  expires_with rfl rfl

def gatedArgs (key : Str) : BeginArgs where
  replayKey := key
  replayExpiresAt := .finite 300
  ownerAgentId := "worker"
  delegationId := .str "d"
  payloadFingerprint := platform.hashJson (.obj (receiptBody receipt))
  integritySecretHex := some (Hex.hexLower (platform.hmacSha256 [0]
    (Text.utf8 (Str.ofString "adn.replay-ledger.integrity." ++ Str.ofString "request"))))

theorem gated_args (key : Str) :
    Adn.beginArgs platform liveEnv gatedWorker circumstances.clock gatedRequest (some key) = .ok (gatedArgs key) := by
  rw [Adn.beginArgs, gated_expires]
  rfl

theorem gated_begin {key : Str} (hk : key ≠ []) :
    ∃ L', beginRequestExecution platform (.ok ()) 1 "a" (gatedArgs key) Ledger.empty =
      .ok (⟨true, [], some "a"⟩, L') := by
  obtain ⟨mac, hm⟩ := computeIntegrityMac_hex platform key ((gatedArgs key).first 1 "a") (platform.hmacSha256 [0]
    (Text.utf8 (Str.ofString "adn.replay-ledger.integrity." ++ Str.ofString "request")))
  have hw : encodable "worker" = true := by decide
  exact ⟨_, begin_first hk rfl (writeRecord_eq hm rfl (bindText_str hw) rfl
    (bindText_str (encodable_ascii (Hex.plain_hexLower _).ascii)) rfl)⟩

/-- A request that passes every gate, though the caller asks for no TEE authorization. -/
theorem gated_invoked : Effect.handlerInvoked (.str "PING") (.obj []) ∈
    (processDelegationRequest platform liveEnv gatedWorker gatedCaller circumstances gatedSigned Ledger.empty
      ⟨[], [], []⟩).effects := by
  obtain ⟨key, hne, hv⟩ := gated_valid
  obtain ⟨L', hb⟩ := gated_begin hne
  refine handlerInvoked_iff.2 ⟨gatedRequest, some key, ⟨gatedRequest, gatedArgs key⟩, ?_, ?_, _, L', _, hb, rfl, rfl,
    rfl, rfl⟩
  · exact receive_ok.2 ⟨fromActionRequest_gated, unexpired_gated, rfl, _, _, gated_context, hv⟩
  · exact authorize_ok.2 ⟨gated_allowed, rfl, _, gated_args key, rfl⟩

/-- The gates that request has passed. -/
theorem gated_passed : ∃ request receipt proof key, request.action = .str "PING" ∧
    Gated platform liveEnv gatedWorker gatedCaller circumstances gatedSigned Ledger.empty request receipt proof key := by
  obtain ⟨request, receipt, proof, key, ha, -, hg⟩ := handlerInvoked_gated rfl mode gated_invoked
  exact ⟨request, receipt, proof, key, ha.symm, hg⟩

/-! ### Tasks around one receipt -/

/-- Live mode, with any setting of `T3_MOCK`. -/
def taskEnv (mock : Option Str) : Env := { liveEnv with t3Mock := mock }

/-- A `delegation_data` with any description and parameters. -/
def taskData (description : Str) (parameters : Json) (receipt : Dict) : Dict :=
  Dict.ofList [("delegation_id", .str "d"), ("from_agent_id", .str signer.agentId), ("to_agent_id", .str "worker"),
    ("action", .str "PING"), ("task_description", .str description), ("parameters", parameters),
    ("expires_at", .int 300), ("tee_authorization", .obj receipt)]

/-- An envelope around it that `s` makes. -/
def task (s : Signer) (data : Dict) : Dict :=
  s.envelope platform 0 (.str delegateTask) (.str "n") (some (.obj data)) ++
    Dict.ofList [("delegation_data", .obj data)]

def taskRequest (description : Str) (parameters : Json) (receipt : Dict) : DelegationRequest where
  delegationId := .str "d"
  fromAgentId := .str signer.agentId
  toAgentId := .str "worker"
  action := .str "PING"
  taskDescription := .str description
  parameters
  nonce := .str "n"
  deadline := .null
  issuedAt := .float (.finite 1)
  expiresAt := .int 300
  teeAuthorization := .obj receipt
  requiredCapabilities := .arr []

section
variable {s : Signer} {description : Str} {parameters q : Json} {receipt : Dict}

theorem delegationData_task (data : Dict) : delegationData (task s data) = .obj data := by
  simp [delegationData, task, Dict.getD, Dict.get?_append, Signer.get?_envelope, Signer.get?_payload]

theorem fromActionRequest_task : DelegationRequest.fromActionRequest 1 (task s (taskData description parameters receipt)) =
    .ok (taskRequest description parameters receipt) := by
  have hn : (task s (taskData description parameters receipt)).getD "nonce" (.str []) = .str "n" := by
    simp [task, Dict.getD, Dict.get?_append, Signer.get?_envelope, Signer.get?_payload]
  rw [DelegationRequest.fromActionRequest, delegationData_task, asDict, hn]
  simp [taskData, taskRequest, Dict.get, Dict.getD, zeroTime, issuedAtOr, expiresAtOr, capabilitiesOr, isNull,
    Json.pyEq, Json.number?, Json.numberEq, bind, Except.bind, pure, Except.pure]

theorem unexpired_task : (taskRequest description parameters receipt).isExpired 1 = .ok false := by
  rw [DelegationRequest.isExpired, taskRequest, isPast_int]
  norm_num

/-- The worker accepts it with a receipt for `q`, if it asks for the same or for nothing. -/
theorem task_valid (description : Str) {env : Env} (hs : isMock env = false → KeyPair platform s) (hq : parameters ≠ .null →
      teeAuthorizationRequestHash platform (.str "worker") (.str "PING") parameters =
        teeAuthorizationRequestHash platform (.str "worker") (.str "PING") q) :
    requestKey platform (task s (taskData description parameters (receiptFor "worker" q))) ≠ [] ∧
      validateDelegationRequest platform env clock gatedContext
          (task s (taskData description parameters (receiptFor "worker" q))) =
        .ok (true, "Delegation request is valid",
          some (requestKey platform (task s (taskData description parameters (receiptFor "worker" q))))) := by
  have hk : replayKey platform (task s (taskData description parameters (receiptFor "worker" q)))
      (taskRequest description parameters (receiptFor "worker" q)) = .ok _ :=
    replayKey_ok.2 ⟨receiptFor "worker" q, orEmpty_obj _, rfl⟩
  have hne := platform.hashJson_ne (by simp [platform])
  have hacc : Accepted platform env clock gatedContext
      (task s (taskData description parameters (receiptFor "worker" q))) _ _ := {
    proof := ⟨[], verifyActionRequest_envelope hs expires_late one_unexpired (by simp [Dict.has])⟩
    dataHash := by
      rw [delegationData_task]
      simp [task, Dict.has, Dict.get, Dict.getD, Dict.get?_append, Signer.get?_envelope, Signer.get?_payload]
    reconstructed := fromActionRequest_task
    unexpired := unexpired_task
    target := rfl
    required := fun _ => rfl
    authorized := fun _ => ⟨receiptFor "worker" q, _, {
      present := rfl
      gatewayPublicKeyHex := gateway_key_ne
      authorizes := receiptFor_authorizes hq
      proven := gatewayProven_receipt (fun _ => keyPair 9) expires_late one_unexpired }⟩
    key_eq := hk
    key_ne := hne _ }
  rw [← hacc.requestKey]
  exact ⟨hne _, validateDelegationRequest_ok.2 ⟨rfl, _, _, rfl, hacc⟩⟩

/-- The arguments its `begin` gets. -/
def taskArgs (key : Str) (q : Json) : BeginArgs :=
  { gatedArgs key with payloadFingerprint := platform.hashJson (.obj (receiptBody (receiptFor "worker" q))) }

theorem task_expires : replayExpiresAt platform circumstances.clock.replayExpires
    (taskRequest description parameters (receiptFor "worker" q)) = .ok (.finite 300) :=
  expires_with rfl rfl

theorem task_prepared (description : Str) (mock : Option Str) (hs : isMock (taskEnv mock) = false → KeyPair platform s)
    (hq : parameters ≠ .null → teeAuthorizationRequestHash platform (.str "worker") (.str "PING") parameters =
      teeAuthorizationRequestHash platform (.str "worker") (.str "PING") q) :
    prepare platform (taskEnv mock) gatedWorker gatedCaller circumstances.clock
        (task s (taskData description parameters (receiptFor "worker" q))) =
      ([.policyEvaluated (.str signer.agentId) "worker" (.str "PING")],
        .ok ⟨taskRequest description parameters (receiptFor "worker" q),
          taskArgs (requestKey platform (task s (taskData description parameters (receiptFor "worker" q)))) q⟩) := by
  obtain ⟨-, hv⟩ := task_valid description hs hq
  have hr : receive platform (taskEnv mock) gatedWorker gatedCaller circumstances.clock
      (task s (taskData description parameters (receiptFor "worker" q))) =
        .ok (taskRequest description parameters (receiptFor "worker" q), some _) :=
    receive_ok.2 ⟨fromActionRequest_task, unexpired_task, rfl, _, _, gated_context, hv⟩
  have ha : Adn.beginArgs platform (taskEnv mock) gatedWorker circumstances.clock
      (taskRequest description parameters (receiptFor "worker" q))
      (some (requestKey platform (task s (taskData description parameters (receiptFor "worker" q))))) =
        .ok (taskArgs (requestKey platform (task s (taskData description parameters (receiptFor "worker" q)))) q) := by
    rw [Adn.beginArgs, task_expires]
    simp only [taskRequest, orEmpty_obj]
    rfl
  rw [prepare, hr]
  exact Prod.ext rfl (authorize_ok.2 ⟨⟨_, rfl⟩, rfl, _, ha, rfl⟩)

/-- Its `begin` is allowed where the ledger has no row for it. -/
theorem task_begun {key : Str} (hk : key ≠ []) {L : Ledger} (hL : L.purge 1 key = none) :
    ∃ L', beginRequestExecution platform (.ok ()) 1 "a" (taskArgs key q) L = .ok (⟨true, [], some "a"⟩, L') := by
  obtain ⟨mac, hm⟩ := computeIntegrityMac_hex platform key ((taskArgs key q).first 1 "a") (platform.hmacSha256 [0]
    (Text.utf8 (Str.ofString "adn.replay-ledger.integrity." ++ Str.ofString "request")))
  have hw : encodable "worker" = true := by decide
  exact ⟨_, begin_first hk hL (writeRecord_eq hm rfl (bindText_str hw) rfl
    (bindText_str (encodable_ascii (Hex.plain_hexLower _).ascii)) rfl)⟩

/-- The worker runs the handler for it, with its parameters. -/
theorem task_invoked (mock : Option Str) (hs : isMock (taskEnv mock) = false → KeyPair platform s)
    (hq : parameters ≠ .null → teeAuthorizationRequestHash platform (.str "worker") (.str "PING") parameters =
      teeAuthorizationRequestHash platform (.str "worker") (.str "PING") q) :
    Effect.handlerInvoked (.str "PING") parameters ∈
      (processDelegationRequest platform (taskEnv mock) gatedWorker gatedCaller circumstances
        (task s (taskData description parameters (receiptFor "worker" q))) Ledger.empty ⟨[], [], []⟩).effects := by
  obtain ⟨hk, -⟩ := task_valid description hs hq
  obtain ⟨L', hb⟩ := task_begun (q := q) hk (L := Ledger.empty) rfl
  have hp := task_prepared description mock hs hq
  rw [processDelegationRequest, hp]
  exact List.mem_cons_of_mem _ (handlerInvoked_execute.2 ⟨_, L', _, hb, rfl, rfl, rfl, rfl⟩)

end

end Sample

end Adn
