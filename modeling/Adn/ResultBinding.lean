import Adn.ResultVerifier
import Adn.ExecutionGate
/-!
# What an accepted result is bound to

Two signatures stand behind a result that `verify_worker_result` returns: the
worker's over exactly this result, and the gateway's over exactly the receipt in
it, which binds the worker, the action and its parameters (`result_two_hops`).
-/

open Lib

namespace Adn

section
variable {p : Platform} {env : Env} {cfg : IntegrityConfig} {db : Except PyErr Unit} {clock : ResultClock}
  {proof rd receipt expected gatewayProof : Dict} {x : ExpectedResult} {s s' : VerifierState}

/-- The hash names `v` and no other document. -/
def HashOf (p : Platform) (hash v : Json) : Prop :=
  hash = .str (p.hashJson v) ∧ ∀ w, hash = .str (p.hashJson w) → Json.Same w v

theorem hashOf (hc : Function.Injective p.sha256) {hash v : Json} (h : hash = .str (p.hashJson v)) : HashOf p hash v :=
  ⟨h, fun _ hw => p.hashJson_inj hc (Json.str.inj (hw.symm.trans h))⟩

/-- The key that is written as `publicKeyHex` signed the envelope, for this action. -/
structure SignedFor (p : Platform) (envelope : Dict) (action publicKeyHex : Str) : Prop where
  action : envelope.get "action" = .str action
  signature : ∃ key, Hex.fromHex publicKeyHex = some key ∧ SignedBy p envelope key

theorem signedFor (hm : isMock env = false) {now : ℚ} {envelope : Dict} {action publicKeyHex err : Str}
    (h : verifyActionRequest p env now envelope action = .ok (true, err))
    (hk : envelope.get "public_key_hex" = .str publicKeyHex) : SignedFor p envelope action publicKeyHex := by
  obtain ⟨-, hcur, key, hs⟩ := (verifyActionRequest_live hm).1 h
  obtain ⟨pub, hpub, hkey⟩ := hs.publicKey
  obtain rfl := Json.str.inj (hpub.symm.trans hk)
  exact ⟨hcur.action, key, hkey, hs⟩

/-- Both hops of a result, each down to its signature. -/
structure TwoHops (p : Platform) (clock : ResultClock) (proof : Dict) (x : ExpectedResult)
    (rd receipt expected gatewayProof : Dict) : Prop where
  -- the worker's hop
  worker : SignedFor p proof taskResult x.workerPubkeyHex
  result : HashOf p (proof.get "data_hash") (.obj rd)
  sender : rd.get "from_agent_id" = .str x.workerId
  audience : rd.get "to_agent_id" = .str x.coordinatorId
  delegationId : (rd.get "delegation_id").pyEq x.delegationId = true
  status : rd.get "status" = .str "COMPLETED"
  -- the gateway's hop
  embedded : rd.get "tee_authorization" = .obj receipt
  proofPresent : receipt.get "gateway_proof" = .obj gatewayProof
  gateway : SignedFor p gatewayProof receiptAction (x.gatewayPublicKeyHex.getD [])
  body : HashOf p (gatewayProof.get "data_hash") (.obj (receiptBody receipt))
  expectedPresent : x.teeAuthorization = .obj expected
  sameBody : Json.Same (.obj (receiptBody receipt)) (.obj (receiptBody expected))
  -- what the receipt binds
  target : receipt.get "to_agent_id" = .str x.workerId
  action : (receipt.get "action").pyEq x.action = true
  request : HashOf p (receipt.get "request_hash") (.obj (Dict.ofList
    [("to_agent_id", .str x.workerId), ("action", x.action), ("parameters", orEmpty x.parameters)]))
  receiptDelegationId : (receipt.get "delegation_id").pyEq x.delegationId = true
  teeDelegationId : (receipt.get "tee_delegation_id").pyEq x.delegationId = true
  buildConfigId : receipt.get "build_config_id" = .str (x.buildConfigId.getD [])
  credentialEnforced : receipt.get "credential_enforced" = .bool true
  unexpired : Unexpired p clock.authorization (receipt.get "authorization_expires_at")

/-- With `T3_MOCK` off and a hash without collisions, every result that is
returned is bound by both hops. -/
theorem result_two_hops (hm : isMock env = false) (hc : Function.Injective p.sha256)
    (h : verifyWorkerResult p env cfg db clock proof x s = (.ok rd, s')) :
    ∃ receipt expected gatewayProof, TwoHops p clock proof x rd receipt expected gatewayProof := by
  obtain ⟨_, -, hcheck, -⟩ := verifyWorkerResult_ok.1 h
  obtain ⟨receipt, expected, gatewayProof, rfl, -, hb⟩ := checkWorkerResult_ok.1 hcheck
  obtain ⟨err, hv⟩ := hb.verified
  obtain ⟨err', hg⟩ := hb.proven.verified
  have ha := hb.authorizes
  exact ⟨receipt, expected, gatewayProof, {
    worker := signedFor hm hv hb.workerKey
    result := hashOf hc hb.dataHash
    sender := hb.sender
    audience := hb.audience
    delegationId := hb.delegationId
    status := hb.status
    embedded := hb.present
    proofPresent := hb.proven.present
    gateway := signedFor hm hg hb.proven.proofKey
    body := hashOf hc hb.proven.dataHash
    expectedPresent := hb.expectedPresent
    sameBody := p.hashJson_inj hc hb.fingerprint
    target := Json.pyEq_str.1 ha.target
    action := ha.action
    request := hashOf hc (ha.requestHash hb.parameters)
    receiptDelegationId := ha.delegationId
    teeDelegationId := ha.teeDelegationId
    buildConfigId := ha.buildConfigId
    credentialEnforced := ha.credentialEnforced
    unexpired := ha.unexpired }⟩

end

/-! ### The result of a ping -/

namespace Sample

/-- The worker that answers, and the receipt it answers with. -/
def answerer : Signer := signerOf 5

def answerReceipt : Dict := receiptFor answerer.agentId (.obj [])

/-- The result of a `PING` for the coordinator `"c"`. -/
def resultData : Dict :=
  Dict.ofList [("delegation_id", .str "d"), ("from_agent_id", .str answerer.agentId), ("to_agent_id", .str "c"),
    ("status", .str "COMPLETED"), ("result", .str "pong"), ("nonce", .str "n"), ("tee_authorization", .obj answerReceipt)]

def result : Dict :=
  answerer.envelope platform 0 (.str taskResult) (.str "n") (some (.obj resultData)) ++
    Dict.ofList [("result_data", .obj resultData)]

def expectedResult : ExpectedResult where
  workerId := answerer.agentId
  workerPubkeyHex := answerer.publicKeyHex
  delegationId := .str "d"
  coordinatorId := "c"
  teeAuthorization := .obj answerReceipt
  gatewayPublicKeyHex := some gateway.publicKeyHex
  gatewayKeyId := some "g"
  action := .str "PING"
  parameters := .obj []
  buildConfigId := some "b"

/-- Every clock reading is 1. -/
def resultClock : ResultClock := ⟨1, 1, 1, 1, 1⟩

/-! Any worker answers the same way. -/

/-- The receipt a worker answers with. -/
def answerReceiptOf (worker : Signer) : Dict := receiptFor worker.agentId (.obj [])

/-- What it signs to answer a `PING` of the coordinator `"c"`. -/
def resultDataOf (worker : Signer) : Dict :=
  Dict.ofList [("delegation_id", .str "d"), ("from_agent_id", .str worker.agentId), ("to_agent_id", .str "c"),
    ("status", .str "COMPLETED"), ("result", .str "pong"), ("nonce", .str "n"),
    ("tee_authorization", .obj (answerReceiptOf worker))]

def resultOf (worker : Signer) : Dict :=
  worker.envelope platform 0 (.str taskResult) (.str "n") (some (.obj (resultDataOf worker))) ++
    Dict.ofList [("result_data", .obj (resultDataOf worker))]

def expectedResultOf (worker : Signer) : ExpectedResult where
  workerId := worker.agentId
  workerPubkeyHex := worker.publicKeyHex
  delegationId := .str "d"
  coordinatorId := "c"
  teeAuthorization := .obj (answerReceiptOf worker)
  gatewayPublicKeyHex := some gateway.publicKeyHex
  gatewayKeyId := some "g"
  action := .str "PING"
  parameters := .obj []
  buildConfigId := some "b"

section
variable {worker : Signer}

theorem get_resultOf (k : String) : (resultOf worker).get k =
    ((Dict.get? (worker.envelope platform 0 (.str taskResult) (.str "n") (some (.obj (resultDataOf worker)))) k).or
      (if "result_data" = k then some (.obj (resultDataOf worker)) else none)).getD .null := by
  rw [resultOf, Dict.get, Dict.getD, Dict.get?_append, Dict.get?_ofList_cons, Dict.get?_ofList_nil]

theorem resultOf_checked (hk : KeyPair platform worker) :
    checkWorkerResult platform liveEnv resultClock (resultOf worker) (expectedResultOf worker) =
      .ok (resultDataOf worker, .obj (answerReceiptOf worker)) := by
  refine checkWorkerResult_ok.2 ⟨answerReceiptOf worker, answerReceiptOf worker, _, rfl, ?_, {
    verified := ⟨[], verifyActionRequest_envelope (fun _ => hk) expires_late one_unexpired
      (by simp [Dict.has])⟩
    workerKey := by simp [get_resultOf, Signer.get?_envelope, Signer.get?_payload, expectedResultOf]
    workerId := by simp [get_resultOf, Signer.get?_envelope, Signer.get?_payload, expectedResultOf]
    resultData := by
      have h : (resultOf worker).get "result_data" = .obj (resultDataOf worker) := by
        simp [get_resultOf, Signer.get?_envelope, Signer.get?_payload]
      rw [h, orEmpty_obj]
    dataHash := by simp [get_resultOf, Signer.get?_envelope, Signer.get?_payload]
    nonce := by
      rw [get_resultOf]
      simp [Signer.get?_envelope, Signer.get?_payload, resultDataOf, Dict.get, Dict.getD, Json.pyEq_str]
    sender := by simp [resultDataOf, Dict.get, Dict.getD, expectedResultOf]
    audience := by simp [resultDataOf, Dict.get, Dict.getD, expectedResultOf]
    delegationId := by simp [resultDataOf, Dict.get, Dict.getD, expectedResultOf, Json.pyEq_str]
    status := by simp [resultDataOf, Dict.get, Dict.getD]
    present := by simp [resultDataOf, Dict.get, Dict.getD]
    expectedPresent := rfl
    fingerprint := rfl
    parameters := by simp [expectedResultOf]
    authorizes := receiptFor_authorizes fun _ => rfl
    proven := gatewayProven_receipt (fun _ => keyPair 9) expires_late one_unexpired
    gatewayKey_ne := gateway_key_ne
    action := rfl }⟩
  simp [answerReceiptOf, receiptFor, Signer.receipt, Dict.ofList]

end

theorem get_result (k : String) : result.get k = ((Dict.get? (answerer.envelope platform 0 (.str taskResult) (.str "n")
    (some (.obj resultData))) k).or (if "result_data" = k then some (.obj resultData) else none)).getD .null := by
  rw [result, Dict.get, Dict.getD, Dict.get?_append, Dict.get?_ofList_cons, Dict.get?_ofList_nil]

theorem result_checked : checkWorkerResult platform liveEnv resultClock result expectedResult =
    .ok (resultData, .obj answerReceipt) :=
  resultOf_checked (keyPair 5)

/-- An integrity key, in a file that is there. -/
def resultKey : IntegrityConfig := ⟨none, some "key", ⟨.ok (), .ok "00"⟩⟩

/-- The secret its rows are sealed with. -/
def resultSecret : List UInt8 :=
  platform.hmacSha256 [0] (Text.utf8 (Str.ofString "adn.replay-ledger.integrity." ++ Str.ofString "result"))

theorem result_key : configuredIntegrityKey platform liveEnv resultKey "result" = .ok (some (Hex.hexLower resultSecret)) :=
  rfl

def resultArgs : ConsumeArgs where
  replayKey := resultReplayKey platform resultData (platform.hashJson (.obj (receiptBody answerReceipt))) expectedResult
  ownerAgentId := "c"
  delegationId := .str "d"
  payloadFingerprint := .str (platform.hashJson (.obj resultData))
  expiresAt := none
  integritySecretHex := some (Hex.hexLower resultSecret)

theorem result_args : consumeArgs platform liveEnv resultKey result resultData (.obj answerReceipt) expectedResult =
    .ok resultArgs := by
  have hd : (resultData.get "delegation_id").orElse (.str []) = .str "d" := by
    simp [resultData, Dict.get, Dict.getD, Json.orElse, Json.truthy]
  have hh : (result.get "data_hash").orElse (.str []) = .str (platform.hashJson (.obj resultData)) := by
    have h : result.get "data_hash" = .str (platform.hashJson (.obj resultData)) := by
      simp [get_result, Signer.get?_envelope, Signer.get?_payload]
    rw [h, Json.orElse, if_pos (truthy_str.2 (platform.hashJson_ne (by simp [platform]) _))]
  rw [consumeArgs, result_key, hd, hh]
  rfl

theorem hashJson_encodable (v : Json) : encodable (platform.hashJson v) = true :=
  encodable_ascii (Hex.plain_hexLower _).ascii

theorem result_consumed : ∃ L', consumeReplay platform liveEnv resultKey (.ok ()) 1 result resultData
    (.obj answerReceipt) expectedResult Ledger.empty = (.ok (), L') := by
  have hk : resultArgs.replayKey ≠ [] := platform.hashJson_ne (by simp [platform]) _
  have hs : isSet resultArgs.integritySecretHex = true := rfl
  obtain ⟨mac, hm⟩ := computeIntegrityMac_hex platform resultArgs.replayKey (resultArgs.record 1) resultSecret
  have hn : Ledger.empty.purge 1 resultArgs.replayKey = none := rfl
  have hc := consume_first hk hs hn (writeRecord_eq hm rfl
    (bindText_str (by decide : encodable "c" = true)) (bindText_str (by decide : encodable "d" = true))
    (bindText_str (hashJson_encodable _)) rfl)
  exact ⟨_, consumeReplay_ok.2 ⟨_, _, result_args, hc⟩⟩

def freshVerifier : VerifierState := ⟨NonceCache.empty, Ledger.empty⟩

/-- The nonce of that result is new to a fresh process. -/
theorem nonce_consumed : ∃ cache, NonceCache.empty.consume 1 (resultData.get "nonce") = (.ok (), cache) := by
  simp [NonceCache.consume, NonceCache.prune, NonceCache.pruneOld, NonceCache.pruneExcess, NonceCache.empty,
    NonceCache.contains, Json.truthy, hashable, resultData, Dict.get, Dict.getD]

theorem result_returned : ∃ s', verifyWorkerResult platform liveEnv resultKey (.ok ()) resultClock result expectedResult
    freshVerifier = (.ok resultData, s') := by
  obtain ⟨cache, hc⟩ := nonce_consumed
  obtain ⟨ledger, hl⟩ := result_consumed
  exact ⟨_, verifyWorkerResult_ok.2 ⟨_, cache, result_checked, hc, ledger, hl, rfl⟩⟩

/-- A result of an honest run, with its two hops. -/
theorem result_bound : ∃ s' receipt expected gatewayProof,
    verifyWorkerResult platform liveEnv resultKey (.ok ()) resultClock result expectedResult freshVerifier =
      (.ok resultData, s') ∧
    TwoHops platform resultClock result expectedResult resultData receipt expected gatewayProof := by
  obtain ⟨s', h⟩ := result_returned
  obtain ⟨receipt, expected, gatewayProof, ht⟩ := result_two_hops rfl sha256_injective h
  exact ⟨s', receipt, expected, gatewayProof, h, ht⟩

end Sample

end Adn
