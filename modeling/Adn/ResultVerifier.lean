import Adn.Network
/-!
# Verifying a worker's result

`verify_worker_result`: the coordinator checks the worker's envelope, the result
in it and the gateway receipt in the result, then consumes the result's nonce in
memory and the result itself in the ledger. A call that fails keeps what it has
consumed so far.

`checkWorkerResult_ok` says which results pass the checks.
-/

open Lib

namespace Adn

/-! ## The nonce cache -/

def maxSeenNonces : ℕ := 4096
def seenNonceTtlSeconds : ℚ := 15 * 60

/-- `v is w or v == w`, which is how a `set` compares. A document's `NaN`s are one object. -/
def isOrEq (v w : Json) : Bool :=
  v.pyEq w || match v, w with
    | .float .nan, .float .nan => true
    | _, _ => false

/-- `_seen` and `_seen_order`, oldest first. -/
structure NonceCache where
  seen : List Json
  order : List (Json × ℚ)

namespace NonceCache

def empty : NonceCache := ⟨[], []⟩

/-- `nonce in _seen` -/
def contains (c : NonceCache) (nonce : Json) : Bool := c.seen.any fun v => isOrEq v nonce

/-- `_seen.discard(nonce)` -/
def discard (seen : List Json) (nonce : Json) : List Json := seen.filter fun v => !isOrEq v nonce

/-- The first loop of `_prune_seen_nonces_locked`. -/
def pruneOld (cutoff : ℚ) : List (Json × ℚ) → List Json → NonceCache
  | [], seen => ⟨seen, []⟩
  | (nonce, createdAt) :: order, seen =>
    if createdAt ≤ cutoff then pruneOld cutoff order (discard seen nonce) else ⟨seen, (nonce, createdAt) :: order⟩

/-- The second loop. -/
def pruneExcess : List (Json × ℚ) → List Json → NonceCache
  | [], seen => ⟨seen, []⟩
  | (nonce, createdAt) :: order, seen =>
    if maxSeenNonces < order.length + 1 then pruneExcess order (discard seen nonce)
    else ⟨seen, (nonce, createdAt) :: order⟩

/-- `_prune_seen_nonces_locked` -/
def prune (now : ℚ) (c : NonceCache) : NonceCache :=
  let c := pruneOld (now - seenNonceTtlSeconds) c.order c.seen
  pruneExcess c.order c.seen

/-- `_consume_result_nonce`; `now` is `time.monotonic()`. -/
def consume (now : ℚ) (nonce : Json) (c : NonceCache) : Except PyErr Unit × NonceCache :=
  let c := c.prune now
  if !nonce.truthy then (.error (.runtimeError "result nonce missing or already consumed"), c)
  else if !hashable nonce then (.error .typeError, c)
  else if c.contains nonce then (.error (.runtimeError "result nonce missing or already consumed"), c)
  else (.ok (), prune now ⟨nonce :: c.seen, c.order ++ [(nonce, now)]⟩)

end NonceCache

/-! ## The checks -/

/-- What the coordinator expects; `null` stands for `None`. -/
structure ExpectedResult where
  workerId : Str
  workerPubkeyHex : Str
  delegationId : Json
  coordinatorId : Str
  teeAuthorization : Json
  gatewayPublicKeyHex : Option Str
  gatewayKeyId : Option Str
  action : Json
  parameters : Json
  buildConfigId : Option Str

/-- What the receipt in a result is checked against. -/
def ExpectedResult.expectedReceipt (x : ExpectedResult) : ExpectedReceipt where
  gatewayPubkeyHex := x.gatewayPublicKeyHex.getD []
  gatewayKeyId := x.gatewayKeyId.getD []
  delegationId := x.delegationId
  toAgentId := .str x.workerId
  action := x.action
  parameters := x.parameters
  buildConfigId := x.buildConfigId.getD []

/-- The clock readings of one call, in the order they are made. -/
structure ResultClock where
  proof : ℚ
  authorization : ℚ
  gatewayProof : ℚ
  monotonic : ℚ
  ledger : ℚ

/-- The checks of `verify_worker_result`: the result and its receipt. -/
def checkWorkerResult (p : Platform) (env : Env) (clock : ResultClock) (proof : Dict) (x : ExpectedResult) :
    Except PyErr (Dict × Json) := do
  require (!isNull x.teeAuthorization) "expected TEE authorization is required"
  require (isSet x.gatewayPublicKeyHex) "expected gateway public key is required"
  require (isSet x.gatewayKeyId) "expected gateway key id is required"
  require (isSet x.buildConfigId) "expected build_config_id is required"
  require x.action.truthy "expected action is required"
  require (!isNull x.parameters) "expected parameters are required"
  let (ok, err) ← verifyActionRequest p env clock.proof proof taskResult
  require ok (Str.ofString "worker result signature invalid: " ++ err)
  require ((proof.get "public_key_hex").pyEq (.str x.workerPubkeyHex)) "worker key does not match expected worker"
  require ((proof.get "agent_id").pyEq (.str x.workerId)) "worker result signer is not the expected worker"
  let result := orEmpty (proof.get "result_data")
  require ((proof.get "data_hash").pyEq (.str (p.hashJson result))) "worker result_data does not match signed data_hash"
  let rd ← asDict result
  require ((proof.get "nonce").pyEq (rd.get "nonce")) "result nonce inconsistent with signed envelope"
  require ((rd.get "from_agent_id").pyEq (.str x.workerId)) "result from_agent_id mismatch"
  require ((rd.get "to_agent_id").pyEq (.str x.coordinatorId)) "result audience is not the coordinator"
  require ((rd.get "delegation_id").pyEq x.delegationId) "result delegation_id mismatch"
  require ((rd.get "status").pyEq (.str "COMPLETED")) "result status not COMPLETED"
  let receipt := rd.get "tee_authorization"
  require receipt.truthy "result missing TEE authorization receipt"
  let fingerprint ← receiptFingerprint p receipt
  let expected ← receiptFingerprint p x.teeAuthorization
  require (fingerprint = expected) "result TEE authorization receipt mismatch"
  let _ ← verifyTeeAuthorizationReceipt p env clock.authorization clock.gatewayProof receipt x.expectedReceipt
  return (rd, receipt)

/-! ## Consuming a result -/

/-- What a verifier process uses: its nonce cache and the shared ledger. -/
structure VerifierState where
  cache : NonceCache
  ledger : Ledger

/-- The key a result is consumed under. -/
def resultReplayKey (p : Platform) (rd : Dict) (fingerprint : Str) (x : ExpectedResult) : Str :=
  p.hashJson (.obj (Dict.ofList [("worker_public_key_hex", .str x.workerPubkeyHex),
    ("coordinator_id", .str x.coordinatorId), ("delegation_id", rd.get "delegation_id"),
    ("result_nonce", rd.get "nonce"), ("receipt_fingerprint", .str fingerprint)]))

/-- The arguments of `consume_result_replay`. -/
def consumeArgs (p : Platform) (env : Env) (cfg : IntegrityConfig) (proof rd : Dict) (receipt : Json)
    (x : ExpectedResult) : Except PyErr ConsumeArgs := do
  let fingerprint ← receiptFingerprint p receipt
  let integritySecretHex ← configuredIntegrityKey p env cfg "result"
  return {
    replayKey := resultReplayKey p rd fingerprint x
    ownerAgentId := x.coordinatorId
    delegationId := (rd.get "delegation_id").orElse (.str [])
    payloadFingerprint := (proof.get "data_hash").orElse (.str [])
    expiresAt := none
    integritySecretHex }

/-- `_consume_result_replay` -/
def consumeReplay (p : Platform) (env : Env) (cfg : IntegrityConfig) (db : Except PyErr Unit) (now : ℚ)
    (proof rd : Dict) (receipt : Json) (x : ExpectedResult) (L : Ledger) : Except PyErr Unit × Ledger :=
  match consumeArgs p env cfg proof rd receipt x with
  | .error e => (.error e, L)
  | .ok args =>
    match consumeResultReplay p db now args L with
    | .error e => (.error e, L)
    | .ok ((true, _), L') => (.ok (), L')
    | .ok ((false, reason), L') => (.error (.runtimeError reason), L')

/-- `verify_worker_result` -/
def verifyWorkerResult (p : Platform) (env : Env) (cfg : IntegrityConfig) (db : Except PyErr Unit)
    (clock : ResultClock) (proof : Dict) (x : ExpectedResult) (s : VerifierState) : Except PyErr Dict × VerifierState :=
  match checkWorkerResult p env clock proof x with
  | .error e => (.error e, s)
  | .ok (rd, receipt) =>
    match s.cache.consume clock.monotonic (rd.get "nonce") with
    | (.error e, cache) => (.error e, { s with cache })
    | (.ok (), cache) =>
      match consumeReplay p env cfg db clock.ledger proof rd receipt x s.ledger with
      | (.error e, ledger) => (.error e, ⟨cache, ledger⟩)
      | (.ok (), ledger) => (.ok rd, ⟨cache, ledger⟩)

/-! ## What passes -/

/-- A result that passes the checks: `rd` in an envelope of the worker, with a
receipt that authorizes this worker's task. -/
structure ResultBound (p : Platform) (env : Env) (clock : ResultClock) (proof : Dict) (x : ExpectedResult) (rd : Dict)
    (receipt expected gatewayProof : Dict) : Prop where
  verified : ∃ err, verifyActionRequest p env clock.proof proof taskResult = .ok (true, err)
  workerKey : proof.get "public_key_hex" = .str x.workerPubkeyHex
  workerId : proof.get "agent_id" = .str x.workerId
  resultData : orEmpty (proof.get "result_data") = .obj rd
  dataHash : proof.get "data_hash" = .str (p.hashJson (.obj rd))
  nonce : (proof.get "nonce").pyEq (rd.get "nonce") = true
  sender : rd.get "from_agent_id" = .str x.workerId
  audience : rd.get "to_agent_id" = .str x.coordinatorId
  delegationId : (rd.get "delegation_id").pyEq x.delegationId = true
  status : rd.get "status" = .str "COMPLETED"
  present : rd.get "tee_authorization" = .obj receipt
  expectedPresent : x.teeAuthorization = .obj expected
  fingerprint : p.hashJson (.obj (receiptBody receipt)) = p.hashJson (.obj (receiptBody expected))
  parameters : x.parameters ≠ .null
  authorizes : Authorizes p clock.authorization receipt x.expectedReceipt
  proven : GatewayProven p env clock.gatewayProof receipt gatewayProof x.expectedReceipt.gatewayPubkeyHex
  gatewayKey_ne : x.expectedReceipt.gatewayPubkeyHex ≠ []
  action : x.action.truthy = true

section
variable {p : Platform} {env : Env} {clock : ResultClock} {proof rd : Dict} {receipt : Json} {x : ExpectedResult}

theorem isSet_iff {s : Option Str} : isSet s = true ↔ s.getD [] ≠ [] := by
  cases s <;> simp [isSet]

theorem receiptFingerprint_ok {v : Json} {fingerprint : Str} : receiptFingerprint p v = .ok fingerprint ↔
    ∃ fs, v = .obj fs ∧ fingerprint = p.hashJson (.obj (receiptBody fs)) := by
  simp only [receiptFingerprint, bind_ok, asDict_ok, pure_ok]
  exact exists_congr fun fs => and_congr_right fun _ => eq_comm

theorem checkWorkerResult_ok : checkWorkerResult p env clock proof x = .ok (rd, receipt) ↔
    ∃ r expected gatewayProof, receipt = .obj r ∧ r ≠ [] ∧ ResultBound p env clock proof x rd r expected gatewayProof := by
  unfold checkWorkerResult
  simp only [bind_ok, require_ok, exists_const, Prod.exists, pure_ok, asDict_ok, receiptFingerprint_ok, Json.pyEq_str,
    isSet_iff, verifyTeeAuthorizationReceipt_ok, Prod.mk.injEq, decide_eq_true_eq, Bool.not_eq_true']
  constructor
  · rintro ⟨ht, hg, hk, hb, ha, hp, ok, err, hv, rfl, hpk, hid, hd, rd', hr, hn, hs, hto, hdel, hst, htr, fp, ⟨r, hrec, rfl⟩,
      fp', ⟨e, he, rfl⟩, hfp, r', ⟨-, fs, hfs, hauth, gp, hgp⟩, rfl, rfl⟩
    obtain rfl : fs = r := Json.obj.inj (hfs.symm.trans hrec)
    refine ⟨fs, e, gp, hrec, ?_, ⟨err, hv⟩, hpk, hid, hr, hr ▸ hd, hn, hs, hto, hdel, hst, hrec, he, hfp, ?_, hauth, hgp, hg, ha⟩
    · rintro rfl
      rw [hrec] at htr
      cases htr
    · rintro hnull
      rw [hnull] at hp
      cases hp
  · rintro ⟨r, e, gp, rfl, hne, h⟩
    obtain ⟨err, hv⟩ := h.verified
    refine ⟨?_, h.gatewayKey_ne, h.authorizes.gatewayKeyId_ne, h.authorizes.buildConfigId_ne, h.action, ?_, true, err, hv,
      rfl, h.workerKey, h.workerId, h.resultData ▸ h.dataHash, rd, h.resultData, h.nonce, h.sender, h.audience, h.delegationId,
      h.status, ?_, _, ⟨r, h.present, rfl⟩, _, ⟨e, h.expectedPresent, rfl⟩, h.fingerprint, _, ⟨rfl, r, h.present, h.authorizes,
        gp, h.proven⟩, rfl, h.present⟩
    · rw [h.expectedPresent]
      rfl
    · cases hx : x.parameters with
      | null => exact absurd hx h.parameters
      | _ => rfl
    · rw [h.present]
      simpa [Json.truthy] using hne

variable {cfg : IntegrityConfig} {db : Except PyErr Unit} {s s' : VerifierState}

theorem consumeReplay_ok {now : ℚ} {L L' : Ledger} : consumeReplay p env cfg db now proof rd receipt x L = (.ok (), L') ↔
    ∃ args reason, consumeArgs p env cfg proof rd receipt x = .ok args ∧
      consumeResultReplay p db now args L = .ok ((true, reason), L') := by
  unfold consumeReplay
  constructor
  · intro h
    split at h
    · cases h
    · rename_i args ha
      split at h
      · cases h
      · rename_i reason L₁ hc
        cases h
        exact ⟨args, reason, ha, hc⟩
      · cases h
  · rintro ⟨args, reason, ha, hc⟩
    simp only [ha, hc]

/-- A result is returned if it passes the checks and is consumed in both places. -/
theorem verifyWorkerResult_ok : verifyWorkerResult p env cfg db clock proof x s = (.ok rd, s') ↔
    ∃ receipt cache, checkWorkerResult p env clock proof x = .ok (rd, receipt) ∧
      s.cache.consume clock.monotonic (rd.get "nonce") = (.ok (), cache) ∧
      ∃ ledger, consumeReplay p env cfg db clock.ledger proof rd receipt x s.ledger = (.ok (), ledger) ∧
        s' = ⟨cache, ledger⟩ := by
  unfold verifyWorkerResult
  constructor
  · intro h
    split at h
    · cases h
    · rename_i rd' receipt hc
      split at h
      · cases h
      · rename_i cache hcache
        split at h
        · cases h
        · rename_i ledger hl
          cases h
          exact ⟨receipt, cache, hc, hcache, ledger, hl, rfl⟩
  · rintro ⟨receipt, cache, hc, hcache, ledger, hl, rfl⟩
    simp only [hc, hcache, hl]

end

end Adn
