import Adn.Network
/-!
# Delegating a task

The coordinator's side: an identity from its key, a gateway's receipt from a TEE
result, a request around the receipt, and the envelope that is sent.
`fromActionRequest_payload`: what the worker reconstructs is the request that was
signed.
-/

open Lib

namespace Adn

/-! ## Identities -/

/-- An identity that lives as long as its key, which a caller passes in hexadecimal. -/
def ephemeralIdentity (p : Platform) (privateKeyHex : Str) : Except PyErr AgentIdentity :=
  match Hex.fromHex privateKeyHex with
  | none => .error (.valueError "non-hexadecimal number found in fromhex() arg")
  | some key =>
    if key.length ≠ 32 then .error (.valueError "An Ed25519 private key is 32 bytes long")
    else
      let publicKeyHex := Hex.hexLower (p.publicKey key)
      let agentId := p.fingerprint (p.publicKey key)
      let did := Str.ofString "did:key:ed25519:" ++ agentId
      .ok ⟨some ⟨key, publicKeyHex, agentId, did⟩, agentId, publicKeyHex, did, some privateKeyHex⟩

/-- `AgentIdentity._load_identity` -/
def loadIdentity (p : Platform) (env : Env) (privateKeyHex : Option Str) : Except PyErr AgentIdentity :=
  match privateKeyHex with
  | some (u :: s) => ephemeralIdentity p (u :: s)
  | _ =>
    match loadPrivateKey p env with
    | .ok s => .ok ⟨some s, s.agentId, s.publicKeyHex, s.did, some (Hex.hexLower s.privateKey)⟩
    | .error e =>
      if isMock env then
        .ok ⟨none, (p.keyFingerprint mockPublicKeyHex).getD [], mockPublicKeyHex, "did:t3n:mock-agent", none⟩
      else .error (.runtimeError (Str.ofString "Failed to load agent identity: " ++ p.errStr e))

/-- What the program relies on of Ed25519. -/
structure Ed25519 (p : Platform) : Prop where
  publicKey_length : ∀ key, key.length = 32 → (p.publicKey key).length = 32
  sign_length : ∀ key m, key.length = 32 → (p.sign key m).length = 64
  verify_sign : ∀ key m, key.length = 32 → p.verify (p.publicKey key) m (p.sign key m) = true

/-- An identity that signs with a key pair, under its name and key. -/
structure AgentIdentity.Signs (p : Platform) (identity : AgentIdentity) (s : Signer) : Prop where
  signer : identity.signer = some s
  keyPair : KeyPair p s
  agentId : identity.agentId = s.agentId
  publicKeyHex : identity.publicKeyHex = s.publicKeyHex

section
variable {p : Platform} {env : Env} {identity : AgentIdentity} {s : Signer}

theorem keyPair_of_key (hp : Ed25519 p) {key : List UInt8} (hk : key.length = 32) (did : Str) :
    KeyPair p ⟨key, Hex.hexLower (p.publicKey key), p.fingerprint (p.publicKey key), did⟩ where
  publicKeyHex := rfl
  agentId := rfl
  publicKey_length := hp.publicKey_length key hk
  sign_length m := hp.sign_length key m hk
  verify_sign m := hp.verify_sign key m hk

theorem loadPrivateKey_ok (hp : Ed25519 p) (h : loadPrivateKey p env = .ok s) : KeyPair p s := by
  unfold loadPrivateKey at h
  simp only at h
  split_ifs at h
  split at h
  · cases h
  · split_ifs at h with hlength
    obtain rfl := Except.ok.inj h
    exact keyPair_of_key hp (not_not.1 hlength) _

theorem ephemeralIdentity_signs (hp : Ed25519 p) {privateKeyHex : Str}
    (h : ephemeralIdentity p privateKeyHex = .ok identity) : ∃ s, identity.Signs p s := by
  unfold ephemeralIdentity at h
  split at h
  · cases h
  · split_ifs at h with hlength
    obtain rfl := Except.ok.inj h
    exact ⟨_, rfl, keyPair_of_key hp (not_not.1 hlength) _, rfl, rfl⟩

/-- Outside of mock mode every identity signs with a key pair of its own. -/
theorem loadIdentity_signs (hp : Ed25519 p) (hm : isMock env = false) {privateKeyHex : Option Str}
    (h : loadIdentity p env privateKeyHex = .ok identity) : ∃ s, identity.Signs p s := by
  unfold loadIdentity at h
  split at h
  · exact ephemeralIdentity_signs hp h
  · split at h
    · rename_i s hs
      obtain rfl := Except.ok.inj h
      exact ⟨s, rfl, loadPrivateKey_ok hp hs, rfl, rfl⟩
    · simp only [hm, Bool.false_eq_true, if_false] at h
      cases h

theorem encodable_hexLower (bs : List UInt8) : encodable (Hex.hexLower bs) = true :=
  encodable_ascii (Hex.plain_hexLower bs).ascii

theorem KeyPair.encodable_agentId (hs : KeyPair p s) : encodable s.agentId = true := by
  rw [hs.agentId, Platform.fingerprint]
  exact encodable_ascii fun u hu => (Hex.plain_hexLower _).ascii u (List.mem_of_mem_take hu)

theorem KeyPair.agentId_ne (hs : KeyPair p s) (hsha : ∀ bs, p.sha256 bs ≠ []) : s.agentId ≠ [] := by
  rw [hs.agentId, Platform.fingerprint, ne_eq, List.take_eq_nil_iff, not_or, ← ne_eq (Hex.hexLower _),
    ← List.length_pos_iff, Hex.length_hexLower]
  have := List.length_pos_iff.2 (hsha ([0x74, 0x65, 0x72, 0x6D, 0x69, 0x6E, 0x61, 0x6C, 0x33, 0x00] ++
    p.publicKey s.privateKey))
  omega

theorem AgentIdentity.Signs.signAction (hs : identity.Signs p s) (hm : isMock env = false) (now : ℚ)
    (action nonce : Json) (data : Option Json) :
    identity.signAction p env now action nonce data = .ok (s.envelope p now action nonce data) := by
  rw [AgentIdentity.signAction, hs.signer, signActionRequest_some hm]

end

/-! ## Receipts -/

/-- The body of a receipt for a TEE result. -/
def authorizationBody (p : Platform) (now : ℚ) (gatewayKeyId : Str) (teeResult : Dict) (action parameters : Json) : Dict :=
  Dict.ofList [
    ("v", .str receiptVersion),
    ("delegation_id", teeResult.get "delegation_id"),
    ("tee_delegation_id", teeResult.get "delegation_id"),
    ("status", teeResult.get "status"),
    ("to_agent_id", teeResult.get "routed_to"),
    ("action", action),
    ("request_hash", .str (teeAuthorizationRequestHash p (teeResult.get "routed_to") action parameters)),
    ("credential_fingerprint", teeResult.get "credential_fingerprint"),
    ("credential_enforced", teeResult.get "credential_enforced"),
    ("build_config_id", teeResult.get "build_config_id"),
    ("tee_result_digest", .str (p.hashJson (.obj teeResult))),
    ("gateway_key_id", .str gatewayKeyId),
    ("authorization_expires_at", teeResult.get "authorization_expires_at"),
    ("authorized_at", .str (p.isoformat now))]

/-- `build_tee_authorization_receipt`, with its two clock readings. -/
def buildTeeAuthorizationReceipt (p : Platform) (env : Env) (now now' : ℚ) (gatewayIdentity : AgentIdentity)
    (gatewayKeyId : Str) (teeResult : Dict) (action parameters : Json) : Except PyErr Dict := do
  raiseIf (!(teeResult.get "delegation_id").truthy || !(teeResult.get "routed_to").truthy)
    "TEE authorization requires delegation_id and routed_to"
  raiseIf (gatewayKeyId = []) "TEE authorization requires gateway_key_id"
  raiseIf (!(teeResult.get "authorization_expires_at").truthy) "TEE authorization requires authorization_expires_at"
  let body := authorizationBody p now gatewayKeyId teeResult action parameters
  let proof ← gatewayIdentity.signAction p env now' (.str receiptAction) (teeResult.get "delegation_id") (some (.obj body))
  return body ++ Dict.ofList [("gateway_public_key_hex", proof.get "public_key_hex"), ("gateway_proof", .obj proof)]

/-- The fields a receipt body is given under its keys. -/
theorem receiptOf_authorizationBody (p : Platform) (now : ℚ) (gatewayKeyId : Str) (teeResult : Dict) (action parameters : Json) :
    receiptOf (authorizationBody p now gatewayKeyId teeResult action parameters).get =
      authorizationBody p now gatewayKeyId teeResult action parameters := by
  simp [receiptOf, receiptKeys, authorizationBody, Dict.get, Dict.getD]
  rfl

/-- A gateway signs a receipt for a delegation and a target that are named, with an expiry and a key id. -/
theorem buildTeeAuthorizationReceipt_ok {p : Platform} {env : Env} {now now' : ℚ} {gatewayIdentity : AgentIdentity}
    {g : Signer} {gatewayKeyId : Str} {teeResult : Dict} {action parameters : Json} {receipt : Dict}
    (hg : gatewayIdentity.Signs p g) (hm : isMock env = false) :
    buildTeeAuthorizationReceipt p env now now' gatewayIdentity gatewayKeyId teeResult action parameters = .ok receipt ↔
      ((teeResult.get "delegation_id").truthy = true ∧ (teeResult.get "routed_to").truthy = true ∧ gatewayKeyId ≠ [] ∧
        (teeResult.get "authorization_expires_at").truthy = true) ∧
      receipt = g.receipt p now' (teeResult.get "delegation_id")
        (authorizationBody p now gatewayKeyId teeResult action parameters).get := by
  have hkey : (g.envelope p now' (.str receiptAction) (teeResult.get "delegation_id")
      (some (.obj (authorizationBody p now gatewayKeyId teeResult action parameters)))).get "public_key_hex" =
        .str g.publicKeyHex := by
    simp [Dict.get, Dict.getD, Signer.get?_envelope, Signer.get?_payload]
  unfold buildTeeAuthorizationReceipt
  simp only [bind_ok, raiseIf_ok, exists_const, hg.signAction hm, Except.ok.injEq, exists_eq_left', pure_ok,
    Signer.receipt, receiptOf_authorizationBody, hkey, Bool.or_eq_false_iff, Bool.not_eq_false', decide_eq_false_iff_not]
  constructor
  · rintro ⟨⟨hid, hto⟩, hgateway, hexpires, rfl⟩
    exact ⟨⟨hid, hto, hgateway, hexpires⟩, rfl⟩
  · rintro ⟨⟨hid, hto, hgateway, hexpires⟩, rfl⟩
    exact ⟨⟨hid, hto⟩, hgateway, hexpires, rfl⟩

/-! ## Requests -/

/-- The time after which a request has expired: an hour from `now`. -/
def requestTtlSeconds : ℚ := 3600

/-- `DelegationRequest(...)`: the fields, and then `__post_init__`. -/
def DelegationRequest.postInit (now : ℚ) (request : DelegationRequest) : Except PyErr DelegationRequest := do
  let issuedAt := issuedAtOr now request.issuedAt
  let expiresAt ← expiresAtOr issuedAt request.expiresAt
  return { request with
    issuedAt
    expiresAt
    requiredCapabilities := capabilitiesOr request.requiredCapabilities }

/-- What one `create_delegation_request` draws and reads. -/
structure CreateClock where
  /-- The delegation id of a request without a TEE authorization. -/
  freshId : Str
  nonce : Str
  now : ℚ
  postInit : ℚ

/-- What a delegation is asked to be. `None` stands for an argument that is left out. -/
structure Task where
  toAgentId : Str
  action : Str
  taskDescription : Str
  parameters : Option Dict
  deadline : Option PyFloat
  requiredCapabilities : Option (List Str)
  teeAuthorization : Option Dict

/-- The id of a delegation: the one that the TEE authorization names, if it names one. -/
def Task.delegationId (p : Platform) (freshId : Str) (task : Task) : Str :=
  match task.teeAuthorization with
  | some receipt => if (receipt.get "delegation_id").truthy then p.str (receipt.get "delegation_id") else freshId
  | none => freshId

def optJson {α : Type} (f : α → Json) : Option α → Json
  | some a => f a
  | none => .null

/-- `DelegationProtocol.create_delegation_request` -/
def createDelegationRequest (p : Platform) (clock : CreateClock) (fromAgentId : Str) (task : Task) :
    Except PyErr DelegationRequest :=
  DelegationRequest.postInit clock.postInit {
    delegationId := .str (task.delegationId p clock.freshId)
    fromAgentId := .str fromAgentId
    toAgentId := .str task.toAgentId
    action := .str task.action
    taskDescription := .str task.taskDescription
    parameters := .obj (task.parameters.getD [])
    nonce := .str clock.nonce
    deadline := optJson .float task.deadline
    issuedAt := .float (.finite clock.now)
    expiresAt := .float (.finite (clock.now + requestTtlSeconds))
    teeAuthorization := optJson .obj task.teeAuthorization
    requiredCapabilities := .arr ((task.requiredCapabilities.getD []).map .str) }

/-- What a request is sent with. -/
def DelegationRequest.payload (request : DelegationRequest) : Dict :=
  Dict.ofList [("delegation_id", request.delegationId), ("from_agent_id", request.fromAgentId),
    ("to_agent_id", request.toAgentId), ("action", request.action), ("task_description", request.taskDescription),
    ("parameters", request.parameters), ("deadline", request.deadline),
    ("required_capabilities", request.requiredCapabilities), ("nonce", request.nonce),
    ("issued_at", request.issuedAt), ("expires_at", request.expiresAt)] ++
    if isNull request.teeAuthorization then [] else Dict.ofList [("tee_authorization", request.teeAuthorization)]

/-- `DelegationRequest.to_action_request` -/
def DelegationRequest.toActionRequest (p : Platform) (env : Env) (now : ℚ) (identity : AgentIdentity)
    (request : DelegationRequest) : Except PyErr Dict := do
  let signed ← identity.signAction p env now (.str delegateTask) request.nonce (some (.obj request.payload))
  return signed ++ Dict.ofList [("delegation_data", .obj request.payload)]

/-! ### What a created request is -/

theorem float_pyEq_zero (q : ℚ) : (Json.float (.finite q)).pyEq zeroTime = decide (q = 0) := by
  simp [Json.pyEq, zeroTime, Json.number?, Json.numberEq]

theorem issuedAtOr_of_ne {q now : ℚ} (h : q ≠ 0) : issuedAtOr now (.float (.finite q)) = .float (.finite q) := by
  rw [issuedAtOr, float_pyEq_zero, decide_eq_false h, if_neg (by decide)]

/-- An hour after `created` stays what it is: a zero is written over with the same time. -/
theorem expiresAtOr_created {created : ℚ} {issuedAt : Json} (h : created ≠ 0 → issuedAt = .float (.finite created)) :
    expiresAtOr issuedAt (.float (.finite (created + requestTtlSeconds))) =
      .ok (.float (.finite (created + requestTtlSeconds))) := by
  rw [expiresAtOr, float_pyEq_zero]
  by_cases hend : created + requestTtlSeconds = 0
  · have hne : created ≠ 0 := by
      rintro rfl
      norm_num [requestTtlSeconds] at hend
    rw [h hne, decide_eq_true hend, if_pos rfl, addSeconds]
    norm_num [requestTtlSeconds]
  · rw [decide_eq_false hend, if_neg (by decide)]

/-- The request that is created for a task. -/
def Task.request (p : Platform) (clock : CreateClock) (fromAgentId : Str) (task : Task) : DelegationRequest where
  delegationId := .str (task.delegationId p clock.freshId)
  fromAgentId := .str fromAgentId
  toAgentId := .str task.toAgentId
  action := .str task.action
  taskDescription := .str task.taskDescription
  parameters := .obj (task.parameters.getD [])
  nonce := .str clock.nonce
  deadline := optJson .float task.deadline
  issuedAt := issuedAtOr clock.postInit (.float (.finite clock.now))
  expiresAt := .float (.finite (clock.now + requestTtlSeconds))
  teeAuthorization := optJson .obj task.teeAuthorization
  requiredCapabilities := .arr ((task.requiredCapabilities.getD []).map .str)

section
variable {p : Platform} {clock : CreateClock} {fromAgentId : Str} {task : Task}

theorem createDelegationRequest_eq :
    createDelegationRequest p clock fromAgentId task = .ok (task.request p clock fromAgentId) := by
  rw [createDelegationRequest, DelegationRequest.postInit]
  simp only [expiresAtOr_created fun h => issuedAtOr_of_ne h]
  rfl

/-- The fields of a payload, as they are read back. -/
theorem payload_get? (request : DelegationRequest) (k : String) : request.payload.get? k =
    ((Dict.ofList [("delegation_id", request.delegationId), ("from_agent_id", request.fromAgentId),
      ("to_agent_id", request.toAgentId), ("action", request.action), ("task_description", request.taskDescription),
      ("parameters", request.parameters), ("deadline", request.deadline),
      ("required_capabilities", request.requiredCapabilities), ("nonce", request.nonce),
      ("issued_at", request.issuedAt), ("expires_at", request.expiresAt)]).get? k).or
      (if isNull request.teeAuthorization then none
        else if "tee_authorization" = k then some request.teeAuthorization else none) := by
  rw [DelegationRequest.payload, Dict.get?_append]
  split <;> simp

/-- The worker reconstructs the request that was signed; only the time it was issued at can be read anew. -/
theorem fromActionRequest_payload {now : ℚ} {signed : Dict}
    (h : delegationData signed = .obj (task.request p clock fromAgentId).payload) :
    DelegationRequest.fromActionRequest now signed = .ok { task.request p clock fromAgentId with
      issuedAt := issuedAtOr now (issuedAtOr clock.postInit (.float (.finite clock.now))) } := by
  have hexpires : expiresAtOr (issuedAtOr now (issuedAtOr clock.postInit (.float (.finite clock.now))))
      (.float (.finite (clock.now + requestTtlSeconds))) = .ok (.float (.finite (clock.now + requestTtlSeconds))) :=
    expiresAtOr_created fun h => by rw [issuedAtOr_of_ne h, issuedAtOr_of_ne h]
  have hget : ∀ (k : String) (v w : Json), (task.request p clock fromAgentId).payload.get? k = some v →
      (task.request p clock fromAgentId).payload.getD k w = v := fun k v w hk => by rw [Dict.getD, hk, Option.getD_some]
  have hissued : (task.request p clock fromAgentId).payload.getD "issued_at" zeroTime =
      issuedAtOr clock.postInit (.float (.finite clock.now)) := hget _ _ _ (by simp [payload_get?, Task.request])
  have hend : (task.request p clock fromAgentId).payload.getD "expires_at" zeroTime =
      .float (.finite (clock.now + requestTtlSeconds)) := hget _ _ _ (by simp [payload_get?, Task.request])
  rw [DelegationRequest.fromActionRequest, h]
  simp only [asDict, ok_bind, hissued, hend, hexpires]
  simp [pure, Except.pure, Dict.get, Dict.getD, payload_get?, Task.request, capabilitiesOr, isNull]
  cases task.teeAuthorization <;> rfl

end

/-! ## Delegation -/

/-- How a delegation fails: with an exception of what it calls, or with one of its own. -/
inductive DelegateError where
  | raised (e : PyErr)
  | permissionError (message : Str)
  | keyError (key : Json)

/-- The entry of the audit log for a delegation. -/
structure CreatedEntry where
  timestamp : ℚ
  type : Str
  delegationId : Json
  fromAgent : Str
  toAgent : Str
  action : Json
  taskDescription : Json

/-- What `delegate_task` returns and stores. -/
structure Delegated where
  delegationId : Json
  delegations : List (Json × DelegationRequest)
  entry : CreatedEntry

def orRaised {α : Type} : Except PyErr α → Except DelegateError α
  | .ok a => .ok a
  | .error e => .error (.raised e)

/-- `AgentDelegationNetwork.delegate_task` -/
def Agent.delegate (p : Platform) (clock : CreateClock) (logged : ℚ) (agent : Agent) (task : Task)
    (delegations : List (Json × DelegationRequest)) : Except DelegateError Delegated := do
  let request ← orRaised (createDelegationRequest p clock agent.identity.agentId task)
  let (allowed, reason) ← orRaised (evaluateDelegationRequest p agent.policy request.action
    (.str agent.identity.agentId) task.toAgentId)
  if !allowed then .error (.permissionError (Str.ofString "Delegation not allowed: " ++ reason))
  else
    return {
      delegationId := request.delegationId
      delegations := setItem delegations request.delegationId request
      entry := {
        timestamp := logged
        type := "delegation_created"
        delegationId := request.delegationId
        fromAgent := agent.identity.agentId
        toAgent := task.toAgentId
        action := request.action
        taskDescription := request.taskDescription } }

/-- `d[key]` -/
def getItem {α : Type} : List (Json × α) → Json → Except DelegateError α
  | [], key => .error (.keyError key)
  | (k, v) :: d, key => if k.pyEq key then .ok v else getItem d key

theorem getItem_setItem {α : Type} (d : List (Json × α)) {key : Json} (hkey : key.pyEq key = true) (v : α) :
    getItem (setItem d key v) key = .ok v := by
  induction d with
  | nil => rw [setItem, getItem, if_pos hkey]
  | cons f d ih =>
    obtain ⟨k, w⟩ := f
    rw [setItem]
    split
    · rw [getItem, if_pos ‹_›]
    · rw [getItem, if_neg ‹_›, ih]

/-- What the policy allows is stored under its delegation id, to be signed and sent. -/
theorem delegate_stored {p : Platform} {agent : Agent} (clock : CreateClock) (logged : ℚ) (task : Task)
    (delegations : List (Json × DelegationRequest)) {reason : Str} (h : evaluateDelegationRequest p agent.policy
      (.str task.action) (.str agent.identity.agentId) task.toAgentId = .ok (true, reason)) :
    ∃ delegated, agent.delegate p clock logged task delegations = .ok delegated ∧
      delegated.delegationId = .str (task.delegationId p clock.freshId) ∧
      getItem delegated.delegations delegated.delegationId = .ok (task.request p clock agent.identity.agentId) := by
  rw [Agent.delegate, createDelegationRequest_eq]
  simp only [orRaised, bind, Except.bind, Task.request, h]
  exact ⟨_, rfl, rfl, getItem_setItem _ (Json.pyEq_str.2 rfl) _⟩

end Adn
