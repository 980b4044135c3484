import Adn.TeeAuthorization
import Adn.ReplayLedger
/-!
# The delegation protocol

`validateDelegationRequest` checks a signed request as it came over the wire.
`validateDelegationRequest_ok` says what an accepted request has passed
(`Accepted`), and nothing else: it never compares the signer with the delegator
that `delegation_data` names.
-/

open Lib

namespace Adn

inductive DelegationStatus where
  | pending
  | inProgress
  | completed
  | failed
  | revoked
deriving DecidableEq

def DelegationStatus.value : DelegationStatus → Str
  | .pending => "PENDING"
  | .inProgress => "IN_PROGRESS"
  | .completed => "COMPLETED"
  | .failed => "FAILED"
  | .revoked => "REVOKED"

def delegateTask : Str := "DELEGATE_TASK"
def taskResult : Str := "TASK_RESULT"

/-! ## Requests -/

structure DelegationRequest where
  delegationId : Json
  fromAgentId : Json
  toAgentId : Json
  action : Json
  taskDescription : Json
  parameters : Json
  nonce : Json
  deadline : Json
  issuedAt : Json
  expiresAt : Json
  teeAuthorization : Json
  requiredCapabilities : Json

def zeroTime : Json := .float (.finite 0)

/-- `signed_request.get("delegation_data", {})` -/
def delegationData (signed : Dict) : Json := signed.getD "delegation_data" (.obj [])

/-- `if self.issued_at == 0.0: self.issued_at = time.time()` -/
def issuedAtOr (now : ℚ) (issuedAt : Json) : Json :=
  if issuedAt.pyEq zeroTime then .float (.finite now) else issuedAt

/-- `if self.expires_at == 0.0: self.expires_at = self.issued_at + 3600` -/
def expiresAtOr (issuedAt expiresAt : Json) : Except PyErr Json :=
  if expiresAt.pyEq zeroTime then addSeconds issuedAt 3600 else .ok expiresAt

/-- `if self.required_capabilities is None: self.required_capabilities = []` -/
def capabilitiesOr (v : Json) : Json := if isNull v then .arr [] else v

/-- `DelegationRequest.from_action_request`, with the clock reading of `__post_init__`. -/
def DelegationRequest.fromActionRequest (now : ℚ) (signed : Dict) : Except PyErr DelegationRequest := do
  let data ← asDict (delegationData signed)
  let expiresAt ← expiresAtOr (issuedAtOr now (data.getD "issued_at" zeroTime)) (data.getD "expires_at" zeroTime)
  return {
    delegationId := data.getD "delegation_id" (.str [])
    fromAgentId := data.getD "from_agent_id" (.str [])
    toAgentId := data.getD "to_agent_id" (.str [])
    action := data.getD "action" (.str [])
    taskDescription := data.getD "task_description" (.str [])
    parameters := data.getD "parameters" (.obj [])
    nonce := data.getD "nonce" (signed.getD "nonce" (.str []))
    deadline := data.get "deadline"
    issuedAt := issuedAtOr now (data.getD "issued_at" zeroTime)
    expiresAt
    teeAuthorization := data.get "tee_authorization"
    requiredCapabilities := capabilitiesOr (data.getD "required_capabilities" (.arr [])) }

/-- `is_expired` -/
def DelegationRequest.isExpired (now : ℚ) (request : DelegationRequest) : Except PyErr Bool :=
  isPast now request.expiresAt

/-- What a request reconstructs to depends on the clock only through its times. -/
theorem fromActionRequest_ok {now : ℚ} {signed : Dict} {request : DelegationRequest}
    (h : DelegationRequest.fromActionRequest now signed = .ok request) :
    ∃ data : Dict, delegationData signed = .obj data ∧
      request.delegationId = data.getD "delegation_id" (.str []) ∧
      request.fromAgentId = data.getD "from_agent_id" (.str []) ∧
      request.toAgentId = data.getD "to_agent_id" (.str []) ∧
      request.action = data.getD "action" (.str []) ∧
      request.parameters = data.getD "parameters" (.obj []) ∧
      request.teeAuthorization = data.get "tee_authorization" := by
  obtain ⟨data, hd, h⟩ := bind_ok.1 h
  obtain ⟨_, -, h⟩ := bind_ok.1 h
  obtain rfl := pure_ok.1 h
  exact ⟨data, asDict_ok.1 hd, rfl, rfl, rfl, rfl, rfl, rfl⟩

/-! ## Validation -/

/-- Why a request is not valid: a message, or an exception. -/
inductive Reject where
  | refused (message : Str)
  | raised (e : PyErr)

/-- `if not ok: return False, message, None` -/
def check (ok : Bool) (message : Str) : Except Reject Unit :=
  if ok then .ok () else .error (.refused message)

theorem check_ok {ok : Bool} {message : Str} {u : Unit} : check ok message = .ok u ↔ ok = true := by
  unfold check
  split <;> simp_all

def orRaise {α : Type} : Except PyErr α → Except Reject α
  | .ok a => .ok a
  | .error e => .error (.raised e)

theorem orRaise_ok {α : Type} {x : Except PyErr α} {a : α} : orRaise x = .ok a ↔ x = .ok a := by
  cases x <;> simp [orRaise]

/-- `except RuntimeError as exc: return False, f"TEE authorization invalid: {exc}", None` -/
def orTeeInvalid {α : Type} : Except PyErr α → Except Reject α
  | .ok a => .ok a
  | .error (.runtimeError m) => .error (.refused (Str.ofString "TEE authorization invalid: " ++ m))
  | .error e => .error (.raised e)

theorem orTeeInvalid_ok {α : Type} {x : Except PyErr α} {a : α} : orTeeInvalid x = .ok a ↔ x = .ok a := by
  cases x with
  | ok b => simp [orTeeInvalid]
  | error e => cases e <;> simp [orTeeInvalid]

/-- The clock readings of one validation, in the order they are made. -/
structure ValidationClock where
  proof : ℚ
  postInit : ℚ
  expired : ℚ
  authorization : ℚ
  gatewayProof : ℚ

/-- The receiver and what it expects of a TEE authorization. -/
structure ValidationContext where
  receiverAgentId : Str
  gatewayPublicKeyHex : Str
  gatewayKeyId : Str
  buildConfigId : Str
  requireTeeAuthorization : Bool

/-- What the receipt of a request is checked against. -/
def ValidationContext.expectedReceipt (ctx : ValidationContext) (request : DelegationRequest) : ExpectedReceipt where
  gatewayPubkeyHex := ctx.gatewayPublicKeyHex
  gatewayKeyId := ctx.gatewayKeyId
  delegationId := request.delegationId
  toAgentId := .str ctx.receiverAgentId
  action := request.action
  parameters := request.parameters
  buildConfigId := ctx.buildConfigId

/-- The hash comparison of step 2, which is made only if the envelope has a `data_hash`. -/
def dataUntampered (p : Platform) (signed : Dict) : Bool :=
  !signed.has "data_hash" || (signed.get "data_hash").pyEq (.str (p.hashJson (delegationData signed)))

/-- The replay key of a request. -/
def replayKey (p : Platform) (signed : Dict) (request : DelegationRequest) : Except PyErr Str := do
  let requestHash := (signed.get "data_hash").orElse (.str (p.hashJson (delegationData signed)))
  let fingerprint ← receiptFingerprint p (orEmpty request.teeAuthorization)
  return p.hashJson (.obj (Dict.ofList [("delegation_id", request.delegationId), ("request_hash", requestHash),
    ("gateway_receipt_fingerprint", .str fingerprint)]))

theorem replayKey_ok {p : Platform} {signed : Dict} {request : DelegationRequest} {key : Str} :
    replayKey p signed request = .ok key ↔ ∃ receipt : Dict, orEmpty request.teeAuthorization = .obj receipt ∧
      key = p.hashJson (.obj (Dict.ofList [("delegation_id", request.delegationId),
        ("request_hash", (signed.get "data_hash").orElse (.str (p.hashJson (delegationData signed)))),
        ("gateway_receipt_fingerprint", .str (p.hashJson (.obj (receiptBody receipt))))])) := by
  simp only [replayKey, receiptFingerprint, bind_ok, asDict_ok, pure_ok]
  constructor
  · rintro ⟨_, ⟨receipt, hr, rfl⟩, rfl⟩
    exact ⟨receipt, hr, rfl⟩
  · rintro ⟨receipt, hr, rfl⟩
    exact ⟨_, ⟨receipt, hr, rfl⟩, rfl⟩

/-- The checks of a TEE authorization that is there. -/
def checkTeeAuthorization (p : Platform) (env : Env) (clock : ValidationClock) (ctx : ValidationContext)
    (request : DelegationRequest) : Except Reject Unit :=
  if request.teeAuthorization.truthy then do
    check (ctx.gatewayPublicKeyHex ≠ []) "TEE authorization invalid: expected gateway public key is required"
    check (ctx.gatewayKeyId ≠ []) "TEE authorization invalid: expected gateway key id is required"
    check (ctx.buildConfigId ≠ []) "TEE authorization invalid: expected build_config_id is required"
    let _ ← orTeeInvalid (verifyTeeAuthorizationReceipt p env clock.authorization clock.gatewayProof
      request.teeAuthorization (ctx.expectedReceipt request))
  else .ok ()

/-- The checks of `validate_delegation_request`; an accepted request yields its replay key. -/
def accept (p : Platform) (env : Env) (clock : ValidationClock) (ctx : ValidationContext) (signed : Dict) :
    Except Reject Str := do
  let (isValid, err) ← orRaise (verifyActionRequest p env clock.proof signed delegateTask)
  check isValid (Str.ofString "Signature verification failed: " ++ err)
  check (dataUntampered p signed) "DELEGATION_DATA_TAMPERED: payload hash mismatch"
  let request ← orRaise (DelegationRequest.fromActionRequest clock.postInit signed)
  let expired ← orRaise (request.isExpired clock.expired)
  check (!expired) "Delegation request has expired"
  check (request.toAgentId.pyEq (.str ctx.receiverAgentId)) (Str.ofString
    "Delegation not addressed to this agent (expected " ++ ctx.receiverAgentId ++ Str.ofString ", got " ++
      p.str request.toAgentId ++ Str.ofString ")")
  check (!(ctx.requireTeeAuthorization && !request.teeAuthorization.truthy))
    "TEE authorization receipt required before worker execution"
  checkTeeAuthorization p env clock ctx request
  let key ← orRaise (replayKey p signed request)
  check (key ≠ []) "Delegation request replay key missing"
  return key

/-- `DelegationProtocol.validate_delegation_request` -/
def validateDelegationRequest (p : Platform) (env : Env) (clock : ValidationClock) (ctx : ValidationContext)
    (signed : Dict) : Except PyErr (Bool × Str × Option Str) :=
  match accept p env clock ctx signed with
  | .ok key => .ok (true, "Delegation request is valid", some key)
  | .error (.refused message) => .ok (false, message, none)
  | .error (.raised e) => .error e

/-! ## What is accepted -/

/-- A receipt that authorizes this request, proven by the expected gateway. -/
structure TeeAuthorized (p : Platform) (env : Env) (clock : ValidationClock) (ctx : ValidationContext)
    (request : DelegationRequest) (receipt proof : Dict) : Prop where
  present : request.teeAuthorization = .obj receipt
  gatewayPublicKeyHex : ctx.gatewayPublicKeyHex ≠ []
  authorizes : Authorizes p clock.authorization receipt (ctx.expectedReceipt request)
  proven : GatewayProven p env clock.gatewayProof receipt proof ctx.gatewayPublicKeyHex

/-- What an accepted request has passed. -/
structure Accepted (p : Platform) (env : Env) (clock : ValidationClock) (ctx : ValidationContext) (signed : Dict)
    (request : DelegationRequest) (key : Str) : Prop where
  proof : ∃ err, verifyActionRequest p env clock.proof signed delegateTask = .ok (true, err)
  dataHash : signed.has "data_hash" = true → signed.get "data_hash" = .str (p.hashJson (delegationData signed))
  reconstructed : DelegationRequest.fromActionRequest clock.postInit signed = .ok request
  unexpired : request.isExpired clock.expired = .ok false
  target : request.toAgentId = .str ctx.receiverAgentId
  required : ctx.requireTeeAuthorization = true → request.teeAuthorization.truthy = true
  authorized : request.teeAuthorization.truthy = true →
    ∃ receipt proof, TeeAuthorized p env clock ctx request receipt proof
  key_eq : replayKey p signed request = .ok key
  key_ne : key ≠ []

theorem dataUntampered_iff {p : Platform} {signed : Dict} : dataUntampered p signed = true ↔
    (signed.has "data_hash" = true → signed.get "data_hash" = .str (p.hashJson (delegationData signed))) := by
  simp only [dataUntampered, Bool.or_eq_true, Bool.not_eq_true', Json.pyEq_str]
  cases signed.has "data_hash" <;> simp

theorem checkTeeAuthorization_ok {p : Platform} {env : Env} {clock : ValidationClock} {ctx : ValidationContext}
    {request : DelegationRequest} {u : Unit} : checkTeeAuthorization p env clock ctx request = .ok u ↔
      (request.teeAuthorization.truthy = true → ∃ receipt proof, TeeAuthorized p env clock ctx request receipt proof) := by
  unfold checkTeeAuthorization
  split
  · rename_i ht
    simp only [bind_ok, check_ok, orTeeInvalid_ok, exists_const, verifyTeeAuthorizationReceipt_ok, pure_ok,
      decide_eq_true_eq, ht, true_implies, and_true]
    constructor
    · rintro ⟨hk, -, -, r, -, fs, hr, ha, proof, hg⟩
      exact ⟨fs, proof, hr, hk, ha, hg⟩
    · rintro ⟨fs, proof, hr, hk, ha, hg⟩
      exact ⟨hk, ha.gatewayKeyId_ne, ha.buildConfigId_ne, _, rfl, fs, hr, ha, proof, hg⟩
  · simp_all

theorem accept_ok {p : Platform} {env : Env} {clock : ValidationClock} {ctx : ValidationContext} {signed : Dict}
    {key : Str} : accept p env clock ctx signed = .ok key ↔ ∃ request, Accepted p env clock ctx signed request key := by
  unfold accept
  simp only [bind_ok, check_ok, orRaise_ok, exists_const, pure_ok, Prod.exists, dataUntampered_iff,
    checkTeeAuthorization_ok, decide_eq_true_eq, Json.pyEq_str, Bool.not_eq_true', Bool.and_eq_false_imp]
  constructor
  · rintro ⟨ok, err, hp, rfl, hd, request, hr, expired, he, rfl, ht, hq, ha, k, hk, hne, rfl⟩
    exact ⟨request, ⟨err, hp⟩, hd, hr, he, ht, fun h => by simpa using hq h, ha, hk, hne⟩
  · rintro ⟨request, ⟨err, hp⟩, hd, hr, he, ht, hq, ha, hk, hne⟩
    exact ⟨true, err, hp, rfl, hd, request, hr, false, he, rfl, ht, fun h => by simpa using hq h, ha, key, hk, hne, rfl⟩

theorem validateDelegationRequest_ok {p : Platform} {env : Env} {clock : ValidationClock} {ctx : ValidationContext}
    {signed : Dict} {message : Str} {key : Option Str} :
    validateDelegationRequest p env clock ctx signed = .ok (true, message, key) ↔
      message = Str.ofString "Delegation request is valid" ∧
        ∃ request k, key = some k ∧ Accepted p env clock ctx signed request k := by
  unfold validateDelegationRequest
  cases h : accept p env clock ctx signed with
  | ok k =>
    obtain ⟨request, hr⟩ := accept_ok.1 h
    simp only [Except.ok.injEq, Prod.mk.injEq, true_and]
    constructor
    · rintro ⟨rfl, rfl⟩
      exact ⟨rfl, request, k, rfl, hr⟩
    · rintro ⟨rfl, request', k', rfl, hr'⟩
      have := accept_ok.2 ⟨request', hr'⟩
      rw [h] at this
      exact ⟨rfl, congrArg some (Except.ok.inj this)⟩
  | error r =>
    have hn : ∀ request k, ¬Accepted p env clock ctx signed request k := fun request k hr => by
      rw [accept_ok.2 ⟨request, hr⟩] at h
      cases h
    cases r <;> simp [hn]

/-- The replay key a request has wherever it is accepted. -/
def requestKey (p : Platform) (signed : Dict) : Str :=
  match delegationData signed with
  | .obj data =>
    let data : Dict := data
    match orEmpty (data.get "tee_authorization") with
    | .obj receipt => p.hashJson (.obj (Dict.ofList [("delegation_id", data.getD "delegation_id" (.str [])),
        ("request_hash", (signed.get "data_hash").orElse (.str (p.hashJson (delegationData signed)))),
        ("gateway_receipt_fingerprint", .str (p.hashJson (.obj (receiptBody receipt))))]))
    | _ => []
  | _ => []

theorem Accepted.requestKey {p : Platform} {env : Env} {clock : ValidationClock} {ctx : ValidationContext} {signed : Dict}
    {request : DelegationRequest} {key : Str} (h : Accepted p env clock ctx signed request key) : key = requestKey p signed := by
  obtain ⟨receipt, hr, hk⟩ := replayKey_ok.1 h.key_eq
  obtain ⟨data, hd, hid, -, -, -, -, ht⟩ := fromActionRequest_ok h.reconstructed
  rw [ht] at hr
  rw [hk, hid]
  simp only [Adn.requestKey, hd, hr]

end Adn
