import Adn.AgentAuth
/-!
# TEE authorization receipts

A gateway receipt authorizes one worker request. `verifyTeeAuthorizationReceipt_ok`
says which receipts are accepted: those that `Authorizes` describes, with a
gateway proof that `verifyActionRequest` accepts.
-/

open Lib

namespace Adn

def receiptVersion : Str := "adn.tee_authorization/1"
def receiptAction : Str := "TEE_AUTHORIZATION"

/-- `tee_authorization_request_hash` -/
def teeAuthorizationRequestHash (p : Platform) (toAgentId action parameters : Json) : Str :=
  p.hashJson (.obj (Dict.ofList
    [("to_agent_id", toAgentId), ("action", action), ("parameters", orEmpty parameters)]))

/-- If SHA-256 has no collision, the hash of a request determines its parameters. -/
theorem requestHash_parameters {p : Platform} (hc : Function.Injective p.sha256) {t a ps t' a' ps' : Json}
    (h : teeAuthorizationRequestHash p t a ps = teeAuthorizationRequestHash p t' a' ps') :
    Json.Same (orEmpty ps) (orEmpty ps') := by
  obtain ⟨w, hw, hs⟩ := (p.hashJson_inj hc h).field (k := "parameters") (v := orEmpty ps) (by simp [Dict.ofList])
  obtain rfl : w = orEmpty ps' := by simpa [Dict.ofList] using hw
  exact hs

def receiptKeys : List Str :=
  ["v", "delegation_id", "tee_delegation_id", "status", "to_agent_id", "action", "request_hash",
    "credential_fingerprint", "credential_enforced", "build_config_id", "tee_result_digest", "gateway_key_id",
    "authorization_expires_at", "authorized_at"]

/-- `_receipt_body` -/
def receiptBody (receipt : Dict) : Dict := receiptKeys.map fun k => (k, receipt.get k)

/-- `receipt_fingerprint` -/
def receiptFingerprint (p : Platform) (receipt : Json) : Except PyErr Str := do
  let fs ← asDict receipt
  return p.hashJson (.obj (receiptBody fs))

/-- The values a receipt is checked against. `parameters` is `null` for `None`. -/
structure ExpectedReceipt where
  gatewayPubkeyHex : Str
  gatewayKeyId : Str
  delegationId : Json
  toAgentId : Json
  action : Json
  parameters : Json
  buildConfigId : Str

/-- `datetime.fromisoformat` of the authorization's expiry. -/
def parseAuthorizationExpiry (p : Platform) (v : Json) : Except PyErr DateTime :=
  match parseTime p v with
  | .error e => .error e
  | .ok none => .error (.runtimeError "TEE authorization authorization_expires_at invalid")
  | .ok (some d) => .ok d

/-- `isinstance(v, dict)`, or the error of a proof that is none. -/
def asProof : Json → Except PyErr Dict
  | .obj fs => .ok fs
  | _ => .error (.runtimeError "TEE authorization gateway proof missing")

def isNull : Json → Bool
  | .null => true
  | _ => false

/-- The checks before the gateway proof; `now` is when the expiry is checked. -/
def checkReceiptBody (p : Platform) (now : ℚ) (body : Dict) (x : ExpectedReceipt) : Except PyErr Unit := do
  require ((body.get "v").pyEq (.str receiptVersion)) "TEE authorization receipt version invalid"
  require ((body.get "status").pyEq (.str "ROUTED")) "TEE authorization receipt status is not ROUTED"
  require ((body.get "delegation_id").pyEq x.delegationId) "TEE authorization delegation_id mismatch"
  require ((body.get "tee_delegation_id").pyEq x.delegationId) "TEE authorization TEE delegation_id mismatch"
  require ((body.get "to_agent_id").pyEq x.toAgentId) "TEE authorization target mismatch"
  require ((body.get "action").pyEq x.action) "TEE authorization action mismatch"
  require (body.get "credential_fingerprint").truthy "TEE authorization credential fingerprint missing"
  require (match body.get "credential_enforced" with
    | .bool true => true
    | _ => false) "TEE authorization credential enforcement missing"
  require (body.get "build_config_id").truthy "TEE authorization build_config_id missing"
  require (body.get "tee_result_digest").truthy "TEE authorization T3N result digest missing"
  require (body.get "gateway_key_id").truthy "TEE authorization gateway_key_id missing"
  require (x.gatewayKeyId ≠ []) "TEE authorization expected gateway_key_id required"
  require ((body.get "gateway_key_id").pyEq (.str x.gatewayKeyId)) "TEE authorization gateway_key_id mismatch"
  require (body.get "authorization_expires_at").truthy "TEE authorization authorization_expires_at missing"
  let expires ← parseAuthorizationExpiry p (body.get "authorization_expires_at")
  require (now ≤ expires.timestamp) "TEE authorization authorization_expires_at expired"
  require (x.buildConfigId ≠ []) "TEE authorization expected build_config_id required"
  require ((body.get "build_config_id").pyEq (.str x.buildConfigId)) "TEE authorization build_config_id mismatch"
  require (isNull x.parameters || (body.get "request_hash").pyEq
    (.str (teeAuthorizationRequestHash p x.toAgentId x.action x.parameters)))
    "TEE authorization request_hash mismatch"

/-- The checks of the gateway proof; `now` is when its expiry is checked. -/
def checkGatewayProof (p : Platform) (env : Env) (now : ℚ) (receipt : Dict) (x : ExpectedReceipt) :
    Except PyErr Unit := do
  let proof ← asProof (receipt.get "gateway_proof")
  require ((receipt.get "gateway_public_key_hex").pyEq (.str x.gatewayPubkeyHex))
    "TEE authorization gateway key mismatch"
  require ((proof.get "public_key_hex").pyEq (.str x.gatewayPubkeyHex)) "TEE authorization proof signer mismatch"
  let (ok, err) ← verifyActionRequest p env now proof receiptAction
  require ok (Str.ofString "TEE authorization proof invalid: " ++ err)
  require ((proof.get "data_hash").pyEq (.str (p.hashJson (.obj (receiptBody receipt)))))
    "TEE authorization body does not match signed hash"

/-- `verify_tee_authorization_receipt`, with its two clock readings. -/
def verifyTeeAuthorizationReceipt (p : Platform) (env : Env) (now now' : ℚ) (receipt : Json) (x : ExpectedReceipt) :
    Except PyErr Json :=
  match receipt with
  | .obj fs => do
    checkReceiptBody p now (receiptBody fs) x
    checkGatewayProof p env now' fs x
    return .obj fs
  | _ => .error (.runtimeError "TEE authorization receipt missing")

/-! ## What is accepted -/

theorem get_receiptBody {receipt : Dict} {k : Str} (hk : k ∈ receiptKeys) :
    (receiptBody receipt).get k = receipt.get k :=
  Dict.get_of_get? (Dict.get?_map hk)

/-- A receipt for exactly this worker request, under the expected gateway key id
and build. -/
structure Authorizes (p : Platform) (now : ℚ) (receipt : Dict) (x : ExpectedReceipt) : Prop where
  version : receipt.get "v" = .str receiptVersion
  status : receipt.get "status" = .str "ROUTED"
  delegationId : (receipt.get "delegation_id").pyEq x.delegationId = true
  teeDelegationId : (receipt.get "tee_delegation_id").pyEq x.delegationId = true
  target : (receipt.get "to_agent_id").pyEq x.toAgentId = true
  action : (receipt.get "action").pyEq x.action = true
  credentialFingerprint : (receipt.get "credential_fingerprint").truthy = true
  credentialEnforced : receipt.get "credential_enforced" = .bool true
  teeResultDigest : (receipt.get "tee_result_digest").truthy = true
  gatewayKeyId : receipt.get "gateway_key_id" = .str x.gatewayKeyId
  gatewayKeyId_ne : x.gatewayKeyId ≠ []
  unexpired : Unexpired p now (receipt.get "authorization_expires_at")
  expiry : (receipt.get "authorization_expires_at").truthy = true
  buildConfigId : receipt.get "build_config_id" = .str x.buildConfigId
  buildConfigId_ne : x.buildConfigId ≠ []
  requestHash : x.parameters ≠ .null → receipt.get "request_hash" =
    .str (teeAuthorizationRequestHash p x.toAgentId x.action x.parameters)

/-- The gateway proof comes from the expected key, is accepted as a signed
action and hashes exactly this receipt body. -/
structure GatewayProven (p : Platform) (env : Env) (now : ℚ) (receipt proof : Dict) (gatewayPubkeyHex : Str) :
    Prop where
  present : receipt.get "gateway_proof" = .obj proof
  receiptKey : receipt.get "gateway_public_key_hex" = .str gatewayPubkeyHex
  proofKey : proof.get "public_key_hex" = .str gatewayPubkeyHex
  verified : ∃ err, verifyActionRequest p env now proof receiptAction = .ok (true, err)
  dataHash : proof.get "data_hash" = .str (p.hashJson (.obj (receiptBody receipt)))

theorem parseAuthorizationExpiry_ok {p : Platform} {v : Json} {d : DateTime} :
    parseAuthorizationExpiry p v = .ok d ↔ ∃ t, v = .str t ∧ p.fromisoformat t = some d := by
  unfold parseAuthorizationExpiry
  rw [← parseTime_some]
  cases h : parseTime p v with
  | error e => simp
  | ok d? => cases d? <;> simp

theorem enforced_iff {v : Json} : (match v with
    | .bool true => true
    | _ => false) = true ↔ v = .bool true := by
  cases v with
  | bool b => cases b <;> simp
  | _ => simp

theorem isNull_iff {v : Json} : isNull v = true ↔ v = .null := by
  cases v <;> simp [isNull]

theorem truthy_str {s : Str} : (Json.str s).truthy = true ↔ s ≠ [] := by
  simp [Json.truthy]

theorem checkReceiptBody_ok {p : Platform} {now : ℚ} {receipt : Dict} {x : ExpectedReceipt} {u : Unit} :
    checkReceiptBody p now (receiptBody receipt) x = .ok u ↔ Authorizes p now receipt x := by
  unfold checkReceiptBody
  simp only [bind_ok, require_ok, exists_const, get_receiptBody (k := "v") (by simp [receiptKeys]),
    get_receiptBody (k := "status") (by simp [receiptKeys]),
    get_receiptBody (k := "delegation_id") (by simp [receiptKeys]),
    get_receiptBody (k := "tee_delegation_id") (by simp [receiptKeys]),
    get_receiptBody (k := "to_agent_id") (by simp [receiptKeys]),
    get_receiptBody (k := "action") (by simp [receiptKeys]),
    get_receiptBody (k := "credential_fingerprint") (by simp [receiptKeys]),
    get_receiptBody (k := "credential_enforced") (by simp [receiptKeys]),
    get_receiptBody (k := "build_config_id") (by simp [receiptKeys]),
    get_receiptBody (k := "tee_result_digest") (by simp [receiptKeys]),
    get_receiptBody (k := "gateway_key_id") (by simp [receiptKeys]),
    get_receiptBody (k := "authorization_expires_at") (by simp [receiptKeys]),
    get_receiptBody (k := "request_hash") (by simp [receiptKeys]),
    Json.pyEq_str, enforced_iff, parseAuthorizationExpiry_ok, Bool.or_eq_true, isNull_iff, decide_eq_true_eq]
  constructor
  · rintro ⟨hv, hs, hd, ht, hto, ha, hc, he, -, hr, -, hk, hg, hx, d, ⟨t, htt, htd⟩, hn, hb, hbc, hq⟩
    exact ⟨hv, hs, hd, ht, hto, ha, hc, he, hr, hg, hk, ⟨t, d, htt, htd, hn⟩, hx, hbc, hb, fun hp => hq.resolve_left hp⟩
  · rintro ⟨hv, hs, hd, ht, hto, ha, hc, he, hr, hg, hk, ⟨t, d, htt, htd, hn⟩, hx, hbc, hb, hq⟩
    refine ⟨hv, hs, hd, ht, hto, ha, hc, he, ?_, hr, ?_, hk, hg, hx, d, ⟨t, htt, htd⟩, hn, hb, hbc, ?_⟩
    · rw [hbc]; exact truthy_str.2 hb
    · rw [hg]; exact truthy_str.2 hk
    · by_cases hp : x.parameters = .null
      · exact .inl hp
      · exact .inr (hq hp)

theorem asProof_ok {v : Json} {d : Dict} : asProof v = .ok d ↔ v = .obj d := by
  cases v <;> simp [asProof]

theorem checkGatewayProof_ok {p : Platform} {env : Env} {now : ℚ} {receipt : Dict} {x : ExpectedReceipt} {u : Unit} :
    checkGatewayProof p env now receipt x = .ok u ↔
      ∃ proof, GatewayProven p env now receipt proof x.gatewayPubkeyHex := by
  unfold checkGatewayProof
  simp only [bind_ok, require_ok, exists_const, asProof_ok, Json.pyEq_str, Prod.exists]
  constructor
  · rintro ⟨proof, hp, hr, hk, ok, err, hv, ho, hd⟩
    subst ho
    exact ⟨proof, hp, hr, hk, ⟨err, hv⟩, hd⟩
  · rintro ⟨proof, hp, hr, hk, ⟨err, hv⟩, hd⟩
    exact ⟨proof, hp, hr, hk, true, err, hv, rfl, hd⟩

/-- The receipts that are accepted. -/
theorem verifyTeeAuthorizationReceipt_ok {p : Platform} {env : Env} {now now' : ℚ} {receipt r : Json}
    {x : ExpectedReceipt} :
    verifyTeeAuthorizationReceipt p env now now' receipt x = .ok r ↔ r = receipt ∧ ∃ fs, receipt = .obj fs ∧
      Authorizes p now fs x ∧ ∃ proof, GatewayProven p env now' fs proof x.gatewayPubkeyHex := by
  unfold verifyTeeAuthorizationReceipt
  cases receipt with
  | obj fs =>
    simp only [bind_ok, exists_const, checkReceiptBody_ok, checkGatewayProof_ok, pure_ok, Json.obj.injEq]
    constructor
    · rintro ⟨ha, hg, rfl⟩
      exact ⟨rfl, fs, rfl, ha, hg⟩
    · rintro ⟨rfl, gs, rfl, ha, hg⟩
      exact ⟨ha, hg, rfl⟩
  | _ => simp

/-! ## What a gateway signs -/

/-- The receipt body with the value `f k` under each key `k`. -/
def receiptOf (f : Str → Json) : Dict := receiptKeys.map fun k => (k, f k)

/-- The receipt a gateway issues: the body, the gateway's key and its proof. -/
def Signer.receipt (p : Platform) (g : Signer) (t : ℚ) (nonce : Json) (f : Str → Json) : Dict :=
  receiptOf f ++ Dict.ofList [("gateway_public_key_hex", .str g.publicKeyHex),
    ("gateway_proof", .obj (g.envelope p t (.str receiptAction) nonce (some (.obj (receiptOf f)))))]

section
variable {p : Platform} {g : Signer} {t : ℚ} {nonce : Json} {f : Str → Json}

theorem Signer.get_receipt {k : Str} (hk : k ∈ receiptKeys) : (g.receipt p t nonce f).get k = f k := by
  rw [receipt, Dict.get, Dict.getD, Dict.get?_append, receiptOf, Dict.get?_map hk, Option.some_or, Option.getD_some]

theorem Signer.get_receipt_rest {k : Str} (hk : k ∉ receiptKeys) : (g.receipt p t nonce f).get k =
    (Dict.ofList [("gateway_public_key_hex", .str g.publicKeyHex),
      ("gateway_proof", .obj (g.envelope p t (.str receiptAction) nonce (some (.obj (receiptOf f)))))]).get k := by
  rw [receipt, Dict.get, Dict.getD, Dict.get?_append, receiptOf, Dict.get?_map_of_notMem hk, Option.none_or]
  rfl

theorem receiptBody_receipt : receiptBody (g.receipt p t nonce f) = receiptOf f :=
  List.map_congr_left fun _ hk => by rw [Signer.get_receipt hk]

/-- The proof of an issued receipt is accepted until it expires. -/
theorem gatewayProven_receipt {env : Env} (hg : isMock env = false → KeyPair p g) {d : DateTime}
    (hd : p.fromisoformat (p.isoformat (t + proofTtlSeconds)) = some d) {now : ℚ} (hn : now ≤ d.timestamp) :
    GatewayProven p env now (g.receipt p t nonce f)
      (g.envelope p t (.str receiptAction) nonce (some (.obj (receiptOf f)))) g.publicKeyHex where
  present := by
    rw [Signer.get_receipt_rest (by simp [receiptKeys])]
    simp [Dict.get, Dict.getD]
  receiptKey := by
    rw [Signer.get_receipt_rest (by simp [receiptKeys])]
    simp [Dict.get, Dict.getD]
  proofKey := by simp [Dict.get, Dict.getD, Signer.get?_envelope, Signer.get?_payload]
  verified := ⟨[], by
    have h : verifyActionRequest p env now
        (g.envelope p t (.str receiptAction) nonce (some (.obj (receiptOf f))) ++ []) receiptAction = _ :=
      verifyActionRequest_envelope hg hd hn rfl
    rwa [List.append_nil] at h⟩
  dataHash := by
    rw [receiptBody_receipt]
    simp [Dict.get, Dict.getD, Signer.get?_envelope, Signer.get?_payload]

end

end Adn
