import Adn.Sample
import Adn.DelegationProtocol
/-!
# What a request makes validation raise

`validateDelegationRequest` answers most requests that it does not accept with a
reason, but it reads several fields at a type it has not checked: `fromisoformat`
takes only text, `bytes.fromhex` too, `delegation_data` must be an object and the
times in it numbers. `Readable` says of which fields that is asked and when, and
`validation_returns_iff` that these are the only requests that are answered.
-/

open Lib

namespace Adn

/-! ## The errors of a computation -/

section
variable {ε α β : Type} {P : ε → Prop}

/-- Every error of the computation is one of `P`. -/
def ErrorsIn (P : ε → Prop) (x : Except ε α) : Prop := ∀ e, x = .error e → P e

theorem errorsIn_ok {a : α} : ErrorsIn P (.ok a) := by
  intro e h
  cases h

theorem errorsIn_error {e : ε} : ErrorsIn P (.error e : Except ε α) ↔ P e := by
  constructor
  · intro h
    exact h e rfl
  · rintro h _ ⟨⟩
    exact h

theorem errorsIn_bind {x : Except ε α} {f : α → Except ε β} :
    ErrorsIn P (x >>= f) ↔ ErrorsIn P x ∧ ∀ a, x = .ok a → ErrorsIn P (f a) := by
  cases x with
  | error e => simp [bind, Except.bind, errorsIn_error]
  | ok a => simp [bind, Except.bind, errorsIn_ok]

/-- A computation without errors returns. -/
theorem errorsIn_nothing {x : Except ε α} : ErrorsIn (fun _ => False) x ↔ ∃ a, x = .ok a := by
  cases x with
  | error e => simp [errorsIn_error]
  | ok a => simp [errorsIn_ok]

/-- An early return raises nothing. -/
theorem errorsIn_return {c : Prop} [Decidable c] {a : α} {x : Except ε α} :
    ErrorsIn P (if c then .ok a else x) ↔ (¬c → ErrorsIn P x) := by
  split
  · simp [errorsIn_ok, *]
  · simp [*]

end

/-- `except RuntimeError` catches the error. -/
def Caught : PyErr → Prop
  | .runtimeError _ => True
  | _ => False

theorem require_caught {ok : Bool} {message : Str} : ErrorsIn Caught (require ok message) := by
  intro e h
  rw [require_error h]
  trivial

/-! ## Reading a value at a type -/

def IsText (v : Json) : Prop := ∃ s, v = .str s

/-- Python compares the value with a float. -/
def IsNumber (v : Json) : Prop := ∃ x, v.number? = some x

theorem isNumber_zero {v : Json} (h : v.pyEq zeroTime = true) : IsNumber v := by
  cases v with
  | bool b => exact ⟨_, rfl⟩
  | int n => exact ⟨_, rfl⟩
  | float x => cases x <;> exact ⟨_, rfl⟩
  | _ => simp [Json.pyEq, zeroTime] at h

theorem isNumber_issuedAtOr {now : ℚ} {v : Json} : IsNumber (issuedAtOr now v) ↔ IsNumber v := by
  unfold issuedAtOr
  split
  · rename_i h
    exact iff_of_true ⟨_, rfl⟩ (isNumber_zero h)
  · rfl

theorem isPast_errors {P : PyErr → Prop} (hP : ¬P .typeError) {now : ℚ} {v : Json} :
    ErrorsIn P (isPast now v) ↔ IsNumber v := by
  unfold isPast IsNumber
  cases v.number? with
  | none => simp [errorsIn_error, hP]
  | some x =>
    refine iff_of_true ?_ ⟨x, rfl⟩
    dsimp only
    cases time? x <;> exact errorsIn_ok

theorem addSeconds_errors {P : PyErr → Prop} (hP : ¬P .typeError) {v : Json} {seconds : ℤ} :
    ErrorsIn P (addSeconds v seconds) ↔ IsNumber v := by
  cases v with
  | float x => cases x <;> simp [addSeconds, IsNumber, Json.number?, errorsIn_ok]
  | _ => simp [addSeconds, IsNumber, Json.number?, errorsIn_ok, errorsIn_error, hP]

theorem addSeconds_number {v w : Json} {seconds : ℤ} (h : addSeconds v seconds = .ok w) : IsNumber w := by
  cases v with
  | float x => cases x <;> cases h <;> exact ⟨_, rfl⟩
  | bool b => cases h; exact ⟨_, rfl⟩
  | int n => cases h; exact ⟨_, rfl⟩
  | _ => cases h

theorem parseTime_errors {P : PyErr → Prop} (hP : ¬P .typeError) {p : Platform} {v : Json} :
    ErrorsIn P (parseTime p v) ↔ IsText v := by
  cases v <;> simp [parseTime, IsText, errorsIn_ok, errorsIn_error, hP]

/-! ## The envelope -/

/-- The two fields `verify_action_request` takes for text are text, as far as
it gets to them. -/
structure EnvelopeReadable (p : Platform) (env : Env) (now : ℚ) (proof : Dict) (action : Str) : Prop where
  expiresAt : (∀ f ∈ requiredFields, proof.has f = true) → proof.get "action" = .str action →
    proof.get "audience" = .str audience → IsText (proof.get "expires_at")
  publicKey : isMock env = false → Current p now proof action → IsText (proof.get "public_key_hex")

theorem verifyKey_errors {P : PyErr → Prop} (hP : ¬P .typeError) {p : Platform} {proof : Dict} :
    ErrorsIn P (verifyKey p proof) ↔ IsText (proof.get "public_key_hex") := by
  unfold verifyKey
  cases proof.get "public_key_hex" with
  | str s =>
    refine iff_of_true ?_ ⟨s, rfl⟩
    dsimp only
    cases Hex.fromHex s with
    | none => exact errorsIn_ok
    | some key =>
      rw [errorsIn_return, errorsIn_return]
      intro _ _
      exact errorsIn_ok
  | _ => simp [errorsIn_error, hP, IsText]

theorem verifyActionRequest_errors {P : PyErr → Prop} (hP : ¬P .typeError) {p : Platform} {env : Env} {now : ℚ}
    {proof : Dict} {action : Str} :
    ErrorsIn P (verifyActionRequest p env now proof action) ↔ EnvelopeReadable p env now proof action := by
  unfold verifyActionRequest
  rw [errorsIn_return, errorsIn_return, errorsIn_return]
  have hf : (¬(requiredFields.any fun f => !proof.has f) = true) ↔ ∀ f ∈ requiredFields, proof.has f = true := by
    simp
  rw [hf, Bool.not_eq_true', Bool.not_eq_false, Bool.not_eq_true', Bool.not_eq_false, Json.pyEq_str, Json.pyEq_str]
  constructor
  · intro h
    refine ⟨fun hfields ha hu => ?_, fun hm hc => ?_⟩
    · have hx := h hfields ha hu
      refine (parseTime_errors (p := p) hP).1 fun e he => ?_
      rw [he] at hx
      exact errorsIn_error.1 hx
    · obtain ⟨t, d, ht, hd, hn⟩ := hc.unexpired
      have hx := h hc.fields hc.action hc.audience
      simp only [parseTime_some.2 ⟨t, ht, hd⟩, errorsIn_return, hc.payloadHash, Json.pyEq_str.2, hm] at hx
      exact (verifyKey_errors hP).1 (hx (not_lt.2 hn) (by simp) (by simp))
  · rintro ⟨he, hk⟩ hfields ha hu
    obtain ⟨t, ht⟩ := he hfields ha hu
    cases hd : p.fromisoformat t with
    | none =>
      simp only [ht, parseTime, hd]
      exact errorsIn_ok
    | some d =>
      simp only [ht, parseTime, hd, errorsIn_return]
      intro hn hp hm
      refine (verifyKey_errors hP).2 (hk (by simpa using hm) ⟨hfields, ha, hu, ⟨t, d, ht, hd, not_lt.1 hn⟩, ?_⟩)
      exact Json.pyEq_str.1 (by simpa using hp)

/-! ## The receipt -/

/-- The receipt passes the checks made before its expiry is read. -/
structure Opened (receipt : Dict) (x : ExpectedReceipt) : Prop where
  version : receipt.get "v" = .str receiptVersion
  status : receipt.get "status" = .str "ROUTED"
  delegationId : (receipt.get "delegation_id").pyEq x.delegationId = true
  teeDelegationId : (receipt.get "tee_delegation_id").pyEq x.delegationId = true
  target : (receipt.get "to_agent_id").pyEq x.toAgentId = true
  action : (receipt.get "action").pyEq x.action = true
  credentialFingerprint : (receipt.get "credential_fingerprint").truthy = true
  credentialEnforced : receipt.get "credential_enforced" = .bool true
  buildConfigId : (receipt.get "build_config_id").truthy = true
  teeResultDigest : (receipt.get "tee_result_digest").truthy = true
  gatewayKeyId : receipt.get "gateway_key_id" = .str x.gatewayKeyId
  gatewayKeyId_ne : x.gatewayKeyId ≠ []
  expiry : (receipt.get "authorization_expires_at").truthy = true

/-- The expiry of the receipt is text, as is that of its proof, if they are read. -/
structure ReceiptReadable (p : Platform) (env : Env) (now now' : ℚ) (receipt : Dict) (x : ExpectedReceipt) : Prop where
  expiry : Opened receipt x → IsText (receipt.get "authorization_expires_at")
  proof : Authorizes p now receipt x → ∀ proof : Dict, receipt.get "gateway_proof" = .obj proof →
    receipt.get "gateway_public_key_hex" = .str x.gatewayPubkeyHex →
    proof.get "public_key_hex" = .str x.gatewayPubkeyHex → EnvelopeReadable p env now' proof receiptAction

/-- After a `require` the computation goes on only if it held. -/
theorem require_then {α : Type} {ok : Bool} {message : Str} {f : Unit → Except PyErr α} :
    ErrorsIn Caught (require ok message >>= f) ↔ (ok = true → ErrorsIn Caught (f ())) := by
  simp only [errorsIn_bind, require_caught, require_ok, true_and]
  constructor
  · intro h hok
    exact h () hok
  · intro h _ hok
    exact h hok

theorem parseAuthorizationExpiry_caught {p : Platform} {v : Json} :
    ErrorsIn Caught (parseAuthorizationExpiry p v) ↔ IsText v := by
  have hP : ¬Caught .typeError := id
  rw [← parseTime_errors (p := p) hP]
  unfold parseAuthorizationExpiry
  cases h : parseTime p v with
  | error e => simp [errorsIn_error]
  | ok d? => cases d? <;> simp [errorsIn_ok, errorsIn_error, Caught]

theorem expiry_then {α : Type} {p : Platform} {v : Json} {f : DateTime → Except PyErr α}
    (hf : ∀ d, ErrorsIn Caught (f d)) : ErrorsIn Caught (parseAuthorizationExpiry p v >>= f) ↔ IsText v := by
  rw [errorsIn_bind, parseAuthorizationExpiry_caught]
  exact and_iff_left fun d _ => hf d

theorem checkReceiptBody_caught {p : Platform} {now : ℚ} {receipt : Dict} {x : ExpectedReceipt} :
    ErrorsIn Caught (checkReceiptBody p now (receiptBody receipt) x) ↔
      (Opened receipt x → IsText (receipt.get "authorization_expires_at")) := by
  unfold checkReceiptBody
  simp only [get_receiptBody (k := "v") (by simp [receiptKeys]),
    get_receiptBody (k := "status") (by simp [receiptKeys]),
    get_receiptBody (k := "delegation_id") (by simp [receiptKeys]),
    get_receiptBody (k := "tee_delegation_id") (by simp [receiptKeys]),
    get_receiptBody (k := "to_agent_id") (by simp [receiptKeys]),
    get_receiptBody (k := "action") (by simp [receiptKeys]),
    get_receiptBody (k := "credential_fingerprint") (by simp [receiptKeys]),
    get_receiptBody (k := "credential_enforced") (by simp [receiptKeys]),
    get_receiptBody (k := "build_config_id") (by simp [receiptKeys]),
    get_receiptBody (k := "tee_result_digest") (by simp [receiptKeys]),
    get_receiptBody (k := "gateway_key_id") (by simp [receiptKeys]),
    get_receiptBody (k := "authorization_expires_at") (by simp [receiptKeys])]
  simp only [require_then]
  rw [expiry_then ?_]
  swap
  · intro d
    rw [require_then, require_then, require_then]
    intro _ _ _
    exact require_caught
  simp only [Json.pyEq_str, enforced_iff, decide_eq_true_eq]
  constructor
  · rintro h ⟨hv, hs, hd, ht, hto, ha, hc, he, hb, hr, hg, hk, hx⟩
    exact h hv hs hd ht hto ha hc he hb hr (by rw [hg]; exact truthy_str.2 hk) hk hg hx
  · intro h hv hs hd ht hto ha hc he hb hr _ hk hg hx
    exact h ⟨hv, hs, hd, ht, hto, ha, hc, he, hb, hr, hg, hk, hx⟩

theorem checkGatewayProof_caught {p : Platform} {env : Env} {now : ℚ} {receipt : Dict} {x : ExpectedReceipt} :
    ErrorsIn Caught (checkGatewayProof p env now receipt x) ↔ ∀ proof : Dict, receipt.get "gateway_proof" = .obj proof →
      receipt.get "gateway_public_key_hex" = .str x.gatewayPubkeyHex →
      proof.get "public_key_hex" = .str x.gatewayPubkeyHex → EnvelopeReadable p env now proof receiptAction := by
  have hproof : ErrorsIn Caught (asProof (receipt.get "gateway_proof")) := by
    cases receipt.get "gateway_proof" <;> simp [asProof, errorsIn_ok, errorsIn_error, Caught]
  have hrest : ∀ (proof : Dict) (ok : Bool) (err : Str), ErrorsIn Caught (do
      require ok (Str.ofString "TEE authorization proof invalid: " ++ err)
      require ((proof.get "data_hash").pyEq (.str (p.hashJson (.obj (receiptBody receipt)))))
        "TEE authorization body does not match signed hash") := by
    intro proof ok err
    rw [require_then]
    intro _
    exact require_caught
  unfold checkGatewayProof
  simp only [errorsIn_bind (x := asProof _), hproof, true_and, asProof_ok, require_then, Json.pyEq_str]
  simp only [errorsIn_bind (x := verifyActionRequest ..), verifyActionRequest_errors (P := Caught) id, hrest,
    implies_true, and_true]

/-- Verifying a receipt raises nothing but the `RuntimeError` that validation catches
exactly if what is read as a timestamp is text. -/
theorem verifyTeeAuthorizationReceipt_caught {p : Platform} {env : Env} {now now' : ℚ} {receipt : Json}
    {x : ExpectedReceipt} : ErrorsIn Caught (verifyTeeAuthorizationReceipt p env now now' receipt x) ↔
      ∀ fs : Dict, receipt = .obj fs → ReceiptReadable p env now now' fs x := by
  cases receipt with
  | obj fs =>
    have hbody : checkReceiptBody p now (receiptBody fs) x = .ok () ↔ Authorizes p now fs x := checkReceiptBody_ok
    simp only [verifyTeeAuthorizationReceipt, errorsIn_bind, checkReceiptBody_caught, checkGatewayProof_caught,
      pure, Except.pure, errorsIn_ok, implies_true, and_true, forall_const, hbody, Json.obj.injEq, forall_eq']
    constructor
    · rintro ⟨he, hp⟩
      exact ⟨he, hp⟩
    · rintro ⟨he, hp⟩
      exact ⟨he, hp⟩
  | _ => simp [verifyTeeAuthorizationReceipt, errorsIn_error, Caught]

/-! ## The request -/

/-- `delegation_data` is an object whose expiry is a number, the issue time too
where the expiry is computed from it. -/
def DataReadable (data : Json) : Prop :=
  ∃ fs : Dict, data = .obj fs ∧ IsNumber (fs.getD "expires_at" zeroTime) ∧
    ((fs.getD "expires_at" zeroTime).pyEq zeroTime = true → IsNumber (fs.getD "issued_at" zeroTime))

/-- The envelope is current, signed by the key it names unless `T3_MOCK` is set,
and its `data_hash`, if it has one, is that of its data. -/
structure SignatureVerified (p : Platform) (env : Env) (now : ℚ) (signed : Dict) : Prop where
  current : Current p now signed delegateTask
  signature : isMock env = false → ∃ key, SignedBy p signed key
  dataHash : signed.has "data_hash" = true → signed.get "data_hash" = .str (p.hashJson (delegationData signed))

/-- The request is live and for this receiver, and `receipt` is the receipt it comes with,
checked only where the receiver knows its gateway. -/
structure ReceiptDue (clock : ValidationClock) (ctx : ValidationContext) (request : DelegationRequest)
    (receipt : Dict) : Prop where
  unexpired : request.isExpired clock.expired = .ok false
  target : request.toAgentId = .str ctx.receiverAgentId
  present : request.teeAuthorization = .obj receipt
  receipt_ne : receipt ≠ []
  gatewayPublicKeyHex : ctx.gatewayPublicKeyHex ≠ []
  gatewayKeyId : ctx.gatewayKeyId ≠ []
  buildConfigId : ctx.buildConfigId ≠ []

/-- Every field validation gets to has the type it is read at. -/
structure Readable (p : Platform) (env : Env) (clock : ValidationClock) (ctx : ValidationContext) (signed : Dict) :
    Prop where
  envelope : EnvelopeReadable p env clock.proof signed delegateTask
  data : SignatureVerified p env clock.proof signed → DataReadable (delegationData signed)
  receipt : SignatureVerified p env clock.proof signed → ∀ request receipt,
    DelegationRequest.fromActionRequest clock.postInit signed = .ok request → ReceiptDue clock ctx request receipt →
    ReceiptReadable p env clock.authorization clock.gatewayProof receipt (ctx.expectedReceipt request)

theorem expiresAtOr_errors {P : PyErr → Prop} (hP : ¬P .typeError) {issuedAt expiresAt : Json} :
    ErrorsIn P (expiresAtOr issuedAt expiresAt) ↔ (expiresAt.pyEq zeroTime = true → IsNumber issuedAt) := by
  unfold expiresAtOr
  split
  · rename_i hz
    rw [addSeconds_errors hP]
    exact ⟨fun h _ => h, fun h => h hz⟩
  · rename_i hz
    exact iff_of_true errorsIn_ok fun h => absurd h hz

/-- The expiry a request is given is a number wherever the one that came with it is. -/
theorem expiresAtOr_number {issuedAt expiresAt v : Json} (h : expiresAtOr issuedAt expiresAt = .ok v) :
    IsNumber v ↔ IsNumber expiresAt := by
  unfold expiresAtOr at h
  split at h
  · rename_i hz
    exact iff_of_true (addSeconds_number h) (isNumber_zero hz)
  · cases h
    rfl

theorem fromActionRequest_errors {P : PyErr → Prop} (hP : ¬P .typeError) (hA : ¬P .attributeError) {now : ℚ}
    {signed : Dict} : DataReadable (delegationData signed) ↔
      ErrorsIn P (DelegationRequest.fromActionRequest now signed) ∧
        ∀ request, DelegationRequest.fromActionRequest now signed = .ok request → IsNumber request.expiresAt := by
  unfold DelegationRequest.fromActionRequest
  cases hd : delegationData signed with
  | obj data =>
    have hparts : DataReadable (.obj data) ↔ IsNumber (Dict.getD data "expires_at" zeroTime) ∧
        ((Dict.getD data "expires_at" zeroTime).pyEq zeroTime = true → IsNumber (Dict.getD data "issued_at" zeroTime)) := by
      simp [DataReadable]
    simp only [hparts, asDict, errorsIn_bind, bind_ok, errorsIn_ok, true_and, Except.ok.injEq, forall_eq', exists_eq_left',
      expiresAtOr_errors hP, isNumber_issuedAtOr, pure, Except.pure, implies_true, and_true]
    constructor
    · rintro ⟨hn, hz⟩
      refine ⟨hz, ?_⟩
      rintro _ ⟨v, hv, rfl⟩
      exact (expiresAtOr_number hv).2 hn
    · rintro ⟨hz, hr⟩
      obtain ⟨v, hv⟩ := errorsIn_nothing.1 ((expiresAtOr_errors id).2 fun h => isNumber_issuedAtOr.2 (hz h))
      exact ⟨(expiresAtOr_number hv).1 (hr _ ⟨v, hv, rfl⟩), hz⟩
  | _ => simp [DataReadable, asDict, errorsIn_bind, errorsIn_error, hA]

/-! ## The answer -/

/-- The function returns a reason. -/
def Answered : Reject → Prop
  | .refused _ => True
  | .raised _ => False

theorem check_answered {ok : Bool} {message : Str} : ErrorsIn Answered (check ok message) := by
  unfold check
  split
  · exact errorsIn_ok
  · exact errorsIn_error.2 trivial

theorem check_then {α : Type} {ok : Bool} {message : Str} {f : Unit → Except Reject α} :
    ErrorsIn Answered (check ok message >>= f) ↔ (ok = true → ErrorsIn Answered (f ())) := by
  simp only [errorsIn_bind, check_answered, check_ok, true_and]
  constructor
  · intro h hok
    exact h () hok
  · intro h _ hok
    exact h hok

theorem orRaise_answered {α : Type} {x : Except PyErr α} :
    ErrorsIn Answered (orRaise x) ↔ ErrorsIn (fun _ => False) x := by
  cases x <;> simp [orRaise, errorsIn_ok, errorsIn_error, Answered]

theorem orTeeInvalid_answered {α : Type} {x : Except PyErr α} :
    ErrorsIn Answered (orTeeInvalid x) ↔ ErrorsIn Caught x := by
  cases x with
  | ok a => simp [orTeeInvalid, errorsIn_ok]
  | error e => cases e <;> simp [orTeeInvalid, errorsIn_error, Answered, Caught]

theorem checkTeeAuthorization_answered {p : Platform} {env : Env} {clock : ValidationClock} {ctx : ValidationContext}
    {request : DelegationRequest} : ErrorsIn Answered (checkTeeAuthorization p env clock ctx request) ↔
      ∀ receipt : Dict, request.teeAuthorization = .obj receipt → receipt ≠ [] → ctx.gatewayPublicKeyHex ≠ [] →
        ctx.gatewayKeyId ≠ [] → ctx.buildConfigId ≠ [] →
        ReceiptReadable p env clock.authorization clock.gatewayProof receipt (ctx.expectedReceipt request) := by
  unfold checkTeeAuthorization
  split
  · rename_i ht
    simp only [check_then, errorsIn_bind (x := orTeeInvalid _), orTeeInvalid_answered,
      verifyTeeAuthorizationReceipt_caught, errorsIn_ok, implies_true, and_true, decide_eq_true_eq, pure, Except.pure]
    constructor
    · intro h receipt hr _ hg hk hb
      exact h hg hk hb receipt hr
    · intro h hg hk hb receipt hr
      refine h receipt hr ?_ hg hk hb
      rintro rfl
      rw [hr] at ht
      cases ht
  · rename_i ht
    refine iff_of_true errorsIn_ok fun receipt hr hne => ?_
    cases receipt with
    | nil => exact absurd rfl hne
    | cons f fs => exact absurd (by rw [hr]; rfl) ht

/-- After the TEE authorization is checked, the replay key is computed without fail. -/
theorem replayKey_returns {p : Platform} {env : Env} {clock : ValidationClock} {ctx : ValidationContext} {signed : Dict}
    {request : DelegationRequest} {u : Unit} (h : checkTeeAuthorization p env clock ctx request = .ok u) :
    ErrorsIn (fun _ => False) (replayKey p signed request) := by
  obtain ⟨receipt, hr⟩ : ∃ receipt : Dict, orEmpty request.teeAuthorization = .obj receipt := by
    by_cases ht : request.teeAuthorization.truthy = true
    · obtain ⟨receipt, _, hauth⟩ := checkTeeAuthorization_ok.1 h ht
      exact ⟨receipt, by rw [hauth.present, orEmpty_obj]⟩
    · exact ⟨[], by rw [orEmpty, Json.orElse, if_neg ht]⟩
  exact errorsIn_nothing.2 ⟨_, replayKey_ok.2 ⟨receipt, hr, rfl⟩⟩

/-- The envelope and its data hash pass exactly if the request is `SignatureVerified`. -/
theorem signatureVerified_iff {p : Platform} {env : Env} {now : ℚ} {signed : Dict} :
    SignatureVerified p env now signed ↔
      (∃ err, verifyActionRequest p env now signed delegateTask = .ok (true, err)) ∧ dataUntampered p signed = true := by
  rw [dataUntampered_iff]
  simp only [verifyActionRequest_ok, verifyKey_ok]
  constructor
  · rintro ⟨hc, hs, hd⟩
    refine ⟨⟨[], hc, ?_⟩, hd⟩
    cases hm : isMock env with
    | true => exact .inl ⟨rfl, rfl⟩
    | false => exact .inr ⟨rfl, rfl, hs hm⟩
  · rintro ⟨⟨err, hc, hs⟩, hd⟩
    refine ⟨hc, fun hm => ?_, hd⟩
    rcases hs with ⟨hm', -⟩ | ⟨-, -, hk⟩
    · rw [hm] at hm'
      cases hm'
    · exact hk

theorem accept_answered {p : Platform} {env : Env} {clock : ValidationClock} {ctx : ValidationContext} {signed : Dict} :
    ErrorsIn Answered (accept p env clock ctx signed) ↔ Readable p env clock ctx signed := by
  unfold accept
  have htail : ∀ request, ErrorsIn Answered (do
      checkTeeAuthorization p env clock ctx request
      let key ← orRaise (replayKey p signed request)
      check (key ≠ []) "Delegation request replay key missing"
      return key) ↔ ErrorsIn Answered (checkTeeAuthorization p env clock ctx request) := by
    intro request
    rw [errorsIn_bind]
    refine and_iff_left fun u hu => ?_
    rw [errorsIn_bind, orRaise_answered]
    refine ⟨replayKey_returns hu, fun key _ => ?_⟩
    rw [check_then]
    intro _
    exact errorsIn_ok
  simp only [errorsIn_bind (x := orRaise _), check_then, orRaise_answered, orRaise_ok, Prod.forall]
  constructor
  · rintro ⟨he, h⟩
    refine ⟨(verifyActionRequest_errors id).1 he, fun hv => ?_, fun hv request receipt hr hdue => ?_⟩
    · obtain ⟨⟨err, hok⟩, hd⟩ := signatureVerified_iff.1 hv
      obtain ⟨hfrom, hreq⟩ := h true err hok rfl hd
      exact (fromActionRequest_errors id id).2 ⟨hfrom, fun request hr => (isPast_errors id).1 (hreq request hr).1⟩
    · obtain ⟨⟨err, hok⟩, hd⟩ := signatureVerified_iff.1 hv
      have ht : request.teeAuthorization.truthy = true := by
        rw [hdue.present, Json.truthy, Bool.not_eq_true', List.isEmpty_eq_false_iff]
        exact hdue.receipt_ne
      have htee := ((h true err hok rfl hd).2 request hr).2 false hdue.unexpired rfl (Json.pyEq_str.2 hdue.target)
        (by rw [ht, Bool.not_true, Bool.and_false, Bool.not_false])
      exact checkTeeAuthorization_answered.1 ((htail request).1 htee) receipt hdue.present hdue.receipt_ne
        hdue.gatewayPublicKeyHex hdue.gatewayKeyId hdue.buildConfigId
  · rintro ⟨he, hdata, hreceipt⟩
    refine ⟨(verifyActionRequest_errors id).2 he, ?_⟩
    rintro _ err hok rfl hd
    have hv : SignatureVerified p env clock.proof signed := signatureVerified_iff.2 ⟨⟨err, hok⟩, hd⟩
    obtain ⟨hfrom, hnum⟩ := (fromActionRequest_errors (P := fun _ => False) id id).1 (hdata hv)
    refine ⟨hfrom, fun request hr => ⟨(isPast_errors id).2 (hnum request hr), ?_⟩⟩
    intro expired hexp hlive htarget _
    rw [htail, checkTeeAuthorization_answered]
    intro receipt hp hne hg hk hb
    obtain rfl : expired = false := by simpa using hlive
    exact hreceipt hv request receipt hr ⟨hexp, Json.pyEq_str.1 htarget, hp, hne, hg, hk, hb⟩

/-- Validation answers a request, with a reason or with a key, exactly if the
request is readable: any other makes it raise. -/
theorem validation_returns_iff {p : Platform} {env : Env} {clock : ValidationClock} {ctx : ValidationContext}
    {signed : Dict} :
    ((∃ reason, validateDelegationRequest p env clock ctx signed = .ok (false, reason, none)) ∨
      ∃ message key, key ≠ [] ∧ validateDelegationRequest p env clock ctx signed = .ok (true, message, some key)) ↔
      Readable p env clock ctx signed := by
  rw [← accept_answered]
  unfold validateDelegationRequest
  cases h : accept p env clock ctx signed with
  | ok key =>
    obtain ⟨request, hr⟩ := accept_ok.1 h
    exact iff_of_true (.inr ⟨_, key, hr.key_ne, rfl⟩) errorsIn_ok
  | error r =>
    cases r with
    | refused message => exact iff_of_true (.inl ⟨message, rfl⟩) (errorsIn_error.2 trivial)
    | raised e => simp [errorsIn_error, Answered]

namespace Sample

/-- An envelope with every required field, but a number for the time it expires. -/
def numericExpiry : Dict := requiredFields.map fun f =>
  (f, if f = Str.ofString "action" then .str delegateTask else if f = Str.ofString "audience" then .str audience
    else if f = Str.ofString "expires_at" then .int 0 else .str "x")

def receiver : ValidationContext := ⟨"worker", gateway.publicKeyHex, "g", "b", true⟩

/-- The request is not refused: reading its expiry raises. -/
theorem numeric_expiry_raises :
    validateDelegationRequest platform env ⟨1, 1, 1, 1, 1⟩ receiver numericExpiry = .error .typeError := by
  rfl

end Sample

end Adn
