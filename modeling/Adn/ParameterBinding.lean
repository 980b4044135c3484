import Adn.ExecutionGate
/-!
# What the gateway's receipt says about the parameters

The receipt's `request_hash` covers the parameters, but `null` parameters are not
compared with it, and the hash does not tell the empty values apart.
`parameters_bound_iff` says that these are the only gaps.
-/

open Lib

namespace Adn

section
variable {p : Platform} {env env' : Env} {signed signed' receipt : Dict}

/-! ## What a request asks for -/

/-- A field of the request's `delegation_data`. -/
def delegated (signed : Dict) (k : Str) (default : Json) : Json :=
  match delegationData signed with
  | .obj data => Dict.getD data k default
  | _ => default

theorem delegated_of {data : Dict} (hd : delegationData signed = .obj data) (k : Str) (default : Json) :
    delegated signed k default = data.getD k default := by
  rw [delegated, hd]

def requestParameters (signed : Dict) : Json := delegated signed "parameters" (.obj [])

/-- The hash of the request with other parameters in place of its own. -/
def requestHashWith (p : Platform) (signed : Dict) (parameters : Json) : Str :=
  teeAuthorizationRequestHash p (delegated signed "to_agent_id" (.str [])) (delegated signed "action" (.str []))
    parameters

/-- The receipt was signed for these parameters of the request. -/
def ReceiptBinds (p : Platform) (signed receipt : Dict) (parameters : Json) : Prop :=
  receipt.get "request_hash" = .str (requestHashWith p signed parameters)

/-- A request accepted with a receipt. -/
structure AcceptedWith (p : Platform) (env : Env) (signed receipt : Dict) : Prop where
  valid : ∃ clock ctx message key, validateDelegationRequest p env clock ctx signed = .ok (true, message, key)
  receipt_eq : delegated signed "tee_authorization" .null = .obj receipt
  receipt_ne : receipt ≠ []

/-- Every parameters value a handler gets for the request is the request's own. -/
def HandlerGets (p : Platform) (env : Env) (signed : Dict) (parameters : Json) : Prop :=
  ∀ agent caller c L records action passed, Effect.handlerInvoked action passed ∈
    (processDelegationRequest p env agent caller c signed L records).effects → passed = parameters

theorem handlerGets : HandlerGets p env signed (requestParameters signed) := by
  intro agent caller c L records action passed h
  obtain ⟨request, key, ready, hr, ha, _, _, _, -, -, -, -, rfl⟩ := handlerInvoked_iff.1 h
  obtain ⟨-, -, _, -, rfl⟩ := authorize_ok.1 ha
  obtain ⟨data, hd, -, -, -, -, hp, -⟩ := fromActionRequest_ok (receive_ok.1 hr).1
  rw [hp, requestParameters, delegated_of hd]

/-! ## What is compared -/

/-- The comparison is made for every value but `null`. -/
theorem AcceptedWith.compared (h : AcceptedWith p env signed receipt) (hn : requestParameters signed ≠ .null) :
    ReceiptBinds p signed receipt (requestParameters signed) := by
  obtain ⟨clock, ctx, message, key, hv⟩ := h.valid
  obtain ⟨-, request, k, -, hacc⟩ := validateDelegationRequest_ok.1 hv
  obtain ⟨data, hd, -, -, hto, ha, hp, ht⟩ := fromActionRequest_ok hacc.reconstructed
  have hr : request.teeAuthorization = .obj receipt := by
    rw [ht, ← h.receipt_eq, delegated_of hd]
    rfl
  obtain ⟨receipt', proof, htee⟩ := hacc.authorized (by
    rw [hr]
    simpa [Json.truthy] using h.receipt_ne)
  obtain rfl : receipt' = receipt := Json.obj.inj (htee.present.symm.trans hr)
  have hrp : requestParameters signed = request.parameters := by rw [hp, requestParameters, delegated_of hd]
  have hx := htee.authorizes.requestHash (show request.parameters ≠ .null by rwa [← hrp])
  rw [ReceiptBinds, hrp, requestHashWith, delegated_of hd, delegated_of hd, ← hto, ← ha, hacc.target]
  exact hx

theorem orEmpty_of_truthy {v : Json} (h : v.truthy = true) : orEmpty v = v := by
  rw [orEmpty, Json.orElse, if_pos h]

theorem orEmpty_of_falsy {v : Json} (h : v.truthy = false) : orEmpty v = .obj [] := by
  rw [orEmpty, Json.orElse, h, if_neg (by simp)]

/-- To the hash every empty value is `{}`. -/
theorem receiptBinds_falsy {v : Json} (h : v.truthy = false) :
    ReceiptBinds p signed receipt v ↔ ReceiptBinds p signed receipt (.obj []) := by
  have he : requestHashWith p signed v = requestHashWith p signed (.obj []) := by
    rw [requestHashWith, requestHashWith, teeAuthorizationRequestHash, teeAuthorizationRequestHash, orEmpty_of_falsy h,
      orEmpty_obj]
  rw [ReceiptBinds, ReceiptBinds, he]

/-- If SHA-256 has no collision, two requests accepted with one receipt have the
parameters the gateway signed, and the same, exactly when both have non-empty
parameters, or both the same empty value, `null` being signed as `{}`. Handlers
get these parameters in any case. -/
theorem parameters_bound_iff (hc : Function.Injective p.sha256) (h : AcceptedWith p env signed receipt)
    (h' : AcceptedWith p env' signed' receipt) :
    HandlerGets p env signed (requestParameters signed) ∧ HandlerGets p env' signed' (requestParameters signed') ∧
    ((ReceiptBinds p signed receipt (requestParameters signed) ∧ ReceiptBinds p signed' receipt (requestParameters signed') ∧
        Json.Same (requestParameters signed) (requestParameters signed')) ↔
      ((requestParameters signed).truthy = true ∧ (requestParameters signed').truthy = true) ∨
      ((requestParameters signed).truthy = false ∧ Json.Same (requestParameters signed) (requestParameters signed') ∧
        (requestParameters signed = .null →
          ReceiptBinds p signed receipt (.obj []) ∧ ReceiptBinds p signed' receipt (.obj [])))) := by
  refine ⟨handlerGets, handlerGets, ?_, ?_⟩
  · rintro ⟨hb, hb', hs⟩
    cases ht : (requestParameters signed).truthy with
    | true => exact .inl ⟨rfl, hs.truthy.symm.trans ht⟩
    | false =>
      have ht' : (requestParameters signed').truthy = false := hs.truthy.symm.trans ht
      exact .inr ⟨rfl, hs, fun _ => ⟨(receiptBinds_falsy ht).1 hb, (receiptBinds_falsy ht').1 hb'⟩⟩
  · rintro (⟨ht, ht'⟩ | ⟨ht, hs, hn⟩)
    · have hne : ∀ {v : Json}, v.truthy = true → v ≠ .null := by
        rintro _ hv rfl
        cases hv
      have hb := h.compared (hne ht)
      have hb' := h'.compared (hne ht')
      have hs := requestHash_parameters hc (Json.str.inj (hb.symm.trans hb'))
      rw [orEmpty_of_truthy ht, orEmpty_of_truthy ht'] at hs
      exact ⟨hb, hb', hs⟩
    · have ht' : (requestParameters signed').truthy = false := hs.truthy.symm.trans ht
      by_cases hnull : requestParameters signed = .null
      · obtain ⟨he, he'⟩ := hn hnull
        exact ⟨(receiptBinds_falsy ht).2 he, (receiptBinds_falsy ht').2 he', hs⟩
      · exact ⟨h.compared hnull, h'.compared fun hnull' => hnull (Json.Same.eq_null (hnull' ▸ hs)), hs⟩

end

/-! ### Parameters that the gateway did not sign -/

namespace Sample

def signedParameters : Json := .obj (Dict.ofList [("x", .int 1)])

/-- A task with the receipt for `signedParameters`. -/
def pingTask (description : Str) (parameters : Json) : Dict :=
  task signer (taskData description parameters (receiptFor "worker" signedParameters))

theorem requestParameters_task (description : Str) (parameters : Json) :
    requestParameters (pingTask description parameters) = parameters := by
  rw [requestParameters, pingTask, delegated_of (delegationData_task _)]
  simp [taskData, Dict.getD]

theorem pingTask_accepted (description : Str) {parameters : Json} (h : parameters = signedParameters ∨ parameters = .null) :
    AcceptedWith platform liveEnv (pingTask description parameters) (receiptFor "worker" signedParameters) where
  valid := by
    obtain ⟨-, hv⟩ := @task_valid signer parameters signedParameters description liveEnv (fun _ => keyPair 7)
      fun hn => by rw [h.resolve_right hn]
    exact ⟨_, _, _, _, hv⟩
  receipt_eq := by
    rw [pingTask, delegated_of (delegationData_task _)]
    simp [taskData, Dict.getD]
  receipt_ne := by
    intro hn
    have := congrArg List.length hn
    simp [receiptFor, Signer.receipt, receiptOf, receiptKeys] at this

/-- Two requests with the parameters the gateway signed. -/
theorem parameters_bound : ReceiptBinds platform (pingTask "one" signedParameters) (receiptFor "worker" signedParameters)
    signedParameters ∧ Json.Same (requestParameters (pingTask "one" signedParameters))
      (requestParameters (pingTask "two" signedParameters)) := by
  have h := (parameters_bound_iff sha256_injective (pingTask_accepted "one" (.inl rfl))
    (pingTask_accepted "two" (.inl rfl))).2.2.2 (.inl (by simp only [requestParameters_task]; exact ⟨rfl, rfl⟩))
  rw [requestParameters_task] at h ⊢
  exact ⟨h.1, h.2.2⟩

/-- A request with that receipt and with `null` parameters: it is accepted, and the handler gets `null`. -/
theorem null_not_bound :
    isMock liveEnv = false ∧ Function.Injective platform.sha256 ∧
    AcceptedWith platform liveEnv (pingTask "one" signedParameters) (receiptFor "worker" signedParameters) ∧
    AcceptedWith platform liveEnv (pingTask "two" .null) (receiptFor "worker" signedParameters) ∧
    Effect.handlerInvoked (.str "PING") .null ∈ (processDelegationRequest platform liveEnv gatedWorker gatedCaller
      circumstances (pingTask "two" .null) Ledger.empty ⟨[], [], []⟩).effects ∧
    ¬ReceiptBinds platform (pingTask "two" .null) (receiptFor "worker" signedParameters) .null ∧
    ¬Json.Same (requestParameters (pingTask "one" signedParameters)) (requestParameters (pingTask "two" .null)) := by
  refine ⟨rfl, sha256_injective, pingTask_accepted "one" (.inl rfl), pingTask_accepted "two" (.inr rfl),
    task_invoked none (fun _ => keyPair 7) fun hn => absurd rfl hn, fun hb => ?_, fun hs => ?_⟩
  · have hr : (receiptFor "worker" signedParameters).get "request_hash" = .str (teeAuthorizationRequestHash platform
        (.str "worker") (.str "PING") signedParameters) := by
      rw [receiptFor, Signer.get_receipt (by simp [receiptKeys])]
      simp [receiptValuesFor, Dict.get, Dict.getD]
    have hs := requestHash_parameters sha256_injective (Json.str.inj (hr.symm.trans hb))
    exact absurd hs.truthy (by simp [signedParameters, orEmpty, Json.orElse, Json.truthy, Dict.ofList])
  · rw [requestParameters_task, requestParameters_task] at hs
    exact absurd hs.truthy (by simp [signedParameters, Json.truthy, Dict.ofList])

end Sample

end Adn
