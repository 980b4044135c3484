import Adn.RequestAuthenticity
/-!
# What a request's signature covers

`data_hash` binds `delegation_data` to the envelope's signature, but only if the
signer put it there: validation compares it where it is and accepts an envelope
without one. The result side (`verify_worker_result`) requires it.
`payload_bound_tfae` says that this is the only gap.
-/

open Lib

namespace Adn

section
variable {p : Platform} {env : Env} {signed signed' : Dict}

/-! ## What verification reads -/

/-- Envelopes with the same signed fields and signature. -/
def SameEnvelope (signed signed' : Dict) : Prop :=
  ∀ k ∈ Str.ofString "data_hash" :: requiredFields, signed.get? k = signed'.get? k

theorem SameEnvelope.set (signed : Dict) (v : Json) : SameEnvelope signed (signed.set "delegation_data" v) := by
  intro k hk
  have hne : k ≠ Str.ofString "delegation_data" := by
    rintro rfl
    simp [requiredFields] at hk
  rw [Dict.get?_set_ne signed v hne]

theorem delegationData_set (signed : Dict) (v : Json) : delegationData (signed.set "delegation_data" v) = v := by
  rw [delegationData, Dict.getD, Dict.get?_set_self, Option.getD_some]

theorem mem_payloadKeys {k : Str} (hk : k ∈ payloadKeys signed) : k ∈ Str.ofString "data_hash" :: requiredFields := by
  have hnames : ∀ k ∈ requiredFields.take 8, k ∈ requiredFields := fun k hk => List.mem_of_mem_take hk
  rw [payloadKeys] at hk
  split at hk
  · rcases List.mem_append.1 hk with hk | hk
    · exact List.mem_cons_of_mem _ (hnames k hk)
    · rw [List.mem_singleton.1 hk]
      exact List.mem_cons_self
  · exact List.mem_cons_of_mem _ (hnames k hk)

/-- Verification reads nothing but the signed fields and the signature. -/
theorem verifyActionRequest_congr (h : SameEnvelope signed signed') (now : ℚ) (action : Str) :
    verifyActionRequest p env now signed action = verifyActionRequest p env now signed' action := by
  have hget : ∀ k ∈ Str.ofString "data_hash" :: requiredFields, signed.get k = signed'.get k := fun k hk => by
    rw [Dict.get, Dict.get, Dict.getD, Dict.getD, h k hk]
  have hhas : ∀ k ∈ Str.ofString "data_hash" :: requiredFields, signed.has k = signed'.has k := fun k hk => by
    rw [Dict.has, Dict.has, h k hk]
  have hfields : (requiredFields.any fun f => !signed.has f) = requiredFields.any fun f => !signed'.has f := by
    rw [Bool.eq_iff_iff, List.any_eq_true, List.any_eq_true]
    exact exists_congr fun f => and_congr_right fun hf => by rw [hhas f (List.mem_cons_of_mem _ hf)]
  have hpayload : payloadHash p signed = payloadHash p signed' := by
    have hkeys : payloadKeys signed = payloadKeys signed' := by
      rw [payloadKeys, payloadKeys, hhas _ (List.mem_cons_self ..)]
    rw [payloadHash, payloadHash, payloadFields, payloadFields, hkeys]
    rw [List.map_congr_left fun k hk => by rw [hget k (mem_payloadKeys hk)]]
  simp only [verifyActionRequest, verifyKey, verifySignature, hfields, hpayload, hget "action" (by simp [requiredFields]),
    hget "audience" (by simp [requiredFields]), hget "expires_at" (by simp [requiredFields]),
    hget "payload_hash" (by simp [requiredFields]), hget "public_key_hex" (by simp [requiredFields]),
    hget "agent_id" (by simp [requiredFields]), hget "signature_hex" (by simp [requiredFields])]

/-! ## A payload nobody signed -/

/-- A key longer than those of `data` and those a request is read from. -/
def unusedKey (data : Dict) : Str := List.replicate (32 + (data.map fun f => f.1.length).sum) 0x61

/-- `data` with one more field, which no one reads. -/
def padded (data : Dict) : Dict := data ++ [(unusedKey data, .null)]

theorem getD_padded (data : Dict) {k : Str} (hk : k.length < 32) (v : Json) : (padded data).getD k v = data.getD k v := by
  have hne : unusedKey data ≠ k := by
    rintro rfl
    rw [unusedKey, List.length_replicate] at hk
    omega
  rw [padded, Dict.getD, Dict.getD, Dict.get?_append, Dict.get?_cons, if_neg hne, Dict.get?_nil, Option.or_none]

theorem padded_not_same (data : Dict) : ¬Json.Same (.obj (padded data)) (.obj data) := by
  intro h
  rw [Json.Same, Json.normalize_obj, Json.normalize_obj] at h
  have hl := congrArg List.length (Json.obj.inj h)
  simp [sortFields, padded] at hl

theorem fromActionRequest_padded {data : Dict} (hd : delegationData signed = .obj data) (now : ℚ) :
    DelegationRequest.fromActionRequest now (signed.set "delegation_data" (.obj (padded data))) =
      DelegationRequest.fromActionRequest now signed := by
  have hn : (signed.set "delegation_data" (.obj (padded data))).getD "nonce" (.str []) = signed.getD "nonce" (.str []) := by
    rw [Dict.getD, Dict.getD, Dict.get?_set_ne]
    simp
  rw [DelegationRequest.fromActionRequest, DelegationRequest.fromActionRequest, delegationData_set, hd, hn]
  have hb : ∀ {α : Type} (d : Dict) (f : Dict → Except PyErr α), (asDict (.obj d) >>= f) = f d := fun _ _ => rfl
  simp (disch := decide +kernel) only [hb, Dict.get, getD_padded]

theorem replayKey_same_receipt (signed' : Dict) {request : DelegationRequest} {key : Str}
    (h : replayKey p signed request = .ok key) : ∃ key', replayKey p signed' request = .ok key' := by
  obtain ⟨receipt, hr, -⟩ := replayKey_ok.1 h
  exact ⟨_, replayKey_ok.2 ⟨receipt, hr, rfl⟩⟩

/-- The same envelope without a `data_hash` is valid with a padded payload. -/
theorem padded_valid (hn : ∀ bs, p.sha256 bs ≠ []) {clock : ValidationClock} {ctx : ValidationContext}
    {request : DelegationRequest} {key : Str} (h : Accepted p env clock ctx signed request key)
    (hh : signed.has "data_hash" = false) {data : Dict} (hd : delegationData signed = .obj data) :
    ∃ key, Accepted p env clock ctx (signed.set "delegation_data" (.obj (padded data))) request key := by
  have hsame := SameEnvelope.set signed (.obj (padded data))
  obtain ⟨err, hv⟩ := h.proof
  obtain ⟨key', hk⟩ := replayKey_same_receipt (signed.set "delegation_data" (.obj (padded data))) h.key_eq
  refine ⟨key', ⟨err, ?_⟩, ?_, ?_, h.unexpired, h.target, h.required, h.authorized, hk, ?_⟩
  · rw [← verifyActionRequest_congr hsame, hv]
  · rw [Dict.has, ← hsame _ List.mem_cons_self]
    intro hc
    rw [Dict.has] at hh
    rw [hh] at hc
    cases hc
  · rw [fromActionRequest_padded hd, h.reconstructed]
  · obtain ⟨receipt, -, rfl⟩ := replayKey_ok.1 hk
    exact p.hashJson_ne hn _

/-! ## When the payload is bound -/

/-- If SHA-256 has no collision, a valid request's `delegation_data` can be
replaced by no other, nor be carried by another valid request with the same
envelope, exactly when the envelope has a `data_hash`. -/
theorem payload_bound_tfae (hc : Function.Injective p.sha256) (hn : ∀ bs, p.sha256 bs ≠ [])
    {clock : ValidationClock} {ctx : ValidationContext} {message : Str} {key : Option Str}
    (h : validateDelegationRequest p env clock ctx signed = .ok (true, message, key)) :
    [∀ v clock' ctx' message' key', validateDelegationRequest p env clock' ctx' (signed.set "delegation_data" v) =
        .ok (true, message', key') → Json.Same v (delegationData signed),
      ∀ signed' clock' ctx' message' key', SameEnvelope signed signed' →
        validateDelegationRequest p env clock' ctx' signed' = .ok (true, message', key') →
          Json.Same (delegationData signed') (delegationData signed),
      signed.has "data_hash" = true].TFAE := by
  obtain ⟨-, request, k, -, hacc⟩ := validateDelegationRequest_ok.1 h
  tfae_have 2 → 1 := fun h2 v clock' ctx' message' key' hv => by
    simpa only [delegationData_set] using h2 _ clock' ctx' message' key' (SameEnvelope.set signed v) hv
  tfae_have 1 → 3 := by
    intro h1
    by_contra hh
    obtain ⟨data, hd, -⟩ := fromActionRequest_ok hacc.reconstructed
    obtain ⟨key', hacc'⟩ := padded_valid hn hacc (Bool.not_eq_true _ ▸ hh) hd
    have hs := h1 _ clock ctx _ (some key') (validateDelegationRequest_ok.2 ⟨rfl, request, key', rfl, hacc'⟩)
    rw [hd] at hs
    exact padded_not_same data hs
  tfae_have 3 → 2 := by
    intro hh signed' clock' ctx' message' key' hs hv
    obtain ⟨-, request', k', -, hacc'⟩ := validateDelegationRequest_ok.1 hv
    have hh' : signed'.has "data_hash" = true := by rwa [Dict.has, ← hs _ List.mem_cons_self]
    refine p.hashJson_inj hc (Json.str.inj ?_)
    rw [← hacc'.dataHash hh', ← hacc.dataHash hh, Dict.get, Dict.get, Dict.getD, Dict.getD, hs _ List.mem_cons_self]
  tfae_finish

end

namespace Sample

/-- A request whose envelope binds its payload. -/
theorem bound_payload : (bound "a").has "data_hash" = true ∧ ∀ v clock' ctx' message' key',
    validateDelegationRequest platform env clock' ctx' ((bound "a").set "delegation_data" v) =
      .ok (true, message', key') → Json.Same v (delegationData (bound "a")) := by
  have hb : (bound "a").has "data_hash" = true := by
    simp [bound, request, Dict.has, Dict.get?_append, Signer.get?_envelope, Signer.get?_payload]
  obtain ⟨key, hv⟩ := request_valid "a" .null _ (.inr rfl)
  exact ⟨hb, ((payload_bound_tfae sha256_injective (by simp [platform]) hv).out 0 2).2 hb⟩

theorem request_set (data : Option Json) (dd dd' : Dict) :
    (request data dd).set "delegation_data" (.obj dd') = request data dd' := by
  cases data <;>
    simp [request, Dict.set, Signer.envelope, Signer.payload, envelopePayload, Dict.ofList]

/-- One envelope, valid with either of two payloads. -/
theorem payload_replaced :
    isMock env = false ∧ Function.Injective platform.sha256 ∧
    (∃ message key, validateDelegationRequest platform env clock ctx (request none (pingData "a" (.int 1))) =
      .ok (true, message, key)) ∧
    (∃ message key, validateDelegationRequest platform env clock ctx
      ((request none (pingData "a" (.int 1))).set "delegation_data" (.obj (pingData "a" (.int 1000)))) =
      .ok (true, message, key)) ∧
    ¬Json.Same (.obj (pingData "a" (.int 1000))) (delegationData (request none (pingData "a" (.int 1)))) := by
  obtain ⟨key, hv⟩ := request_valid "a" (.int 1) none (.inl rfl)
  obtain ⟨key', hv'⟩ := request_valid "a" (.int 1000) none (.inl rfl)
  refine ⟨rfl, sha256_injective, ⟨_, key, hv⟩, ⟨_, key', by rw [request_set]; exact hv'⟩, fun hs => ?_⟩
  rw [delegationData_request] at hs
  exact absurd (Json.dumps_congr hs) (by decide +kernel)

end Sample
end Adn
