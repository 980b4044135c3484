import Adn.ParameterBinding
import Adn.ResultBinding
/-!
# Live mode and `T3_MOCK`

With `T3_MOCK` off, no field of a request and no argument of a caller lets live
mode go on without two verified signatures (`live_verified`). With `T3_MOCK` on,
`verify_action_request` does not look at signatures, in live mode either
(`mock_unverified`).
-/

open Lib

namespace Adn

section
variable {p : Platform} {env : Env} {signed rd : Dict}

/-- The embedded receipt has a gateway proof with a verified signature. -/
def GatewayVerified (p : Platform) (receipt : Json) : Prop :=
  ∃ fs proof : Dict, receipt = .obj fs ∧ fs.get "gateway_proof" = .obj proof ∧ ∃ key, SignedBy p proof key

/-- Both signatures of an envelope with a receipt in it were verified. -/
structure Verified (p : Platform) (envelope : Dict) (receipt : Json) : Prop where
  envelope : ∃ key, SignedBy p envelope key
  gateway : GatewayVerified p receipt

theorem gatewayVerified (hm : isMock env = false) {now : ℚ} {receipt proof : Dict} {pub : Str}
    (h : GatewayProven p env now receipt proof pub) : GatewayVerified p (.obj receipt) := by
  obtain ⟨err, hv⟩ := h.verified
  obtain ⟨-, -, hs⟩ := (verifyActionRequest_live hm).1 hv
  exact ⟨receipt, proof, rfl, h.present, hs⟩

theorem Accepted.verified (hm : isMock env = false) {clock : ValidationClock} {ctx : ValidationContext}
    {request : DelegationRequest} {key : Str} (h : Accepted p env clock ctx signed request key)
    (hr : ctx.requireTeeAuthorization = true) : Verified p signed (delegated signed "tee_authorization" .null) := by
  obtain ⟨err, hv⟩ := h.proof
  obtain ⟨-, -, hs⟩ := (verifyActionRequest_live hm).1 hv
  obtain ⟨data, hd, -, -, -, -, -, ht⟩ := fromActionRequest_ok h.reconstructed
  obtain ⟨receipt, proof, htee⟩ := h.teeAuthorized hr
  have hreceipt : delegated signed "tee_authorization" .null = .obj receipt := by
    rw [delegated_of hd, ← htee.present, ht]
    rfl
  exact ⟨hs, hreceipt ▸ gatewayVerified hm htee.proven⟩

/-- In live mode a handler runs for a request that was accepted with a receipt. -/
theorem handlerInvoked_accepted (hl : resolveRuntimeMode env = .ok .live) {agent : Agent} {caller : CallerContext}
    {c : Circumstances} {L : Ledger} {records : Records} {action parameters : Json}
    (h : Effect.handlerInvoked action parameters ∈
      (processDelegationRequest p env agent caller c signed L records).effects) :
    ∃ ctx request key, ctx.requireTeeAuthorization = true ∧
      Accepted p env c.clock.validation ctx signed request key := by
  obtain ⟨request, key, ready, hr, -⟩ := handlerInvoked_iff.1 h
  obtain ⟨-, -, -, auth, message, hauth, hv⟩ := receive_ok.1 hr
  obtain ⟨hmode, -, -, -, htee⟩ := fromTrustedConfig_ok hauth
  obtain ⟨-, request', k, -, hacc⟩ := validateDelegationRequest_ok.1 hv
  exact ⟨_, request', k, htee (Except.ok.inj (hmode.symm.trans hl)), hacc⟩

theorem result_verified (hm : isMock env = false) {cfg : IntegrityConfig} {db : Except PyErr Unit} {clock : ResultClock}
    {proof : Dict} {x : ExpectedResult} {s s' : VerifierState}
    (h : verifyWorkerResult p env cfg db clock proof x s = (.ok rd, s')) :
    Verified p proof (rd.get "tee_authorization") := by
  obtain ⟨_, -, hcheck, -⟩ := verifyWorkerResult_ok.1 h
  obtain ⟨receipt, expected, gatewayProof, -, -, hb⟩ := checkWorkerResult_ok.1 hcheck
  obtain ⟨err, hv⟩ := hb.verified
  obtain ⟨-, -, hs⟩ := (verifyActionRequest_live hm).1 hv
  exact ⟨hs, hb.present ▸ gatewayVerified hm hb.proven⟩

/-- Live mode with `T3_MOCK` off: whatever the caller and the request say, a
handler runs, and a result is returned, only after both signatures were verified. -/
theorem live_verified (p : Platform) {env : Env} (hl : resolveRuntimeMode env = .ok .live) (hm : isMock env = false) :
    (∀ agent caller c signed L records action parameters, Effect.handlerInvoked action parameters ∈
        (processDelegationRequest p env agent caller c signed L records).effects →
      Verified p signed (delegated signed "tee_authorization" .null)) ∧
    ∀ cfg db clock proof x s rd s', verifyWorkerResult p env cfg db clock proof x s = (.ok rd, s') →
      Verified p proof (rd.get "tee_authorization") := by
  constructor
  · intro agent caller c signed L records action parameters h
    obtain ⟨ctx, request, key, hr, hacc⟩ := handlerInvoked_accepted hl h
    exact hacc.verified hm hr
  · intro cfg db clock proof x s rd s' h
    exact result_verified hm h

end

/-! ### A forged request -/

namespace Sample

/-- The signer's name and public key, with another private key. -/
def forger : Signer := { signer with privateKey := List.replicate 32 1 }

def forged : Dict := task forger (taskData "one" (.obj []) (receiptFor "worker" (.obj [])))

/-- A signature verifies under no key with another first byte. -/
theorem verify_sign {a b : UInt8} {m n : List UInt8}
    (h : platform.verify (List.replicate 32 b) m (platform.sign (List.replicate 32 a) n) = true) : a = b := by
  have h : decide (signature (List.replicate 32 a) n = signature (List.replicate 32 b) m) = true := h
  exact Option.some.inj (congrArg List.head? (of_decide_eq_true h))

theorem forged_unsigned : ¬∃ key, SignedBy platform forged key := by
  rintro ⟨key, h⟩
  obtain ⟨pub, hpub, hkey⟩ := h.publicKey
  obtain ⟨s, sig, hs, hsig, -, hv⟩ := h.signature
  have hpub' : forged.get "public_key_hex" = .str signer.publicKeyHex := by
    simp [forged, task, forger, Dict.get, Dict.getD, Dict.get?_append, Signer.get?_envelope, Signer.get?_payload]
  obtain rfl := Json.str.inj (hpub'.symm.trans hpub)
  have hkey' : key = List.replicate 32 7 := by
    have h7 : Hex.fromHex signer.publicKeyHex = some (List.replicate 32 7) := Hex.fromHex_hexLower _
    exact Option.some.inj (hkey.symm.trans h7)
  subst hkey'
  have hsg : forged.get "signature_hex" = .str (Hex.hexLower (platform.sign forger.privateKey (Text.utf8
      (platform.hashJson (.obj (forger.payload platform 0 (.str delegateTask) (.str "n")
        (some (.obj (taskData "one" (.obj []) (receiptFor "worker" (.obj []))))))))))) := by
    simp [forged, task, Dict.get, Dict.getD, Dict.get?_append, Signer.get?_envelope, Signer.get?_payload]
  obtain rfl := Json.str.inj (hsg.symm.trans hs)
  rw [Hex.fromHex_hexLower, Option.some.injEq] at hsig
  subst hsig
  exact absurd (verify_sign hv) (by decide)

/-- In live mode, with `T3_MOCK=true`, the handler runs for a request that nobody signed. -/
theorem mock_unverified : resolveRuntimeMode (taskEnv (some "true")) = .ok .live ∧
    Effect.handlerInvoked (.str "PING") (.obj []) ∈ (processDelegationRequest platform (taskEnv (some "true"))
      gatedWorker gatedCaller circumstances forged Ledger.empty ⟨[], [], []⟩).effects ∧
    ¬∃ key, SignedBy platform forged key := by
  have hm : isMock (taskEnv (some "true")) = true := rfl
  exact ⟨rfl, task_invoked (some "true") (fun hn => by rw [hm] at hn; cases hn) fun _ => rfl,
    forged_unsigned⟩

/-- The signatures behind a genuine request and a genuine result. -/
theorem genuine_verified : Verified platform (pingTask "one" signedParameters)
      (delegated (pingTask "one" signedParameters) "tee_authorization" .null) ∧
    Verified platform result (resultData.get "tee_authorization") := by
  obtain ⟨s', h⟩ := result_returned
  have hv := live_verified platform mode rfl
  exact ⟨hv.1 _ _ _ _ _ _ _ _ (task_invoked none (fun _ => keyPair 7) fun _ => rfl), hv.2 _ _ _ _ _ _ _ _ h⟩

end Sample

end Adn
