import Adn.HonestPipeline
import Adn.ReceiptEncoding
/-!
# A delegation with the executor's receipt

The same delegation, with a receipt that the TypeScript executor signs and sends as
JSON. Between honest parties it completes exactly if everything in the receipt, and
the parameters it is for, is written alike by both languages
(`gateway_delegation_completes_iff`): what is written differently, the worker refuses.
-/

open Lib

namespace Adn.Gateway

section
variable {g : Gateway} {p : Platform} {tv : Json} {teeResult : Props} {d : Delegation} {parameters : Js} {now : ℕ → ℤ}
  {getPublicKey : List UInt8 → List UInt8} {privateKeyHex gatewayKeyId : Option Str} {id : Str} {s : VerifierState} {v : Json}

/-- What is expected of the receipt is what it says, and it is in time on both sides. -/
structure Expects (g : Gateway) (p : Platform) (d : Delegation) (teeResult : Props) (parameters : Js) (now : ℕ → ℤ)
    (id : Str) : Prop where
  id_ne : id ≠ []
  id_encodable : encodable id = true
  worker : Matches g p d.circumstances.clock.validation.authorization
    (Js.loadedProps (g.receiptOf teeResult d.action parameters now)) d.parameters (d.expectedReceipt id)
  coordinator : Matches g p d.resultClock.authorization
    (Js.loadedProps (g.receiptOf teeResult d.action parameters now)) d.parameters (d.expectedReceipt id)
  proofWorker : Unexpired p d.circumstances.clock.validation.gatewayProof (.str (g.isoFromMs (now 2 + 300 * 1000)))
  proofCoordinator : Unexpired p d.resultClock.gatewayProof (.str (g.isoFromMs (now 2 + 300 * 1000)))

theorem Expects.named (h : Expects g p d teeResult parameters now id) :
    (Js.loadedProps (g.receiptOf teeResult d.action parameters now)).get "delegation_id" = .str id :=
  Json.pyEq_str.1 h.worker.authorizes.delegationId

variable (hsha : g.sha256 = p.sha256) (hc : Function.Injective p.sha256) (hiso : ∀ ms, Text.Portable (g.isoFromMs ms))
  (hidentity : loadGatewayIdentity g.sha256 getPublicKey privateKeyHex gatewayKeyId = .ok g.identity)
  (htee : Parsed tv (.obj teeResult)) (hparameters : Parsed (.obj d.parameters) parameters)
include hsha hc hiso hidentity htee hparameters

/-- A receipt that is written alike is one for the delegation. -/
theorem receipted_of_alike (hs : SignsFor g p (getPublicKey g.identity.privateKeyBytes))
    (hx : Expects g p d teeResult parameters now id) (h : WrittenAlike g teeResult d.action d.parameters parameters) :
    d.Receipted p (Js.loadedProps (g.receiptOf teeResult d.action parameters now)) id := by
  obtain ⟨r, hworker⟩ := (accepted_iff hsha hc hiso hidentity hs htee hparameters hx.worker hx.proofWorker).2 h
  obtain ⟨r', hcoordinator⟩ := (accepted_iff hsha hc hiso hidentity hs htee hparameters hx.coordinator
    hx.proofCoordinator).2 h
  obtain ⟨-, fs, hfs, hauthorizes, hproven⟩ := verifyTeeAuthorizationReceipt_ok.1 hworker
  obtain ⟨-, fs', hfs', hauthorizes', hproven'⟩ := verifyTeeAuthorizationReceipt_ok.1 hcoordinator
  obtain rfl := Json.obj.inj hfs
  obtain rfl := Json.obj.inj hfs'
  exact ⟨hx.named, hx.id_ne, hx.id_encodable, hauthorizes, hproven, hauthorizes', hproven'⟩

/-- A delegation that completes with the receipt has had it verified by the coordinator. -/
theorem alike_of_delivered {x : Delivered}
    (h : d.deliver p (Js.loadedProps (g.receiptOf teeResult d.action parameters now)) s = .ok x)
    (hreceipt : x.resultData.get "tee_authorization" =
      .obj (Js.loadedProps (g.receiptOf teeResult d.action parameters now))) :
    WrittenAlike g teeResult d.action d.parameters parameters := by
  obtain ⟨proof, name, s₁, s', hverified⟩ := delivered_verified h
  obtain ⟨_, -, hcheck, -⟩ := verifyWorkerResult_ok.1 hverified
  obtain ⟨receipt, expected, gatewayProof, -, -, hb⟩ := checkWorkerResult_ok.1 hcheck
  obtain rfl := Json.obj.inj (hb.present.symm.trans hreceipt)
  obtain ⟨err, hproof⟩ := hb.proven.verified
  have ha := hb.authorizes
  have hto := Json.pyEq_str.1 ha.target
  have haction := Json.pyEq_str.1 ha.action
  have hrequest := ha.requestHash hb.parameters
  obtain rfl := Json.obj.inj ((receipt_proof ..).symm.trans hb.proven.present)
  refine (hashesAgree_iff hsha hc hiso hidentity htee hparameters).1 ⟨hb.proven.present, hb.proven.dataHash,
    (verifyActionRequest_ok.1 hproof).1.payloadHash, ?_⟩
  rw [hto, haction, hrequest]
  rfl

/-- Between honest parties the executor's receipt carries a delegation to its end exactly if both languages write what is in it
alike. -/
theorem gateway_delegation_completes_iff (hs : SignsFor g p (getPublicKey g.identity.privateKeyBytes))
    (hx : Expects g p d teeResult parameters now id) (hd : d.Honest p v) (ht : d.InTime p)
    (hu : d.Undisturbed p (Js.loadedProps (g.receiptOf teeResult d.action parameters now)) id s) {message : List UInt8}
    {receipt : Props} (h : g.buildSignedReceipt (.obj teeResult) (.str d.action) parameters now = .ok (message, receipt)) :
    (∃ x, d.deliver p (Js.loadedProps receipt) s = .ok x ∧ d.Completes p (Js.loadedProps receipt) id v x) ↔
      WrittenAlike g teeResult d.action d.parameters parameters := by
  obtain ⟨-, rfl⟩ := buildSignedReceipt_ok.1 ⟨message, h⟩
  constructor
  · rintro ⟨x, hx, hcompletes⟩
    exact alike_of_delivered hsha hc hiso hidentity htee hparameters hx hcompletes.teeAuthorization
  · intro halike
    exact delivers hd ht (receipted_of_alike hsha hc hiso hidentity htee hparameters hs hx halike) hu

end

end Adn.Gateway

/-! ### The ping with the executor's receipt -/

namespace Adn.Sample

open Adn.Gateway

theorem signing_public_ne : signingIdentity.publicKeyHex ≠ [] := by
  have h : signingIdentity.publicKeyHex = Hex.hexLower (bufferFromHex (Hex.hexLower (List.replicate 32 9))) := rfl
  rw [h, bufferFromHex_hexLower]
  simp [Hex.hexLower, List.replicate]

/-- The ping, where both sides expect the executor. -/
def executorDelegation : Delegation := { pingDelegation with
  gatewayPublicKeyHex := signingIdentity.publicKeyHex
  gatewayKeyId := "gateway-1" }

/-- What the TEE answers for it. -/
def executorResult : Props := Props.ofList [("delegation_id", .str "d"),
  ("routed_to", .str executorDelegation.worker.identity.agentId), ("status", .str "ROUTED"),
  ("credential_fingerprint", .str "c"), ("credential_enforced", .bool true), ("build_config_id", .str "b"),
  ("authorization_expires_at", .str lateText)]

theorem executorResult_parsed : Parsed (Js.loaded (.obj executorResult)) (.obj executorResult) := by
  refine .obj rfl (by simp [Js.loadedProps, executorResult, Props.ofList, Js.loaded]) ?_ (.refl _)
  simp only [executorResult, Props.ofList, List.map_cons, List.map_nil, Js.loadedProps, Js.loaded, List.zip_cons_cons,
    List.zip_nil_right, List.forall_mem_cons, List.not_mem_nil, IsEmpty.forall_iff, implies_true, and_true]
  exact ⟨.str _, .str _, .str _, .str _, .bool _, .str _, .str _⟩

theorem worker_plain : Text.Plain executorDelegation.worker.identity.agentId :=
  fun u hu => Hex.plain_hexLower _ u (List.mem_of_mem_take hu)

theorem worker_ne : executorDelegation.worker.identity.agentId ≠ [] := by
  simp [executorDelegation, pingDelegation, agentOf, Platform.fingerprint, platform, Hex.hexLower]

theorem executor_signed : ∃ message, signingGateway.buildSignedReceipt (.obj executorResult) (.str "PING") (.obj [])
    (fun _ => 0) = .ok (message, signingGateway.receiptOf executorResult "PING" (.obj []) fun _ => 0) := by
  rw [buildSignedReceipt_ok]
  refine ⟨⟨⟨?_, ?_⟩, ?_, ?_⟩, rfl⟩ <;>
    simp [executorResult, Props.get, Js.falsy, lateText, signingGateway, signingIdentity, worker_ne]

theorem executor_alike : WrittenAlike signingGateway executorResult "PING" [] (.obj []) where
  fields := by
    have hlate : Text.Portable lateText := lateText_portable 0
    have hbool : Alike (.bool true) (.bool true) := .scalar (.bool true)
    simp only [copiedFields, List.forall_mem_cons, List.not_mem_nil, IsEmpty.forall_iff, implies_true, and_true]
    simp [executorResult, Props.get, Js.loaded, alike_str_iff, hlate, hbool, worker_plain.portable]
    exact ⟨(Text.plain_ofString (by decide)).portable, (Text.plain_ofString (by decide)).portable,
      (Text.plain_ofString (by decide)).portable, (Text.plain_ofString (by decide)).portable⟩
  action := (Text.plain_ofString (by decide)).portable
  gatewayKeyId := (Text.plain_ofString (by decide)).portable
  parameters := (@alike_obj_iff [] List.nodup_nil).2 nofun

theorem executor_authorizes : Authorizes platform 1
    (Js.loadedProps (signingGateway.receiptOf executorResult "PING" (.obj []) fun _ => 0))
    { executorDelegation.expectedReceipt "d" with parameters := .null } := by
  have hl : lateText ≠ [] := by simp [lateText]
  have hkey : signingGateway.identity.gatewayKeyId = "gateway-1" := rfl
  have hdigest : ∀ s, signingGateway.sha256hex s ≠ [] := fun s => by
    simp [Gateway.sha256hex, signingGateway, platform, Hex.hexLower]
  have haction : executorDelegation.action = "PING" := rfl
  have hgateway : executorDelegation.gatewayKeyId = "gateway-1" := rfl
  have hbuild : executorDelegation.buildConfigId = "b" := rfl
  constructor
  case gatewayKeyId_ne => simp [Delegation.expectedReceipt, hgateway]
  case buildConfigId_ne => simp [Delegation.expectedReceipt, hbuild]
  case requestHash => exact fun h => absurd rfl h
  case unexpired =>
    rw [get_receipt]
    refine ⟨lateText, ⟨300, some 0⟩, ?_, rfl, one_unexpired⟩
    simp [Gateway.receiptOf, Gateway.bodyOf, Props.get, Props.get?_append, Js.loaded, executorResult]
  all_goals
    rw [get_receipt]
    simp [Gateway.receiptOf, Gateway.bodyOf, Props.get, Props.get?_append, Js.loaded, executorResult,
      Delegation.expectedReceipt, receiptVersion, Json.pyEq_str, Json.truthy, hl, hkey, hdigest, haction, hgateway, hbuild]

theorem executor_matches : Matches signingGateway platform 1
    (Js.loadedProps (signingGateway.receiptOf executorResult "PING" (.obj []) fun _ => 0)) []
    (executorDelegation.expectedReceipt "d") where
  authorizes := executor_authorizes
  toAgentId := by
    rw [receipt_toAgentId]
    simp [executorResult, Props.get, Js.loaded, Delegation.expectedReceipt]
  action := by
    rw [receipt_action]
    rfl
  parameters := rfl
  gatewayPubkeyHex := rfl

theorem executor_expects : Expects signingGateway platform executorDelegation executorResult (.obj []) (fun _ => 0) "d" where
  id_ne := by decide
  id_encodable := by decide
  worker := executor_matches
  coordinator := executor_matches
  proofWorker := routed_unexpired
  proofCoordinator := routed_unexpired

theorem executorDelegation_honest : executorDelegation.Honest platform (.str "pong") :=
  { pingDelegation_honest with gatewayPublicKeyHex := signing_public_ne }

/-- The pong comes back with the executor's receipt too. -/
theorem executor_pong_delivered : ∃ receipt x, executorDelegation.deliver platform receipt freshVerifier = .ok x ∧
    executorDelegation.Completes platform receipt "d" (.str "pong") x := by
  obtain ⟨message, hsigned⟩ := executor_signed
  have hparameters : Parsed (.obj executorDelegation.parameters) (.obj []) := by
    have hnil : executorDelegation.parameters = [] := rfl
    rw [hnil]
    exact @Parsed.obj [] [] [] rfl List.nodup_nil (by simp) (.refl _)
  obtain ⟨x, hx⟩ := (gateway_delegation_completes_iff rfl sha256_injective lateText_portable signingIdentity_loaded
    executorResult_parsed hparameters signingGateway_signs executor_expects
    executorDelegation_honest { pingDelegation_inTime with }
    { pingDelegation_undisturbed (Js.loadedProps (signingGateway.receiptOf executorResult "PING" (.obj []) fun _ => 0)) with
      unseen := fun _ _ _ => rfl
      during := ⟨[elsewhere 0], fun _ => rfl, List.forall_mem_singleton.2 (elsewhere_ne_resultKey _ _ _ _),
        fun _ signed secret _ _ => elsewhere_harmless signed secret⟩ } hsigned).2 executor_alike
  exact ⟨_, x, hx⟩

end Adn.Sample
