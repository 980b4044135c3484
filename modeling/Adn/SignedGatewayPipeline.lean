import Adn.SignedGatewayRun
/-!
# When a run with signed receipts completes

Where the TEE routes both delegations, messages are in time and no one else works under
the keys of the run, `runAdnWithSignedGateway` completes exactly if both languages write
alike what the executor signs: the fields that a receipt repeats, the gateway's key id and
the name of the file of sales, and no warning about the policy's file stands before what the
script prints (`signed_run_completes_iff`). The figures themselves do no harm: in cents, they
are written alike once the bridge has relayed them.
-/

open Lib

namespace Adn

/-! ## A receipt for a routed delegation -/

namespace Gateway

section
variable {g : Gateway} {p : Platform} {d : Delegation} {teeResult : Props} {parameters : Js} {now : ℕ → ℤ} {id : Str} {time : ℚ}

/-- A receipt repeats fields of the TEE's result. -/
theorem receipt_repeats (hn : (teeResult.map (·.1)).Nodup) (k k' : String) (h : (k, k') ∈ [("status", "status"),
      ("delegation_id", "delegation_id"), ("tee_delegation_id", "delegation_id"), ("to_agent_id", "routed_to"),
      ("credential_fingerprint", "credential_fingerprint"), ("credential_enforced", "credential_enforced"),
      ("build_config_id", "build_config_id"), ("authorization_expires_at", "authorization_expires_at")]) (action : Str) :
    (Js.loadedProps (g.receiptOf teeResult action parameters now)).get k = (Js.loadedProps teeResult).get k' := by
  rw [get_receipt, Js.get_loadedProps hn]
  simp only [List.mem_cons, Prod.mk.injEq, List.not_mem_nil, or_false] at h
  rcases h with ⟨rfl, rfl⟩ | ⟨rfl, rfl⟩ | ⟨rfl, rfl⟩ | ⟨rfl, rfl⟩ | ⟨rfl, rfl⟩ | ⟨rfl, rfl⟩ | ⟨rfl, rfl⟩ | ⟨rfl, rfl⟩ <;>
    simp [receiptOf, bodyOf, Props.get, Props.get?_append]

/-- The receipt says what is expected of it. -/
theorem matches_of_enforced (hsha : ∀ bs, g.sha256 bs ≠ []) (hn : (teeResult.map (·.1)).Nodup)
    (hpublic : d.gatewayPublicKeyHex = g.identity.publicKeyHex) (hkey : d.gatewayKeyId = g.identity.gatewayKeyId)
    (hkey_ne : g.identity.gatewayKeyId ≠ [])
    (henforced : Enforced (Js.loadedProps teeResult) d.worker.identity.agentId d.buildConfigId)
    (hnamed : (Js.loadedProps teeResult).get "delegation_id" = .str id)
    (hunexpired : Unexpired p time ((Js.loadedProps teeResult).get "authorization_expires_at")) :
    Matches g p time (Js.loadedProps (g.receiptOf teeResult d.action parameters now)) d.parameters (d.expectedReceipt id) where
  authorizes := {
    version := by
      rw [get_receipt]
      simp [receiptOf, bodyOf, Props.get, Props.get?_append, Js.loaded, receiptVersion]
    status := by rw [receipt_repeats hn "status" "status" (by simp), henforced.status]
    delegationId := by rw [receipt_repeats hn "delegation_id" "delegation_id" (by simp), hnamed]; exact Json.pyEq_str.2 rfl
    teeDelegationId := by rw [receipt_repeats hn "tee_delegation_id" "delegation_id" (by simp), hnamed]; exact Json.pyEq_str.2 rfl
    target := by rw [receipt_repeats hn "to_agent_id" "routed_to" (by simp), henforced.target]; exact Json.pyEq_str.2 rfl
    action := by rw [receipt_action]; exact Json.pyEq_str.2 rfl
    credentialFingerprint := by
      rw [receipt_repeats hn "credential_fingerprint" "credential_fingerprint" (by simp)]
      exact henforced.credentialFingerprint
    credentialEnforced := by
      rw [receipt_repeats hn "credential_enforced" "credential_enforced" (by simp), henforced.credentialEnforced]
    teeResultDigest := by
      rw [get_receipt]
      simp [receiptOf, bodyOf, Props.get, Props.get?_append, Js.loaded, truthy_str, Gateway.sha256hex, Hex.hexLower_ne (hsha _)]
    gatewayKeyId := by
      rw [get_receipt]
      simp [receiptOf, bodyOf, Props.get, Props.get?_append, Js.loaded, Delegation.expectedReceipt, hkey]
    gatewayKeyId_ne := fun h => hkey_ne (hkey.symm.trans h)
    unexpired := by
      rw [receipt_repeats hn "authorization_expires_at" "authorization_expires_at" (by simp)]
      exact hunexpired
    expiry := by
      rw [receipt_repeats hn "authorization_expires_at" "authorization_expires_at" (by simp)]
      exact henforced.expiry
    buildConfigId := by rw [receipt_repeats hn "build_config_id" "build_config_id" (by simp), henforced.build]; rfl
    buildConfigId_ne := henforced.buildConfigId_ne
    requestHash := fun h => absurd rfl h }
  toAgentId := by rw [receipt_repeats hn "to_agent_id" "routed_to" (by simp), henforced.target]; rfl
  action := by rw [receipt_action]; rfl
  parameters := rfl
  gatewayPubkeyHex := hpublic

end

end Gateway

/-! ## One pass -/

/-- The TEE has routed this delegation, its receipt and its messages are in time. -/
structure Encounter.MeetsSigned (p : Platform) (g : Gateway) (d : Delegation) (teeResult : Props) (now : ℕ → ℤ) (id : Str)
    (e : Encounter) : Prop where
  enforced : Enforced (Js.loadedProps teeResult) d.worker.identity.agentId d.buildConfigId
  named : (Js.loadedProps teeResult).get "delegation_id" = .str id
  id_ne : id ≠ []
  id_encodable : encodable id = true
  unexpiredWorker : Unexpired p d.circumstances.clock.validation.authorization
    ((Js.loadedProps teeResult).get "authorization_expires_at")
  unexpiredCoordinator : Unexpired p d.resultClock.authorization ((Js.loadedProps teeResult).get "authorization_expires_at")
  proofWorker : Unexpired p d.circumstances.clock.validation.gatewayProof (.str (g.isoFromMs (now 2 + 300 * 1000)))
  proofCoordinator : Unexpired p d.resultClock.gatewayProof (.str (g.isoFromMs (now 2 + 300 * 1000)))
  inTime : d.InTime p
  dbBegin : e.circumstances.dbBegin = .ok ()
  dbFinalize : e.circumstances.dbFinalize = .ok ()
  dbResult : e.dbResult = .ok ()

section
variable {p : Platform} {g : Gateway} {r : RunnerInput} {σ : Session} {phase : ExecutionPhase} {name : Str} {d : Delegation}
  {e : Encounter} {s : VerifierState} {teeResult : Props} {parameters : Js} {now : ℕ → ℤ} {id : Str} {receipts : Dict} {v : Json}
  {result : Dict}

/-- Only the gateway's signature is made at another time. -/
theorem Encounter.Meets.signed (h : e.Meets p d (Js.loadedProps teeResult) id)
    (hworker : Unexpired p d.circumstances.clock.validation.gatewayProof (.str (g.isoFromMs (now 2 + 300 * 1000))))
    (hcoordinator : Unexpired p d.resultClock.gatewayProof (.str (g.isoFromMs (now 2 + 300 * 1000)))) :
    e.MeetsSigned p g d teeResult now id :=
  { h with
    proofWorker := hworker
    proofCoordinator := hcoordinator }

theorem Encounter.MeetsSigned.expects (h : e.MeetsSigned p g d teeResult now id) (hsha : ∀ bs, g.sha256 bs ≠ [])
    (hn : (teeResult.map (·.1)).Nodup) (hpublic : d.gatewayPublicKeyHex = g.identity.publicKeyHex)
    (hkey : d.gatewayKeyId = g.identity.gatewayKeyId) (hkey_ne : g.identity.gatewayKeyId ≠ []) :
    Gateway.Expects g p d teeResult parameters now id where
  id_ne := h.id_ne
  id_encodable := h.id_encodable
  worker := Gateway.matches_of_enforced hsha hn hpublic hkey hkey_ne h.enforced h.named h.unexpiredWorker
  coordinator := Gateway.matches_of_enforced hsha hn hpublic hkey hkey_ne h.enforced h.named h.unexpiredCoordinator
  proofWorker := h.proofWorker
  proofCoordinator := h.proofCoordinator

/-- The executor signs for a delegation that the TEE has routed. -/
theorem Encounter.MeetsSigned.signed (h : e.MeetsSigned p g d teeResult now id) (hn : (teeResult.map (·.1)).Nodup)
    (hkey_ne : g.identity.gatewayKeyId ≠ []) (hworker : d.worker.identity.agentId ≠ []) (action : Str) :
    ∃ message, g.buildSignedReceipt (.obj teeResult) (.str action) parameters now =
      .ok (message, g.receiptOf teeResult action parameters now) := by
  have hfalsy : ∀ (k : String) {t : Str}, (Js.loadedProps teeResult).get k = .str t → t ≠ [] → (teeResult.get k).falsy = false := by
    intro k t hk ht
    rw [Js.get_loadedProps hn, Js.loaded_eq_str] at hk
    rw [hk]
    simpa [Js.falsy] using ht
  obtain ⟨t, -, ht, -⟩ := h.unexpiredWorker
  rw [Gateway.buildSignedReceipt_ok]
  refine ⟨⟨⟨hfalsy _ h.named h.id_ne, hfalsy _ h.enforced.target hworker⟩, hkey_ne, hfalsy _ ht ?_⟩, rfl⟩
  rw [← truthy_str, ← ht]
  exact h.enforced.expiry

/-- With its receipt in the bundle, a pass gets what the handler returned. -/
theorem leg_preSigned_completes {receipt : Dict} (hg : σ.gatekeeper = .preSigned receipts)
    (hreceipt : receipts.get (name ++ Str.ofString "Receipt") = .obj receipt)
    (henforced : Enforced (Js.loadedProps teeResult) d.worker.identity.agentId σ.buildConfigId) (hd : d.Honest p v)
    (ht : d.InTime p) (hreceipted : d.Receipted p receipt id) (hu : d.Undisturbed p receipt id (s.after p e.before))
    (hv : orEmpty v = .obj result) :
    ∃ leg, σ.leg p r phase name (.obj (Js.loadedProps teeResult)) d e s = .ok leg ∧ leg.Served p d id e s result := by
  refine leg_of_authorized ?_ hd ht hreceipted hu hv
  refine bind_ok.2 ⟨_, requireAuthorizationResult_ok.2 ⟨rfl, henforced⟩, ?_⟩
  -- the bundle has the receipt, and an empty one would name no delegation
  rw [hg]
  refine bind_ok.2 ⟨(), require_ok.2 ?_, by rw [hreceipt]; rfl⟩
  rw [hreceipt]
  cases receipt with
  | nil => cases hreceipted.named
  | cons f fs => rfl

end

section
variable {p : Platform} {g : Gateway} {r : RunnerInput} {σ : Session} {phase : ExecutionPhase} {d : Delegation} {e : Encounter}
  {s : VerifierState} {fs : Dict} {teeResult : Props} {parameters : Js} {now : ℕ → ℤ} {id : Str} {receipts : Dict} {v : Json}
  {result : Dict} {getPublicKey : List UInt8 → List UInt8} {privateKeyHex gatewayKeyId : Option Str}

/-- What is relied on of the executor. -/
structure Gateway.Executor (g : Gateway) (p : Platform) (getPublicKey : List UInt8 → List UInt8)
    (privateKeyHex gatewayKeyId : Option Str) : Prop where
  sha256 : g.sha256 = p.sha256
  isoFromMs : ∀ ms, Text.Portable (g.isoFromMs ms)
  identity : loadGatewayIdentity g.sha256 getPublicKey privateKeyHex gatewayKeyId = .ok g.identity
  signs : SignsFor g p (getPublicKey g.identity.privateKeyBytes)

theorem Delegation.Honest.worker_ne (hd : d.Honest p v) : d.worker.identity.agentId ≠ [] := by
  obtain ⟨key, hkey⟩ := hd.worker
  obtain ⟨w, hw⟩ := loadIdentity_signs hd.ed25519 hd.workerLive hkey
  rw [hw.agentId]
  exact hw.keyPair.agentId_ne hd.sha256_ne

/-- For what is written alike, the executor signs a receipt that the worker and the coordinator need. -/
theorem signed_receipted {action : Str} (haction : d.action = action) (hx : g.Executor p getPublicKey privateKeyHex gatewayKeyId)
    (htee : Parsed (.obj fs) (.obj teeResult)) (hparameters : Parsed (.obj d.parameters) parameters)
    (hpublic : d.gatewayPublicKeyHex = g.identity.publicKeyHex) (hkey : d.gatewayKeyId = g.identity.gatewayKeyId)
    (hkey_ne : g.identity.gatewayKeyId ≠ []) (hd : d.Honest p v) (hm : e.MeetsSigned p g d teeResult now id)
    (halike : Gateway.WrittenAlike g teeResult action d.parameters parameters) :
    (∃ message, g.buildSignedReceipt (.obj teeResult) (.str action) parameters now =
      .ok (message, g.receiptOf teeResult action parameters now)) ∧
    d.Receipted p (Js.loadedProps (g.receiptOf teeResult action parameters now)) id := by
  subst haction
  have hn := htee.names_nodup.2
  have hsha : ∀ bs, g.sha256 bs ≠ [] := hx.sha256 ▸ hd.sha256_ne
  exact ⟨hm.signed hn hkey_ne hd.worker_ne d.action, Gateway.receipted_of_alike hx.sha256 hd.sha256_injective hx.isoFromMs
    hx.identity htee hparameters hx.signs (hm.expects hsha hn hpublic hkey hkey_ne) halike⟩

end

theorem validatePhase_of_leg {p : Platform} {r : RunnerInput} {σ : Session} {e : Encounter} {s : VerifierState} {file data : Dict}
    {teeResult : Json} {leg : Leg} (hσ : r.session p = .ok σ) (htee : r.teeBundle.validateQuality = teeResult)
    (hdata : file.getD "processed_data" (.obj []) = .obj data)
    (h : σ.leg p r .validate "validateQuality" teeResult (σ.validating p r (.obj data) [] e) e s = .ok leg) :
    ∃ printed, r.validatePhase p file e s = .ok (leg, printed) := by
  subst htee
  refine ⟨_, bind_ok.2 ⟨σ, orRaised_ok.2 hσ, bind_ok.2 ⟨leg, ?_, bind_ok.2 ⟨data, ?_, rfl⟩⟩⟩⟩
  · rw [hdata]
    exact h
  · exact orRaised_ok.2 (asDict_ok.2 hdata)

/-! ## The figures -/

theorem portable_ofString {s : String} (hs : s.toList.all (fun c => c.toNat < 0x7F) = true) : Text.Portable s :=
  (Text.plain_ofString hs).portable

/-- The figures are amounts in cents, and no more of them than a double can count. -/
structure InCents (a : Arithmetic) (amounts : List PyFloat) : Prop where
  length : amounts.length ≤ 2 ^ 53
  total : ∀ x xs, amounts = x :: xs → Js.Cents (a.round2 (a.sum (x :: xs)))
  average : ∀ x xs, amounts = x :: xs → Js.Cents (a.round2 (a.mean (x :: xs)))
  least : ∀ x xs, amounts = x :: xs → Js.Cents (a.round2 (Adn.least x xs))
  greatest : ∀ x xs, amounts = x :: xs → Js.Cents (a.round2 (Adn.greatest x xs))

/-- A value that is written alike after it was relayed. -/
inductive Settles : Json → Prop where
  | int {n : ℤ} (h : n.natAbs ≤ 2 ^ 53) : Settles (.int n)
  | cents {x : PyFloat} (h : Js.Cents x) : Settles (.float x)
  | str {s : Str} (h : Text.Portable s) : Settles (.str s)

theorem Settles.alike {v : Json} {w : Js} (h : Settles v) (hp : Parsed v w) : Alike w.loaded w := by
  cases h with
  | int hn =>
    cases hp with
    | int hd =>
      rcases hd.small hn with rfl | ⟨rfl, -⟩
      · exact .scalar (Js.alike_whole _)
      · exact .scalar .zero
  | cents hc =>
    cases hp with
    | float _ => exact Js.cents_alike hc
  | str hs =>
    cases hp with
    | str _ => exact .str hs

/-- The name of the file of sales, as the data have it. -/
def csvName : Option SalesFile → Str
  | some file => file.name
  | none => "none"

section
variable {a : Arithmetic} {sales : Option SalesFile} {amounts : List PyFloat} {data : Props}

theorem InCents.natAbs_length (h : InCents a amounts) : (amounts.length : ℤ).natAbs ≤ 2 ^ 53 := by
  rw [Int.natAbs_natCast]
  exact h.length

theorem rounded_settles {f : PyFloat → List PyFloat → PyFloat} (h : ∀ x xs, amounts = x :: xs → Js.Cents (a.round2 (f x xs))) :
    Settles (roundedOr0 a f amounts) := by
  cases amounts with
  | nil => exact .int (by decide)
  | cons x xs => exact .cents (h x xs rfl)

theorem processedData_settles (hc : InCents a amounts) (hname : Text.Portable (csvName sales)) :
    ∀ f ∈ processedData a sales amounts, Text.Portable f.1 ∧ Settles f.2 := by
  have htrend : Text.Portable (trend amounts) := by
    unfold trend
    split
    · split <;> exact portable_ofString (by decide)
    · exact portable_ofString (by decide)
  simp only [processedData, Dict.ofList, List.map_cons, List.map_nil, List.forall_mem_cons, List.not_mem_nil,
    IsEmpty.forall_iff, implies_true, and_true]
  exact ⟨⟨portable_ofString (by decide), .int hc.natAbs_length⟩, ⟨portable_ofString (by decide), rounded_settles hc.total⟩,
    ⟨portable_ofString (by decide), rounded_settles hc.average⟩, ⟨portable_ofString (by decide), rounded_settles hc.least⟩,
    ⟨portable_ofString (by decide), rounded_settles hc.greatest⟩, ⟨portable_ofString (by decide), .str htrend⟩,
    ⟨portable_ofString (by decide), .str hname⟩⟩

theorem Settles.exact {v : Json} (h : Settles v) : v.Exact := by
  cases h with
  | int hn => exact .int hn
  | cents hc =>
    cases hc with
    | negZero => exact .negZero
    | whole n => exact .finite _
    | part _ => exact .finite _
  | str _ => exact .str _

theorem processedData_exact (hc : InCents a amounts) : (Json.obj (processedData a sales amounts)).Exact := by
  refine .obj ?_
  simp only [processedData, Dict.ofList, List.map_cons, List.map_nil, List.forall_mem_cons, List.not_mem_nil,
    IsEmpty.forall_iff, implies_true, and_true]
  exact ⟨.int hc.natAbs_length, (rounded_settles hc.total).exact, (rounded_settles hc.average).exact,
    (rounded_settles hc.least).exact, (rounded_settles hc.greatest).exact, .str _, .str _⟩

theorem csv_file_mem : (Str.ofString "csv_file", .str (csvName sales)) ∈ processedData a sales amounts := by
  have hget : (processedData a sales amounts).get? "csv_file" = some (.str (csvName sales)) := by
    simp [processedData]
    cases sales <;> rfl
  exact Dict.mem_of_get? hget

/-- Relayed, the data are written alike exactly if the name of the file is. -/
theorem relayed_alike_iff (h : Parsed (.obj (processedData a sales amounts)) (.obj data)) (hc : InCents a amounts) :
    Alike (.obj (Js.loadedProps data)) (.obj data) ↔ Text.Portable (csvName sales) := by
  have hiff := @alike_obj_iff (data.map fun g => (g.1, g.2.loaded, g.2)) (by
    rw [List.map_map]
    exact h.names_nodup.2)
  simp only [List.map_map, List.forall_mem_map] at hiff
  rw [Js.loadedProps_eq h.defined]
  refine (iff_of_eq (by simp [Function.comp_def])).trans hiff |>.trans ?_
  -- only the name of the file is not one of the script's own words
  constructor
  · intro halike
    obtain ⟨w, hw, hp⟩ := h.mem_left csv_file_mem
    cases hp with
    | str _ => exact alike_str_iff.1 (halike _ hw).2
  · intro hname g hg
    obtain ⟨v, hv, hp⟩ := h.mem_right hg
    obtain ⟨hk, hs⟩ := processedData_settles hc hname _ hv
    exact ⟨hk, hs.alike hp⟩

end

/-! ## Both passes -/

/-- What the script is given in the first pass. -/
def SignedGatewayCall.first (c : SignedGatewayCall) (g : Gateway) (teeResult : Props) (now : ℕ → ℤ) : RunnerInput :=
  c.input g "processDataReceipt" (g.receiptOf teeResult "PROCESS_DATA" (.obj bridgeParams1) now)

/-- The TEE has routed both delegations, under two ids, and no one else works under the keys of the run. Everything is said of
the ledger that the run begins with. -/
structure SignedGatewayCall.Meets (p : Platform) (g : Gateway) (c : SignedGatewayCall) (r : RunnerInput) (σ : Session)
    (tee₁ tee₂ : Props) (now₁ now₂ : ℕ → ℤ) (id₁ id₂ : Str) (e₁ e₂ : Encounter) (L : Ledger) : Prop where
  processData : c.teeBundle.processData = .obj tee₁
  validateQuality : c.teeBundle.validateQuality = .obj tee₂
  parsedFirst : ∃ fs, Parsed (.obj fs) (.obj tee₁)
  parsedSecond : ∃ fs, Parsed (.obj fs) (.obj tee₂)
  ids : id₁ ≠ id₂
  first : e₁.MeetsSigned p g (σ.processing p r e₁) tee₁ now₁ id₁
  second : ∀ data, e₂.MeetsSigned p g (σ.validating p r data [] e₂) tee₂ now₂ id₂
  firstAlone : (σ.processing p r e₁).Alone p
    (Js.loadedProps (g.receiptOf tee₁ "PROCESS_DATA" (.obj bridgeParams1) now₁)) id₁ e₁.before e₁.during ⟨.empty, L⟩
  secondAlone : ∀ data, (σ.validating p r (.obj (Js.loadedProps data)) [] e₂).Alone p
    (Js.loadedProps (g.receiptOf tee₂ "VALIDATE_QUALITY" (.obj (bridgeParams2 (.obj data))) now₂)) id₂
    (e₁.calls ++ e₂.before) e₂.during ⟨.empty, L⟩

theorem params1_parsed : Parsed (.obj params1) (.obj bridgeParams1) := by
  refine .obj rfl (by decide +kernel) ?_ (.refl _)
  simp only [params1, bridgeParams1, Dict.ofList, Props.ofList, List.map_cons, List.map_nil, List.zip_cons_cons,
    List.zip_nil_right, List.forall_mem_cons, List.not_mem_nil, IsEmpty.forall_iff, implies_true, and_true]
  exact ⟨.str _, .str _, .arr rfl (by simp)⟩

theorem params1_alike : Alike (.obj params1) (.obj bridgeParams1) := by
  have hnil : Alike (.arr []) (.arr []) := @Reading.arr _ _ [] (by simp) (by simp)
  refine (@alike_obj_iff [(Str.ofString "data_source", .str "csv", .str "csv"),
    (Str.ofString "time_period", .str "Q1-2026", .str "Q1-2026"), (Str.ofString "filters", .arr [], .arr [])]
    (by decide +kernel)).2 ?_
  simp only [List.forall_mem_cons, List.not_mem_nil, IsEmpty.forall_iff, implies_true, and_true, alike_str_iff]
  exact ⟨⟨portable_ofString (by decide), portable_ofString (by decide)⟩,
    ⟨portable_ofString (by decide), portable_ofString (by decide)⟩, portable_ofString (by decide), hnil⟩

section
variable {p : Platform} {g : Gateway} {parse : Str → Option Js} {c : SignedGatewayCall} {now₁ now₂ : ℕ → ℤ} {e₁ e₂ : Encounter}
  {L : Ledger} {run : SignedRun} {σ : Session} {tee₁ tee₂ data : Props} {id₁ id₂ : Str}
  {getPublicKey : List UInt8 → List UInt8} {privateKeyHex gatewayKeyId : Option Str} {printed : Js}

theorem params2_parsed (h : Parsed (.obj (processedData c.arithmetic c.sales σ.amounts)) (.obj data))
    (hc : InCents c.arithmetic σ.amounts) :
    Parsed (.obj (params2 (.obj (Js.loadedProps data)))) (.obj (bridgeParams2 (.obj data))) :=
  Sample.parsed_singleton (h.sendable (processedData_exact hc)).parsed

theorem params2_alike_iff (h : Parsed (.obj (processedData c.arithmetic c.sales σ.amounts)) (.obj data))
    (hc : InCents c.arithmetic σ.amounts) :
    Alike (.obj (params2 (.obj (Js.loadedProps data)))) (.obj (bridgeParams2 (.obj data))) ↔
      Text.Portable (csvName c.sales) := by
  have hdata : Text.Portable "data" := portable_ofString (by decide)
  refine Sample.alike_singleton_iff.trans ?_
  rw [relayed_alike_iff h hc]
  exact ⟨fun halike => halike.2, fun hname => ⟨hdata, hname⟩⟩

/-- Everything that the executor signs in a run is written alike by both languages. -/
structure SignsAlike (g : Gateway) (tee₁ tee₂ : Props) (sales : Option SalesFile) : Prop where
  processData : ∀ k ∈ Gateway.copiedFields, Alike (tee₁.get k).loaded (tee₁.get k)
  validateQuality : ∀ k ∈ Gateway.copiedFields, Alike (tee₂.get k).loaded (tee₂.get k)
  gatewayKeyId : Text.Portable g.identity.gatewayKeyId
  csvName : Text.Portable (csvName sales)

variable (hx : g.Executor p getPublicKey privateKeyHex gatewayKeyId) (hr : (c.first g tee₁ now₁).Equipped p)
  (hσ : (c.first g tee₁ now₁).session p = .ok σ)
  (hm : c.Meets p g (c.first g tee₁ now₁) σ tee₁ tee₂ now₁ now₂ id₁ id₂ e₁ e₂ L) (hc : InCents c.arithmetic σ.amounts)

/-- The second pass delegates as the first would. -/
theorem validating_again (name name' : String) (receipt receipt' : Props) (gatekeeper : Gatekeeper) (data : Json)
    (delegations : List (Json × DelegationRequest)) (e : Encounter) :
    { σ with gatekeeper := gatekeeper }.validating p (c.input g name receipt) data delegations e =
      σ.validating p (c.input g name' receipt') data delegations e := rfl

section

include hx hr hσ hm

theorem processing_receipted (h : SignsAlike g tee₁ tee₂ c.sales) :
    (∃ message, g.buildSignedReceipt (.obj tee₁) (.str "PROCESS_DATA") (.obj bridgeParams1) now₁ =
      .ok (message, g.receiptOf tee₁ "PROCESS_DATA" (.obj bridgeParams1) now₁)) ∧
    (σ.processing p (c.first g tee₁ now₁) e₁).Receipted p
      (Js.loadedProps (g.receiptOf tee₁ "PROCESS_DATA" (.obj bridgeParams1) now₁)) id₁ := by
  have hmade := session_made hσ
  have hfirst := hm.first
  obtain ⟨fs, hparsed⟩ := hm.parsedFirst
  have hkey : σ.gatewayKeyId = g.identity.gatewayKeyId := hmade.gatewayKeyId
  exact signed_receipted (d := σ.processing p (c.first g tee₁ now₁) e₁) rfl hx hparsed params1_parsed hmade.publicKeyHex
    hkey (hkey ▸ hmade.gatewayKeyId_ne) (processing_honest hr hmade hfirst.dbBegin hfirst.dbFinalize hfirst.dbResult) hfirst
    ⟨h.processData, portable_ofString (s := "PROCESS_DATA") (by decide), h.gatewayKeyId, params1_alike⟩

/-- The first pass prints what `worker1` returned. -/
theorem first_pass_completes (h : SignsAlike g tee₁ tee₂ c.sales) :
    ∃ leg, (c.first g tee₁ now₁).processPhase p e₁ ⟨.empty, L⟩ = .ok (leg, c.processOutput σ.amounts) ∧
      leg.Served p (σ.processing p (c.first g tee₁ now₁) e₁) id₁ e₁ ⟨.empty, L⟩ ((c.first g tee₁ now₁).processResult σ) := by
  have hmade := session_made hσ
  have hfirst := hm.first
  have hreceipted := (processing_receipted hx hr hσ hm h).2
  have hg := (session_again "processDataReceipt" [] hσ).1
  obtain ⟨leg, hleg, hserved⟩ := @leg_preSigned_completes p (c.first g tee₁ now₁) σ .process "processData" _ e₁ ⟨.empty, L⟩
    _ _ _ _ _ _ hg (@bundle_receipt g "processDataReceipt" (by decide) (by decide) _) hfirst.enforced
    (processing_honest hr hmade hfirst.dbBegin hfirst.dbFinalize hfirst.dbResult) hfirst.inTime hreceipted
    (hm.firstAlone.first fun _ => rfl) (orEmpty_obj ((c.first g tee₁ now₁).processResult σ))
  obtain ⟨v, hsound⟩ := leg_sound hleg
  have hprocess := process_of_leg (r := c.first g tee₁ now₁) (congrArg Js.loaded hm.processData) hleg hserved
  refine ⟨leg, ?_, hserved⟩
  refine bind_ok.2 ⟨σ, orRaised_ok.2 hσ, bind_ok.2 ⟨_, hprocess, ?_⟩⟩
  simp only [hsound.completed]
  rfl

include hc

theorem validating_receipted (h : SignsAlike g tee₁ tee₂ c.sales)
    (hrelayed : Parsed (.obj (processedData c.arithmetic c.sales σ.amounts)) (.obj data)) :
    (∃ message, g.buildSignedReceipt (.obj tee₂) (.str "VALIDATE_QUALITY") (.obj (bridgeParams2 (.obj data))) now₂ =
      .ok (message, g.receiptOf tee₂ "VALIDATE_QUALITY" (.obj (bridgeParams2 (.obj data))) now₂)) ∧
    (σ.validating p (c.first g tee₁ now₁) (.obj (Js.loadedProps data)) [] e₂).Receipted p
      (Js.loadedProps (g.receiptOf tee₂ "VALIDATE_QUALITY" (.obj (bridgeParams2 (.obj data))) now₂)) id₂ := by
  have hmade := session_made hσ
  have hsecond := hm.second (.obj (Js.loadedProps data))
  obtain ⟨fs, hparsed⟩ := hm.parsedSecond
  have hkey : σ.gatewayKeyId = g.identity.gatewayKeyId := hmade.gatewayKeyId
  exact signed_receipted (d := σ.validating p (c.first g tee₁ now₁) (.obj (Js.loadedProps data)) [] e₂) rfl hx hparsed
    (params2_parsed hrelayed hc) hmade.publicKeyHex hkey (hkey ▸ hmade.gatewayKeyId_ne)
    (validating_honest hr hmade (Js.loadedProps data) [] hsecond.dbBegin hsecond.dbFinalize hsecond.dbResult) hsecond
    ⟨h.validateQuality, portable_ofString (s := "VALIDATE_QUALITY") (by decide), h.gatewayKeyId,
      (params2_alike_iff hrelayed hc).2 h.csvName⟩

/-- The second pass, in a process of its own, finds the ledger of the first. -/
theorem second_pass_completes (h : SignsAlike g tee₁ tee₂ c.sales)
    (hrelayed : Parsed (.obj (processedData c.arithmetic c.sales σ.amounts)) (.obj data)) {leg : Leg} {result : Dict}
    (hserved : leg.Served p (σ.processing p (c.first g tee₁ now₁) e₁) id₁ e₁ ⟨.empty, L⟩ result) :
    ∃ leg₂ printed, (c.input g "validateQualityReceipt"
        (g.receiptOf tee₂ "VALIDATE_QUALITY" (.obj (bridgeParams2 (.obj data))) now₂)).validatePhase p
      (Js.loadedProps (Props.ofList [("processed_data", .obj data), ("process_succeeded", .bool true)])) e₂
      ⟨.empty, leg.delivered.verifier.ledger⟩ = .ok (leg₂, printed) := by
  have hmade := session_made hσ
  have hsecond := hm.second (.obj (Js.loadedProps data))
  have hreceipted := (validating_receipted hx hr hσ hm hc h hrelayed).2
  have hname : (σ.validating p (c.first g tee₁ now₁) (.obj (Js.loadedProps data)) [] e₂).name p
      (Js.loadedProps (g.receiptOf tee₂ "VALIDATE_QUALITY" (.obj (bridgeParams2 (.obj data))) now₂)) = id₂ :=
    hreceipted.delegationId _
  -- the first delegation has another id, and the new process a cache of its own
  have halone := hm.secondAlone data
  have hundisturbed := halone.after hr.sha256_injective (fun _ => rfl) hserved.delivered (fun _ => rfl)
    (fun he => hm.ids (hserved.name.symm.trans (he.trans hname))) hname halone.nonce
  have hhonest := validating_honest hr hmade (Js.loadedProps data) [] hsecond.dbBegin hsecond.dbFinalize hsecond.dbResult
  obtain ⟨-, hagain⟩ := session_again "validateQualityReceipt"
    (g.receiptOf tee₂ "VALIDATE_QUALITY" (.obj (bridgeParams2 (.obj data))) now₂) hσ
  obtain ⟨leg₂, hleg, -⟩ := @leg_preSigned_completes p (c.input g "validateQualityReceipt"
      (g.receiptOf tee₂ "VALIDATE_QUALITY" (.obj (bridgeParams2 (.obj data))) now₂))
    { σ with gatekeeper := .preSigned (Js.loadedProps (preSignedBundle g "validateQualityReceipt"
      (g.receiptOf tee₂ "VALIDATE_QUALITY" (.obj (bridgeParams2 (.obj data))) now₂))) } .validate
    "validateQuality" _ e₂ ⟨.empty, leg.delivered.verifier.ledger⟩ _ _ _ _ _ _ rfl
    (@bundle_receipt g "validateQualityReceipt" (by decide) (by decide) _) hsecond.enforced hhonest hsecond.inTime
    hreceipted hundisturbed (orEmpty_obj (qualityReport (Js.loadedProps data)))
  rw [SignedGatewayCall.first, ← validating_again "validateQualityReceipt"] at hleg
  obtain ⟨printed, hvalidate⟩ := validatePhase_of_leg hagain (congrArg Js.loaded hm.validateQuality) (relayed_file data).1 hleg
  exact ⟨leg₂, printed, hvalidate⟩

end

/-- A run that returns has read what the script printed, so no warning stood before it. -/
theorem loaded_of_run (hwarned : ∀ text, parse (0x57 :: text) = none)
    (h : runAdnWithSignedGateway p g parse c now₁ now₂ e₁ e₂ L = .ok run) : (loadPolicy c.policyFile).failed = false := by
  rw [← Bool.not_eq_true]
  intro hfailed
  obtain ⟨⟨message, receipt⟩, -, h⟩ := bind_ok.1 h
  obtain ⟨⟨processing, out⟩, -, h⟩ := bind_ok.1 h
  obtain ⟨result, hresult, -⟩ := bind_ok.1 h
  obtain ⟨rest, hstdout⟩ := @stdout_failed p c out hfailed
  rw [elim_ok, hstdout, hwarned] at hresult
  cases hresult

variable (hparse : parse (c.processOutput σ.amounts).text = some printed)
  (hprinted : Parsed (c.processOutput σ.amounts).json printed)

include hx hr hσ hm hc hparse hprinted

/-- A run that returns has had both receipts accepted. -/
theorem signsAlike_of_run (hloaded : (loadPolicy c.policyFile).failed = false)
    (h : runAdnWithSignedGateway p g parse c now₁ now₂ e₁ e₂ L = .ok run) : SignsAlike g tee₁ tee₂ c.sales := by
  have hamounts := (session_made hσ).amounts
  have hread : ∀ amounts w, loadAmounts c.arithmetic c.sales = .ok amounts →
      parse (c.stdout p (c.processOutput amounts)) = some w → Parsed (c.processOutput amounts).json w := by
    intro amounts w hload hw
    obtain rfl := Except.ok.inj (hamounts.symm.trans hload)
    rw [stdout_loaded hloaded, hparse] at hw
    exact Option.some.inj hw ▸ hprinted
  obtain ⟨σ', message₁, message₂, receipt₁, receipt₂, data, hsigned₁, hsigned₂, hσ', hsound⟩ := signed_run_delivers hread h
  rw [hm.processData] at hsigned₁
  rw [hm.validateQuality] at hsigned₂
  -- the receipts of the run are those that the executor makes
  obtain ⟨-, rfl⟩ := Gateway.buildSignedReceipt_ok.1 ⟨_, hsigned₁⟩
  obtain ⟨-, rfl⟩ := Gateway.buildSignedReceipt_ok.1 ⟨_, hsigned₂⟩
  obtain rfl := Except.ok.inj (hσ.symm.trans hσ')
  obtain ⟨tv₁, hparsed₁⟩ := hm.parsedFirst
  obtain ⟨tv₂, hparsed₂⟩ := hm.parsedSecond
  -- the coordinator has hashed both receipts again, in Python's text
  have hfirst := hsound.processing.delivered.teeAuthorization
  have hsecond := hsound.validation.delivered.teeAuthorization
  rw [hsound.firstReceipt] at hfirst
  rw [hsound.secondReceipt] at hsecond
  have halike₁ := Gateway.alike_of_delivered hx.sha256 hr.sha256_injective hx.isoFromMs hx.identity hparsed₁ params1_parsed
    hsound.first hfirst
  have halike₂ := Gateway.alike_of_delivered hx.sha256 hr.sha256_injective hx.isoFromMs hx.identity hparsed₂
    (params2_parsed hsound.relayed hc) hsound.second hsecond
  exact ⟨halike₁.fields, halike₂.fields, halike₁.gatewayKeyId, (params2_alike_iff hsound.relayed hc).1 halike₂.parameters⟩

/-- Written alike, both receipts are accepted. -/
theorem run_of_signsAlike (h : SignsAlike g tee₁ tee₂ c.sales) (hloaded : (loadPolicy c.policyFile).failed = false) :
    ∃ run, runAdnWithSignedGateway p g parse c now₁ now₂ e₁ e₂ L = .ok run := by
  obtain ⟨data, hdata, hsucceeded, hrelayed⟩ := read_processOutput hprinted
  obtain ⟨message₁, hsigned₁⟩ := (processing_receipted hx hr hσ hm h).1
  obtain ⟨leg₁, hprocess, hserved⟩ := first_pass_completes hx hr hσ hm h
  obtain ⟨message₂, hsigned₂⟩ := (validating_receipted hx hr hσ hm hc h hrelayed).1
  obtain ⟨leg₂, summary, hvalidate⟩ := second_pass_completes hx hr hσ hm hc h hrelayed hserved
  rw [← hm.processData] at hsigned₁
  rw [← hm.validateQuality] at hsigned₂
  refine ⟨⟨leg₁, .obj data, leg₂, summary⟩, ?_⟩
  refine bind_ok.2 ⟨_, mapError_ok.2 hsigned₁, bind_ok.2 ⟨_, mapError_ok.2 hprocess, ?_⟩⟩
  refine bind_ok.2 ⟨printed, elim_ok.2 (stdout_loaded hloaded ▸ hparse), bind_ok.2 ⟨_, mapError_ok.2 hdata,
    bind_ok.2 ⟨_, mapError_ok.2 hsucceeded, ?_⟩⟩⟩
  exact bind_ok.2 ⟨_, mapError_ok.2 hsigned₂, bind_ok.2 ⟨_, mapError_ok.2 hvalidate, rfl⟩⟩

/-- A run completes exactly if both languages write alike what is signed in it, and the file of the policy loads: the bridge
parses all that the script prints, warnings included. -/
theorem signed_run_completes_iff (hwarned : ∀ text, parse (0x57 :: text) = none) :
    (∃ run, runAdnWithSignedGateway p g parse c now₁ now₂ e₁ e₂ L = .ok run) ↔
      SignsAlike g tee₁ tee₂ c.sales ∧ (loadPolicy c.policyFile).failed = false := by
  constructor
  · rintro ⟨run, hrun⟩
    have hloaded := loaded_of_run hwarned hrun
    exact ⟨signsAlike_of_run hx hr hσ hm hc hparse hprinted hloaded hrun, hloaded⟩
  · rintro ⟨halike, hloaded⟩
    exact run_of_signsAlike hx hr hσ hm hc hparse hprinted halike hloaded

end

/-! ### The sale with the executor's receipts -/

namespace Sample

open Adn.Gateway

/-- The TEE's answer about a delegation, as the bridge has it. -/
def relayedTo (secret : Secret) (id : Str) : Props := Props.ofList [("delegation_id", .str id), ("status", .str "ROUTED"),
  ("routed_to", .str (secret.identity platform).agentId), ("credential_fingerprint", .str "c"),
  ("credential_enforced", .bool true), ("build_config_id", .str "b"), ("authorization_expires_at", .str lateText)]

theorem relayedTo_parsed (secret : Secret) (id : Str) : Parsed (.obj (routedTo secret id)) (.obj (relayedTo secret id)) := by
  refine .obj rfl (by simp [routedTo, Dict.ofList]) ?_ (.refl _)
  simp only [routedTo, relayedTo, Dict.ofList, Props.ofList, List.map_cons, List.map_nil, List.zip_cons_cons,
    List.zip_nil_right, List.forall_mem_cons, List.not_mem_nil, IsEmpty.forall_iff, implies_true, and_true]
  exact ⟨.str _, .str _, .str _, .str _, .bool _, .str _, .str _⟩

theorem relayedTo_alike (secret : Secret) {id : Str} (hid : Text.Portable id) :
    ∀ k ∈ Gateway.copiedFields, Alike ((relayedTo secret id).get k).loaded ((relayedTo secret id).get k) := by
  have hlate : Text.Portable lateText := lateText_portable 0
  have hbool : Alike (.bool true) (.bool true) := .scalar (.bool true)
  have hagent : Text.Portable (secret.identity platform).agentId := Text.Plain.portable fun u hu =>
    Hex.plain_hexLower _ u (List.mem_of_mem_take hu)
  simp only [Gateway.copiedFields, List.forall_mem_cons, List.not_mem_nil, IsEmpty.forall_iff, implies_true, and_true]
  simp [relayedTo, Props.get, Js.loaded, alike_str_iff, hlate, hbool, hagent, hid]
  exact ⟨portable_ofString (by decide), portable_ofString (by decide), portable_ofString (by decide)⟩

def saleCall : SignedGatewayCall where
  env := demoEnv
  tenantDid := "tenant"
  prepared := saleExecution
  workerKeys := saleKeys
  teeBundle := ⟨.obj (relayedTo (secretOf 4) "d"), .obj (relayedTo (secretOf 6) "e"), some "b"⟩
  policyFile := none
  integrity := resultKey
  arithmetic := oneArithmetic
  sales := some oneSale

/-- The data of the sale, as the bridge reads them. -/
def saleData : Props := Props.ofList [("records_processed", .num (.finite 1)), ("total_revenue", .num (.finite 1)),
  ("avg_value", .num (.finite 1)), ("min_value", .num (.finite 1)), ("max_value", .num (.finite 1)),
  ("trend", .str (trend [.finite 1])), ("csv_file", .str "sales_q1.csv")]

def salePrinted : Js := .obj (Props.ofList [("phase", .str "process"), ("process_succeeded", .bool true),
  ("processed_data", .obj saleData)])

/-- `JSON.parse`, of what is printed about the sale. -/
def saleParse (text : Str) : Option Js := if text = (saleCall.processOutput [.finite 1]).text then some salePrinted else none

theorem saleParse_printed : saleParse (saleCall.processOutput [.finite 1]).text = some salePrinted := if_pos rfl

/-- An object starts with a brace. -/
theorem saleParse_warned (text : Str) : saleParse (0x57 :: text) = none := by
  refine if_neg fun h => ?_
  rw [ProcessOutput.text, ProcessOutput.json, JsonReader.write] at h
  exact absurd (List.cons.inj h).1 (by decide)

theorem one_cents : Js.Cents (.finite 1) := by
  have h := Js.Cents.whole 1
  rwa [Int.cast_one] at h

theorem one_sum : oneArithmetic.sum [.finite 1] = .finite 1 := by
  simp [oneArithmetic]

theorem saleData_parsed : Parsed (.obj (processedData oneArithmetic (some oneSale) [.finite 1])) (.obj saleData) := by
  refine .obj rfl (by decide +kernel) ?_ (.refl _)
  simp only [processedData, saleData, roundedOr0, one_sum, Dict.ofList, Props.ofList, List.map_cons, List.map_nil,
    List.zip_cons_cons, List.zip_nil_right, List.forall_mem_cons, List.not_mem_nil, IsEmpty.forall_iff, implies_true, and_true]
  have hone : Parsed (.int 1) (.num (.finite 1)) := by
    have h := AsDouble.exact (n := 1) (by decide)
    rw [Int.cast_one] at h
    exact .int h
  exact ⟨hone, .float _, .float _, .float _, .float _, .str _, .str _⟩

theorem salePrinted_parsed : Parsed (saleCall.processOutput [.finite 1]).json salePrinted := by
  refine .obj rfl (by decide +kernel) ?_ (.refl _)
  simp only [SignedGatewayCall.processOutput, Dict.ofList, Props.ofList, List.map_cons, List.map_nil,
    List.zip_cons_cons, List.zip_nil_right, List.forall_mem_cons, List.not_mem_nil, IsEmpty.forall_iff, implies_true, and_true]
  exact ⟨.str _, .bool _, saleData_parsed⟩

theorem sale_inCents : InCents oneArithmetic [.finite 1] where
  length := by norm_num
  total := by
    intro x xs h
    rw [← h, one_sum]
    exact one_cents
  average _ _ _ := one_cents
  least := by
    rintro x xs h
    obtain ⟨rfl, rfl⟩ := List.cons.inj h
    exact one_cents
  greatest := by
    rintro x xs h
    obtain ⟨rfl, rfl⟩ := List.cons.inj h
    exact one_cents

/-- The script's first pass. -/
def saleFirst : RunnerInput := saleCall.first signingGateway (relayedTo (secretOf 4) "d") fun _ => 0

theorem saleFirst_equipped : saleFirst.Equipped platform := { sale_equipped with }

theorem saleFirst_session : ∃ σ, saleFirst.session platform = .ok σ ∧ σ.amounts = [.finite 1] :=
  ⟨_, session_of_secrets workerSecrets rfl rfl signing_public_ne (by decide) rfl rfl rfl rfl, rfl⟩

theorem saleCall_meets {σ : Session} (hσ : saleFirst.session platform = .ok σ) :
    saleCall.Meets platform signingGateway saleFirst σ (relayedTo (secretOf 4) "d") (relayedTo (secretOf 6) "e") (fun _ => 0)
      (fun _ => 0) "d" "e" (encounter "n" "r") (encounter "m" "q") freshVerifier.ledger where
  processData := rfl
  validateQuality := rfl
  parsedFirst := ⟨_, relayedTo_parsed _ _⟩
  parsedSecond := ⟨_, relayedTo_parsed _ _⟩
  ids := by decide
  first := (sale_meets (by decide) (by decide) (session_made hσ).buildConfigId
    (Except.ok.inj ((session_made hσ).worker1.symm.trans (secretOf 4).loaded)) rfl rfl rfl rfl rfl).signed routed_unexpired
      routed_unexpired
  second _ := (sale_meets (by decide) (by decide) (session_made hσ).buildConfigId
    (Except.ok.inj ((session_made hσ).validator.symm.trans (secretOf 6).loaded)) rfl rfl rfl rfl rfl).signed routed_unexpired
      routed_unexpired
  firstAlone := alone_fresh rfl ⟨rfl, rfl, rfl⟩
  secondAlone _ := alone_fresh rfl ⟨rfl, rfl, rfl⟩

theorem signing_executor : signingGateway.Executor platform (fun key => key) (some signingKeyHex) (some "gateway-1") where
  sha256 := rfl
  isoFromMs := lateText_portable
  identity := signingIdentity_loaded
  signs := signingGateway_signs

theorem sale_signsAlike : SignsAlike signingGateway (relayedTo (secretOf 4) "d") (relayedTo (secretOf 6) "e") (some oneSale) where
  processData := relayedTo_alike _ (portable_ofString (by decide))
  validateQuality := relayedTo_alike _ (portable_ofString (by decide))
  gatewayKeyId := portable_ofString (by decide)
  csvName := portable_ofString (by decide)

theorem sale_amounts {amounts : List PyFloat} (h : loadAmounts oneArithmetic (some oneSale) = .ok amounts) :
    amounts = [.finite 1] := (Except.ok.inj h).symm

/-- What is printed about a sale with receipts that the executor signs is right. -/
theorem signed_sale_sound : ∃ run σ receipt₁ receipt₂ data, runAdnWithSignedGateway platform signingGateway
      saleParse saleCall (fun _ => 0) (fun _ => 0) (encounter "n" "r") (encounter "m" "q")
      freshVerifier.ledger = .ok run ∧
    run.Sound platform saleCall (saleCall.input signingGateway "processDataReceipt" receipt₁) σ receipt₁ receipt₂ data
      (encounter "n" "r") (encounter "m" "q") freshVerifier.ledger ∧
    run.printed.Reports oneArithmetic (some oneSale) σ.amounts := by
  obtain ⟨σ, hσ, hamounts⟩ := saleFirst_session
  obtain ⟨run, hrun⟩ := run_of_signsAlike signing_executor saleFirst_equipped hσ (saleCall_meets hσ) (hamounts ▸ sale_inCents)
    (hamounts ▸ saleParse_printed) (hamounts ▸ salePrinted_parsed) sale_signsAlike rfl
  obtain ⟨σ', _, _, receipt₁, receipt₂, data, -, -, hσ', hsound, hreports⟩ := signed_run_sound (fun amounts w hload hw => by
    obtain rfl := sale_amounts hload
    rw [@stdout_loaded platform saleCall _ rfl] at hw
    obtain rfl := Option.some.inj (saleParse_printed.symm.trans hw)
    exact salePrinted_parsed) hrun
  refine ⟨run, σ', receipt₁, receipt₂, data, hrun, hsound, hreports ?_⟩
  exact processedData_exact (sale_amounts (session_made hσ').amounts ▸ sale_inCents)

/-- With receipts that the executor signs, the sale is processed and validated too. -/
theorem signed_sale_completes : ∃ run, runAdnWithSignedGateway platform signingGateway saleParse saleCall
    (fun _ => 0) (fun _ => 0) (encounter "n" "r") (encounter "m" "q") freshVerifier.ledger = .ok run := by
  obtain ⟨σ, hσ, hamounts⟩ := saleFirst_session
  exact (signed_run_completes_iff signing_executor saleFirst_equipped hσ (saleCall_meets hσ) (hamounts ▸ sale_inCents)
    (hamounts ▸ saleParse_printed) (hamounts ▸ salePrinted_parsed) saleParse_warned).2 ⟨sale_signsAlike, rfl⟩

end Sample

end Adn
