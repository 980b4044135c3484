import Adn.Runner
/-!
# What a printed summary says

A run that prints a summary has delegated twice. Both results are what the script's
handlers returned, each called once, for tasks that the TEE has routed to the agents of
this run and that a receipt of the trusted gateway authorizes; the validator was asked
about the data that `worker1` returned (`full_sound`). So `success` is never false, and
the quality passes exactly if there are sales whose average does not round to zero.
-/

open Lib

namespace Adn

/-! ## The TEE's results -/

/-- The TEE has routed a delegation to this worker under an enforced credential, for this build. -/
structure Enforced (teeResult : Dict) (workerId buildConfigId : Str) : Prop where
  status : teeResult.get "status" = .str "ROUTED"
  target : teeResult.get "routed_to" = .str workerId
  credentialEnforced : teeResult.get "credential_enforced" = .bool true
  credentialFingerprint : (teeResult.get "credential_fingerprint").truthy = true
  build : teeResult.get "build_config_id" = .str buildConfigId
  buildConfigId_ne : buildConfigId ≠ []
  expiry : (teeResult.get "authorization_expires_at").truthy = true

theorem requireAuthorizationResult_ok {name : Str} {result : Json} {workerId buildConfigId : Str} {teeResult : Dict} :
    requireAuthorizationResult name result workerId buildConfigId = .ok teeResult ↔
      result = .obj teeResult ∧ Enforced teeResult workerId buildConfigId := by
  unfold requireAuthorizationResult
  simp only [bind_ok, require_ok, exists_const, pure_ok, asDict_ok, Json.pyEq_str]
  constructor
  · rintro ⟨-, fields, rfl, status, target, enforced, fingerprint, build_ne, build, expiry, rfl⟩
    rw [build, truthy_str] at build_ne
    exact ⟨rfl, status, target, enforced_iff.1 enforced, fingerprint, build, build_ne, expiry⟩
  · rintro ⟨rfl, status, target, enforced, fingerprint, build, build_ne, expiry⟩
    refine ⟨?_, teeResult, rfl, status, target, enforced_iff.2 enforced, fingerprint, ?_, build, expiry, rfl⟩
    · cases teeResult with
      | nil => cases status
      | cons f fs => rfl
    · rw [build]
      exact truthy_str.2 build_ne

/-! ## One delegation -/

section
variable {p : Platform} {r : RunnerInput} {σ : Session} {phase : ExecutionPhase} {name : Str} {teeResult : Json}
  {d : Delegation} {e : Encounter} {s : VerifierState} {leg : Leg}

/-- What a delegation of the run has to show. -/
structure Leg.Sound (p : Platform) (σ : Session) (teeResult : Json) (d : Delegation) (v : Json) (leg : Leg) : Prop where
  routed : ∃ fields, teeResult = .obj fields ∧ Enforced fields d.worker.identity.agentId σ.buildConfigId
  delivered : d.Sound p leg.receipt v leg.delivered
  result : orEmpty v = .obj leg.result
  completed : leg.delivered.completed = true

theorem authorization_enforced {receipt : Dict} (h : σ.authorization p r phase name teeResult d e = .ok receipt) :
    ∃ fields, teeResult = .obj fields ∧ Enforced fields d.worker.identity.agentId σ.buildConfigId := by
  obtain ⟨fields, hfields, -⟩ := bind_ok.1 h
  exact ⟨fields, requireAuthorizationResult_ok.1 hfields⟩

/-- A result that was verified is reported as completed. -/
theorem sound_completed {receipt : Dict} {v : Json} {x : Delivered} (h : d.Sound p receipt v x) : x.completed = true := by
  obtain ⟨proof, hreply, hdata⟩ := h.reply
  rw [Delivered.completed, Delivered.reported, hreply]
  simp only [hdata]
  exact Json.pyEq_str.2 h.status

theorem leg_sound (h : σ.leg p r phase name teeResult d e s = .ok leg) : ∃ v, leg.Sound p σ teeResult d v := by
  obtain ⟨receipt, hreceipt, h⟩ := bind_ok.1 h
  obtain ⟨x, hx, h⟩ := bind_ok.1 h
  obtain ⟨result, hresult, h⟩ := bind_ok.1 h
  obtain rfl := pure_ok.1 h
  obtain ⟨v, hv⟩ := delivered_sound hx
  refine ⟨v, authorization_enforced (orRaised_ok.1 hreceipt), hv, ?_, sound_completed hv⟩
  rw [← hv.result]
  exact asDict_ok.1 (orRaised_ok.1 hresult)

/-- What the handler returns is what the delegation is sound for. -/
theorem Leg.Sound.outcome {v w : Json} (h : leg.Sound p σ teeResult d v)
    (hw : d.circumstances.outcome = .returned (.json w)) : v = w := by
  have heq := h.delivered.outcome.symm.trans hw
  cases heq
  rfl

end

/-! ## Both -/

section
variable {p : Platform} {r : RunnerInput} {σ : Session} {phase : ExecutionPhase} {e e₁ e₂ : Encounter}
  {s : VerifierState} {leg : Leg}

/-- What `process_handler` returns. -/
def RunnerInput.processResult (r : RunnerInput) (σ : Session) : Dict :=
  Dict.ofList [("status", .str "success"), ("processed_data", .obj (processedData r.arithmetic r.sales σ.amounts))]

theorem process_sound {data : Json} (h : σ.process p r phase e s = .ok (leg, data)) :
    leg.Sound p σ r.teeBundle.processData (σ.processing p r e) (.obj (r.processResult σ)) ∧
      data = .obj (processedData r.arithmetic r.sales σ.amounts) := by
  obtain ⟨leg', hleg, h⟩ := bind_ok.1 h
  obtain ⟨-, -, h⟩ := bind_ok.1 h
  cases pure_ok.1 h
  obtain ⟨v, hv⟩ := leg_sound hleg
  obtain rfl := hv.outcome (w := .obj (r.processResult σ)) rfl
  refine ⟨hv, ?_⟩
  have hresult : r.processResult σ = leg.result := Json.obj.inj hv.result
  rw [← hresult]
  simp [RunnerInput.processResult, Dict.getD]

/-- The validator's report is about the data that it was sent. -/
theorem validate_sound {data : Json} {delegations : List (Json × DelegationRequest)}
    (h : σ.validate p r phase data delegations e s = .ok leg) : ∃ fields, data = .obj fields ∧
      leg.result = qualityReport fields ∧ leg.Sound p σ r.teeBundle.validateQuality (σ.validating p r data delegations e)
        (.obj (qualityReport fields)) := by
  obtain ⟨v, hv⟩ := leg_sound h
  have houtcome : validateHandler p (params2 data) = .returned (.json v) := hv.delivered.outcome
  cases hdata : asDict ((params2 data).getD "data" (.obj [])) with
  | error e =>
    rw [validateHandler, hdata] at houtcome
    cases houtcome
  | ok fields =>
    rw [validateHandler, hdata] at houtcome
    cases houtcome
    rw [asDict_ok] at hdata
    have hfields : data = .obj fields := by simpa [params2, Dict.getD] using hdata
    exact ⟨fields, hfields, (Json.obj.inj hv.result).symm, hv⟩

/-- The rounded average of the amounts, if there are some. -/
def averagePasses (a : Arithmetic) (amounts : List PyFloat) : Prop :=
  amounts ≠ [] ∧ (Json.float (a.round2 (a.mean amounts))).truthy = true

theorem processedData_passes {a : Arithmetic} (csv : Option SalesFile) {amounts : List PyFloat} :
    4 / 5 ≤ qualityScore (processedData a csv amounts) ↔ averagePasses a amounts := by
  rw [qualityScore_passes]
  cases amounts with
  | nil => simp [processedData, averagePasses, Dict.get, Dict.getD, Json.truthy]
  | cons x xs =>
    have hlength : (Json.int (xs.length + 1)).truthy = true := by
      simp only [Json.truthy, decide_eq_true_eq]
      omega
    simp [processedData, averagePasses, roundedOr0, Dict.get, Dict.getD, hlength]

/-! ## The summary -/

/-- Both delegations are sound, the second about the first one's data, and the summary is about them. -/
structure FullRun.Sound (p : Platform) (r : RunnerInput) (σ : Session) (e₁ e₂ : Encounter) (run : FullRun) : Prop where
  processing : run.processing.Sound p σ r.teeBundle.processData (σ.processing p r e₁) (.obj (r.processResult σ))
  validation : run.validation.Sound p σ r.teeBundle.validateQuality
    (σ.validating p r (.obj (processedData r.arithmetic r.sales σ.amounts))
      ((σ.processing p r e₁).stored p run.processing.receipt) e₂)
    (.obj (qualityReport (processedData r.arithmetic r.sales σ.amounts)))
  printed : run.printed = σ.summary r (.bool true) (processedData r.arithmetic r.sales σ.amounts)
    (qualityReport (processedData r.arithmetic r.sales σ.amounts))
  passed : run.printed.qualityPassed = true ↔ averagePasses r.arithmetic σ.amounts

theorem summary_passed {success : Json} {a : Arithmetic} {csv : Option SalesFile} {amounts : List PyFloat} :
    (σ.summary r success (processedData a csv amounts) (qualityReport (processedData a csv amounts))).qualityPassed = true ↔
      averagePasses a amounts := by
  rw [← processedData_passes csv]
  simp [Session.summary, qualityReport, Dict.getD, Json.truthy]

/-- Whatever the bundles say and other processes do to the ledger: a summary that is printed is about two delegations that
the TEE routed, the gateway authorized, and the two handlers served once each. -/
theorem full_sound {run : FullRun} (h : r.full p e₁ e₂ s = .ok run) :
    ∃ σ, r.session p = .ok σ ∧ run.Sound p r σ e₁ e₂ := by
  obtain ⟨σ, hσ, h⟩ := bind_ok.1 h
  obtain ⟨⟨processing, data⟩, hprocess, h⟩ := bind_ok.1 h
  obtain ⟨validation, hvalidate, h⟩ := bind_ok.1 h
  obtain ⟨fields, hfields, h⟩ := bind_ok.1 h
  obtain rfl := pure_ok.1 h
  obtain ⟨hprocessing, rfl⟩ := process_sound hprocess
  obtain ⟨fields', heq, hresult, hvalidation⟩ := validate_sound hvalidate
  obtain rfl := Json.obj.inj heq
  obtain rfl := Json.obj.inj (asDict_ok.1 (orRaised_ok.1 hfields))
  refine ⟨σ, orRaised_ok.1 hσ, hprocessing, hvalidation, ?_, ?_⟩
  · simp only [hprocessing.completed, hvalidation.completed, hresult, Bool.and_self]
  · simp only [hresult]
    exact summary_passed

end

end Adn
