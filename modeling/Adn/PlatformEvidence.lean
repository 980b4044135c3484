import Adn.Platform
import Adn.Lib.Js
/-!
# Evidence of a platform invocation

`T3nAttestedEvidenceVerifier`. An evidence object may have any subset of the
fields, with values of any type. `requireValid` accepts more than the live mode
rules written above it allow, and `requireValid_iff` says which objects.
-/

open Lib

namespace Adn

/-- `EvidenceMode` -/
inductive EvidenceMode where
  | t3nAttested
  | gatewayOnly
  | demo
deriving DecidableEq

/-- `EvidenceVerificationResult` -/
structure EvidenceVerificationResult where
  valid : Bool
  mode : EvidenceMode
  errors : List Str
  warnings : List Str
  pendingChecks : List Str

/-- `REQUIRED_LIVE_FIELDS` -/
def requiredLiveFields : List Str :=
  (["schema_version", "tenant_did", "contract_tail", "contract_version", "invocation_id", "worker_did", "action",
    "request_digest", "result_digest", "issued_at", "raw_platform_receipt", "platform_credential_fingerprint",
    "platform_credential_enforced"] : List String).map Str.ofString

def evidenceSchemaVersion : Str := "t3n-invocation-evidence-v1"

/-- `T3nAttestedEvidenceVerifier`, by the values it is pinned to. -/
structure EvidenceVerifier where
  tenantDid : Str
  contractTail : Str
  contractVersion : Str

/-- `v === undefined || v === null || v === ""` -/
def isBlank (v : Js) : Bool := v.isNullish || v.isText []

def missingRequiredField (field : Str) : Str := Str.ofString "Missing required field: " ++ field

/-- An error where `bad` holds. -/
def errorIf (bad : Bool) (error : Str) : List Str := if bad then [error] else []

/-- An error that quotes `v`, where `bad` holds. -/
def quotingError (bad : Bool) (v : Js) (error : Str → Str) : Except Str (List Str) :=
  if bad then v.toText.map fun got => [error got] else .ok []

/-- The binding check of one field: an error if it is truthy and not the pinned value. -/
def bindingErrors (evidence : Props) (field : String) (pinned : Str) : Except Str (List Str) :=
  let v := evidence.get field
  quotingError (v.truthy && !v.isText pinned) v fun got =>
    Str.ofString field ++ Str.ofString " mismatch: expected " ++ pinned ++ Str.ofString ", got " ++ got

def schemaErrors (evidence : Props) : Except Str (List Str) :=
  let v := evidence.get "schema_version"
  quotingError (!v.isText evidenceSchemaVersion) v fun got =>
    Str.ofString "schema_version must be 't3n-invocation-evidence-v1', got: " ++ got

namespace EvidenceVerifier

def tenantErrors (x : EvidenceVerifier) (evidence : Props) : Except Str (List Str) :=
  bindingErrors evidence "tenant_did" x.tenantDid

def tailErrors (x : EvidenceVerifier) (evidence : Props) : Except Str (List Str) :=
  bindingErrors evidence "contract_tail" x.contractTail

def versionErrors (x : EvidenceVerifier) (evidence : Props) : Except Str (List Str) :=
  bindingErrors evidence "contract_version" x.contractVersion

/-- The errors of the structural validation. -/
def structuralErrors (x : EvidenceVerifier) (evidence : Props) : Except Str (List Str) := do
  let missing := (requiredLiveFields.filter fun f => isBlank (evidence.get f)).map missingRequiredField
  let schema ← schemaErrors evidence
  let invocation := errorIf ((evidence.get "invocation_id").isText []) "invocation_id must not be empty"
  let fingerprint := errorIf (evidence.get "platform_credential_fingerprint").falsy
    "platform_credential_fingerprint is missing or empty — T3N credential not enforced"
  let receipt := errorIf (evidence.get "raw_platform_receipt").falsy
    "raw_platform_receipt is missing — cannot verify T3N platform origin"
  let tenant ← x.tenantErrors evidence
  let tail ← x.tailErrors evidence
  let version ← x.versionErrors evidence
  let enforced := errorIf ((evidence.get "platform_credential_enforced").isBool false)
    "platform_credential_enforced is false — T3N did not enforce credential"
  return missing ++ schema ++ invocation ++ fingerprint ++ receipt ++ tenant ++ tail ++ version ++ enforced

def pendingChecks : List Str := ["T3N platform cryptographic signature (pending T3N trust anchor publication)"]

/-- `evidence.evidence_mode ?? "demo"` -/
def modeOf (evidence : Props) : Js := (evidence.get "evidence_mode").orElse (.str "demo")

def verify (x : EvidenceVerifier) (evidence : Props) : Except Str EvidenceVerificationResult :=
  if (modeOf evidence).isText "demo" then
    return {
      valid := true
      mode := .demo
      errors := []
      warnings := ["Evidence mode is 'demo' — NOT T3N-attested (NON-ATTESTED). Not valid for live proof."]
      pendingChecks }
  else if (modeOf evidence).isText "gateway_only" then
    return {
      valid := false
      mode := .gatewayOnly
      errors := ["gateway_only evidence is not acceptable in live mode — T3N platform evidence required"]
      warnings := []
      pendingChecks }
  else do
    -- every other mode is validated as `t3n_attested`
    let errors ← x.structuralErrors evidence
    let unsigned : List Str := ["platform_signature not present — T3N has not published a verifier key yet; signature check is pending"]
    return {
      valid := errors.isEmpty
      mode := .t3nAttested
      errors
      warnings := if (evidence.get "platform_signature").falsy then unsigned else []
      pendingChecks }

/-- `result.errors.map(e => "  - " + e).join("\n")` -/
def errorLines (errors : List Str) : Str :=
  (Str.ofString "\n").intercalate (errors.map (Str.ofString "  - " ++ ·))

def requireValid (x : EvidenceVerifier) (evidence : Props) : Except Str Unit := do
  let result ← x.verify evidence
  if result.valid then return ()
  else throw (Str.ofString "[T3N Evidence] Verification failed:\n" ++ errorLines result.errors)

end EvidenceVerifier

/-! ## What passes -/

/-- What the structural validation lets pass. -/
structure FieldsPass (x : EvidenceVerifier) (evidence : Props) : Prop where
  required : ∀ f ∈ requiredLiveFields, isBlank (evidence.get f) = false
  schema : evidence.get "schema_version" = .str evidenceSchemaVersion
  fingerprint : (evidence.get "platform_credential_fingerprint").truthy = true
  receipt : (evidence.get "raw_platform_receipt").truthy = true
  tenant : (evidence.get "tenant_did").falsy = true ∨ evidence.get "tenant_did" = .str x.tenantDid
  tail : (evidence.get "contract_tail").falsy = true ∨ evidence.get "contract_tail" = .str x.contractTail
  version : (evidence.get "contract_version").falsy = true ∨ evidence.get "contract_version" = .str x.contractVersion
  enforced : evidence.get "platform_credential_enforced" ≠ .bool false

section
variable {x : EvidenceVerifier} {evidence : Props}

theorem errorIf_nil {bad : Bool} {error : Str} : errorIf bad error = [] ↔ bad = false := by
  cases bad <;> simp [errorIf]

theorem quotingError_nil {bad : Bool} {v : Js} {error : Str → Str} : quotingError bad v error = .ok [] ↔ bad = false := by
  cases bad with
  | false => simp [quotingError]
  | true =>
    simp only [quotingError, if_true, Bool.true_eq_false, iff_false]
    cases v.toText <;> simp [Except.map]

theorem bindingErrors_nil {field : String} {pinned : Str} : bindingErrors evidence field pinned = .ok [] ↔
    (evidence.get field).falsy = true ∨ evidence.get field = .str pinned := by
  simp only [bindingErrors, quotingError_nil, Js.truthy, ← Js.isText_iff, Bool.and_eq_false_iff, Bool.not_eq_false']

theorem schemaErrors_nil : schemaErrors evidence = .ok [] ↔
    evidence.get "schema_version" = .str evidenceSchemaVersion := by
  simp only [schemaErrors, quotingError_nil, Bool.not_eq_false', Js.isText_iff]

/-- No field is blank. -/
theorem missing_nil : (requiredLiveFields.filter fun f => isBlank (evidence.get f)).map missingRequiredField = [] ↔
    ∀ f ∈ requiredLiveFields, isBlank (evidence.get f) = false := by
  simp only [List.map_eq_nil_iff, List.filter_eq_nil_iff, Bool.not_eq_true]

/-- A present invocation id is not empty. -/
theorem invocation_nil (h : ∀ f ∈ requiredLiveFields, isBlank (evidence.get f) = false) :
    (evidence.get "invocation_id").isText [] = false := by
  have hb := h "invocation_id" (by simp [requiredLiveFields])
  rw [isBlank, Bool.or_eq_false_iff] at hb
  exact hb.2

theorem structuralErrors_nil : x.structuralErrors evidence = .ok [] ↔ FieldsPass x evidence := by
  simp only [EvidenceVerifier.structuralErrors, bind_ok, pure_ok, List.append_eq_nil_iff, errorIf_nil, missing_nil]
  constructor
  · rintro ⟨schema, hs, tenant, ht, tail, htl, version, hv, ⟨⟨⟨⟨⟨⟨⟨hreq, rfl⟩, -⟩, hf⟩, hr⟩, rfl⟩, rfl⟩, rfl⟩, he⟩
    refine ⟨hreq, schemaErrors_nil.1 hs, ?_, ?_, bindingErrors_nil.1 ht, bindingErrors_nil.1 htl, bindingErrors_nil.1 hv, ?_⟩
    · rw [Js.truthy, hf]
      rfl
    · rw [Js.truthy, hr]
      rfl
    · rwa [← Bool.not_eq_true, Js.isBool_iff] at he
  · rintro ⟨hreq, hs, hf, hr, ht, htl, hv, he⟩
    refine ⟨[], schemaErrors_nil.2 hs, [], bindingErrors_nil.2 ht, [], bindingErrors_nil.2 htl, [],
      bindingErrors_nil.2 hv, ⟨⟨⟨⟨⟨⟨⟨hreq, rfl⟩, invocation_nil hreq⟩, ?_⟩, ?_⟩, rfl⟩, rfl⟩, rfl⟩, ?_⟩
    · simpa [Js.truthy] using hf
    · simpa [Js.truthy] using hr
    · rwa [← Bool.not_eq_true, Js.isBool_iff]

/-- An absent mode is `demo`. -/
theorem modeOf_demo : (EvidenceVerifier.modeOf evidence).isText "demo" = true ↔
    (evidence.get "evidence_mode").isNullish = true ∨ evidence.get "evidence_mode" = .str "demo" := by
  rw [EvidenceVerifier.modeOf, Js.orElse]
  split
  · simp_all [Js.isText]
  · simp_all [Js.isText_iff]

theorem modeOf_other {mode : String} (hd : mode ≠ "demo") : (EvidenceVerifier.modeOf evidence).isText mode = true ↔
    evidence.get "evidence_mode" = .str mode := by
  rw [EvidenceVerifier.modeOf, Js.orElse, Js.isText_iff]
  split
  · rename_i hn
    constructor
    · intro h
      exact absurd (Text.ofString_inj.1 (Js.str.inj h)).symm hd
    · intro h
      rw [h] at hn
      cases hn
  · rfl

/-- What `requireValid` accepts: demo evidence, and what passes in any mode but `gateway_only`. -/
theorem requireValid_ok : x.requireValid evidence = .ok () ↔
    ((evidence.get "evidence_mode").isNullish = true ∨ evidence.get "evidence_mode" = .str "demo") ∨
      (evidence.get "evidence_mode" ≠ .str "gateway_only" ∧ FieldsPass x evidence) := by
  have hother : (EvidenceVerifier.modeOf evidence).isText "gateway_only" = true ↔
    evidence.get "evidence_mode" = .str "gateway_only" := modeOf_other (by simp)
  rw [← modeOf_demo, ← structuralErrors_nil, ne_eq, ← hother]
  unfold EvidenceVerifier.requireValid EvidenceVerifier.verify
  by_cases hd : (EvidenceVerifier.modeOf evidence).isText "demo" = true
  · rw [if_pos hd]
    exact iff_of_true rfl (.inl hd)
  rw [if_neg hd]
  by_cases hg : (EvidenceVerifier.modeOf evidence).isText "gateway_only" = true
  · rw [if_pos hg]
    refine iff_of_false (fun h => by cases h) ?_
    rintro (h | ⟨h, -⟩)
    · exact hd h
    · exact h hg
  rw [if_neg hg]
  cases he : x.structuralErrors evidence with
  | error e => simp [hd, bind, Except.bind]
  | ok errors => cases errors <;> simp [hd, hg, bind, Except.bind, pure, Except.pure, throw, throwThe, MonadExceptOf.throw]

/-! ## Live evidence -/

/-- What the rules for live mode ask for. -/
structure LiveEvidence (x : EvidenceVerifier) (evidence : Props) : Prop where
  mode : evidence.get "evidence_mode" = .str "t3n_attested"
  required : ∀ f ∈ requiredLiveFields, isBlank (evidence.get f) = false
  schema : evidence.get "schema_version" = .str evidenceSchemaVersion
  tenant : evidence.get "tenant_did" = .str x.tenantDid
  tail : evidence.get "contract_tail" = .str x.contractTail
  version : evidence.get "contract_version" = .str x.contractVersion
  enforced : evidence.get "platform_credential_enforced" = .bool true

/-- A mode other than `t3n_attested`, a pinned field that is falsy, or a flag that is not `true`. -/
def Loose (evidence : Props) : Prop :=
  evidence.get "evidence_mode" ≠ .str "t3n_attested" ∨ (evidence.get "tenant_did").falsy = true ∨
    (evidence.get "contract_tail").falsy = true ∨ (evidence.get "contract_version").falsy = true ∨
      evidence.get "platform_credential_enforced" ≠ .bool true

/-- The evidence objects on which the rules for live mode are not enforced. -/
def Gap (x : EvidenceVerifier) (evidence : Props) : Prop :=
  ((evidence.get "evidence_mode").isNullish = true ∨ evidence.get "evidence_mode" = .str "demo") ∨
    (evidence.get "evidence_mode" ≠ .str "gateway_only" ∧ FieldsPass x evidence ∧ Loose evidence)

/-- `requireValid` enforces the rules for live mode on every evidence object but these. -/
theorem requireValid_iff (x : EvidenceVerifier) (evidence : Props) :
    (x.requireValid evidence = .ok () → LiveEvidence x evidence) ↔ ¬Gap x evidence := by
  rw [requireValid_ok]
  constructor
  · rintro h (hd | ⟨hg, hf, hl⟩)
    · have hm := (h (.inl hd)).mode
      rcases hd with hn | hd
      · rw [hm] at hn
        cases hn
      · rw [hm, Js.str.injEq, Text.ofString_inj] at hd
        exact absurd hd (by simp)
    · -- an object that passes with a loose field is accepted all the same
      have hlive := h (.inr ⟨hg, hf⟩)
      have hpinned : ∀ {field : String} {pinned : Str}, field ∈ ["tenant_did", "contract_tail", "contract_version"] →
          evidence.get field = .str pinned → (evidence.get field).falsy = true → False := by
        intro field pinned hmem he hfalsy
        have hb := hf.required field (by
          rcases List.mem_cons.1 hmem with rfl | hmem
          · simp [requiredLiveFields]
          rcases List.mem_cons.1 hmem with rfl | hmem
          · simp [requiredLiveFields]
          · rw [List.mem_singleton] at hmem
            simp [requiredLiveFields, hmem])
        rw [he] at hfalsy hb
        simp_all [isBlank, Js.falsy, Js.isText, Js.isNullish]
      rcases hl with hm | ht | htl | hv | he
      · exact hm hlive.mode
      · exact hpinned (by simp) hlive.tenant ht
      · exact hpinned (by simp) hlive.tail htl
      · exact hpinned (by simp) hlive.version hv
      · exact he hlive.enforced
  · intro hgap h
    rcases h with hd | ⟨hg, hf⟩
    · exact absurd (.inl hd) hgap
    · have hl : ¬Loose evidence := fun hl => hgap (.inr ⟨hg, hf, hl⟩)
      simp only [Loose, not_or, not_not] at hl
      obtain ⟨hm, ht, htl, hv, he⟩ := hl
      exact ⟨hm, hf.required, hf.schema, hf.tenant.resolve_left ht, hf.tail.resolve_left htl, hf.version.resolve_left hv, he⟩

end

/-! ### Evidence under an unknown mode -/

namespace Sample

def evidenceVerifier : EvidenceVerifier := ⟨"did:t3n:tenant123", "adn-processor", "3.9.2"⟩

/-- Its mode is none of the three, and its tenant is `false`: not blank, and not compared either. -/
def misnamedEvidence : Props := Props.ofList [("schema_version", .str evidenceSchemaVersion), ("tenant_did", .bool false),
  ("contract_tail", .str "adn-processor"), ("contract_version", .str "3.9.2"), ("invocation_id", .str "tee-del-abc123"),
  ("worker_did", .str "did:t3n:worker456"), ("action", .str "PROCESS_DATA"), ("request_digest", .str "aa11"),
  ("result_digest", .str "bb22"), ("issued_at", .str "2026-06-28T10:16:02Z"), ("raw_platform_receipt", .obj []),
  ("platform_credential_fingerprint", .str "8998bbfe"), ("platform_credential_enforced", .str "no"),
  ("evidence_mode", .str "attested")]

/-- It is validated as if it were `t3n_attested`, and accepted; so is an object that names no mode at all. -/
theorem misnamed_mode_accepted :
    (evidenceVerifier.requireValid misnamedEvidence = .ok () ∧ ¬LiveEvidence evidenceVerifier misnamedEvidence) ∧
      evidenceVerifier.requireValid [] = .ok () ∧ ¬LiveEvidence evidenceVerifier [] := by
  refine ⟨⟨rfl, fun h => ?_⟩, requireValid_ok.2 (.inl (.inl rfl)), fun h => ?_⟩
  · have hm : Js.str "attested" = .str "t3n_attested" := h.mode
    rw [Js.str.injEq, Text.ofString_inj] at hm
    exact absurd hm (by simp)
  · have hm : Js.undefined = .str "t3n_attested" := h.mode
    cases hm

end Sample

end Adn
