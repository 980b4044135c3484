import Adn.PlatformEvidence
/-!
# An evidence object and the receipt inside it

`buildEvidenceFromReceipt` copies three fields of the receipt into the evidence and
stores the receipt beside them. `verify` never reads the stored receipt, so it cannot
tell that a copy differs, and it refuses what was built from a receipt whose expiry is
the empty text.
-/

open Lib

namespace Adn

/-! ## The builder -/

/-- `opts` -/
structure BuildOptions where
  tenantDid : Str
  contractTail : Str
  contractVersion : Str
  workerDid : Str
  action : Str
  requestDigest : Str
  resultDigest : Str

/-- `buildEvidenceFromReceipt`, at the time `now` -/
def buildEvidenceFromReceipt (receipt : Props) (options : BuildOptions) (now : Str) : Props :=
  Props.ofList [
    ("schema_version", .str evidenceSchemaVersion),
    ("tenant_did", .str options.tenantDid),
    ("contract_tail", .str options.contractTail),
    ("contract_version", .str options.contractVersion),
    ("invocation_id", receipt.get "delegation_id"),
    ("worker_did", .str options.workerDid),
    ("action", .str options.action),
    ("request_digest", .str options.requestDigest),
    ("result_digest", .str options.resultDigest),
    ("issued_at", (receipt.get "authorization_expires_at").orElse (.str now)),
    ("raw_platform_receipt", .obj receipt),
    ("platform_credential_fingerprint", receipt.get "credential_fingerprint"),
    ("platform_credential_enforced", receipt.get "credential_enforced"),
    ("evidence_mode", .str "t3n_attested")]

/-- No option is empty. -/
structure BuildOptions.Filled (options : BuildOptions) : Prop where
  tenantDid : options.tenantDid ≠ []
  contractTail : options.contractTail ≠ []
  contractVersion : options.contractVersion ≠ []
  workerDid : options.workerDid ≠ []
  action : options.action ≠ []
  requestDigest : options.requestDigest ≠ []
  resultDigest : options.resultDigest ≠ []

/-- The options name the tenant and the contract of the verifier. -/
structure BuildOptions.Matches (options : BuildOptions) (x : EvidenceVerifier) : Prop where
  tenantDid : options.tenantDid = x.tenantDid
  contractTail : options.contractTail = x.contractTail
  contractVersion : options.contractVersion = x.contractVersion

/-- The receipt of an invocation that T3N enforced. -/
structure EnforcedReceipt (receipt : Props) : Prop where
  delegation : ∃ id, id ≠ [] ∧ receipt.get "delegation_id" = .str id
  fingerprint : ∃ fingerprint, fingerprint ≠ [] ∧ receipt.get "credential_fingerprint" = .str fingerprint
  enforced : receipt.get "credential_enforced" = .bool true

/-! ## The verifier -/

/-- `verify` reports the evidence as valid. -/
def EvidenceVerifier.Accepts (x : EvidenceVerifier) (evidence : Props) : Prop :=
  ∃ r, x.verify evidence = .ok r ∧ r.valid = true

/-- The summary says what the receipt says, and that T3N enforced the credential. -/
structure SummaryAgrees (evidence receipt : Props) : Prop where
  invocation : evidence.get "invocation_id" = receipt.get "delegation_id"
  fingerprint : evidence.get "platform_credential_fingerprint" = receipt.get "credential_fingerprint"
  enforced : evidence.get "platform_credential_enforced" = receipt.get "credential_enforced"
  live : evidence.get "platform_credential_enforced" = .bool true

section
variable {x : EvidenceVerifier} {evidence receipt : Props} {options : BuildOptions} {now : Str}

/-- Attested evidence is valid if the structural validation finds no error. -/
theorem accepts_iff_fieldsPass (hmode : evidence.get "evidence_mode" = .str "t3n_attested") :
    x.Accepts evidence ↔ FieldsPass x evidence := by
  have hmodeOf : EvidenceVerifier.modeOf evidence = .str "t3n_attested" := by
    rw [EvidenceVerifier.modeOf, hmode]
    rfl
  have hdemo : (EvidenceVerifier.modeOf evidence).isText "demo" = false := by
    rw [hmodeOf]
    rfl
  have hgateway : (EvidenceVerifier.modeOf evidence).isText "gateway_only" = false := by
    rw [hmodeOf]
    rfl
  rw [← structuralErrors_nil, EvidenceVerifier.Accepts, EvidenceVerifier.verify, hdemo, hgateway]
  simp only [Bool.false_eq_true, if_false, bind_ok, pure_ok]
  constructor
  · rintro ⟨_, ⟨errors, herrors, rfl⟩, hvalid⟩
    rw [List.isEmpty_iff] at hvalid
    rw [herrors, hvalid]
  · intro herrors
    exact ⟨_, ⟨[], herrors, rfl⟩, rfl⟩

theorem isBlank_str {s : Str} : isBlank (.str s) = false ↔ s ≠ [] := by
  simp [isBlank, Js.isNullish, Js.isText]

/-- The date that `??` falls back to is no blank, so only an empty expiry is one. -/
theorem isBlank_orElse (hnow : now ≠ []) (v : Js) : isBlank (v.orElse (.str now)) = false ↔ v ≠ .str [] := by
  cases v <;> simp [isBlank, Js.orElse, Js.isNullish, Js.isText, hnow]

/-- Reading a property of an object literal. -/
theorem get_ofList_cons (k' : String) (v : Js) (fs : List (String × Js)) (k : String) :
    Props.get (Props.ofList ((k', v) :: fs)) k = if k' = k then v else Props.get (Props.ofList fs) k := by
  rw [Props.get, Props.get?_ofList_cons]
  split <;> rfl

theorem build_mode : (buildEvidenceFromReceipt receipt options now).get "evidence_mode" = .str "t3n_attested" := by
  simp only [buildEvidenceFromReceipt, get_ofList_cons, String.reduceEq, if_true, if_false]

/-- The builder's summary is the receipt's. -/
theorem build_agrees (henforced : receipt.get "credential_enforced" = .bool true) :
    SummaryAgrees (buildEvidenceFromReceipt receipt options now) receipt := by
  constructor
  all_goals simp only [buildEvidenceFromReceipt, get_ofList_cons, String.reduceEq, if_true, if_false]
  exact henforced

/-- Of the fields that are built, only `issued_at` can be refused. -/
theorem fieldsPass_build (hr : EnforcedReceipt receipt) (hfilled : options.Filled) (hmatches : options.Matches x) :
    FieldsPass x (buildEvidenceFromReceipt receipt options now) ↔
      isBlank ((receipt.get "authorization_expires_at").orElse (.str now)) = false := by
  obtain ⟨id, hid, hdelegation⟩ := hr.delegation
  obtain ⟨fingerprint, hprint, hfingerprint⟩ := hr.fingerprint
  constructor
  · intro hpass
    have hissued := hpass.required "issued_at" (by simp [requiredLiveFields])
    simpa [buildEvidenceFromReceipt, get_ofList_cons] using hissued
  · intro hissued
    refine ⟨?_, ?_, ?_, ?_, .inr ?_, .inr ?_, .inr ?_, ?_⟩
    · intro f hf
      simp only [requiredLiveFields, List.map_cons, List.map_nil, List.mem_cons, List.not_mem_nil, or_false] at hf
      rcases hf with rfl | rfl | rfl | rfl | rfl | rfl | rfl | rfl | rfl | rfl | rfl | rfl | rfl
      all_goals simp only [buildEvidenceFromReceipt, get_ofList_cons, String.reduceEq, if_true, if_false, hdelegation,
        hfingerprint, hr.enforced]
      -- the texts first, then the date, the receipt and the flag
      all_goals try apply isBlank_str.2
      · simp [evidenceSchemaVersion]
      · exact hfilled.tenantDid
      · exact hfilled.contractTail
      · exact hfilled.contractVersion
      · exact hid
      · exact hfilled.workerDid
      · exact hfilled.action
      · exact hfilled.requestDigest
      · exact hfilled.resultDigest
      · exact hissued
      · rfl
      · exact hprint
      · rfl
    all_goals simp only [buildEvidenceFromReceipt, get_ofList_cons, String.reduceEq, if_true, if_false, hfingerprint,
      hr.enforced]
    · simpa [Js.truthy, Js.falsy] using hprint
    · rfl
    · rw [hmatches.tenantDid]
    · rw [hmatches.contractTail]
    · rw [hmatches.contractVersion]
    · simp

/-! ## Where the two differ -/

theorem get_set (o : Props) (k : String) (v : Js) (j : String) :
    (o.set k v).get j = if k = j then v else o.get j := by
  simp only [Props.get, Props.get?_set, Text.ofString_inj]
  split <;> rfl

/-- The structural validation reads nothing of the receipt but that it is there. -/
theorem FieldsPass.any_receipt (h : FieldsPass x evidence) (other : Props) :
    FieldsPass x (evidence.set "raw_platform_receipt" (.obj other)) := by
  refine ⟨?_, ?_, ?_, ?_, ?_, ?_, ?_, ?_⟩
  · intro f hf
    by_cases heq : Str.ofString "raw_platform_receipt" = f
    · rw [← heq, get_set, if_pos rfl]
      rfl
    · rw [Props.get, Props.get?_set, if_neg heq, ← Props.get]
      exact h.required f hf
  all_goals simp only [get_set, String.reduceEq, if_true, if_false]
  · exact h.schema
  · exact h.fingerprint
  · rfl
  · exact h.tenant
  · exact h.tail
  · exact h.version
  · exact h.enforced

/-- Evidence that is valid stays valid with any other receipt in it. -/
theorem accepts_any_receipt (hmode : evidence.get "evidence_mode" = .str "t3n_attested") (h : x.Accepts evidence)
    (other : Props) : x.Accepts (evidence.set "raw_platform_receipt" (.obj other)) := by
  rw [accepts_iff_fieldsPass hmode] at h
  rw [accepts_iff_fieldsPass (by simpa [get_set] using hmode)]
  exact h.any_receipt other

/-- Evidence that was built from a receipt, with another one in its place. -/
def withReceipt (evidence receipt : Props) : Props := evidence.set "raw_platform_receipt" (.obj receipt)

/-- The two receipts are of one invocation, as far as the summary goes. -/
structure SameInvocation (stored built : Props) : Prop where
  delegation : built.get "delegation_id" = stored.get "delegation_id"
  fingerprint : built.get "credential_fingerprint" = stored.get "credential_fingerprint"
  enforced : built.get "credential_enforced" = stored.get "credential_enforced"

/-- The summary stays that of the receipt it was built from. -/
theorem withReceipt_agrees_iff {built stored : Props} (henforced : built.get "credential_enforced" = .bool true) :
    SummaryAgrees (withReceipt (buildEvidenceFromReceipt built options now) stored) stored ↔ SameInvocation stored built := by
  constructor
  · rintro ⟨hinvocation, hfingerprint, henforced, -⟩
    simp only [withReceipt, get_set, buildEvidenceFromReceipt, get_ofList_cons, String.reduceEq, if_true, if_false]
      at hinvocation hfingerprint henforced
    exact ⟨hinvocation, hfingerprint, henforced⟩
  · rintro ⟨hdelegation, hfingerprint, hsame⟩
    constructor
    all_goals simp only [withReceipt, get_set, buildEvidenceFromReceipt, get_ofList_cons, String.reduceEq, if_true, if_false]
    · exact hdelegation
    · exact hfingerprint
    · exact hsame
    · exact henforced

/-- It is accepted with any receipt in it, or with none. -/
theorem withReceipt_accepts_iff {built : Props} (hr : EnforcedReceipt built) (hfilled : options.Filled)
    (hmatches : options.Matches x) (hnow : now ≠ []) (stored : Props) :
    x.Accepts (withReceipt (buildEvidenceFromReceipt built options now) stored) ↔
      built.get "authorization_expires_at" ≠ .str [] := by
  rw [← isBlank_orElse hnow]
  constructor
  · intro h
    rw [accepts_iff_fieldsPass (by simpa [withReceipt, get_set] using build_mode)] at h
    have hissued := h.required "issued_at" (by simp [requiredLiveFields])
    simpa [withReceipt, get_set, buildEvidenceFromReceipt, get_ofList_cons] using hissued
  · intro hissued
    have haccepts := (accepts_iff_fieldsPass build_mode).2 ((fieldsPass_build hr hfilled hmatches).2 hissued)
    exact accepts_any_receipt build_mode haccepts stored

/-- Evidence is consistent with the receipt it was built from, and with another one in its place exactly if the two are of
one invocation or the evidence was never valid. What is built of the receipt of an enforced invocation is valid unless the
receipt has an empty text as its expiry. -/
theorem receipt_consistent_iff (x : EvidenceVerifier) :
    (∀ (receipt : Props) (options : BuildOptions) (now : Str), receipt.get "credential_enforced" = .bool true →
      x.Accepts (buildEvidenceFromReceipt receipt options now) →
        SummaryAgrees (buildEvidenceFromReceipt receipt options now) receipt) ∧
    ∀ (receipt : Props) (options : BuildOptions) (now : Str), EnforcedReceipt receipt → options.Filled →
      options.Matches x → now ≠ [] →
      (∀ stored, ((x.Accepts (withReceipt (buildEvidenceFromReceipt receipt options now) stored) →
          SummaryAgrees (withReceipt (buildEvidenceFromReceipt receipt options now) stored) stored) ↔
            SameInvocation stored receipt ∨ receipt.get "authorization_expires_at" = .str [])) ∧
      (x.Accepts (buildEvidenceFromReceipt receipt options now) ↔ receipt.get "authorization_expires_at" ≠ .str []) := by
  refine ⟨fun receipt options now henforced _ => build_agrees henforced, ?_⟩
  intro receipt options now hr hfilled hmatches hnow
  refine ⟨fun stored => ?_, ?_⟩
  · rw [withReceipt_accepts_iff hr hfilled hmatches hnow, withReceipt_agrees_iff hr.enforced, or_comm]
    exact or_iff_not_imp_left.symm
  · rw [accepts_iff_fieldsPass build_mode, fieldsPass_build hr hfilled hmatches, isBlank_orElse hnow]

end

/-! ### A summary of another invocation -/

namespace Sample

def enforcedReceipt : Props := Props.ofList [("delegation_id", .str "delegation-1"), ("status", .str "authorized"),
  ("credential_enforced", .bool true), ("credential_fingerprint", .str "sha256:feed")]

def buildOptions : BuildOptions :=
  ⟨"did:t3n:tenant123", "adn-processor", "3.9.2", "did:t3n:worker7", "PROCESS_DATA", "aa11", "bb22"⟩

/-- The receipt of another invocation, which T3N did not enforce. -/
def otherReceipt : Props := Props.ofList [("delegation_id", .str "delegation-2"), ("status", .str "refused"),
  ("credential_enforced", .bool false), ("credential_fingerprint", .str "sha256:0bad")]

def builtEvidence : Props := buildEvidenceFromReceipt enforcedReceipt buildOptions "2026-01-01T00:00:00.000Z"

theorem enforcedReceipt_enforced : EnforcedReceipt enforcedReceipt := by
  refine ⟨⟨"delegation-1", by simp, ?_⟩, ⟨"sha256:feed", by simp, ?_⟩, ?_⟩
  all_goals simp only [enforcedReceipt, get_ofList_cons, String.reduceEq, if_true, if_false]

theorem buildOptions_filled : buildOptions.Filled := by
  constructor <;> simp [buildOptions]

theorem otherReceipt_enforced : otherReceipt.get "credential_enforced" = .bool false := by
  simp only [otherReceipt, get_ofList_cons, String.reduceEq, if_true, if_false]

/-- The receipt names no expiry, so the evidence has the time it was built at. -/
theorem enforcedReceipt_expiry : enforcedReceipt.get "authorization_expires_at" = .undefined := by
  simp only [enforcedReceipt, get_ofList_cons, String.reduceEq, if_false]
  rfl

/-- What is built of it is valid and consistent, but not with the other receipt in its place. -/
theorem evidence_of_receipt_valid :
    SummaryAgrees builtEvidence enforcedReceipt ∧ evidenceVerifier.Accepts builtEvidence ∧
      ¬(evidenceVerifier.Accepts (withReceipt builtEvidence otherReceipt) →
        SummaryAgrees (withReceipt builtEvidence otherReceipt) otherReceipt) := by
  obtain ⟨hconsistent, hbuilt⟩ := receipt_consistent_iff evidenceVerifier
  obtain ⟨hreplaced, hvalid⟩ := hbuilt enforcedReceipt buildOptions "2026-01-01T00:00:00.000Z" enforcedReceipt_enforced
    buildOptions_filled ⟨rfl, rfl, rfl⟩ (by simp)
  have haccepts : evidenceVerifier.Accepts builtEvidence := by
    apply hvalid.2
    rw [enforcedReceipt_expiry]
    simp
  refine ⟨hconsistent _ _ _ enforcedReceipt_enforced.enforced haccepts, haccepts, fun h => ?_⟩
  rcases (hreplaced otherReceipt).1 h with hsame | hexpiry
  · have henforced := hsame.enforced
    rw [enforcedReceipt_enforced.enforced, otherReceipt_enforced] at henforced
    cases henforced
  · rw [enforcedReceipt_expiry] at hexpiry
    cases hexpiry

/-- The summary of one invocation with the receipt of another is valid. -/
theorem other_receipt_accepted : ¬∀ evidence receipt : Props, evidence.get "evidence_mode" = .str "t3n_attested" →
    evidence.get "raw_platform_receipt" = .obj receipt → evidenceVerifier.Accepts evidence →
    SummaryAgrees evidence receipt := by
  intro h
  have hbuilt : evidenceVerifier.Accepts builtEvidence := by
    apply (accepts_iff_fieldsPass build_mode).2
    apply (fieldsPass_build enforcedReceipt_enforced buildOptions_filled ⟨rfl, rfl, rfl⟩).2
    rw [enforcedReceipt_expiry]
    rfl
  have hmode : (builtEvidence.set "raw_platform_receipt" (.obj otherReceipt)).get "evidence_mode" =
      .str "t3n_attested" := by
    rw [get_set, if_neg (by decide)]
    exact build_mode
  have hreceipt : (builtEvidence.set "raw_platform_receipt" (.obj otherReceipt)).get "raw_platform_receipt" =
      .obj otherReceipt := by
    rw [get_set, if_pos rfl]
  have hagrees := h _ otherReceipt hmode hreceipt (accepts_any_receipt build_mode hbuilt otherReceipt)
  have hlive := hagrees.enforced.symm.trans hagrees.live
  rw [otherReceipt_enforced] at hlive
  cases hlive

end Sample

end Adn
