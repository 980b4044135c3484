import Adn.Platform
import Adn.ReleaseSchema
/-!
# The release verifier

`scripts/verify_release.py`: what a directory of retained proof files has to be like.
Files are read as bytes by their path in the directory; `json.loads` of a file, SHA-256
and Ed25519 are the platform's.
-/

open Lib

namespace Adn

namespace Release

/-- Why a script fails. -/
inductive Failure where
  /-- `RuntimeError` -/
  | runtime (message : Str)
  /-- Another exception: a value, a file or a signature is not what it has to be. -/
  | other
deriving DecidableEq

def require (ok : Bool) (message : Str) : Except Failure Unit := if ok then .ok () else .error (.runtime message)

theorem require_ok {ok : Bool} {message : Str} {u : Unit} : require ok message = .ok u ↔ ok = true := by
  cases ok <;> simp [require]

/-- A directory: the bytes of each file. -/
abbrev Files := Str → Option (List UInt8)

/-- What the scripts run on. -/
structure Host where
  platform : Platform
  /-- `os.environ.get` -/
  env : Str → Option Str
  /-- `json.loads` of a file's text, `none` where it or the decoding raises -/
  loads : List UInt8 → Option Json
  /-- What `\d` matches. -/
  isDecimal : ℕ → Bool
  /-- What `str.isdigit` takes. -/
  isDigit : ℕ → Bool

/-! ## Canonical JSON -/

/-- `quote_json_string` -/
def quoteJsonString (s : Str) : Str :=
  Text.quotationMark :: s.flatMap (Text.escapeUnit fun u => 0x20 ≤ u.toNat) ++ [Text.quotationMark]

/-- An entry's text. -/
def entryText (f : Str × Str) : Str := quoteJsonString f.1 ++ colon :: f.2

mutual

/-- `canonical_json`, `none` where it raises -/
def canonicalJson : Json → Option Str
  | .null => some "null"
  | .bool b => some (if b then "true" else "false")
  | .int n => some (Numerals.intText n)
  | .float x =>
    match x with
    | .posInf | .negInf | .nan => none
    | x => some (Json.floatDumps x)
  | .str s => some (quoteJsonString s)
  | .arr xs => (canonicalList xs).map fun ts => openBracket :: joinComma ts ++ [closeBracket]
  | .obj fs => (canonicalFields fs).map fun ts => openBrace :: joinComma ((sortFields ts).map entryText) ++ [closeBrace]

def canonicalList : List Json → Option (List Str)
  | [] => some []
  | x :: xs => do return (← canonicalJson x) :: (← canonicalList xs)

def canonicalFields : Dict → Option (List (Str × Str))
  | [] => some []
  | (k, v) :: fs => do return (k, ← canonicalJson v) :: (← canonicalFields fs)

end

/-- `text.encode("utf-8")`: a lone surrogate raises. -/
def encodeUtf8 (s : Str) : Except Failure (List UInt8) :=
  if (Text.codePoints s).any Text.isSurrogate then .error .other else .ok (Text.utf8 s)

/-- `canonical_json(value).encode("utf-8")` -/
def canonicalBytes (v : Json) : Except Failure (List UInt8) :=
  match canonicalJson v with
  | none => .error (.runtime "canonical JSON cannot encode non-finite numbers")
  | some text => encodeUtf8 text

/-- `", ".join(names)` -/
def joinNames : List Str → Str
  | [] => []
  | [t] => t
  | t :: ts => t ++ Str.ofString ", " ++ joinNames ts

/-- `payload.get(field) in (None, "")` -/
def isMissing (v : Json) : Bool := v.pyEq .null || v.pyEq (.str [])

/-- `v.get` exists. -/
def asObject : Json → Except Failure Dict
  | .obj fs => .ok fs
  | _ => .error .other

theorem asObject_ok {v : Json} {d : Dict} : asObject v = .ok d ↔ v = .obj d := by
  cases v <;> simp [asObject]

def requireFields (label : Str) (payload : Dict) (fields : List Str) : Except Failure Unit :=
  let missing := fields.filter fun field => isMissing (payload.get field)
  require (missing = []) (label ++ Str.ofString " missing required fields: " ++ joinNames missing)

/-- `{k: v for k, v in manifest.items() if k != "manifest_digest"}` -/
def manifestBody (manifest : Dict) : Dict := manifest.filter (·.1 ≠ "manifest_digest")

/-! ## Files -/

def proofInputFiles : List Str := ["deployment_manifest.json", "deployment_manifest.sig", "registration_response.json",
  "invocation_receipt.json", "t3n_evidence.json", "replay_restart_proof.json"]

def requiredProofFiles : List Str := proofInputFiles ++ [Str.ofString "ci_release_sha.json"]

def requireFiles (dir : Files) (names : List Str) : Except Failure Unit :=
  let missing := names.filter fun name => (dir name).isNone
  require (missing = []) (Str.ofString "missing release proof files: " ++ joinNames missing)

def readBytes (dir : Files) (name : Str) : Except Failure (List UInt8) :=
  match dir name with
  | some bytes => .ok bytes
  | none => .error .other

/-- `v is True` -/
def isTrue : Json → Bool
  | .bool b => b
  | _ => false

/-! ## The schema -/

def schemaError (text : Str) : Str := Str.ofString "deployment manifest schema " ++ text

namespace Host

variable (h : Host)

/-- `digest_hex(data)` -/
def digestHex (data : List UInt8) : Str := Hex.hexLower (h.platform.sha256 data)

/-- `os.environ.get(name, default)` -/
def environ (name : String) (default : Str) : Str := (h.env name).getD default

def readJson (dir : Files) (name : Str) : Except Failure Json := do
  match h.loads (← readBytes dir name) with
  | some v => return v
  | none => .error .other

/-! The parts of a rule, each where the rule has it. -/

def checkConst (field : Str) (value : Json) : Option Str → Except Failure Unit
  | some c => require (value.pyEq (.str c)) (schemaError (field ++ Str.ofString " must equal " ++ c))
  | none => .ok ()

def checkEnum (field : Str) (value : Json) : Option (List Str) → Except Failure Unit
  | some cs =>
    require (cs.any fun c => value.pyEq (.str c)) (schemaError (field ++ Str.ofString " must be one of " ++ joinNames cs))
  | none => .ok ()

def checkPattern (field : Str) (value : Str) : Option Pattern → Except Failure Unit
  | some p =>
    require (p.test h.isDecimal (Text.codePoints value)) (schemaError (field ++ Str.ofString " does not match " ++ p.text))
  | none => .ok ()

def checkMinimum (field : Str) (value : ℤ) : Option ℤ → Except Failure Unit
  | some m => require (m ≤ value) (schemaError (field ++ Str.ofString " must be >= " ++ Numerals.intText m))
  | none => .ok ()

/-- The value is of the rule's type, and as long or as large as it asks. -/
def checkType (field : Str) (value : Json) (rule : Rule) : Except Failure Unit :=
  match rule.type, value with
  | .string, .str s => do
    require (s ≠ []) (schemaError (field ++ Str.ofString " must be a non-empty string"))
    require (rule.minLength ≤ (Text.codePoints s).length)
      (schemaError (field ++ Str.ofString " is shorter than " ++ Numerals.natText rule.minLength))
    h.checkPattern field s rule.pattern
  | .string, _ => .error (.runtime (schemaError (field ++ Str.ofString " must be a non-empty string")))
  | .integer, .int n => checkMinimum field n rule.minimum
  | .integer, _ => .error (.runtime (schemaError (field ++ Str.ofString " must be an integer")))

/-- One field against its rule. -/
def checkRule (field : Str) (value : Json) (rule : Rule) : Except Failure Unit := do
  checkConst field value rule.const
  checkEnum field value rule.enum
  h.checkType field value rule

def checkField (schema : Schema) (field : Str) (value : Json) : Except Failure Unit :=
  match schema.rule? field with
  | some rule => h.checkRule field value rule
  | none => .ok ()

/-- `validate_manifest_schema`, with the schema that is read -/
def validateManifestSchema (schema : Schema) (manifest : Dict) : Except Failure Unit :=
  match schema.required.find? fun field => isMissing (manifest.get field) with
  | some field => .error (.runtime (schemaError (Str.ofString "missing required field: " ++ field)))
  | none =>
    match manifest.find? fun f => (schema.rule? f.1).isNone with
    | some f => .error (.runtime (schemaError (Str.ofString "additional property not allowed: " ++ f.1)))
    | none => manifest.forM fun f => h.checkField schema f.1 f.2

/-! ## Digests and signatures -/

def requireDigest (label expected : Str) (payload : Json) : Except Failure Unit := do
  let actual := h.digestHex (← canonicalBytes payload)
  require (actual = expected)
    (label ++ Str.ofString " digest mismatch: expected " ++ expected ++ Str.ofString ", got " ++ actual)

/-- `str(payload.get(field, ""))` -/
def textOf (payload : Dict) (field : String) : Str := h.platform.str (payload.getD field (.str []))

/-- `bytes.fromhex(text)` -/
def fromHex (text : Str) : Except Failure (List UInt8) :=
  match Hex.fromHex text with
  | some bytes => .ok bytes
  | none => .error .other

/-- `Ed25519PublicKey.from_public_bytes(key).verify(signature, message)`, true where it does not raise -/
def signedBy (key signature message : List UInt8) : Bool :=
  key.length = 32 && signature.length = 64 && h.platform.verify key message signature

/-- The operator's key that is configured. -/
def pinnedPublicKey : Str := lower (strip (h.environ "ADN_RELEASE_OPERATOR_PUBLIC_KEY_HEX" []))

def verifyManifestSignature (manifest signatureDoc : Dict) : Except Failure Unit := do
  require ((signatureDoc.get "algorithm").pyEq (.str "ed25519")) "deployment_manifest.sig algorithm must be ed25519"
  let pinned := h.pinnedPublicKey
  require (pinned ≠ []) "ADN_RELEASE_OPERATOR_PUBLIC_KEY_HEX is required"
  require (lower (strip (h.textOf manifest "operator_public_key")) = pinned)
    "manifest operator_public_key does not match pinned release key"
  require (lower (strip (h.textOf signatureDoc "public_key_hex")) = pinned)
    "deployment_manifest.sig public_key_hex does not match pinned release key"
  let key ← fromHex pinned
  let signature ← fromHex (h.textOf signatureDoc "signature_hex")
  let message ← canonicalBytes (.obj (manifestBody manifest))
  if h.signedBy key signature message then return () else .error .other

/-! ## The retained inputs -/

/-- One file of the payload that is hashed. -/
def fileDigest (dir : Files) (name : Str) : Except Failure Json := do
  return .obj (Dict.ofList [("path", .str name), ("sha256", .str (h.digestHex (← readBytes dir name)))])

def proofInputFileDigests (dir : Files) : Except Failure (List Json) := do
  requireFiles dir proofInputFiles
  proofInputFiles.mapM (h.fileDigest dir)

def computeProofInputDigest (dir : Files) : Except Failure Str := do
  let files ← h.proofInputFileDigests dir
  return h.digestHex (← canonicalBytes (.obj (Dict.ofList [("schema_version", .str "adn-release-proof-input-v1"),
    ("files", .arr files)])))

/-- What the verifier answers of a directory. -/
structure Verified where
  buildCommit : Json
  buildConfigId : Json
  proofInputDigest : Str

def verifyReleaseInputs (dir : Files) : Except Failure Verified := do
  requireFiles dir proofInputFiles
  let manifest ← h.readJson dir "deployment_manifest.json"
  let signatureDoc ← h.readJson dir "deployment_manifest.sig"
  let registrationResponse ← h.readJson dir "registration_response.json"
  let invocationReceipt ← h.readJson dir "invocation_receipt.json"
  let t3nEvidence ← h.readJson dir "t3n_evidence.json"
  let replayRestartProof ← h.readJson dir "replay_restart_proof.json"
  let manifest ← asObject manifest
  h.validateManifestSchema .releaseProof manifest
  requireFields "deployment manifest" manifest ["schema_version", "build_commit", "build_config_id", "local_wasm_sha256",
    "remote_contract_id", "raw_registration_response_digest", "first_invocation_digest", "t3n_evidence_digest",
    "operator_public_key", "manifest_digest"]
  require ((manifest.get "schema_version").pyEq (.str "adn-release-proof-v1"))
    "deployment manifest schema_version must be adn-release-proof-v1"
  h.requireDigest "manifest" (h.textOf manifest "manifest_digest") (.obj (manifestBody manifest))
  h.requireDigest "registration response" (h.textOf manifest "raw_registration_response_digest") registrationResponse
  h.requireDigest "first invocation" (h.textOf manifest "first_invocation_digest") invocationReceipt
  h.requireDigest "T3N evidence" (h.textOf manifest "t3n_evidence_digest") t3nEvidence
  h.verifyManifestSignature manifest (← asObject signatureDoc)
  let receipt ← asObject invocationReceipt
  require ((receipt.get "build_config_id").pyEq (manifest.get "build_config_id"))
    "invocation receipt build_config_id does not match manifest"
  let proof ← asObject replayRestartProof
  require ((proof.get "build_config_id").pyEq (manifest.get "build_config_id"))
    "replay proof build_config_id does not match manifest"
  require (isTrue (proof.get "request_replay_rejected")) "replay proof does not show request replay rejection"
  require (isTrue (proof.get "result_replay_rejected")) "replay proof does not show result replay rejection"
  require (isTrue (proof.get "ledger_persisted_across_restart")) "replay proof does not show restart persistence"
  return ⟨manifest.get "build_commit", manifest.get "build_config_id", ← h.computeProofInputDigest dir⟩

/-! ## The attestation -/

def ciReleaseFields : List Str := ["evidence_source", "generated_by", "attested_workflow", "attestation_phase",
  "repository", "sha", "workflow_run_id", "workflow_run_url", "workflow_conclusion", "tests_workflow_run_id",
  "tests_workflow_run_url", "tests_workflow_conclusion", "tests_workflow_head_sha", "tests_workflow_event",
  "tests_workflow_head_branch", "artifact_id", "artifact_name", "artifact_url", "artifact_digest", "proof_input_digest",
  "proof_input_files", "retrieved_at"]

def expectedCiGenerator : Str := ".github/workflows/release-proof-attest.yml"
def expectedAttestedWorkflow : Str := ".github/workflows/release-proof-input.yml"
def expectedAttestationPhase : Str := "post_verify_completed_run"

/-- `str(v).isdigit()` -/
def isDigits (s : Str) : Bool := s ≠ [] && (Text.codePoints s).all h.isDigit

/-- The attestation has the value for the field. -/
def attests (ciRelease : Dict) (field : String) (value : Json) : Bool := (ciRelease.get field).pyEq value

/-- The checks of `ci_release_sha.json` against the manifest and the inputs. -/
def verifyCiRelease (ciRelease manifest : Dict) (proofInputDigest : Str) : Except Failure Unit := do
  let expectedRepository := strip (h.environ "ADN_RELEASE_REPOSITORY" "KAGEROU1107/agent-delegation-network")
  let runs := Str.ofString "https://github.com/" ++ expectedRepository ++ Str.ofString "/actions/runs/"
  let ci (text : String) : Str := Str.ofString "CI release evidence " ++ Str.ofString text
  requireFields "CI release evidence" ciRelease ciReleaseFields
  require (attests ciRelease "evidence_source" (.str "github_actions")) (ci "must be generated by GitHub Actions")
  require (attests ciRelease "generated_by" (.str expectedCiGenerator))
    (ci "generated_by must be " ++ expectedCiGenerator)
  require (attests ciRelease "attested_workflow" (.str expectedAttestedWorkflow))
    (ci "attested_workflow must be " ++ expectedAttestedWorkflow)
  require (attests ciRelease "attestation_phase" (.str expectedAttestationPhase))
    (ci "attestation_phase must be " ++ expectedAttestationPhase)
  require (attests ciRelease "repository" (.str expectedRepository)) (ci "repository does not match expected repository")
  require (runs.isPrefixOf (h.textOf ciRelease "workflow_run_url"))
    (ci "workflow_run_url does not match expected repository")
  require (h.isDigits (h.textOf ciRelease "artifact_id")) (ci "artifact_id must be the uploaded GitHub artifact ID")
  require (attests ciRelease "artifact_url" (.str (runs ++ h.platform.str (ciRelease.get "workflow_run_id") ++
      Str.ofString "/artifacts/" ++ h.platform.str (ciRelease.get "artifact_id"))))
    (ci "artifact_url does not match expected GitHub artifact URL")
  require ((Pattern.hex 64).test h.isDecimal (Text.codePoints (h.textOf ciRelease "artifact_digest")))
    (ci "artifact_digest must be the uploaded artifact SHA-256 digest")
  require (attests ciRelease "proof_input_files" (.arr (proofInputFiles.map .str)))
    (ci "proof_input_files do not match verifier input set")
  require (attests ciRelease "proof_input_digest" (.str proofInputDigest))
    (ci "proof input digest does not match retained proof inputs")
  require (attests ciRelease "workflow_conclusion" (.str "success")) "CI status is not successful for release SHA"
  require (attests ciRelease "sha" (manifest.get "build_commit")) "release SHA does not match manifest build_commit"
  require (runs.isPrefixOf (h.textOf ciRelease "tests_workflow_run_url"))
    "Tests workflow URL does not match expected repository"
  require (h.isDigits (h.textOf ciRelease "tests_workflow_run_id"))
    "Tests workflow run ID must be the uploaded GitHub workflow run ID"
  require (attests ciRelease "tests_workflow_conclusion" (.str "success"))
    "Tests workflow conclusion is not successful for release SHA"
  require (attests ciRelease "tests_workflow_head_sha" (manifest.get "build_commit"))
    "Tests workflow SHA does not match manifest build_commit"
  require (attests ciRelease "tests_workflow_head_sha" (ciRelease.get "sha"))
    "Tests workflow SHA does not match release SHA"
  require (attests ciRelease "tests_workflow_event" (.str "push")) "Tests workflow event must be push"
  require (attests ciRelease "tests_workflow_head_branch" (.str "main")) "Tests workflow head_branch must be main"

def verifyReleaseDir (dir : Files) : Except Failure Verified := do
  requireFiles dir requiredProofFiles
  let inputResult ← h.verifyReleaseInputs dir
  let manifest ← h.readJson dir "deployment_manifest.json"
  let ciRelease ← h.readJson dir "ci_release_sha.json"
  h.verifyCiRelease (← asObject ciRelease) (← asObject manifest) inputResult.proofInputDigest
  return inputResult

/-! ## What is accepted -/

theorem forM_ok {α : Type} {f : α → Except Failure Unit} {xs : List α} (h : xs.forM f = .ok ()) : ∀ x ∈ xs, f x = .ok () := by
  induction xs with
  | nil => simp
  | cons x xs ih =>
    obtain ⟨⟨⟩, hx, hxs⟩ := bind_ok.1 h
    exact List.forall_mem_cons.mpr ⟨hx, ih hxs⟩

theorem checkRule_string {field : Str} {value : Json} {rule : Rule} (hr : rule.type = .string)
    (hc : h.checkRule field value rule = .ok ()) : ∃ s, value = .str s := by
  obtain ⟨_, _, hc⟩ := bind_ok.1 hc
  obtain ⟨_, _, hc⟩ := bind_ok.1 hc
  unfold checkType at hc
  rw [hr] at hc
  cases value with
  | str s => exact ⟨s, rfl⟩
  | _ => cases hc

/-- A manifest that fits the schema has every required field. -/
theorem schema_required {schema : Schema} {manifest : Dict} (hs : h.validateManifestSchema schema manifest = .ok ())
    {k : Str} (hk : k ∈ schema.required) : ∃ v, manifest.get? k = some v := by
  unfold validateManifestSchema at hs
  cases hf : schema.required.find? fun field => isMissing (manifest.get field) with
  | some field => rw [hf] at hs; cases hs
  | none =>
    have hm := List.find?_eq_none.mp hf k hk
    cases hg : manifest.get? k with
    | some v => exact ⟨v, rfl⟩
    | none =>
      rw [Dict.get, Dict.getD, hg] at hm
      exact absurd rfl hm

/-- Each field of a manifest that fits the schema fits its rule. -/
theorem schema_field {schema : Schema} {manifest : Dict} (hs : h.validateManifestSchema schema manifest = .ok ())
    {f : Str × Json} (hf : f ∈ manifest) : h.checkField schema f.1 f.2 = .ok () := by
  unfold validateManifestSchema at hs
  split at hs
  · cases hs
  · split at hs
    · cases hs
    · exact forM_ok hs f hf

/-- A required field whose rule asks for a text is a text. -/
theorem schema_string {schema : Schema} {manifest : Dict} (hs : h.validateManifestSchema schema manifest = .ok ())
    {k : Str} (hk : k ∈ schema.required) {rule : Rule} (hrule : schema.rule? k = some rule)
    (ht : rule.type = .string) : ∃ s, manifest.get k = .str s := by
  obtain ⟨v, hv⟩ := h.schema_required hs hk
  have hc := h.schema_field hs (Dict.mem_of_get? hv)
  rw [checkField, hrule] at hc
  obtain ⟨s, rfl⟩ := h.checkRule_string ht hc
  exact ⟨s, Dict.get_of_get? hv⟩

/-- What a directory that is accepted has: a manifest with its required fields, under the digest of its body, and the
digest of all its inputs. -/
theorem verifyReleaseInputs_ok {dir : Files} {r : Verified} (hr : h.verifyReleaseInputs dir = .ok r) :
    ∃ manifest : Dict, h.readJson dir "deployment_manifest.json" = .ok (.obj manifest) ∧
      h.validateManifestSchema .releaseProof manifest = .ok () ∧
      h.requireDigest "manifest" (h.textOf manifest "manifest_digest") (.obj (manifestBody manifest)) = .ok () ∧
      r.buildCommit = manifest.get "build_commit" ∧ h.computeProofInputDigest dir = .ok r.proofInputDigest := by
  obtain ⟨_, _, hr⟩ := bind_ok.1 hr
  obtain ⟨v, hread, hr⟩ := bind_ok.1 hr
  obtain ⟨_, _, hr⟩ := bind_ok.1 hr
  obtain ⟨_, _, hr⟩ := bind_ok.1 hr
  obtain ⟨_, _, hr⟩ := bind_ok.1 hr
  obtain ⟨_, _, hr⟩ := bind_ok.1 hr
  obtain ⟨_, _, hr⟩ := bind_ok.1 hr
  obtain ⟨manifest, hm, hr⟩ := bind_ok.1 hr
  rw [asObject_ok.1 hm] at hread
  obtain ⟨⟨⟩, hschema, hr⟩ := bind_ok.1 hr
  obtain ⟨_, _, hr⟩ := bind_ok.1 hr
  obtain ⟨_, _, hr⟩ := bind_ok.1 hr
  obtain ⟨⟨⟩, hdigest, hr⟩ := bind_ok.1 hr
  refine ⟨manifest, hread, hschema, hdigest, ?_⟩
  -- the other digests, the signature and the replay proof
  iterate 12 obtain ⟨_, _, hr⟩ := bind_ok.1 hr
  obtain ⟨digest, hinputs, hr⟩ := bind_ok.1 hr
  obtain rfl := pure_ok.1 hr
  exact ⟨rfl, hinputs⟩

/-- What an attestation that is accepted names. -/
structure Attested (ciRelease : Dict) (commit : Json) (proofInputDigest : Str) : Prop where
  fields : requireFields "CI release evidence" ciRelease ciReleaseFields = .ok ()
  artifact : (Pattern.hex 64).test h.isDecimal (Text.codePoints (h.textOf ciRelease "artifact_digest")) = true
  inputs : ciRelease.get "proof_input_digest" = .str proofInputDigest
  sha : (ciRelease.get "sha").pyEq commit = true
  tests : (ciRelease.get "tests_workflow_head_sha").pyEq commit = true

theorem verifyCiRelease_ok {ciRelease manifest : Dict} {digest : Str}
    (hc : h.verifyCiRelease ciRelease manifest digest = .ok ()) :
    h.Attested ciRelease (manifest.get "build_commit") digest := by
  obtain ⟨⟨⟩, hfields, hc⟩ := bind_ok.1 hc
  -- where the attestation was made
  iterate 8 obtain ⟨_, _, hc⟩ := bind_ok.1 hc
  obtain ⟨_, hartifact, hc⟩ := bind_ok.1 hc
  obtain ⟨_, _, hc⟩ := bind_ok.1 hc
  obtain ⟨_, hinputs, hc⟩ := bind_ok.1 hc
  obtain ⟨_, _, hc⟩ := bind_ok.1 hc
  obtain ⟨_, hsha, hc⟩ := bind_ok.1 hc
  iterate 3 obtain ⟨_, _, hc⟩ := bind_ok.1 hc
  obtain ⟨_, htests, _⟩ := bind_ok.1 hc
  exact ⟨hfields, require_ok.1 hartifact, Json.pyEq_str.mp (require_ok.1 hinputs), require_ok.1 hsha, require_ok.1 htests⟩

/-- A directory that is accepted with its attestation: one commit was built and attested, with the digest of the
inputs. -/
theorem verifyReleaseDir_ok {dir : Files} {r : Verified} (hr : h.verifyReleaseDir dir = .ok r) :
    ∃ (manifest ciRelease : Dict) (commit : Str), h.readJson dir "deployment_manifest.json" = .ok (.obj manifest) ∧
      h.readJson dir "ci_release_sha.json" = .ok (.obj ciRelease) ∧ manifest.get "build_commit" = .str commit ∧
      ciRelease.get "sha" = .str commit ∧ r.buildCommit = .str commit ∧
      h.Attested ciRelease (.str commit) r.proofInputDigest ∧ h.computeProofInputDigest dir = .ok r.proofInputDigest := by
  obtain ⟨_, _, hr⟩ := bind_ok.1 hr
  obtain ⟨r', hinputs, hr⟩ := bind_ok.1 hr
  obtain ⟨m, hm, hr⟩ := bind_ok.1 hr
  obtain ⟨c, hc, hr⟩ := bind_ok.1 hr
  obtain ⟨ciRelease, hci, hr⟩ := bind_ok.1 hr
  obtain ⟨manifest, hmanifest, hr⟩ := bind_ok.1 hr
  obtain ⟨⟨⟩, hverify, hr⟩ := bind_ok.1 hr
  obtain rfl := pure_ok.1 hr
  rw [asObject_ok.1 hmanifest] at hm
  rw [asObject_ok.1 hci] at hc
  obtain ⟨manifest', hread, hschema, -, hbuild, hdigest⟩ := h.verifyReleaseInputs_ok hinputs
  rw [hm] at hread
  obtain rfl := Json.obj.inj (Except.ok.inj hread)
  obtain ⟨commit, hcommit⟩ := h.schema_string hschema (k := Str.ofString "build_commit") (by simp [Schema.releaseProof])
    (by simp [Schema.rule?, Schema.releaseProof, List.lookup_cons, beq_eq_decide]; rfl) rfl
  have hattested := h.verifyCiRelease_ok hverify
  rw [hcommit] at hattested
  exact ⟨manifest, ciRelease, commit, hm, hc, hcommit, Json.pyEq_str.mp hattested.sha, hbuild.trans hcommit, hattested,
    hdigest⟩

end Host

end Release

end Adn
