import Adn.ReleaseProof
import Mathlib.Logic.Function.Basic
/-!
# The deployment manifest

The bridge writes a manifest before it registers the contract, again when the
registration is done, and again at the first invocation. One schema guards the three
writes, and it requires what only the last one has (`no_lifecycle`).
-/

open Lib

namespace Adn

namespace DeploymentManifest

open ReleaseProof

/-- The files of `proof/` that are written here. -/
inductive ProofFile where
  | deploymentManifest
  | deploymentManifestSignature
  | legacyDeploymentManifest
  | registrationResponse
  | invocationReceipt
  | t3nEvidence
deriving DecidableEq

/-- What the files hold. -/
abbrev Disk := ProofFile → Option Str

/-- A function of the bridge that writes files: what it throws leaves what it wrote. -/
abbrev Bridge := ExceptT Str (StateM Disk)

/-- What the functions find outside themselves. -/
structure Host where
  env : ProcessEnv
  keys : Keys
  /-- `s.toLowerCase()` of any text -/
  toLowerCase : Str → Str
  /-- `parseInt(s, 10)` -/
  parseInt : Str → PyFloat
  /-- `new Date().toISOString()` -/
  now : Str

def contractTail : Str := "adn-processor"
def contractVersion : Str := "3.9.2"

/-- `extractContractId` -/
def extractContractId (parseInt : Str → PyFloat) (raw : Js) : Option PyFloat :=
  match raw with
  | .obj fs => [Str.ofString "id", Str.ofString "contractId", Str.ofString "contract_id"].findSome? fun key =>
    match Props.get fs key with
    | .num (.finite q) => if q.den = 1 && 0 < q then some (.finite q) else none
    | .str s => if s ≠ [] && (Text.codeUnits s).all asciiDigit then some (parseInt s) else none
    | _ => none
  | _ => none

/-- `normalizeHex(value)` -/
def normalizeHex (value : Option Str) : Option Str :=
  (value.map fun v => lower (withoutHexPrefix (Js.trim v))).filter (· ≠ [])

namespace Host

variable (h : Host)

def buildConfigId (buildCommit rustcVersion trustedIssuer tenantDid : Str) : Str :=
  let colon := Str.ofString ":"
  let material := Str.ofString "adn-processor:v" ++ contractVersion ++ colon ++ buildCommit ++ colon ++ rustcVersion ++
    colon ++ trustedIssuer ++ colon ++ tenantDid
  Str.ofString "adn-build-" ++ (h.keys.sha256Hex material).take 32

def requireManifestEnv (name : String) : Except Str Str :=
  match trimmed (h.env name) with
  | some value => .ok value
  | none => .error (Str.ofString name ++ Str.ofString " is required to write a deployment manifest for " ++ contractTail ++
      Str.ofString " v" ++ contractVersion)

def releaseOperatorPublicKeyHex : Except Str (Option Str) :=
  match normalizeHex (h.env "ADN_RELEASE_OPERATOR_PUBLIC_KEY_HEX") with
  | some key =>
    if isLowerHex 64 key then .ok (some key)
    else .error "ADN_RELEASE_OPERATOR_PUBLIC_KEY_HEX must be a 32-byte Ed25519 public key hex string"
  | none =>
    match normalizeHex (h.env "ADN_RELEASE_OPERATOR_PRIVATE_KEY_HEX") with
    | some seedHex => (h.keys.deriveEd25519PublicKeyHexFromSeed seedHex).map some
    | none => .ok none

/-- `digestManifest(manifest)` -/
def digestManifest (manifest : Props) : Except Str Props :=
  (h.keys.digestCanonicalJson (.obj manifest)).map fun digest => manifest.set "manifest_digest" (.str digest)

end Host

def manifestWithoutDigest (manifest : Props) : Props := manifest.without "manifest_digest"

/-- `writeJsonArtifact(path, payload)` -/
def writeJsonArtifact (path : ProofFile) (payload : Js) : Bridge Unit := do
  let text ← ExceptT.mk (pure (canonicalJson payload))
  modify fun disk : Disk => Function.update disk path (some (text ++ [0x0A]))

/-- A step that writes nothing. -/
def pureStep {α : Type} (x : Except Str α) : Bridge α := ExceptT.mk (pure x)

namespace Host

variable (h : Host)

/-- `normalizeHex(deploymentManifest.operator_public_key)` -/
def manifestPublicKeyHex (manifest : Props) : Except Str (Option Str) :=
  match manifest.get "operator_public_key" with
  | .undefined | .null => .ok none
  | .str s => .ok (normalizeHex (some s))
  | _ => .error "value?.trim is not a function"

def writeManifestSignatureIfConfigured (manifest : Props) : Bridge Unit := do
  match normalizeHex (h.env "ADN_RELEASE_OPERATOR_PRIVATE_KEY_HEX") with
  | none => modify fun disk : Disk => Function.update disk .deploymentManifestSignature none
  | some seedHex =>
    let derived ← pureStep (h.keys.deriveEd25519PublicKeyHexFromSeed seedHex)
    let configured := normalizeHex (h.env "ADN_RELEASE_OPERATOR_PUBLIC_KEY_HEX")
    let declared ← pureStep (manifestPublicKeyHex manifest)
    if configured.any (· ≠ derived) then
      throw (Str.ofString "ADN_RELEASE_OPERATOR_PUBLIC_KEY_HEX does not match ADN_RELEASE_OPERATOR_PRIVATE_KEY_HEX")
    if declared.any (· ≠ derived) then
      throw (Str.ofString "deployment manifest operator_public_key does not match ADN_RELEASE_OPERATOR_PRIVATE_KEY_HEX")
    let signatureDoc ← pureStep (h.keys.signReleaseManifestWithSeed (manifestWithoutDigest manifest) seedHex)
    writeJsonArtifact .deploymentManifestSignature (.obj signatureDoc)

def writeDeploymentManifest (manifest : Props) : Bridge Props := do
  pureStep (validateReleaseManifestAgainstSchema manifest)
  writeJsonArtifact .deploymentManifest (.obj manifest)
  writeJsonArtifact .legacyDeploymentManifest (.obj manifest)
  h.writeManifestSignatureIfConfigured manifest
  return manifest

/-- The manifest that is written before the registration, without its digest. -/
def pendingManifest (localWasmSha256 : Str) : Except Str Props := do
  let buildCommit ← h.requireManifestEnv "ADN_BUILD_COMMIT"
  let rustcVersion ← h.requireManifestEnv "ADN_RUSTC_VERSION"
  let trustedIssuer := h.toLowerCase (withoutHexPrefix (← h.requireManifestEnv "ADN_TRUSTED_ISSUER"))
  let tenantDid ← h.requireManifestEnv "ADN_TENANT_DID"
  let buildConfig := h.buildConfigId buildCommit rustcVersion trustedIssuer tenantDid
  let operatorPublicKey ← h.releaseOperatorPublicKeyHex
  return Props.ofList [
    ("schema_version", .str "adn-release-proof-v1"),
    ("contract_tail", .str contractTail),
    ("contract_version", .str contractVersion),
    ("build_commit", .str buildCommit),
    ("rustc_version", .str rustcVersion),
    ("trusted_issuer", .str trustedIssuer),
    ("tenant_did", .str tenantDid),
    ("build_config_id", .str buildConfig),
    ("local_wasm_sha256", .str localWasmSha256),
    ("registration_status", .str "pending"),
    ("operator_public_key", (operatorPublicKey.map Js.str).getD .undefined)]

def writePendingDeploymentManifest (localWasmSha256 : Str) : Bridge Props := do
  let unsignedManifest ← pureStep (h.pendingManifest localWasmSha256)
  h.writeDeploymentManifest (← pureStep (h.digestManifest unsignedManifest))

def finalizeDeploymentManifest (pending : Props) (rawRegistrationResponse : Js) (contractId : Option PyFloat) :
    Bridge Props := do
  writeJsonArtifact .registrationResponse rawRegistrationResponse
  let digest ← pureStep (h.keys.digestCanonicalJson rawRegistrationResponse)
  let finalized ← pureStep (h.digestManifest ((manifestWithoutDigest pending).spread (Props.ofList [
    ("registration_status", .str "registered"),
    ("registered_at", .str h.now),
    ("remote_contract_id", (contractId.map Js.num).getD .undefined),
    ("raw_registration_response_digest", .str digest),
    ("raw_registration_response_path", .str "registration_response.json")])))
  h.writeDeploymentManifest finalized

end Host

/-- `ContractInfo` -/
structure ContractInfo where
  tail : Str
  version : Str
  tenantDid : Str
  contractId : Option PyFloat
  localWasmSha256 : Str
  deploymentManifest : Props

namespace Host

variable (h : Host)

def recordFirstInvocationDigest (info : ContractInfo) (invocationResult : Js) : Bridge ContractInfo := do
  if (info.deploymentManifest.get "first_invocation_digest").truthy then return info
  writeJsonArtifact .invocationReceipt invocationResult
  writeJsonArtifact .t3nEvidence invocationResult
  let digest ← pureStep (h.keys.digestCanonicalJson invocationResult)
  let manifest ← pureStep (h.digestManifest ((manifestWithoutDigest info.deploymentManifest).spread (Props.ofList [
    ("first_invocation_digest", .str digest),
    ("first_invocation_path", .str "invocation_receipt.json"),
    ("t3n_evidence_digest", .str digest),
    ("t3n_evidence_path", .str "t3n_evidence.json")])))
  return { info with deploymentManifest := ← h.writeDeploymentManifest manifest }

end Host

/-! ## The lifecycle -/

/-- A function run on files: its result, and the files after it. -/
def Bridge.on {α : Type} (x : Bridge α) (disk : Disk) : Except Str α × Disk := StateT.run (ExceptT.run x) disk

theorem on_error {α β : Type} (message : Str) (f : α → Bridge β) (disk : Disk) :
    Bridge.on (pureStep (.error message) >>= f) disk = (.error message, disk) := rfl

theorem on_ok {α β : Type} (a : α) (f : α → Bridge β) (disk : Disk) :
    Bridge.on (pureStep (.ok a) >>= f) disk = Bridge.on (f a) disk := rfl

theorem on_bind {α β : Type} (x : Bridge α) (f : α → Bridge β) (disk : Disk) :
    Bridge.on (x >>= f) disk =
      match x.on disk with
      | (.ok a, d) => (f a).on d
      | (.error message, d) => (.error message, d) := by
  unfold Bridge.on
  rw [ExceptT.run_bind, StateT.run_bind]
  obtain ⟨r, d⟩ := StateT.run (ExceptT.run x) disk
  cases r <;> rfl

/-- It throws, with whatever written. -/
def Throws {α : Type} (x : Bridge α) : Prop := ∀ disk, ∃ message d, x.on disk = (.error message, d)

theorem throws_bind {α β : Type} (x : Bridge α) {f : α → Bridge β} (h : ∀ a, Throws (f a)) : Throws (x >>= f) := by
  intro disk
  rw [on_bind]
  obtain ⟨r, d⟩ := x.on disk
  cases r with
  | error message => exact ⟨message, d, rfl⟩
  | ok a => exact h a d

theorem throws_pureStep {α β : Type} {x : Except Str α} {f : α → Bridge β} (h : ∀ a, x = .ok a → Throws (f a)) :
    Throws (pureStep x >>= f) := by
  intro disk
  cases x with
  | error message => exact ⟨message, disk, on_error message f disk⟩
  | ok a => exact h a rfl disk

/-- The manifest is on disk, fits the schema, and names the digest of its own body. -/
structure Host.Published (h : Host) (disk : Disk) (manifest : Props) : Prop where
  onDisk : ∃ text, canonicalJson (.obj manifest) = .ok text ∧ disk .deploymentManifest = some (text ++ [0x0A])
  valid : validateReleaseManifestAgainstSchema manifest = .ok ()
  digest : ∃ digest, h.keys.digestCanonicalJson (.obj (manifestWithoutDigest manifest)) = .ok digest ∧
    manifest.get "manifest_digest" = .str digest

/-- What an earlier manifest says is kept; the status and the digest are each stage's own. -/
def Keeps (earlier later : Props) : Prop :=
  ∀ key, key ≠ Str.ofString "manifest_digest" → key ≠ Str.ofString "registration_status" →
    earlier.get key ≠ .undefined → later.get key = earlier.get key

/-- The three writes, one after the other, each returning with a manifest published. -/
def Host.Lifecycle (h : Host) (localWasmSha256 : Str) (raw result : Js) (tenantDid : Str) (disk : Disk) : Prop :=
  ∃ pending finalized info d1 d2 d3,
    (h.writePendingDeploymentManifest localWasmSha256).on disk = (.ok pending, d1) ∧ h.Published d1 pending ∧
    (h.finalizeDeploymentManifest pending raw (extractContractId h.parseInt raw)).on d1 = (.ok finalized, d2) ∧
      h.Published d2 finalized ∧ Keeps pending finalized ∧
    (h.recordFirstInvocationDigest ⟨contractTail, contractVersion, tenantDid, extractContractId h.parseInt raw,
      localWasmSha256, finalized⟩ result).on d2 = (.ok info, d3) ∧
      h.Published d3 info.deploymentManifest ∧ Keeps finalized info.deploymentManifest

section

variable (h : Host)

theorem pending_registered_at {localWasmSha256 : Str} {manifest : Props}
    (hm : h.pendingManifest localWasmSha256 = .ok manifest) : manifest.get "registered_at" = .undefined := by
  obtain ⟨commit, -, hm⟩ := bind_ok.1 hm
  obtain ⟨rustc, -, hm⟩ := bind_ok.1 hm
  obtain ⟨issuer, -, hm⟩ := bind_ok.1 hm
  obtain ⟨tenant, -, hm⟩ := bind_ok.1 hm
  obtain ⟨key, -, hm⟩ := bind_ok.1 hm
  obtain rfl := pure_ok.1 hm
  simp [Props.get]

theorem digestManifest_get {manifest digested : Props} (hd : h.digestManifest manifest = .ok digested) {key : Str}
    (hk : key ≠ Str.ofString "manifest_digest") : digested.get key = manifest.get key := by
  unfold Host.digestManifest at hd
  cases hc : h.keys.digestCanonicalJson (.obj manifest) with
  | error e => rw [hc] at hd; cases hd
  | ok digest =>
    rw [hc] at hd
    obtain rfl := Except.ok.inj hd
    rw [Props.get, Props.get?_set, if_neg (Ne.symm hk), ← Props.get]

/-- Nothing that lacks a required field is written. -/
theorem write_missing {manifest : Props} {key : Str} (hk : key ∈ Schema.releaseProof.required)
    (hm : isMissing (manifest.get key) = true) (disk : Disk) :
    ∃ message, (h.writeDeploymentManifest manifest).on disk = (.error message, disk) := by
  obtain ⟨message, he⟩ := validate_missing hk hm
  refine ⟨message, ?_⟩
  have hv : validateReleaseManifestAgainstSchema manifest = .error message := he
  rw [Host.writeDeploymentManifest, hv, on_error]

/-- The first write throws, whatever the environment, and writes nothing. -/
theorem writePending_throws (localWasmSha256 : Str) (disk : Disk) :
    ∃ message, (h.writePendingDeploymentManifest localWasmSha256).on disk = (.error message, disk) := by
  unfold Host.writePendingDeploymentManifest
  cases hm : h.pendingManifest localWasmSha256 with
  | error message => exact ⟨message, on_error message _ disk⟩
  | ok manifest =>
    rw [on_ok]
    cases hd : h.digestManifest manifest with
    | error message => exact ⟨message, on_error message _ disk⟩
    | ok digested =>
      rw [on_ok]
      have hr : digested.get "registered_at" = .undefined := by
        rw [digestManifest_get h hd (by simp), pending_registered_at h hm]
      have hk : Str.ofString "registered_at" ∈ Schema.releaseProof.required := by simp [Schema.releaseProof]
      exact write_missing h hk (by rw [hr]; rfl) disk

/-- The second write of a manifest without a first invocation throws too. -/
theorem finalize_throws {pending : Props} (hp : pending.get "first_invocation_digest" = .undefined) (raw : Js)
    (contractId : Option PyFloat) : Throws (h.finalizeDeploymentManifest pending raw contractId) := by
  unfold Host.finalizeDeploymentManifest
  refine throws_bind _ fun _ => throws_pureStep fun digest _ => throws_pureStep fun finalized hf => ?_
  have hg : finalized.get "first_invocation_digest" = .undefined := by
    rw [digestManifest_get h hf (by simp), Props.get, Props.get?_spread _ _ (by simp [Props.ofList]),
      manifestWithoutDigest, Props.get?_without _ (by simp)]
    exact hp
  intro disk
  have hk : Str.ofString "first_invocation_digest" ∈ Schema.releaseProof.required := by simp [Schema.releaseProof]
  obtain ⟨message, he⟩ := write_missing h hk (by rw [hg]; rfl) disk
  exact ⟨message, disk, he⟩

/-- No deployment gets through its three writes. -/
theorem no_lifecycle (localWasmSha256 : Str) (raw result : Js) (tenantDid : Str) (disk : Disk) :
    ¬h.Lifecycle localWasmSha256 raw result tenantDid disk := by
  rintro ⟨pending, -, -, d1, -, -, hw, -⟩
  obtain ⟨message, he⟩ := writePending_throws h localWasmSha256 disk
  rw [he] at hw
  cases hw

end

end DeploymentManifest

namespace Sample

open DeploymentManifest ReleaseProof

/-- A bridge that is configured for a release. -/
def releaseHost : Host where
  env k := List.lookup k [(Str.ofString "ADN_BUILD_COMMIT", List.replicate 40 0x61),
    (Str.ofString "ADN_RUSTC_VERSION", Str.ofString "1.85.0"), (Str.ofString "ADN_TRUSTED_ISSUER", Str.ofString "0xab"),
    (Str.ofString "ADN_TENANT_DID", Str.ofString "did:t3n:01"),
    (Str.ofString "ADN_RELEASE_OPERATOR_PUBLIC_KEY_HEX", List.replicate 64 0x62)]
  keys := ⟨fun bs => (List.range 32).map fun i => (bs.foldl (fun n b => n * 31 + b.toNat + i) 7 % 251).toUInt8, id,
    fun message _ => message⟩
  toLowerCase := lower
  parseInt _ := .nan
  now := "2026-01-01T00:00:00.000Z"

/-- Everything the lifecycle asks for is there, and it throws at the first write. -/
theorem release_not_published :
    releaseHost.requireManifestEnv "ADN_BUILD_COMMIT" = .ok (List.replicate 40 0x61) ∧
    releaseHost.requireManifestEnv "ADN_RUSTC_VERSION" = .ok "1.85.0" ∧
    releaseHost.requireManifestEnv "ADN_TRUSTED_ISSUER" = .ok "0xab" ∧
    releaseHost.requireManifestEnv "ADN_TENANT_DID" = .ok "did:t3n:01" ∧
    isLowerHex 40 (List.replicate 40 0x61) = true ∧
    releaseHost.releaseOperatorPublicKeyHex = .ok (some (List.replicate 64 0x62)) ∧
    extractContractId releaseHost.parseInt (.obj (Props.ofList [("id", .num (.finite 7))])) = some (.finite 7) ∧
    canonicalJson (.obj []) = .ok "\x7b\x7d" ∧
    ¬releaseHost.Lifecycle (List.replicate 64 0x63) (.obj (Props.ofList [("id", .num (.finite 7))])) (.obj [])
      "did:t3n:01" (fun _ => none) := by
  refine ⟨by rfl, by rfl, by rfl, by rfl, by decide, by rfl, by decide +kernel, by rfl, ?_⟩
  rintro ⟨pending, -, -, d1, -, -, hw, -⟩
  obtain ⟨message, he⟩ := writePending_throws releaseHost (List.replicate 64 0x63) fun _ => none
  rw [he] at hw
  cases hw

end Sample

end Adn
