import Adn.ReleaseVerifier
/-!
# The release asset verifier

`scripts/verify_release_asset.py`: the files that are kept with a release. A signed
manifest names the digests of four of them; one of these is an archive of the retained
proof files, which `verify_release.py` looks at together with the attestation. Reading
an archive is the platform's.
-/

open Lib

namespace Adn

namespace Release

namespace Asset

/-! ## Directories and archives -/

/-- An entry of a directory. -/
inductive Entry where
  | file (bytes : List UInt8)
  /-- A symbolic link, with the bytes of the regular file it leads to, if it leads to one. -/
  | symlink (target : Option (List UInt8))
  | other

/-- What reading the entry gives; it `is_file` where there is something. -/
def Entry.bytes? : Entry → Option (List UInt8)
  | .file bytes => some bytes
  | .symlink target => target
  | .other => none

/-- The entries of a directory, in the order they are listed. -/
abbrev Listing := List (Str × Entry)

def Listing.files (dir : Listing) : Files := fun name => (dir.lookup name).bind Entry.bytes?

/-- A member of an archive. -/
structure Member where
  name : Str
  isFile : Bool
  /-- `extractfile(member)`, with the bytes it reads, `none` where reading raises `TarError` -/
  stream : Option (Option (List UInt8))

/-- What the script runs on: also `tarfile.open(...).getmembers()`, `none` where it raises `TarError`. -/
structure Host extends Release.Host where
  getmembers : List UInt8 → Option (List Member)

/-! ## Paths -/

def slash : UInt16 := 0x2F

/-- One component of a path. -/
def normComponent (slashes : ℕ) (comps : List Str) (comp : Str) : List Str :=
  if comp = [] ∨ comp = "." then comps
  else if comp ≠ ".." ∨ (slashes = 0 ∧ comps = []) ∨ comps.getLast? = some (Str.ofString "..") then comps ++ [comp]
  else comps.dropLast

/-- `posixpath.normpath` -/
def normpath (path : Str) : Str :=
  let slashes := (path.takeWhile (· = slash)).length
  let initial := if slashes = 2 then 2 else min slashes 1
  let normal := List.replicate initial slash ++ [slash].intercalate ((path.splitOn slash).foldl (normComponent initial) [])
  if normal = [] then "." else normal

/-! ## The files -/

def releaseAssetPayloadFiles : List Str := ["proof-input.tar", "ci_release_sha.json", "remote_verification_result.json",
  "workflow_metadata.json"]

def requiredReleaseAssetFiles : List Str :=
  releaseAssetPayloadFiles ++ [Str.ofString "release_asset_manifest.json", Str.ofString "release_asset_manifest.sig"]

def expectedReleaseAssetSchema : Str := "adn-release-asset-manifest-v1"

def releaseAssetManifestBody (manifest : Dict) : Dict := manifestBody manifest

/-- `sorted(names)` -/
def sorted (names : List Str) : List Str := (sortFields (names.map fun name => (name, ()))).map (·.1)

def checkEntry (entry : Str × Entry) : Except Failure Unit :=
  if entry.1.head? = some 0x2E then .ok ()
  else
    match entry.2 with
    | .file _ =>
      require (entry.1 ∈ requiredReleaseAssetFiles) (Str.ofString "unexpected release asset file: " ++ entry.1)
    | _ => .error (.runtime (Str.ofString "unexpected release asset file: " ++ entry.1))

def requireReleaseAssetFiles (dir : Listing) : Except Failure Unit := do
  let missing := requiredReleaseAssetFiles.filter fun name => (dir.files name).isNone
  require (missing = []) (Str.ofString "missing release asset files: " ++ joinNames missing)
  dir.forM checkEntry

/-- The two directories a member may lie in. -/
def outputName (name : Str) : Option Str :=
  let release := Str.ofString "proof/release/"
  if name ∈ proofInputFiles then some name
  else if release.isPrefixOf name ∧ name.drop release.length ∈ proofInputFiles then some (name.drop release.length)
  else none

/-- What is extracted: the names, and the directory that is written to. -/
structure Extraction where
  extracted : List Str
  dir : Listing

def extractMember (e : Extraction) (member : Member) : Except Failure Extraction := do
  let unexpected := Str.ofString "unexpected proof input archive path: " ++ member.name
  let name := member.name.map fun u => if u = 0x5C then slash else u
  require (name.head? ≠ some slash && normpath name = name && member.isFile) unexpected
  match outputName name with
  | none => .error (.runtime unexpected)
  | some output =>
    require (output ∉ e.extracted) (Str.ofString "duplicate proof input archive path: " ++ member.name)
    match member.stream with
    | none => .error (.runtime (Str.ofString "cannot read proof input archive path: " ++ member.name))
    | some stream =>
      require (e.dir.lookup output).isNone
        (Str.ofString "refusing to overwrite materialized release proof input: " ++ output)
      match stream with
      | none => .error (.runtime "proof-input.tar is not a valid tar archive")
      | some bytes => return ⟨e.extracted ++ [output], e.dir ++ [(output, .file bytes)]⟩

namespace Host

variable (h : Host)

/-- `extract_proof_input_tar`, into an empty directory -/
def extractProofInputTar (archive : List UInt8) : Except Failure Listing :=
  match h.getmembers archive with
  | none => .error (.runtime "proof-input.tar is not a valid tar archive")
  | some members => do
    let e ← members.foldlM extractMember ⟨[], []⟩
    let missing := sorted (proofInputFiles.filter (· ∉ e.extracted))
    require (missing = []) (Str.ofString "proof-input.tar missing release proof inputs: " ++ joinNames missing)
    return e.dir

/-! ## The manifest -/

def verifyManifestSignature (manifest signatureDoc : Dict) : Except Failure Unit := do
  require ((signatureDoc.get "algorithm").pyEq (.str "ed25519")) "release_asset_manifest.sig algorithm must be ed25519"
  let pinned := h.pinnedPublicKey
  require (pinned ≠ []) "ADN_RELEASE_OPERATOR_PUBLIC_KEY_HEX is required"
  require (lower (strip (h.textOf manifest "operator_public_key")) = pinned)
    "release asset manifest operator_public_key does not match pinned release key"
  require (lower (strip (h.textOf signatureDoc "public_key_hex")) = pinned)
    "release_asset_manifest.sig public_key_hex does not match pinned release key"
  let key ← Release.Host.fromHex pinned
  if key.length ≠ 32 then .error .other
  else
    let signature ← Release.Host.fromHex (h.textOf signatureDoc "signature_hex")
    let message ← canonicalBytes (.obj (releaseAssetManifestBody manifest))
    require (h.signedBy key signature message) "release_asset_manifest.sig signature verification failed"

def releaseAssetManifestFields : List Str := ["schema_version", "repository", "sha", "release_tag", "operator_public_key",
  "proof_input_digest", "remote_verification_status", "files", "created_at", "manifest_digest"]

/-- `re.fullmatch(r"[0-9a-f]{64}", text)` -/
def isDigest (text : Str) : Bool := (Pattern.hex 64).test h.isDecimal (Text.codePoints text)

/-- One entry of the inventory, after the paths that were seen; the paths seen with it. -/
def checkInventory (seen : List Str) (entry : Json) : Except Failure (List Str) :=
  match entry with
  | .obj e => do
    let path := Dict.get e "path"
    let shown := h.platform.str path
    if hashable path then
      require (!seen.any fun s => path.pyEq (.str s))
        (Str.ofString "release asset manifest contains duplicate file: " ++ shown)
      require (releaseAssetPayloadFiles.any fun s => path.pyEq (.str s))
        (Str.ofString "release asset manifest contains unexpected file: " ++ shown)
      require (h.isDigest (h.platform.str ((Dict.get e "sha256").orElse (.str []))))
        (Str.ofString "release asset manifest digest for " ++ shown ++ Str.ofString " must be 64-hex SHA-256")
      return seen ++ [shown]
    else .error .other
  | _ => .error (.runtime "release asset manifest files entries must be objects")

def validateReleaseAssetManifest (manifest : Dict) : Except Failure Unit := do
  requireFields "release asset manifest" manifest releaseAssetManifestFields
  require ((manifest.get "schema_version").pyEq (.str expectedReleaseAssetSchema))
    (Str.ofString "release asset manifest schema_version must be " ++ expectedReleaseAssetSchema)
  require ((manifest.get "remote_verification_status").pyEq (.str "REMOTE_OK"))
    "release asset manifest remote_verification_status must be REMOTE_OK"
  require (h.isDigest (h.textOf manifest "proof_input_digest"))
    "release asset manifest proof_input_digest must be a 64-hex SHA-256 digest"
  match manifest.get "files" with
  | .arr entries =>
    let seen ← entries.foldlM h.checkInventory []
    let missing := sorted (releaseAssetPayloadFiles.filter (· ∉ seen))
    require (missing = []) (Str.ofString "release asset manifest missing file digests: " ++ joinNames missing)
    let expected := h.digestHex (← canonicalBytes (.obj (releaseAssetManifestBody manifest)))
    require ((manifest.get "manifest_digest").pyEq (.str expected)) "release asset manifest digest mismatch"
  | _ => .error (.runtime "release asset manifest files must be a list")

/-- The file an entry of the inventory is about has the digest it names. -/
def checkHash (files : Files) (entry : Json) : Except Failure Unit := do
  let e ← asObject entry
  match e.get? "path", e.get? "sha256" with
  | some path, some digest =>
    let actual := h.digestHex (← readBytes files (h.platform.str path))
    let expected := h.platform.str digest
    require (actual = expected) (Str.ofString "release asset digest mismatch for " ++ h.platform.str path ++
      Str.ofString ": expected " ++ expected ++ Str.ofString ", got " ++ actual)
  | _, _ => .error .other

def verifyReleaseAssetHashes (files : Files) (manifest : Dict) : Except Failure Unit :=
  match manifest.get "files" with
  | .arr entries => entries.forM (h.checkHash files)
  | _ => .error .other

/-! ## The metadata -/

/-- A document's field is a text. -/
def states (doc : Dict) (field : String) (text : Str) : Bool := (doc.get field).pyEq (.str text)

/-- A document's field is the digest of a file. -/
def statesDigest (files : Files) (doc : Dict) (field : String) (name : Str) : Except Failure Bool := do
  return states doc field (h.digestHex (← readBytes files name))

def verifyReleaseAssetMetadata (files : Files) (manifest : Dict) (releaseResult : Release.Host.Verified) : Except Failure Unit := do
  let ciRelease ← h.readJson files "ci_release_sha.json"
  let remoteResult ← h.readJson files "remote_verification_result.json"
  let workflowMetadata ← h.readJson files "workflow_metadata.json"
  let digest := releaseResult.proofInputDigest
  require (states (← asObject ciRelease) "proof_input_digest" digest)
    "CI attestation proof_input_digest does not match release asset proof inputs"
  let remoteResult ← asObject remoteResult
  require (states remoteResult "status" "REMOTE_OK") "remote_verification_result status must be REMOTE_OK"
  require (states remoteResult "proof_input_digest" digest)
    "remote_verification_result proof_input_digest does not match release asset proof inputs"
  let workflowMetadata ← asObject workflowMetadata
  require (states workflowMetadata "remote_verification_status" "REMOTE_OK")
    "workflow_metadata remote_verification_status must be REMOTE_OK"
  require (states workflowMetadata "proof_input_digest" digest)
    "workflow_metadata proof_input_digest does not match release asset proof inputs"
  require (states manifest "proof_input_digest" digest)
    "release asset manifest proof_input_digest does not match release asset proof inputs"
  require (← h.statesDigest files workflowMetadata "proof_input_archive_sha256" "proof-input.tar")
    "workflow_metadata proof_input_archive_sha256 mismatch"
  require (← h.statesDigest files workflowMetadata "ci_attestation_sha256" "ci_release_sha.json")
    "workflow_metadata ci_attestation_sha256 mismatch"
  require (← h.statesDigest files workflowMetadata "remote_verification_result_sha256" "remote_verification_result.json")
    "workflow_metadata remote_verification_result_sha256 mismatch"

/-! ## The directory -/

/-- The proof files that are verified: the archive's, and the attestation. -/
def materialize (files : Files) : Except Failure Listing := do
  let proof ← h.extractProofInputTar (← readBytes files "proof-input.tar")
  return proof ++ [(Str.ofString "ci_release_sha.json", .file (← readBytes files "ci_release_sha.json"))]

/-- What the verifier answers of a directory. -/
structure Checked where
  buildCommit : Json
  buildConfigId : Json
  proofInputDigest : Str
  releaseTag : Json

def verifyReleaseAssetDir (dir : Listing) : Except Failure Checked := do
  requireReleaseAssetFiles dir
  let manifest ← h.readJson dir.files "release_asset_manifest.json"
  let signatureDoc ← h.readJson dir.files "release_asset_manifest.sig"
  let manifest ← asObject manifest
  h.validateReleaseAssetManifest manifest
  h.verifyManifestSignature manifest (← asObject signatureDoc)
  h.verifyReleaseAssetHashes dir.files manifest
  let proof ← h.materialize dir.files
  let releaseResult ← h.verifyReleaseDir proof.files
  h.verifyReleaseAssetMetadata dir.files manifest releaseResult
  return ⟨releaseResult.buildCommit, releaseResult.buildConfigId, releaseResult.proofInputDigest,
    manifest.get "release_tag"⟩

/-- The archive of a directory that is accepted holds proof files that the release verifier accepts. -/
theorem verifyReleaseAssetDir_ok {dir : Listing} {a : Checked} (ha : h.verifyReleaseAssetDir dir = .ok a) :
    ∃ (proof : Listing) (r : Release.Host.Verified), h.materialize dir.files = .ok proof ∧ h.verifyReleaseDir proof.files = .ok r ∧
      a.buildCommit = r.buildCommit := by
  obtain ⟨_, _, ha⟩ := bind_ok.1 ha
  obtain ⟨_, _, ha⟩ := bind_ok.1 ha
  obtain ⟨_, _, ha⟩ := bind_ok.1 ha
  obtain ⟨_, _, ha⟩ := bind_ok.1 ha
  obtain ⟨_, _, ha⟩ := bind_ok.1 ha
  obtain ⟨_, _, ha⟩ := bind_ok.1 ha
  obtain ⟨_, _, ha⟩ := bind_ok.1 ha
  obtain ⟨_, _, ha⟩ := bind_ok.1 ha
  obtain ⟨proof, hproof, ha⟩ := bind_ok.1 ha
  obtain ⟨r, hr, ha⟩ := bind_ok.1 ha
  obtain ⟨_, _, ha⟩ := bind_ok.1 ha
  obtain rfl := pure_ok.1 ha
  exact ⟨proof, r, hproof, hr, rfl⟩

end Host

end Asset

end Release

end Adn
