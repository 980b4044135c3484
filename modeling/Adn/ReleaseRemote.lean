import Adn.Attestation
import Adn.ReleaseAssetRemote
/-!
# The remote verification of a release

`scripts/verify_release_remote.py` asks GitHub for the two workflow runs and the artifact
that an attestation names, downloads the artifact and compares it with the local files.
What the requests answer, and reading a ZIP or a tar archive, is the platform's.
-/

open Lib

namespace Adn

namespace Release

namespace Remote

/-- What the script runs on. -/
structure Host extends toAsset : Asset.Host where
  /-- `ZipFile(...).namelist()`, `none` where it raises `BadZipFile` -/
  namelist : List UInt8 → Option (List Str)
  /-- `ZipFile(...).read(name)` -/
  zipRead : List UInt8 → Str → Except Failure (List UInt8)

/-- `GitHubActionsClient`: what each request is answered with, first to last, by its URL. -/
structure Client where
  apiUrl : Str
  request : ℕ → Str → Except Failure (List UInt8)

def parseRepository (repository : Str) : Except Failure (Str × Str) := Asset.parseRepository repository

/-- `value or {}` -/
def orEmpty (v : Json) : Json := v.orElse (.obj [])

namespace Host

variable (h : Host) (client : Client)

/-! ## The client -/

/-- `_json(path)` -/
def json (n : ℕ) (path : Str) : Except Failure Json := do
  match h.loads (← client.request n (client.apiUrl ++ path)) with
  | some v => return v
  | none => .error .other

def getWorkflowRun (n : ℕ) (repository runId : Str) : Except Failure Json := do
  let (owner, repo) ← parseRepository repository
  h.json client n (Str.ofString "/repos/" ++ owner ++ Str.ofString "/" ++ repo ++ Str.ofString "/actions/runs/" ++ runId)

def getWorkflowRunArtifact (n : ℕ) (repository runId artifactId : Str) : Except Failure Dict := do
  let (owner, repo) ← parseRepository repository
  let artifact ← asObject (← h.json client n
    (Str.ofString "/repos/" ++ owner ++ Str.ofString "/" ++ repo ++ Str.ofString "/actions/artifacts/" ++ artifactId))
  let workflowRun ← asObject (orEmpty (artifact.get "workflow_run"))
  require (h.textOf workflowRun "id" = runId) "GitHub artifact does not belong to the declared workflow run"
  return artifact

def downloadArtifactZip (n : ℕ) (artifact : Dict) : Except Failure (List UInt8) := do
  let downloadUrl := strip (h.textOf artifact "archive_download_url")
  require (downloadUrl ≠ []) "GitHub artifact is missing archive_download_url"
  client.request n downloadUrl

/-! ## The archive -/

def proofInputTar : Str := "proof-input.tar"

def memberPath (name : Str) : Str := Str.ofString "proof/release/" ++ name

/-- A member of the tar archive, after the ones before it; a later member of a name replaces an earlier one. -/
def checkMember (members : List (Str × Asset.Member)) (member : Asset.Member) :
    Except Failure (List (Str × Asset.Member)) := do
  let unexpected := Str.ofString "unexpected proof input archive path: " ++ member.name
  let name := member.name.map fun u => if u = 0x5C then Asset.slash else u
  require (name.head? ≠ some Asset.slash && Asset.normpath name = name && name ∈ proofInputFiles.map memberPath) unexpected
  require member.isFile unexpected
  return (name, member) :: members

def readMember (members : List (Str × Asset.Member)) (name : Str) : Except Failure (Str × List UInt8) :=
  match members.lookup (memberPath name) with
  | none => .error (.runtime (Str.ofString "downloaded GitHub artifact is missing proof input " ++ memberPath name))
  | some member =>
    match member.stream with
    | none => .error (.runtime (Str.ofString "downloaded GitHub artifact cannot read proof input " ++ memberPath name))
    | some none => .error (.runtime (proofInputTar ++ Str.ofString " is not a valid tar archive"))
    | some (some bytes) => .ok (name, bytes)

def extractProofInputTar (zip : List UInt8) : Except Failure (List (Str × List UInt8)) := do
  match h.namelist zip with
  | none => .error (.runtime "downloaded GitHub artifact is not a valid ZIP archive")
  | some names =>
    require (proofInputTar ∈ names) (Str.ofString "downloaded GitHub artifact is missing " ++ proofInputTar)
    let tar ← h.zipRead zip proofInputTar
    match h.getmembers tar with
    | none => .error (.runtime (proofInputTar ++ Str.ofString " is not a valid tar archive"))
    | some members =>
      let members ← members.foldlM checkMember []
      proofInputFiles.mapM (readMember members)

/-- `extracted[name]` -/
def extractedFile (extracted : List (Str × List UInt8)) (name : Str) : Except Failure (List UInt8) :=
  match extracted.lookup name with
  | some data => .ok data
  | none => .error .other

def proofInputDigestFromBytes (extracted : List (Str × List UInt8)) : Except Failure Str := do
  let files ← proofInputFiles.mapM fun name => do
    return inputEntry name (h.digestHex (← extractedFile extracted name))
  return h.digestHex (← canonicalBytes (inputPayload files))

/-- One file of the directory against the archive's. -/
def compareFile (dir : Files) (extracted : List (Str × List UInt8)) (name : Str) : Except Failure Unit := do
  let localDigest := h.digestHex (← readBytes dir name)
  let remoteDigest := h.digestHex (← extractedFile extracted name)
  require (remoteDigest = localDigest)
    (Str.ofString "downloaded GitHub artifact proof input " ++ name ++ Str.ofString " digest mismatch")

def verifyArchiveContents (dir : Files) (zip : List UInt8) (expectedProofInputDigest : Str) : Except Failure Unit := do
  let extracted ← h.extractProofInputTar zip
  proofInputFiles.forM (h.compareFile dir extracted)
  require ((← h.proofInputDigestFromBytes extracted) = expectedProofInputDigest)
    "downloaded GitHub artifact proof_input_digest does not match CI attestation"

/-! ## The responses -/

/-- `re.fullmatch(r"[0-9a-f]{64}", text)` -/
def normalizeDigest (value : Json) : Except Failure Str := do
  let text := lower (strip (h.platform.str (value.orElse (.str []))))
  let algorithm := Str.ofString "sha256:"
  let text := if algorithm.isPrefixOf text then text.drop algorithm.length else text
  require (h.isDigest text) "GitHub artifact digest must be sha256:<64-hex> or 64-hex"
  return text

/-- `require_equal` of a response's field and the attestation's -/
def requireField (label : Str) (response : Dict) (field : String) (ciRelease : Dict) (attested : String) :
    Except Failure Unit :=
  h.requireEqual label (response.get field) (h.platform.str (ciRelease.get attested))

/-- `repository.get("full_name") != expected_repository` -/
def requireRepository (run : Dict) (expectedRepository message : Str) : Except Failure Unit := do
  let repository ← asObject (orEmpty (run.get "repository"))
  require ((repository.get "full_name").pyEq (.str expectedRepository)) message

def verifyRun (ciRelease run : Dict) (expectedRepository : Str) : Except Failure Unit := do
  h.requireField "workflow run id" run "id" ciRelease "workflow_run_id"
  h.requireField "workflow run head_sha" run "head_sha" ciRelease "sha"
  h.requireEqual "workflow run conclusion" (run.get "conclusion") "success"
  require ((run.get "html_url").pyEq (ciRelease.get "workflow_run_url")) "workflow run URL does not match CI attestation"
  requireRepository run expectedRepository "workflow run repository does not match expected repository"

def verifyTestsRun (ciRelease run : Dict) (expectedRepository : Str) : Except Failure Unit := do
  h.requireField "Tests workflow run id" run "id" ciRelease "tests_workflow_run_id"
  h.requireField "Tests workflow head_sha" run "head_sha" ciRelease "tests_workflow_head_sha"
  h.requireEqual "Tests workflow conclusion" (run.get "conclusion") "success"
  h.requireField "Tests workflow event" run "event" ciRelease "tests_workflow_event"
  h.requireField "Tests workflow head_branch" run "head_branch" ciRelease "tests_workflow_head_branch"
  require ((run.get "html_url").pyEq (ciRelease.get "tests_workflow_run_url"))
    "Tests workflow URL does not match CI attestation"
  require ((run.get "name").pyEq (.str "Tests")) "Tests workflow run name does not match required workflow"
  require ((run.get "event").pyEq (.str "push")) "Tests workflow event must be push"
  require ((run.get "head_branch").pyEq (.str "main")) "Tests workflow head_branch must be main"
  requireRepository run expectedRepository "Tests workflow repository does not match expected repository"

def expectedArtifactUrl (repository runId artifactId : Str) : Str :=
  Str.ofString "https://github.com/" ++ repository ++ Str.ofString "/actions/runs/" ++ runId ++
    Str.ofString "/artifacts/" ++ artifactId

/-- `if workflow_run and str(workflow_run.get("id", "")) != str(run_id)` -/
def requireOwnRun (artifact : Dict) (runId : Str) : Except Failure Unit :=
  if (artifact.get "workflow_run").truthy then do
    let workflowRun ← asObject (artifact.get "workflow_run")
    require (h.textOf workflowRun "id" = runId) "GitHub artifact does not belong to the declared workflow run"
  else .ok ()

def verifyArtifact (ciRelease artifact : Dict) (repository runId : Str) : Except Failure Str := do
  h.requireField "artifact id" artifact "id" ciRelease "artifact_id"
  h.requireField "artifact name" artifact "name" ciRelease "artifact_name"
  h.requireOwnRun artifact runId
  require ((ciRelease.get "artifact_url").pyEq
      (.str (expectedArtifactUrl repository runId (h.platform.str (ciRelease.get "artifact_id")))))
    "CI release evidence artifact_url does not match expected GitHub artifact URL"
  require (!isTrue (artifact.get "expired")) "GitHub artifact has expired"
  let remoteDigest ← h.normalizeDigest (artifact.get "digest")
  let attestedDigest ← h.normalizeDigest (ciRelease.get "artifact_digest")
  require (remoteDigest = attestedDigest) "GitHub artifact metadata digest does not match CI attestation"
  return attestedDigest

/-! ## The verdict -/

def expectedRepository (repository : Option Str) : Str := h.toAsset.expectedRepository repository

/-- What is answered with the status `REMOTE_OK`. -/
structure Verdict where
  buildCommit : Json
  buildConfigId : Json
  workflowRunId : Str
  testsWorkflowRunId : Str
  artifactId : Str
  artifactDigest : Str
  proofInputDigest : Str

def verifyReleaseRemote (dir : Files) (repository : Option Str) : Except Failure Verdict := do
  let localResult ← h.verifyReleaseDir dir
  let ciRelease ← asObject (← h.readJson dir "ci_release_sha.json")
  let repository := h.expectedRepository repository
  require ((ciRelease.get "repository").pyEq (.str repository))
    "CI release evidence repository does not match expected repository"
  let runId := h.textOf ciRelease "workflow_run_id"
  let artifactId := h.textOf ciRelease "artifact_id"
  let run ← asObject (← h.getWorkflowRun client 0 repository runId)
  h.verifyRun ciRelease run repository
  let testsRunId := h.textOf ciRelease "tests_workflow_run_id"
  let testsRun ← asObject (← h.getWorkflowRun client 1 repository testsRunId)
  h.verifyTestsRun ciRelease testsRun repository
  let artifact ← h.getWorkflowRunArtifact client 2 repository runId artifactId
  let attestedArtifactDigest ← h.verifyArtifact ciRelease artifact repository runId
  let artifactZip ← h.downloadArtifactZip client 3 artifact
  let downloadedDigest := h.digestHex artifactZip
  require (downloadedDigest = attestedArtifactDigest) "downloaded artifact digest does not match GitHub artifact metadata"
  h.verifyArchiveContents dir artifactZip (h.platform.str (ciRelease.get "proof_input_digest"))
  return ⟨localResult.buildCommit, localResult.buildConfigId, runId, testsRunId, artifactId, downloadedDigest,
    localResult.proofInputDigest⟩

/-! ## What a verdict rests on -/

/-- The documents and the archive that a verdict is about. -/
structure Evidence where
  manifest : Dict
  ciRelease : Dict
  run : Dict
  testsRun : Dict
  artifact : Dict
  zip : List UInt8
  extracted : List (Str × List UInt8)

/-- What is read of a directory, of GitHub and of the archive, as long as nothing is compared. -/
def evidence (dir : Files) (repository : Str) : Except Failure Evidence := do
  let manifest ← asObject (← h.readJson dir "deployment_manifest.json")
  let ciRelease ← asObject (← h.readJson dir "ci_release_sha.json")
  let run ← asObject (← h.getWorkflowRun client 0 repository (h.textOf ciRelease "workflow_run_id"))
  let testsRun ← asObject (← h.getWorkflowRun client 1 repository (h.textOf ciRelease "tests_workflow_run_id"))
  let artifact ← h.getWorkflowRunArtifact client 2 repository (h.textOf ciRelease "workflow_run_id")
    (h.textOf ciRelease "artifact_id")
  let zip ← h.downloadArtifactZip client 3 artifact
  return ⟨manifest, ciRelease, run, testsRun, artifact, zip, ← h.extractProofInputTar zip⟩

/-- A run has the attested id, was successful, and ran on the commit in the repository. -/
structure RanOn (run : Dict) (runId commit repository : Str) : Prop where
  id : h.platform.str (run.get "id") = runId
  successful : h.platform.str (run.get "conclusion") = Str.ofString "success"
  commit : h.platform.str (run.get "head_sha") = commit
  repository : ∃ repo : Dict, run.get "repository" = .obj repo ∧ repo.get "full_name" = .str repository

/-- The artifact is the attested run's and has the attested id, and its archive has the digest in the artifact's
metadata, which is the attested one. -/
structure IsAttested (e : Evidence) : Prop where
  id : h.platform.str (e.artifact.get "id") = h.textOf e.ciRelease "artifact_id"
  run : ∃ run : Dict, e.artifact.get "workflow_run" = .obj run ∧
    h.textOf run "id" = h.textOf e.ciRelease "workflow_run_id"
  metadata : h.normalizeDigest (e.artifact.get "digest") = .ok (h.digestHex e.zip)
  digest : h.textOf e.ciRelease "artifact_digest" = h.digestHex e.zip

/-- Everything that a verdict is to say of a directory, for one commit. -/
structure Proven (dir : Files) (repository commit : Str) (e : Evidence) : Prop where
  inputs : ∀ name ∈ proofInputFiles, ∃ data, dir name = some data ∧ e.extracted.lookup name = some data
  artifact : h.IsAttested e
  built : e.manifest.get "build_commit" = .str commit
  run : h.RanOn e.run (h.textOf e.ciRelease "workflow_run_id") commit repository
  testsRun : h.RanOn e.testsRun (h.textOf e.ciRelease "tests_workflow_run_id") commit repository
  pushed : e.testsRun.get "event" = .str "push" ∧ e.testsRun.get "head_branch" = .str "main"
  tests : e.testsRun.get "name" = .str "Tests"

theorem requireRepository_ok {run : Dict} {expected message : Str} {u : Unit}
    (hr : requireRepository run expected message = .ok u) :
    ∃ repo : Dict, run.get "repository" = .obj repo ∧ repo.get "full_name" = .str expected := by
  obtain ⟨repo, hrepo, hr⟩ := bind_ok.1 hr
  have hname := Json.pyEq_str.mp (require_ok.1 hr)
  have hobj := asObject_ok.1 hrepo
  unfold orEmpty Json.orElse at hobj
  split at hobj
  · exact ⟨repo, hobj, hname⟩
  · obtain rfl := Json.obj.inj hobj
    cases hname

theorem hex_units {n : ℕ} {isDecimal : ℕ → Bool} {s : Str}
    (hs : (Pattern.hex n).test isDecimal (Text.codePoints s) = true) : s.length = n ∧ ∀ u ∈ s, isLowerHexDigit u.toNat = true := by
  obtain ⟨hlen, hall⟩ := (Bool.and_eq_true _ _).mp hs
  have hdigits := List.all_eq_true.mp hall
  have hascii : Text.IsAscii s := Text.ascii_of_codePoints fun c hc => by
    have := hdigits c hc
    simp only [isLowerHexDigit, Bool.or_eq_true, Bool.and_eq_true, decide_eq_true_eq] at this
    omega
  rw [Text.codePoints_ascii hascii] at hlen hdigits
  refine ⟨by simpa [Text.codeUnits] using hlen, fun u hu => hdigits _ (List.mem_map_of_mem hu)⟩

theorem isSpace_graphic {u : UInt16} (hl : 0x21 ≤ u.toNat) (hu : u.toNat < 0x7F) : isSpace u = false := by
  have h : ∀ n < 0x7F, 0x21 ≤ n → isSpace n.toUInt16 = false := by decide
  have hs := h u.toNat hu hl
  rwa [Nat.toUInt16_eq, UInt16.ofNat_toNat] at hs

/-- A digest in hexadecimal is normalized already. -/
theorem normalize_hex {s : Str} (hs : h.isDigest s = true) : lower (strip s) = s ∧
    (Str.ofString "sha256:").isPrefixOf s = false := by
  obtain ⟨-, hunits⟩ := hex_units hs
  have hunit : ∀ u ∈ s, isSpace u = false ∧ (0x41 ≤ u.toNat && u.toNat ≤ 0x5A) = false ∧ (0x73 == u) = false := by
    intro u hu
    have := hunits u hu
    simp only [isLowerHexDigit, Bool.or_eq_true, Bool.and_eq_true, decide_eq_true_eq] at this
    refine ⟨isSpace_graphic (by omega) (by omega), ?_, beq_false_of_ne ?_⟩
    · rw [Bool.and_eq_false_iff, decide_eq_false_iff_not, decide_eq_false_iff_not]
      omega
    · rintro rfl
      exact absurd this (by decide)
  constructor
  · have hlower : ∀ u ∈ s, (if 0x41 ≤ u.toNat && u.toNat ≤ 0x5A then u + 0x20 else u) = u := by
      intro u hu
      rw [(hunit u hu).2.1]
      rfl
    rw [strip_eq_self fun u hu => (hunit u hu).1, lower, List.map_congr_left hlower, List.map_id']
  · cases s with
    | nil => rfl
    | cons u s =>
      rw [show Str.ofString "sha256:" = 0x73 :: Str.ofString "ha256:" from rfl, List.isPrefixOf_cons_cons,
        (hunit u List.mem_cons_self).2.2, Bool.false_and]

theorem normalizeDigest_ok {value : Json} {digest : Str} (hd : h.normalizeDigest value = .ok digest) :
    value.truthy = true := by
  obtain ⟨_, hdigest, -⟩ := bind_ok.1 hd
  by_contra hfalse
  rw [Json.orElse, if_neg hfalse] at hdigest
  have hempty : lower (strip (h.platform.str (.str []))) = [] := rfl
  have hstart : (Str.ofString "sha256:").isPrefixOf [] = false := rfl
  rw [hempty, hstart] at hdigest
  exact absurd (hex_units (require_ok.1 hdigest)).1 (by decide)

/-- An attested digest that is 64 hexadecimal digits is normalized already. -/
theorem normalizeDigest_attested {d : Dict} {field : String} {digest : Str} (ht : h.isDigest (h.textOf d field) = true)
    (hd : h.normalizeDigest (d.get field) = .ok digest) : h.textOf d field = digest := by
  have htruthy := h.normalizeDigest_ok hd
  have htext : h.platform.str (d.get field) = h.textOf d field := by
    unfold Dict.get Dict.getD at htruthy ⊢
    rw [Release.Host.textOf, Dict.getD]
    cases hg : d.get? field with
    | some v => rfl
    | none => rw [hg] at htruthy; cases htruthy
  obtain ⟨_, _, hd⟩ := bind_ok.1 hd
  obtain ⟨hlower, hstart⟩ := h.normalize_hex ht
  rw [Json.orElse, if_pos htruthy, htext, hlower, hstart] at hd
  exact pure_ok.1 hd

theorem requireField_ok {label : Str} {response ciRelease : Dict} {field attested : String} {u : Unit}
    (hr : h.requireField label response field ciRelease attested = .ok u) :
    h.platform.str (response.get field) = h.platform.str (ciRelease.get attested) := h.requireEqual_ok.1 hr

theorem verifyRun_ok {ciRelease run : Dict} {repository : Str} {u : Unit}
    (hr : h.verifyRun ciRelease run repository = .ok u) : h.RanOn run (h.platform.str (ciRelease.get "workflow_run_id"))
      (h.platform.str (ciRelease.get "sha")) repository := by
  obtain ⟨_, hid, hr⟩ := bind_ok.1 hr
  obtain ⟨_, hsha, hr⟩ := bind_ok.1 hr
  obtain ⟨_, hconclusion, hr⟩ := bind_ok.1 hr
  obtain ⟨_, _, hr⟩ := bind_ok.1 hr
  exact ⟨h.requireField_ok hid, h.requireEqual_ok.1 hconclusion, h.requireField_ok hsha, requireRepository_ok hr⟩

theorem verifyTestsRun_ok {ciRelease run : Dict} {repository : Str} {u : Unit}
    (hr : h.verifyTestsRun ciRelease run repository = .ok u) :
    h.RanOn run (h.platform.str (ciRelease.get "tests_workflow_run_id"))
      (h.platform.str (ciRelease.get "tests_workflow_head_sha")) repository ∧
      run.get "event" = .str "push" ∧ run.get "head_branch" = .str "main" ∧ run.get "name" = .str "Tests" := by
  obtain ⟨_, hid, hr⟩ := bind_ok.1 hr
  obtain ⟨_, hsha, hr⟩ := bind_ok.1 hr
  obtain ⟨_, hconclusion, hr⟩ := bind_ok.1 hr
  iterate 3 obtain ⟨_, _, hr⟩ := bind_ok.1 hr
  obtain ⟨_, hname, hr⟩ := bind_ok.1 hr
  obtain ⟨_, hevent, hr⟩ := bind_ok.1 hr
  obtain ⟨_, hbranch, hr⟩ := bind_ok.1 hr
  exact ⟨⟨h.requireField_ok hid, h.requireEqual_ok.1 hconclusion, h.requireField_ok hsha, requireRepository_ok hr⟩,
    Json.pyEq_str.mp (require_ok.1 hevent), Json.pyEq_str.mp (require_ok.1 hbranch), Json.pyEq_str.mp (require_ok.1 hname)⟩

theorem verifyArtifact_ok {ciRelease artifact : Dict} {repository runId digest : Str}
    (ha : h.verifyArtifact ciRelease artifact repository runId = .ok digest) :
    h.platform.str (artifact.get "id") = h.platform.str (ciRelease.get "artifact_id") ∧
      h.normalizeDigest (artifact.get "digest") = .ok digest ∧
      h.normalizeDigest (ciRelease.get "artifact_digest") = .ok digest := by
  obtain ⟨_, hid, ha⟩ := bind_ok.1 ha
  iterate 4 obtain ⟨_, _, ha⟩ := bind_ok.1 ha
  obtain ⟨remote, hremote, ha⟩ := bind_ok.1 ha
  obtain ⟨attested, hattested, ha⟩ := bind_ok.1 ha
  obtain ⟨_, heq, ha⟩ := bind_ok.1 ha
  obtain rfl := pure_ok.1 ha
  obtain rfl := of_decide_eq_true (require_ok.1 heq)
  exact ⟨h.requireField_ok hid, hremote, hattested⟩

theorem getWorkflowRunArtifact_ok {n : ℕ} {repository runId artifactId : Str} {artifact : Dict} (hne : runId ≠ [])
    (ha : h.getWorkflowRunArtifact client n repository runId artifactId = .ok artifact) :
    ∃ run : Dict, artifact.get "workflow_run" = .obj run ∧ h.textOf run "id" = runId := by
  obtain ⟨_, _, ha⟩ := bind_ok.1 ha
  obtain ⟨v, _, ha⟩ := bind_ok.1 ha
  obtain ⟨a, _, ha⟩ := bind_ok.1 ha
  obtain ⟨run, hrun, ha⟩ := bind_ok.1 ha
  obtain ⟨_, hid, ha⟩ := bind_ok.1 ha
  obtain rfl := pure_ok.1 ha
  have hid := of_decide_eq_true (require_ok.1 hid)
  have hobj := asObject_ok.1 hrun
  unfold orEmpty Json.orElse at hobj
  split at hobj
  · exact ⟨run, hobj, hid⟩
  · obtain rfl := Json.obj.inj hobj
    exact absurd hid.symm hne

theorem compareFile_ok {dir : Files} {extracted : List (Str × List UInt8)} {name : Str} {u : Unit}
    (hc : h.compareFile dir extracted name = .ok u) : ∃ data data', dir name = some data ∧
      extracted.lookup name = some data' ∧ h.platform.sha256 data' = h.platform.sha256 data := by
  obtain ⟨data, hd, hc⟩ := bind_ok.1 hc
  obtain ⟨data', hd', hc⟩ := bind_ok.1 hc
  refine ⟨data, data', ?_, ?_, Hex.hexLower_inj (of_decide_eq_true (require_ok.1 hc))⟩
  · unfold readBytes at hd
    split at hd
    · rename_i heq
      rw [heq, Except.ok.inj hd]
    · cases hd
  · unfold extractedFile at hd'
    split at hd'
    · rename_i heq
      rw [heq, Except.ok.inj hd']
    · cases hd'

/-- A field that is there has one text, whatever the default. -/
theorem textOf_present {d : Dict} {field : String} (hp : isMissing (d.get field) = false) :
    h.platform.str (d.get field) = h.textOf d field := by
  unfold Dict.get Dict.getD at hp ⊢
  rw [Release.Host.textOf, Dict.getD]
  cases hg : d.get? field with
  | some v => rfl
  | none => rw [hg] at hp; cases hp

theorem textOf_ne_nil {d : Dict} {field : String} (hrepr : ∀ v, h.platform.reprJson v ≠ [])
    (hp : isMissing (d.get field) = false) : h.textOf d field ≠ [] := by
  rw [← h.textOf_present hp]
  cases hv : d.get field with
  | str s =>
    rintro rfl
    rw [hv] at hp
    exact absurd hp (by decide)
  | _ => exact hrepr _

/-- What a verdict was reached from, and what was compared; the files are compared by their digests. -/
theorem verifyReleaseRemote_ok (hrepr : ∀ v, h.platform.reprJson v ≠ []) {dir : Files} {repository : Option Str}
    {v : Verdict} (hv : h.verifyReleaseRemote client dir repository = .ok v) :
    ∃ (e : Evidence) (commit : Str), h.evidence client dir (h.expectedRepository repository) = .ok e ∧
      (∀ name ∈ proofInputFiles, h.compareFile dir e.extracted name = .ok ()) ∧ h.IsAttested e ∧
      e.manifest.get "build_commit" = .str commit ∧
      h.RanOn e.run (h.textOf e.ciRelease "workflow_run_id") commit (h.expectedRepository repository) ∧
      h.RanOn e.testsRun (h.textOf e.ciRelease "tests_workflow_run_id") commit (h.expectedRepository repository) ∧
      e.testsRun.get "event" = .str "push" ∧ e.testsRun.get "head_branch" = .str "main" ∧
      e.testsRun.get "name" = .str "Tests" := by
  obtain ⟨r, hlocal, hv⟩ := bind_ok.1 hv
  obtain ⟨c, hread, hv⟩ := bind_ok.1 hv
  obtain ⟨ciRelease, hci, hv⟩ := bind_ok.1 hv
  obtain ⟨_, _, hv⟩ := bind_ok.1 hv
  obtain ⟨answer, hanswer, hv⟩ := bind_ok.1 hv
  obtain ⟨run, hrun, hv⟩ := bind_ok.1 hv
  obtain ⟨_, hverifyRun, hv⟩ := bind_ok.1 hv
  obtain ⟨testsAnswer, htestsAnswer, hv⟩ := bind_ok.1 hv
  obtain ⟨testsRun, htestsRun, hv⟩ := bind_ok.1 hv
  obtain ⟨_, hverifyTests, hv⟩ := bind_ok.1 hv
  obtain ⟨artifact, hartifact, hv⟩ := bind_ok.1 hv
  obtain ⟨digest, hverifyArtifact, hv⟩ := bind_ok.1 hv
  obtain ⟨zip, hzip, hv⟩ := bind_ok.1 hv
  obtain ⟨_, hdownloaded, hv⟩ := bind_ok.1 hv
  obtain ⟨_, harchive, hv⟩ := bind_ok.1 hv
  obtain ⟨extracted, hextracted, harchive⟩ := bind_ok.1 harchive
  obtain ⟨⟨⟩, hfiles, _⟩ := bind_ok.1 harchive
  obtain rfl := of_decide_eq_true (require_ok.1 hdownloaded)
  obtain rfl := asObject_ok.1 hci
  -- the local verification: the attestation's fields are there, and name the manifest's commit
  obtain ⟨manifest, ciRelease', commit, hmanifest, hread', hbuilt, hsha, -, hattested, -⟩ := h.verifyReleaseDir_ok hlocal
  obtain rfl := Json.obj.inj (Except.ok.inj (hread'.symm.trans hread))
  have hpresent := requireFields_iff.1 hattested.fields
  have htext {field : String} (hf : Str.ofString field ∈ Release.Host.ciReleaseFields) :
      h.platform.str (ciRelease'.get field) = h.textOf ciRelease' field := h.textOf_present (hpresent _ hf)
  have hranOn := h.verifyRun_ok hverifyRun
  obtain ⟨htestsOn, hpushed, hmain, hname⟩ := h.verifyTestsRun_ok hverifyTests
  rw [hsha, htext (by simp [Release.Host.ciReleaseFields])] at hranOn
  rw [Json.pyEq_str.mp hattested.tests, htext (by simp [Release.Host.ciReleaseFields])] at htestsOn
  obtain ⟨hid, hmetadata, hdigest⟩ := h.verifyArtifact_ok hverifyArtifact
  have hrunId : h.textOf ciRelease' "workflow_run_id" ≠ [] :=
    h.textOf_ne_nil hrepr (hpresent _ (by simp [Release.Host.ciReleaseFields]))
  have hown := h.getWorkflowRunArtifact_ok client hrunId hartifact
  refine ⟨⟨manifest, ciRelease', run, testsRun, artifact, zip, extracted⟩, commit, ?_, Release.Host.forM_ok hfiles, ⟨?_, hown, hmetadata,
    h.normalizeDigest_attested hattested.artifact hdigest⟩, hbuilt, hranOn, htestsOn, hpushed, hmain, hname⟩
  · exact bind_ok.2 ⟨_, hmanifest, bind_ok.2 ⟨_, rfl, bind_ok.2 ⟨_, hread, bind_ok.2 ⟨_, rfl, bind_ok.2 ⟨_, hanswer,
      bind_ok.2 ⟨_, hrun, bind_ok.2 ⟨_, htestsAnswer, bind_ok.2 ⟨_, htestsRun, bind_ok.2 ⟨_, hartifact,
      bind_ok.2 ⟨_, hzip, bind_ok.2 ⟨_, hextracted, rfl⟩⟩⟩⟩⟩⟩⟩⟩⟩⟩⟩
  · exact hid.trans (htext (by simp [Release.Host.ciReleaseFields]))

/-- What the remote verification hashes file by file: the local inputs, and what the archive holds. -/
def Compared (dir : Files) (e : Evidence) : Set (List UInt8) := {data | ∃ name ∈ proofInputFiles,
  dir name = some data ∨ e.extracted.lookup name = some data}

/-- A verdict proves a directory: its inputs are byte for byte the archive's, the archive is the attested artifact of
the attested run, and the runs were successful, in the repository, on the commit that the manifest was built from. -/
theorem verdict_proves (hrepr : ∀ v, h.platform.reprJson v ≠ []) {dir : Files} {repository : Option Str} {v : Verdict}
    (hv : h.verifyReleaseRemote client dir repository = .ok v) :
    ∃ (e : Evidence) (commit : Str), h.evidence client dir (h.expectedRepository repository) = .ok e ∧
      (Set.InjOn h.platform.sha256 (Compared dir e) → h.Proven dir (h.expectedRepository repository) commit e) := by
  obtain ⟨e, commit, he, hfiles, hartifact, hbuilt, hrun, htests, hpushed, hmain, hname⟩ :=
    h.verifyReleaseRemote_ok client hrepr hv
  refine ⟨e, commit, he, fun hs => ⟨fun name hn => ?_, hartifact, hbuilt, hrun, htests, ⟨hpushed, hmain⟩, hname⟩⟩
  obtain ⟨data, data', hd, hd', hhash⟩ := h.compareFile_ok (hfiles name hn)
  obtain rfl := hs ⟨name, hn, .inr hd'⟩ ⟨name, hn, .inl hd⟩ hhash
  exact ⟨data', hd, hd'⟩

end Host

end Remote

end Release

/-! ## A release that GitHub confirms -/

namespace Sample

open Release Remote

def runFields : Dict := Dict.ofList [("id", .str "11"), ("head_sha", .str buildCommit), ("conclusion", .str "success"),
  ("html_url", .str (attestedRuns ++ Str.ofString "11")),
  ("repository", .obj (Dict.ofList [("full_name", .str attestedRepository)]))]

def testsFields : Dict := Dict.ofList [("id", .str "12"), ("name", .str "Tests"), ("head_sha", .str buildCommit),
  ("conclusion", .str "success"), ("event", .str "push"), ("head_branch", .str "main"),
  ("html_url", .str (attestedRuns ++ Str.ofString "12")),
  ("repository", .obj (Dict.ofList [("full_name", .str attestedRepository)]))]

def artifactFields : Dict := Dict.ofList [("id", .str "13"), ("name", .str "proof-input"),
  ("workflow_run", .obj (Dict.ofList [("id", .str "11")])), ("digest", .str (digestOf [])),
  ("archive_download_url", .str "download")]

def confirmedCi : Dict := ciFields (digestOf []) proofInputDigest

def responses : List Json := [.obj confirmedCi, .obj runFields, .obj testsFields, .obj artifactFields]

def confirmedMember (name : Str) : Asset.Member := ⟨Remote.Host.memberPath name, true, some (some (inputText name))⟩

def remoteHost : Remote.Host :=
  { verifierHost (proofDocs ++ responses) with
    getmembers _ := some (proofInputFiles.map confirmedMember)
    namelist _ := some [Remote.Host.proofInputTar]
    zipRead _ _ := .ok [] }

def remoteClient : Remote.Client where
  apiUrl := "https://api.github.com"
  request n _ := .ok (match n with
    | 0 => fileAt 6 (.obj runFields)
    | 1 => fileAt 7 (.obj testsFields)
    | 2 => fileAt 8 (.obj artifactFields)
    | _ => [])

def confirmedDir : Files :=
  fun name => if name = "ci_release_sha.json" then some (fileAt 5 (.obj confirmedCi)) else proofDir name

theorem memberPath_normal {name : Str} (hn : name ∈ proofInputFiles) :
    (Remote.Host.memberPath name).map (fun u => if u = 0x5C then Asset.slash else u) = Remote.Host.memberPath name ∧
      (Remote.Host.memberPath name).head? ≠ some Asset.slash ∧
      Asset.normpath (Remote.Host.memberPath name) = Remote.Host.memberPath name := by
  have hpath : Remote.Host.memberPath name =
      [Asset.slash].intercalate [Str.ofString "proof", Str.ofString "release", name] := by
    rw [List.intercalate_cons_cons, List.intercalate_cons_cons, List.intercalate_singleton]
    rfl
  have hback : ∀ u ∈ name, (if u = 0x5C then Asset.slash else u) = u := by
    intro u hu
    refine if_neg ?_
    rintro rfl
    exact (units_proofInputFiles name hn 0x5C hu).2.2 rfl
  have hproof : IsComponent (Str.ofString "proof") := ⟨by decide, by simp⟩
  have hrelease : IsComponent (Str.ofString "release") := ⟨by decide, by simp⟩
  refine ⟨?_, ?_, ?_⟩
  · rw [Remote.Host.memberPath, List.map_append, List.map_congr_left hback, List.map_id']
    rfl
  · rw [Remote.Host.memberPath, List.head?_append, show (Str.ofString "proof/release/").head? = some 0x70 from rfl]
    simp [Asset.slash]
  · rw [hpath]
    exact normpath_components (by simp) (by simpa using ⟨hproof, hrelease, inputName_component hn⟩)

theorem remote_members {names : List Str} (hn : ∀ name ∈ names, name ∈ proofInputFiles) (members : List (Str × Asset.Member)) :
    (names.map confirmedMember).foldlM Remote.Host.checkMember members =
      .ok ((names.map fun name => (Remote.Host.memberPath name, confirmedMember name)).reverse ++ members) := by
  induction names generalizing members with
  | nil => rfl
  | cons name names ih =>
    obtain ⟨hmap, hhead, hnorm⟩ := memberPath_normal (hn name List.mem_cons_self)
    have hmem : Remote.Host.memberPath name ∈ proofInputFiles.map Remote.Host.memberPath :=
      List.mem_map_of_mem (hn name List.mem_cons_self)
    rw [List.map_cons, List.foldlM_cons]
    refine bind_ok.2 ⟨(Remote.Host.memberPath name, confirmedMember name) :: members, ?_, ?_⟩
    · unfold Remote.Host.checkMember
      simp only [confirmedMember, hmap]
      refine bind_ok.2 ⟨(), Release.require_ok.2 ?_, bind_ok.2 ⟨(), rfl, rfl⟩⟩
      simpa [hhead, hnorm] using hmem
    · rw [ih fun n hm => hn n (List.mem_cons_of_mem name hm)]
      simp

theorem lookup_memberPath {names : List Str} {name : Str} (hn : name ∈ names) :
    (names.map fun n => (Remote.Host.memberPath n, confirmedMember n)).lookup (Remote.Host.memberPath name) =
      some (confirmedMember name) := by
  induction names with
  | nil => cases hn
  | cons n names ih =>
    rw [List.map_cons, List.lookup_cons]
    split
    · rename_i heq
      rw [List.append_cancel_left (eq_of_beq heq)]
    · rename_i hne
      rcases List.mem_cons.mp hn with rfl | hn
      · simp at hne
      · exact ih hn

theorem mapM_map {α β : Type} {f : α → Except Failure β} {g : α → β} {xs : List α} (h : ∀ x ∈ xs, f x = .ok (g x)) :
    xs.mapM f = .ok (xs.map g) := by
  induction xs with
  | nil => rfl
  | cons x xs ih =>
    rw [List.mapM_cons]
    exact bind_ok.2 ⟨_, h x List.mem_cons_self, bind_ok.2 ⟨_, ih fun y hy => h y (List.mem_cons_of_mem x hy), rfl⟩⟩

def confirmedInputs : List (Str × List UInt8) := proofInputFiles.map fun name => (name, inputText name)

theorem remote_extracted (zip : List UInt8) : remoteHost.extractProofInputTar zip = .ok confirmedInputs := by
  refine bind_ok.2 ⟨(), Release.require_ok.2 (by simp), bind_ok.2 ⟨[], rfl, ?_⟩⟩
  refine bind_ok.2 ⟨_, remote_members (fun _ hn => hn) [], mapM_map fun name hn => ?_⟩
  unfold Remote.Host.readMember
  rw [List.append_nil, ← List.map_reverse, lookup_memberPath (List.mem_reverse.mpr hn)]
  rfl

theorem input_read {name : Str} (hn : name ∈ proofInputFiles) : proofDir name = some (inputText name) := by
  obtain ⟨data, -, hd⟩ := mem_left proofDir_inputs hn
  rw [inputText, hd]
  rfl

theorem inputFiles_eq : inputFiles = proofInputFiles.map fun name => inputEntry name (digestOf (inputText name)) := by
  refine Except.ok.inj ((proofDir_digests [] fun _ _ => rfl).symm.trans ?_)
  refine bind_ok.2 ⟨(), requireFiles_iff.2 fun name hn => ⟨_, input_read hn⟩, mapM_map fun name hn => ?_⟩
  exact bind_ok.2 ⟨inputText name, by rw [readBytes, input_read hn], rfl⟩

theorem confirmedDir_inputs : ∀ name ∈ proofInputFiles, confirmedDir name = proofDir name := by
  simp [proofInputFiles, confirmedDir]

theorem remote_contents : remoteHost.verifyArchiveContents confirmedDir [] proofInputDigest = .ok () := by
  have hfile : ∀ name ∈ proofInputFiles, Remote.Host.extractedFile confirmedInputs name = .ok (inputText name) := by
    intro name hn
    rw [Remote.Host.extractedFile, confirmedInputs, lookup_map_self hn]
  have hlocal : ∀ name ∈ proofInputFiles, readBytes confirmedDir name = .ok (inputText name) := by
    intro name hn
    rw [readBytes, confirmedDir_inputs name hn, input_read hn]
  refine bind_ok.2 ⟨_, remote_extracted [], bind_ok.2 ⟨(), forM_accepts fun name hn => ?_, ?_⟩⟩
  · exact bind_ok.2 ⟨_, hlocal name hn, bind_ok.2 ⟨_, hfile name hn, Release.require_ok.2 (decide_eq_true rfl)⟩⟩
  · have hfiles : (proofInputFiles.mapM fun name => do
        return inputEntry name (remoteHost.digestHex (← Remote.Host.extractedFile confirmedInputs name))) = .ok inputFiles := by
      rw [inputFiles_eq]
      exact mapM_map fun name hn => bind_ok.2 ⟨_, hfile name hn, rfl⟩
    have hbytes : canonicalBytes (inputPayload inputFiles) = .ok payloadText :=
      canonicalBytes_plainDoc (plain_inputPayload plain_inputFiles)
    have hdigest : remoteHost.proofInputDigestFromBytes confirmedInputs = .ok proofInputDigest := by
      refine bind_ok.2 ⟨_, hfiles, bind_ok.2 ⟨_, hbytes, ?_⟩⟩
      rw [proofInputDigest]
      rfl
    exact bind_ok.2 ⟨_, hdigest, Release.require_ok.2 (decide_eq_true rfl)⟩

theorem remote_artifact : remoteHost.verifyArtifact confirmedCi artifactFields attestedRepository "11" = .ok (digestOf []) := by
  have hci {k : String} {v : Json} (hk : confirmedCi.get? k = some v) : confirmedCi.get k = v := Dict.get_of_get? hk
  have hart {k : String} {v : Json} (hk : artifactFields.get? k = some v) : artifactFields.get k = v := Dict.get_of_get? hk
  have hnormal : remoteHost.normalizeDigest (.str (digestOf [])) = .ok (digestOf []) := by
    have hd : remoteHost.isDigest (digestOf []) = true := hexLower_pattern _ (releaseHash [])
    obtain ⟨hlower, hstart⟩ := remoteHost.normalize_hex hd
    have htruthy : (Json.str (digestOf [])).orElse (.str []) = .str (digestOf []) := if_pos (by decide)
    refine bind_ok.2 ⟨(), Release.require_ok.2 ?_, ?_⟩ <;> rw [htruthy, Platform.str, hlower, hstart]
    · exact hd
    · rfl
  have hequal {label : Str} {field attested : String} {v : Json} (hf : artifactFields.get? field = some v)
      (ha : confirmedCi.get? attested = some v) :
      remoteHost.requireField label artifactFields field confirmedCi attested = .ok () :=
    remoteHost.requireEqual_ok.2 (by rw [hart hf, hci ha])
  refine bind_ok.2 ⟨(), hequal (v := .str "13") (by simp [artifactFields]) (by simp [confirmedCi, ciFields]), ?_⟩
  refine bind_ok.2 ⟨(), hequal (v := .str "proof-input") (by simp [artifactFields]) (by simp [confirmedCi, ciFields]), ?_⟩
  have hrun : artifactFields.get "workflow_run" = .obj (Dict.ofList [("id", .str "11")]) := hart (by simp [artifactFields])
  have hown : remoteHost.requireOwnRun artifactFields "11" = .ok () := by
    unfold Remote.Host.requireOwnRun
    rw [hrun, if_pos (by simp [Json.truthy, Dict.ofList])]
    refine bind_ok.2 ⟨_, rfl, Release.require_ok.2 ?_⟩
    rw [Host.textOf_str (s := Str.ofString "11") _ (by simp)]
    exact decide_eq_true rfl
  have hurl : confirmedCi.get "artifact_url" = .str (Remote.Host.expectedArtifactUrl attestedRepository "11" "13") :=
    hci (by simp [confirmedCi, ciFields, Remote.Host.expectedArtifactUrl, attestedRuns])
  refine bind_ok.2 ⟨(), hown, bind_ok.2 ⟨(), Release.require_ok.2 ?_, ?_⟩⟩
  · have hid : confirmedCi.get "artifact_id" = .str "13" := hci (by simp [confirmedCi, ciFields])
    rw [hid]
    exact Json.pyEq_str.mpr hurl
  refine bind_ok.2 ⟨(), Release.require_ok.2 (by simp [artifactFields, Dict.get, Dict.getD, Release.isTrue]), ?_⟩
  rw [hart (v := .str (digestOf [])) (by simp [artifactFields]), hci (v := .str (digestOf [])) (by simp [confirmedCi, ciFields])]
  exact bind_ok.2 ⟨_, hnormal, bind_ok.2 ⟨_, hnormal, bind_ok.2 ⟨(), Release.require_ok.2 (decide_eq_true rfl), rfl⟩⟩⟩

theorem repository_of {run : Dict} {message : Str}
    (hr : run.get "repository" = .obj (Dict.ofList [("full_name", .str attestedRepository)])) :
    Remote.Host.requireRepository run attestedRepository message = .ok () := by
  refine bind_ok.2 ⟨Dict.ofList [("full_name", .str attestedRepository)], ?_, Release.require_ok.2 ?_⟩
  · rw [hr]
    rfl
  · exact Json.pyEq_str.mpr (Dict.get_of_get? (by simp))

theorem remote_runs : remoteHost.verifyRun confirmedCi runFields attestedRepository = .ok () ∧
    remoteHost.verifyTestsRun confirmedCi testsFields attestedRepository = .ok () := by
  have hci {k : String} {v : Json} (hk : confirmedCi.get? k = some v) : confirmedCi.get k = v := Dict.get_of_get? hk
  have hequal {run : Dict} {label : Str} {field attested : String} {v : Json} (hf : run.get? field = some v)
      (ha : confirmedCi.get? attested = some v) : remoteHost.requireField label run field confirmedCi attested = .ok () :=
    remoteHost.requireEqual_ok.2 (by rw [Dict.get_of_get? hf, hci ha])
  have htext {run : Dict} {field : String} {s : Str} (hf : run.get? field = some (.str s)) {message : Str} :
      Release.require ((run.get field).pyEq (.str s)) message = .ok () :=
    Release.require_ok.2 (Json.pyEq_str.mpr (Dict.get_of_get? hf))
  have hsuccess {run : Dict} {label : Str} (hf : run.get? "conclusion" = some (.str "success")) :
      remoteHost.requireEqual label (run.get "conclusion") "success" = .ok () :=
    remoteHost.requireEqual_ok.2 (by rw [Dict.get_of_get? hf]; rfl)
  constructor
  · refine bind_ok.2 ⟨(), hequal (v := .str "11") (by simp [runFields]) (by simp [confirmedCi, ciFields]), ?_⟩
    refine bind_ok.2 ⟨(), hequal (v := .str buildCommit) (by simp [runFields]) (by simp [confirmedCi, ciFields]), ?_⟩
    refine bind_ok.2 ⟨(), hsuccess (by simp [runFields]), ?_⟩
    rw [hci (v := .str (attestedRuns ++ Str.ofString "11")) (by simp [confirmedCi, ciFields])]
    exact bind_ok.2 ⟨(), htext (by simp [runFields]), repository_of (Dict.get_of_get? (by simp [runFields]))⟩
  · refine bind_ok.2 ⟨(), hequal (v := .str "12") (by simp [testsFields]) (by simp [confirmedCi, ciFields]), ?_⟩
    refine bind_ok.2 ⟨(), hequal (v := .str buildCommit) (by simp [testsFields]) (by simp [confirmedCi, ciFields]), ?_⟩
    refine bind_ok.2 ⟨(), hsuccess (by simp [testsFields]), ?_⟩
    refine bind_ok.2 ⟨(), hequal (v := .str "push") (by simp [testsFields]) (by simp [confirmedCi, ciFields]), ?_⟩
    refine bind_ok.2 ⟨(), hequal (v := .str "main") (by simp [testsFields]) (by simp [confirmedCi, ciFields]), ?_⟩
    rw [hci (v := .str (attestedRuns ++ Str.ofString "12")) (by simp [confirmedCi, ciFields])]
    refine bind_ok.2 ⟨(), htext (by simp [testsFields]), bind_ok.2 ⟨(), htext (by simp [testsFields]), ?_⟩⟩
    refine bind_ok.2 ⟨(), htext (by simp [testsFields]), bind_ok.2 ⟨(), htext (by simp [testsFields]), ?_⟩⟩
    exact repository_of (Dict.get_of_get? (by simp [testsFields]))

theorem confirmed_accepted :
    ∃ v, remoteHost.verifyReleaseRemote remoteClient confirmedDir none = .ok v := by
  have hartifact : (Pattern.hex 64).test isAsciiDigit (Text.codePoints (digestOf [])) = true :=
    hexLower_pattern _ (releaseHash [])
  have hcifile : confirmedDir "ci_release_sha.json" = some (fileAt 5 (.obj confirmedCi)) := by simp [confirmedDir]
  have hi : (proofDocs ++ responses)[5]? = some (.obj confirmedCi) := rfl
  have hlocal : remoteHost.verifyReleaseDir confirmedDir = .ok ⟨.str buildCommit, .str "adn-build-fixture", proofInputDigest⟩ :=
    attested_accepted responses confirmedDir_inputs hartifact hcifile hi
  have hread : remoteHost.readJson confirmedDir "ci_release_sha.json" = .ok (.obj confirmedCi) := readJson_fileAt hcifile hi
  have hrepository : remoteHost.expectedRepository none = attestedRepository := strip_repository (proofDocs ++ responses)
  have hparts : Remote.parseRepository attestedRepository =
      .ok (Str.ofString "KAGEROU1107", Str.ofString "agent-delegation-network") := by
    decide +kernel
  have htext {k : String} {s : Str} (hk : confirmedCi.get? k = some (.str s)) :
      remoteHost.textOf confirmedCi k = s := Host.textOf_str _ hk
  have hanswer {n : ℕ} {path : Str} {i : ℕ} {fs : Dict} (hr : ∀ url, remoteClient.request n url = .ok (fileAt i (.obj fs)))
      (hd : (proofDocs ++ responses)[i]? = some (.obj fs)) : remoteHost.json remoteClient n path = .ok (.obj fs) := by
    refine bind_ok.2 ⟨_, hr _, ?_⟩
    rw [show remoteHost.loads = (verifierHost (proofDocs ++ responses)).loads from rfl, loads_fileAt hd]
    rfl
  have hrunAnswer {runId : Str} {n i : ℕ} {fs : Dict} (hr : ∀ url, remoteClient.request n url = .ok (fileAt i (.obj fs)))
      (hd : (proofDocs ++ responses)[i]? = some (.obj fs)) :
      remoteHost.getWorkflowRun remoteClient n attestedRepository runId = .ok (.obj fs) :=
    bind_ok.2 ⟨_, hparts, hanswer hr hd⟩
  have hartifactAnswer : remoteHost.getWorkflowRunArtifact remoteClient 2 attestedRepository "11" "13" = .ok artifactFields := by
    have hown : artifactFields.get "workflow_run" = .obj (Dict.ofList [("id", .str "11")]) :=
      Dict.get_of_get? (by simp [artifactFields])
    refine bind_ok.2 ⟨_, hparts, bind_ok.2 ⟨_, hanswer (i := 8) (fun _ => rfl) rfl, bind_ok.2 ⟨_, rfl, ?_⟩⟩⟩
    rw [hown]
    refine bind_ok.2 ⟨_, rfl, bind_ok.2 ⟨(), Release.require_ok.2 ?_, rfl⟩⟩
    rw [Host.textOf_str (s := Str.ofString "11") _ (by simp)]
    exact decide_eq_true rfl
  have hzip : remoteHost.downloadArtifactZip remoteClient 3 artifactFields = .ok [] := by
    refine bind_ok.2 ⟨(), Release.require_ok.2 ?_, rfl⟩
    rw [Host.textOf_str (s := Str.ofString "download") _ (by simp [artifactFields])]
    decide +kernel
  refine ⟨⟨.str buildCommit, .str "adn-build-fixture", "11", "12", "13", digestOf [], proofInputDigest⟩,
    bind_ok.2 ⟨_, hlocal, bind_ok.2 ⟨_, hread, bind_ok.2 ⟨confirmedCi, rfl, ?_⟩⟩⟩⟩
  rw [hrepository]
  refine bind_ok.2 ⟨(), Release.require_ok.2 (Json.pyEq_str.mpr (Dict.get_of_get? (by simp [confirmedCi, ciFields]))), ?_⟩
  rw [htext (s := Str.ofString "11") (by simp [confirmedCi, ciFields]),
    htext (s := Str.ofString "13") (by simp [confirmedCi, ciFields]),
    htext (s := Str.ofString "12") (by simp [confirmedCi, ciFields])]
  refine bind_ok.2 ⟨_, hrunAnswer (i := 6) (fun _ => rfl) rfl, bind_ok.2 ⟨_, rfl, bind_ok.2 ⟨(), remote_runs.1, ?_⟩⟩⟩
  refine bind_ok.2 ⟨_, hrunAnswer (i := 7) (fun _ => rfl) rfl, bind_ok.2 ⟨_, rfl, bind_ok.2 ⟨(), remote_runs.2, ?_⟩⟩⟩
  refine bind_ok.2 ⟨_, hartifactAnswer, bind_ok.2 ⟨_, remote_artifact, bind_ok.2 ⟨_, hzip, ?_⟩⟩⟩
  refine bind_ok.2 ⟨(), Release.require_ok.2 (decide_eq_true rfl), bind_ok.2 ⟨(), ?_, rfl⟩⟩
  rw [Dict.get_of_get? (v := .str proofInputDigest) (by simp [confirmedCi, ciFields])]
  exact remote_contents

/-- A directory whose run, tests and artifact GitHub confirms. -/
theorem confirmed_proven : ∃ v e, remoteHost.verifyReleaseRemote remoteClient confirmedDir none = .ok v ∧
    remoteHost.evidence remoteClient confirmedDir (remoteHost.expectedRepository none) = .ok e ∧
    ∃ commit, remoteHost.Proven confirmedDir (remoteHost.expectedRepository none) commit e := by
  have hrepr : ∀ v, remoteHost.platform.reprJson v ≠ [] := by
    intro v h
    exact absurd (Text.ofString_eq_nil.mp h) (by decide)
  obtain ⟨v, hv⟩ := confirmed_accepted
  obtain ⟨e, commit, he, hproven⟩ := remoteHost.verdict_proves remoteClient hrepr hv
  have hextracted : e.extracted = confirmedInputs := by
    have h := he
    iterate 10 obtain ⟨_, _, h⟩ := bind_ok.1 h
    obtain ⟨extracted, hextract, h⟩ := bind_ok.1 h
    rw [remote_extracted] at hextract
    obtain rfl := pure_ok.1 h
    exact (Except.ok.inj hextract).symm
  refine ⟨v, e, hv, he, commit, hproven ?_⟩
  have hlocal {data : List UInt8} {name : Str} (hn : name ∈ proofInputFiles) (hd : confirmedDir name = some data) :
      data ∈ proofTexts := hashed_proofTexts [] confirmedDir_inputs (.inl ⟨name, hn, hd⟩)
  have hin {data : List UInt8} (hd : data ∈ Remote.Host.Compared confirmedDir e) : data ∈ proofTexts := by
    obtain ⟨name, hn, hd | hd⟩ := hd
    · exact hlocal hn hd
    · rw [hextracted, confirmedInputs, lookup_map_self hn, ← input_read hn, ← confirmedDir_inputs name hn] at hd
      exact hlocal hn hd
  exact fun a ha b hb hab => List.inj_on_of_nodup_map proofTexts_digests (hin ha) (hin hb) hab

end Sample

end Adn
