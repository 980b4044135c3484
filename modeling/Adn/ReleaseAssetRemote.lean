import Adn.Attestation
import Adn.ReleaseAsset
/-!
# The remote verification of a release asset

`scripts/verify_release_asset_remote.py` downloads a release's assets and has
`verify_release_asset.py` look at them. It compares the commit that the asset manifest
names with the release's target and with the commit asked for. Neither script compares
it with the commit the proof files inside were built from (`bound_iff`).
-/

open Lib

namespace Adn

namespace Release

namespace Asset

/-- `GitHubReleaseAssetClient`: what the API answers, and the bytes of an asset. -/
structure Client where
  getReleaseByTag : Str → Str → Except Failure Json
  downloadReleaseAsset : Dict → Except Failure (List UInt8)

/-- `parse_repository` -/
def parseRepository (repository : Str) : Except Failure (Str × Str) :=
  match repository.takeWhile (· ≠ slash), repository.dropWhile (· ≠ slash) with
  | u :: owner, _ :: v :: repo => .ok (u :: owner, v :: repo)
  | _, _ => .error (.runtime "repository must use owner/repo format")

/-- The assets of a release, as they are sorted out. -/
structure AssetMap where
  assetsByName : List (Str × Dict)
  unexpected : List Str
  duplicate : List Str

/-- `a or b`, an absent value and an empty text being false -/
def orText (a : Option Str) (b : Str) : Str :=
  match a with
  | some (u :: s) => u :: s
  | _ => b

namespace Host

variable (h : Host)

def requireEqual (label : Str) (actual : Json) (expected : Str) : Except Failure Unit :=
  require (h.platform.str actual = expected)
    (label ++ Str.ofString " mismatch: expected " ++ expected ++ Str.ofString ", got " ++ h.platform.str actual)

theorem requireEqual_ok {label expected : Str} {actual : Json} {u : Unit} :
    h.requireEqual label actual expected = .ok u ↔ h.platform.str actual = expected := by
  rw [requireEqual, require_ok, decide_eq_true_iff]

/-- `if expected_sha` -/
def requireExpected (label : Str) (actual : Json) : Option Str → Except Failure Unit
  | some (u :: s) => h.requireEqual label actual (u :: s)
  | _ => .ok ()

def validateReleaseMetadata (release : Dict) (tag : Str) (expectedSha : Option Str) : Except Failure Unit := do
  h.requireEqual "release tag" (release.get "tag_name") tag
  h.requireExpected "release target_commitish" (release.get "target_commitish") expectedSha
  match release.get "assets" with
  | .arr _ => return ()
  | _ => .error (.runtime "GitHub Release assets response is malformed")

def sortAsset (m : AssetMap) (asset : Json) : Except Failure AssetMap :=
  match asset with
  | .obj fields =>
    let name := h.textOf fields "name"
    if (m.assetsByName.lookup name).isSome then .ok { m with duplicate := m.duplicate ++ [name] }
    else if name ∉ requiredReleaseAssetFiles then .ok { m with unexpected := m.unexpected ++ [name] }
    else .ok { m with assetsByName := m.assetsByName ++ [(name, fields)] }
  | _ => .error (.runtime "GitHub Release asset entry is malformed")

def releaseAssetMap (release : Dict) : Except Failure (List (Str × Dict)) :=
  match release.getD "assets" (.arr []) with
  | .arr assets => do
    let m ← assets.foldlM h.sortAsset ⟨[], [], []⟩
    require (m.duplicate = []) (Str.ofString "duplicate GitHub Release assets: " ++ joinNames (sorted m.duplicate))
    require (m.unexpected = []) (Str.ofString "unexpected GitHub Release assets: " ++ joinNames (sorted m.unexpected))
    let missing := sorted (requiredReleaseAssetFiles.filter fun name => (m.assetsByName.lookup name).isNone)
    require (missing = []) (Str.ofString "missing GitHub Release assets: " ++ joinNames missing)
    return m.assetsByName
  | _ => .error .other

variable (client : Client)

/-- One asset is written to the directory. -/
def downloadAsset (assetsByName : List (Str × Dict)) (dir : Listing) (name : Str) : Except Failure Listing :=
  match assetsByName.lookup name with
  | none => .error .other
  | some asset => do
    let payload ← client.downloadReleaseAsset asset
    require (dir.lookup name).isNone
      (Str.ofString "refusing to overwrite downloaded GitHub Release asset: " ++ name)
    return dir ++ [(name, .file payload)]

/-- `download_release_assets`, into an empty directory -/
def downloadReleaseAssets (release : Dict) : Except Failure Listing := do
  let assetsByName ← h.releaseAssetMap release
  requiredReleaseAssetFiles.foldlM (downloadAsset client assetsByName) []

def verifyReleaseManifestBinding (files : Files) (repository tag : Str) (expectedSha : Option Str)
    (releaseTarget : Str) : Except Failure Dict := do
  let manifest ← asObject (← h.readJson files "release_asset_manifest.json")
  h.requireEqual "release asset manifest repository" (manifest.get "repository") repository
  h.requireEqual "release asset manifest release_tag" (manifest.get "release_tag") tag
  h.requireEqual "release asset manifest sha" (manifest.get "sha") (orText expectedSha releaseTarget)
  h.requireEqual "release asset manifest sha" (manifest.get "sha") releaseTarget
  return manifest

def expectedRepository (repository : Option Str) : Str :=
  orText repository (strip (h.environ "ADN_RELEASE_REPOSITORY" "KAGEROU1107/agent-delegation-network"))

def expectedTag (tag : Option Str) : Str := orText tag (strip (h.environ "ADN_RELEASE_ASSET_TAG" []))

/-- The commit a release is of. -/
def releaseTarget (release : Dict) : Str := strip (h.textOf release "target_commitish")

/-- What is answered with the status `REMOTE_RELEASE_ASSET_OK`. -/
structure Verdict where
  repository : Str
  releaseTag : Str
  sha : Json
  buildCommit : Json
  buildConfigId : Json
  proofInputDigest : Str
  releaseUrl : Json

def verifyReleaseAssetRemote (repository tag expectedSha : Option Str) : Except Failure Verdict := do
  let expectedRepository := h.expectedRepository repository
  let expectedTag := h.expectedTag tag
  require (expectedTag ≠ []) "release asset tag is required"
  let _ ← parseRepository expectedRepository
  let release ← asObject (← client.getReleaseByTag expectedRepository expectedTag)
  h.validateReleaseMetadata release expectedTag expectedSha
  let releaseTarget := h.releaseTarget release
  require (releaseTarget ≠ []) "GitHub Release target_commitish is required"
  let dir ← h.downloadReleaseAssets client release
  let manifest ← h.verifyReleaseManifestBinding dir.files expectedRepository expectedTag expectedSha releaseTarget
  let localResult ← h.verifyReleaseAssetDir dir
  return ⟨expectedRepository, expectedTag, manifest.get "sha", localResult.buildCommit, localResult.buildConfigId,
    localResult.proofInputDigest, release.get "html_url"⟩

end Host

/-! ## The commits of a bundle -/

/-- A release, and the documents in its assets that name a commit. -/
structure Bundle where
  release : Dict
  assetManifest : Dict
  deploymentManifest : Dict
  ciRelease : Dict

namespace Host

variable (h : Host) (client : Client)

/-- The bundle that is published for a tag. -/
def bundle (repository tag : Str) : Except Failure Bundle := do
  let release ← asObject (← client.getReleaseByTag repository tag)
  let dir ← h.downloadReleaseAssets client release
  let assetManifest ← asObject (← h.readJson dir.files "release_asset_manifest.json")
  let proof ← h.materialize dir.files
  let deploymentManifest ← asObject (← h.readJson proof.files "deployment_manifest.json")
  let ciRelease ← asObject (← h.readJson proof.files "ci_release_sha.json")
  return ⟨release, assetManifest, deploymentManifest, ciRelease⟩

/-- A commit is the one the release is of, the one asked for if one is, the one the proof files were built
from and the one that was attested. -/
structure Bound (b : Bundle) (expectedSha : Option Str) (sha : Json) : Prop where
  target : sha = .str (h.releaseTarget b.release)
  expected : ∀ s ∈ expectedSha, s ≠ [] → sha = .str s
  built : sha = b.deploymentManifest.get "build_commit"
  attested : sha = b.ciRelease.get "sha"

theorem orText_some {s : Str} (hs : s ≠ []) (t : Str) : orText (some s) t = s := by
  cases s with
  | nil => exact absurd rfl hs
  | cons u s => rfl

/-- What the binding of an asset manifest looks at. -/
theorem verifyReleaseManifestBinding_ok {files : Files} {repository tag : Str} {expectedSha : Option Str} {target : Str}
    {manifest : Dict} (hb : h.verifyReleaseManifestBinding files repository tag expectedSha target = .ok manifest) :
    h.readJson files "release_asset_manifest.json" = .ok (.obj manifest) ∧
      h.platform.str (manifest.get "sha") = orText expectedSha target ∧ h.platform.str (manifest.get "sha") = target := by
  obtain ⟨v, hread, hb⟩ := bind_ok.1 hb
  obtain ⟨m, hm, hb⟩ := bind_ok.1 hb
  obtain ⟨_, _, hb⟩ := bind_ok.1 hb
  obtain ⟨_, _, hb⟩ := bind_ok.1 hb
  obtain ⟨_, hsha, hb⟩ := bind_ok.1 hb
  obtain ⟨_, htarget, hb⟩ := bind_ok.1 hb
  obtain rfl := pure_ok.1 hb
  rw [asObject_ok.1 hm] at hread
  exact ⟨hread, h.requireEqual_ok.1 hsha, h.requireEqual_ok.1 htarget⟩

/-- A verdict is about a bundle: its asset manifest names the verdict's commit, by the text of the release's target
and of the commit asked for, and its proof files are of one commit. -/
theorem verifyReleaseAssetRemote_ok {repository tag expectedSha : Option Str} {v : Verdict}
    (hv : h.verifyReleaseAssetRemote client repository tag expectedSha = .ok v) :
    ∃ (b : Bundle) (commit : Str), h.bundle client (h.expectedRepository repository) (h.expectedTag tag) = .ok b ∧
      v.sha = b.assetManifest.get "sha" ∧ h.platform.str v.sha = orText expectedSha (h.releaseTarget b.release) ∧
      h.platform.str v.sha = h.releaseTarget b.release ∧ b.deploymentManifest.get "build_commit" = .str commit ∧
      b.ciRelease.get "sha" = .str commit ∧ v.buildCommit = .str commit := by
  obtain ⟨_, _, hv⟩ := bind_ok.1 hv
  obtain ⟨_, _, hv⟩ := bind_ok.1 hv
  obtain ⟨answer, hanswer, hv⟩ := bind_ok.1 hv
  obtain ⟨release, hrelease, hv⟩ := bind_ok.1 hv
  obtain ⟨_, _, hv⟩ := bind_ok.1 hv
  obtain ⟨_, _, hv⟩ := bind_ok.1 hv
  obtain ⟨dir, hdir, hv⟩ := bind_ok.1 hv
  obtain ⟨manifest, hbinding, hv⟩ := bind_ok.1 hv
  obtain ⟨checked, hlocal, hv⟩ := bind_ok.1 hv
  obtain rfl := pure_ok.1 hv
  obtain ⟨hread, hsha, htarget⟩ := h.verifyReleaseManifestBinding_ok hbinding
  obtain ⟨proof, r, hproof, hr, hcommit⟩ := h.verifyReleaseAssetDir_ok hlocal
  obtain ⟨deployment, ciRelease, commit, hd, hc, hbuilt, hattested, hchecked, -, -⟩ := h.verifyReleaseDir_ok hr
  refine ⟨⟨release, manifest, deployment, ciRelease⟩, commit, ?_, rfl, hsha, htarget, hbuilt, hattested,
    hcommit.trans hchecked⟩
  exact bind_ok.2 ⟨answer, hanswer, bind_ok.2 ⟨release, hrelease, bind_ok.2 ⟨dir, hdir, bind_ok.2 ⟨_, hread,
    bind_ok.2 ⟨manifest, rfl, bind_ok.2 ⟨proof, hproof, bind_ok.2 ⟨_, hd, bind_ok.2 ⟨deployment, rfl,
    bind_ok.2 ⟨_, hc, bind_ok.2 ⟨ciRelease, rfl, rfl⟩⟩⟩⟩⟩⟩⟩⟩⟩⟩

/-- A verdict's commit is bound to the bundle exactly where the asset manifest names the commit that the proof files
were built from. -/
theorem bound_iff {repository tag expectedSha : Option Str} {v : Verdict}
    (hv : h.verifyReleaseAssetRemote client repository tag expectedSha = .ok v) :
    ∃ b, h.bundle client (h.expectedRepository repository) (h.expectedTag tag) = .ok b ∧
      (h.Bound b expectedSha v.sha ↔ b.assetManifest.get "sha" = b.deploymentManifest.get "build_commit") := by
  obtain ⟨b, commit, hb, hsha, hexpected, htarget, hbuilt, hattested, -⟩ := h.verifyReleaseAssetRemote_ok client hv
  refine ⟨b, hb, ?_⟩
  rw [← hsha]
  constructor
  · exact Bound.built
  · intro heq
    rw [heq, hbuilt] at hexpected htarget
    refine ⟨?_, ?_, heq, ?_⟩
    · rw [heq, hbuilt, ← htarget]
      rfl
    · rintro s rfl hs
      rw [orText_some hs] at hexpected
      rw [heq, hbuilt, ← hexpected]
      rfl
    · rw [heq, hbuilt, hattested]

end Host

end Asset

end Release

/-! ## A release that is published -/

namespace Sample

open Release Asset

theorem lookup_map_self {α : Type} {f : Str → α} {names : List Str} {name : Str} (hn : name ∈ names) :
    (names.map fun n => (n, f n)).lookup name = some (f name) := by
  induction names with
  | nil => cases hn
  | cons n names ih =>
    rw [List.map_cons, List.lookup_cons]
    rcases List.mem_cons.mp hn with rfl | hn
    · simp
    · split
      · rename_i heq
        rw [eq_of_beq heq]
      · exact ih hn

theorem lookup_map_none {α : Type} {f : Str → α} {names : List Str} {name : Str} (hn : name ∉ names) :
    (names.map fun n => (n, f n)).lookup name = none := by
  rw [List.lookup_eq_none_iff]
  simp only [List.mem_map, forall_exists_index, and_imp]
  rintro _ n hm rfl
  refine bne_iff_ne.mpr ?_
  rintro rfl
  exact hn hm

/-! The archive. -/

def inputText (name : Str) : List UInt8 := (proofDir name).getD []

def memberOf (name : Str) : Member := ⟨name, true, some (some (inputText name))⟩

/-- A component that a normalized path can have. -/
def IsComponent (comp : Str) : Prop := slash ∉ comp ∧ comp ≠ [] ∧ comp ≠ Str.ofString "." ∧ comp ≠ Str.ofString ".."

theorem foldl_components {comps : List Str} (h : ∀ c ∈ comps, IsComponent c) (done : List Str) :
    comps.foldl (normComponent 0) done = done ++ comps := by
  induction comps generalizing done with
  | nil => simp
  | cons c comps ih =>
    obtain ⟨-, hne, hdot, hdots⟩ := h c List.mem_cons_self
    rw [List.foldl_cons, ih fun d hd => h d (List.mem_cons_of_mem c hd)]
    simp [normComponent, hne, hdot, hdots]

/-- A path of such components is normalized. -/
theorem normpath_components {comps : List Str} (hne : comps ≠ []) (h : ∀ c ∈ comps, IsComponent c) :
    normpath ([slash].intercalate comps) = [slash].intercalate comps := by
  have hstart : ∃ u s, [slash].intercalate comps = u :: s ∧ u ≠ slash := by
    obtain ⟨c, comps, rfl⟩ := List.exists_cons_of_ne_nil hne
    obtain ⟨hslash, hcne, -⟩ := h c List.mem_cons_self
    obtain ⟨u, s, rfl⟩ := List.exists_cons_of_ne_nil hcne
    have hu : u ≠ slash := fun heq => hslash (heq ▸ List.mem_cons_self)
    cases comps with
    | nil => exact ⟨u, s, by simp, hu⟩
    | cons d comps => exact ⟨u, _, by rw [List.intercalate_cons_cons]; rfl, hu⟩
  have hsplit := List.splitOn_intercalate slash (fun c hc => (h c hc).1) hne
  obtain ⟨u, s, heq, hu⟩ := hstart
  have htake : ([slash].intercalate comps).takeWhile (· = slash) = [] := by
    rw [heq, List.takeWhile_cons_of_neg (by simpa using hu)]
  have hnil : [slash].intercalate comps ≠ [] := by simp [heq]
  simp [normpath, hsplit, htake, foldl_components h, hnil]

theorem inputName_component {name : Str} (hn : name ∈ proofInputFiles) : IsComponent name := by
  refine ⟨fun h => (units_proofInputFiles name hn slash h).2.1 rfl, ?_⟩
  simp only [proofInputFiles, List.mem_cons, List.not_mem_nil, or_false] at hn
  rcases hn with rfl | rfl | rfl | rfl | rfl | rfl <;> simp

theorem inputName_normal {name : Str} (hn : name ∈ proofInputFiles) :
    name.map (fun u => if u = 0x5C then slash else u) = name ∧ name.head? ≠ some slash ∧ normpath name = name := by
  have hcomponent := inputName_component hn
  have hnorm := @normpath_components [name] (by simp) (by simpa using hcomponent)
  have hback : ∀ u ∈ name, (if u = 0x5C then slash else u) = u := by
    intro u hu
    refine if_neg ?_
    rintro rfl
    exact (units_proofInputFiles name hn 0x5C hu).2.2 rfl
  refine ⟨?_, fun h => hcomponent.1 (List.mem_of_mem_head? h), by simpa using hnorm⟩
  rw [List.map_congr_left hback, List.map_id']

theorem extract_input {e : Extraction} {name : Str} (hn : name ∈ proofInputFiles) (hm : name ∉ e.extracted)
    (hd : e.dir.lookup name = none) : extractMember e (memberOf name) =
      .ok ⟨e.extracted ++ [name], e.dir ++ [(name, .file (inputText name))]⟩ := by
  obtain ⟨hmap, hhead, hnorm⟩ := inputName_normal hn
  unfold extractMember
  simp only [memberOf, hmap, outputName, if_pos hn]
  refine bind_ok.2 ⟨(), Release.require_ok.2 (by simp [hhead, hnorm]), ?_⟩
  refine bind_ok.2 ⟨(), Release.require_ok.2 (by simpa using hm), ?_⟩
  exact bind_ok.2 ⟨(), Release.require_ok.2 (by simp [hd]), rfl⟩

theorem extract_inputs {names done : List Str} (hn : ∀ name ∈ names, name ∈ proofInputFiles) (hd : (done ++ names).Nodup) :
    (names.map memberOf).foldlM extractMember ⟨done, done.map fun name => (name, .file (inputText name))⟩ =
      .ok ⟨done ++ names, (done ++ names).map fun name => (name, .file (inputText name))⟩ := by
  induction names generalizing done with
  | nil => simp only [List.append_nil]; rfl
  | cons name names ih =>
    have hnot : name ∉ done := fun h => (List.disjoint_of_nodup_append hd h) List.mem_cons_self
    rw [List.map_cons, List.foldlM_cons]
    refine bind_ok.2 ⟨_, extract_input (hn name List.mem_cons_self) hnot (lookup_map_none hnot), ?_⟩
    have hih := @ih (done ++ [name]) (fun n hm => hn n (List.mem_cons_of_mem name hm)) (by simpa using hd)
    simpa using hih

/-! The assets. -/

def digestOf (data : List UInt8) : Str := Hex.hexLower (releaseHash data)

def remoteFields : Dict := Dict.ofList [("status", .str "REMOTE_OK"), ("proof_input_digest", .str proofInputDigest)]

def workflowFields : Dict := Dict.ofList [("remote_verification_status", .str "REMOTE_OK"),
  ("proof_input_digest", .str proofInputDigest), ("proof_input_archive_sha256", .str (digestOf [])),
  ("ci_attestation_sha256", .str (digestOf (fileAt 5 (.obj ciDoc)))),
  ("remote_verification_result_sha256", .str (digestOf (fileAt 6 (.obj remoteFields))))]

/-- The files that the asset manifest lists. -/
def payloadTexts : List (Str × List UInt8) := [("proof-input.tar", []), ("ci_release_sha.json", fileAt 5 (.obj ciDoc)),
  ("remote_verification_result.json", fileAt 6 (.obj remoteFields)),
  ("workflow_metadata.json", fileAt 7 (.obj workflowFields))]

def inventory : List Json := payloadTexts.map fun f =>
  .obj (Dict.ofList [("path", .str f.1), ("sha256", .str (digestOf f.2))])

/-- The asset manifest of a release, for the commit that it names. -/
def assetBody (commit : Str) : Dict := Dict.ofList [("schema_version", .str expectedReleaseAssetSchema),
  ("repository", .str attestedRepository), ("sha", .str commit), ("release_tag", .str "v1"),
  ("operator_public_key", .str operatorKey), ("proof_input_digest", .str proofInputDigest),
  ("remote_verification_status", .str "REMOTE_OK"), ("files", .arr inventory), ("created_at", .str "2026-06-28T12:00:00Z")]

def assetFields (commit : Str) : Dict := assetBody commit ++ Dict.ofList [("manifest_digest", .str (docDigest (assetBody commit)))]

def assetTexts (commit : Str) : List (Str × List UInt8) := payloadTexts ++
  [(Str.ofString "release_asset_manifest.json", fileAt 8 (.obj (assetFields commit))),
    (Str.ofString "release_asset_manifest.sig", fileAt 3 (.obj signatureFields))]

def assetText (commit name : Str) : List UInt8 := ((assetTexts commit).lookup name).getD []

def assetDocs (commit : Str) : List Json :=
  [.obj ciDoc, .obj remoteFields, .obj workflowFields, .obj (assetFields commit)]

def assetHost (commit : Str) : Asset.Host where
  toHost := verifierHost (proofDocs ++ assetDocs commit)
  getmembers _ := some (proofInputFiles.map memberOf)

def assetDir (commit : Str) : Listing := requiredReleaseAssetFiles.map fun name => (name, .file (assetText commit name))

theorem assetDir_files (commit : Str) {name : Str} (hn : name ∈ requiredReleaseAssetFiles) :
    (assetDir commit).files name = some (assetText commit name) := by
  rw [Listing.files, assetDir, lookup_map_self hn]
  rfl

theorem read_asset (commit : Str) {name : String} {i : ℕ} {fs : Dict} (hn : Str.ofString name ∈ requiredReleaseAssetFiles)
    (hl : (assetTexts commit).lookup (Str.ofString name) = some (fileAt i (.obj fs)))
    (hd : (proofDocs ++ assetDocs commit)[i]? = some (.obj fs)) :
    (assetHost commit).readJson (assetDir commit).files (Str.ofString name) = .ok (.obj fs) := by
  refine readJson_fileAt ?_ hd
  rw [assetDir_files commit hn, assetText, hl]
  rfl

theorem encodable_inventory : ∀ v ∈ inventory, Encodable v := by
  intro v hv
  obtain ⟨f, hf, rfl⟩ := List.mem_map.mp hv
  have hname : IsString f.1 := by
    revert f
    simp [payloadTexts]
  refine .obj (by simp [Dict.ofList]) ?_
  simp only [Dict.ofList, List.map_cons, List.map_nil, List.forall_mem_cons, List.not_mem_nil, false_imp_iff,
    implies_true, and_true]
  exact ⟨.str hname, .str (isString_plain (Hex.plain_hexLower _))⟩

theorem encodable_assetBody {commit : Str} (hc : IsString commit) : Encodable (.obj (assetBody commit)) := by
  have htext (s : String) : Encodable (.str s) := .str (isString_ofString s)
  refine .obj (by simp [assetBody, Dict.ofList]) ?_
  simp only [assetBody, Dict.ofList, List.map_cons, List.map_nil, List.forall_mem_cons, List.not_mem_nil, false_imp_iff,
    implies_true, and_true]
  exact ⟨htext _, htext _, .str hc, htext _, .str (isString_replicate 64 (by decide)),
    .str (isString_plain (Hex.plain_hexLower _)), htext _, .arr encodable_inventory, htext _⟩

theorem isDigest_digestOf (commit : Str) (data : List UInt8) : (assetHost commit).isDigest (digestOf data) = true :=
  hexLower_pattern _ (releaseHash data)

theorem checkInventory_accepts (commit : Str) {seen : List Str} {name : Str} (data : List UInt8) (hs : name ∉ seen)
    (hn : name ∈ releaseAssetPayloadFiles) : (assetHost commit).checkInventory seen
      (.obj (Dict.ofList [("path", .str name), ("sha256", .str (digestOf data))])) = .ok (seen ++ [name]) := by
  have hpath : Dict.get (Dict.ofList [("path", .str name), ("sha256", .str (digestOf data))]) "path" = .str name :=
    Dict.get_of_get? (by simp)
  have hdigest : Dict.get (Dict.ofList [("path", .str name), ("sha256", .str (digestOf data))]) "sha256" =
      .str (digestOf data) := Dict.get_of_get? (by simp)
  have hne : digestOf data ≠ [] := by
    rw [digestOf, ← List.length_pos_iff, Hex.length_hexLower]
    exact Nat.mul_pos (by decide) (by simp [releaseHash])
  have horElse : (Json.str (digestOf data)).orElse (.str []) = .str (digestOf data) :=
    if_pos (by simpa [Json.truthy] using hne)
  unfold Asset.Host.checkInventory
  simp only [hpath, hdigest, horElse, hashable, if_true]
  refine bind_ok.2 ⟨(), Release.require_ok.2 ?_, ?_⟩
  · rw [Bool.not_eq_true', List.any_eq_false]
    intro s hm
    rw [Json.pyEq_str, Json.str.injEq]
    rintro rfl
    exact hs hm
  refine bind_ok.2 ⟨(), Release.require_ok.2 (List.any_eq_true.mpr ⟨name, hn, Json.pyEq_str.mpr rfl⟩), ?_⟩
  exact bind_ok.2 ⟨(), Release.require_ok.2 (isDigest_digestOf commit data), rfl⟩

theorem assetFields_get? {commit : Str} {k : String} {v : Json} (h : (assetBody commit).get? k = some v) :
    (assetFields commit).get? k = some v := by
  rw [assetFields, Dict.get?_append, h, Option.some_or]

theorem assetFields_get {commit : Str} {k : String} {v : Json} (h : (assetBody commit).get? k = some v) :
    (assetFields commit).get k = v := Dict.get_of_get? (assetFields_get? h)

theorem assetFields_body (commit : Str) : manifestBody (assetFields commit) = assetBody commit := by
  have hkeys : ∀ f ∈ assetBody commit, f.1 ≠ Str.ofString "manifest_digest" := by simp [assetBody, Dict.ofList]
  rw [manifestBody, assetFields, List.filter_append, List.filter_eq_self.mpr (by simpa using hkeys)]
  simp [Dict.ofList]

theorem check_entries (commit : Str) {fs : List (Str × List UInt8)} {seen : List Str}
    (hn : ∀ f ∈ fs, f.1 ∈ releaseAssetPayloadFiles) (hd : (seen ++ fs.map (·.1)).Nodup) :
    (fs.map fun f => Json.obj (Dict.ofList [("path", .str f.1), ("sha256", .str (digestOf f.2))])).foldlM
      (assetHost commit).checkInventory seen = .ok (seen ++ fs.map (·.1)) := by
  induction fs generalizing seen with
  | nil => simp only [List.map_nil, List.append_nil]; rfl
  | cons f fs ih =>
    have hnot : f.1 ∉ seen := fun h => (List.disjoint_of_nodup_append hd h) List.mem_cons_self
    rw [List.map_cons, List.foldlM_cons]
    refine bind_ok.2 ⟨_, checkInventory_accepts commit f.2 hnot (hn f List.mem_cons_self), ?_⟩
    have hih := @ih (seen ++ [f.1]) (fun g hm => hn g (List.mem_cons_of_mem f hm)) (by simpa using hd)
    simpa using hih

theorem inventory_seen (commit : Str) :
    inventory.foldlM (assetHost commit).checkInventory [] = .ok releaseAssetPayloadFiles := by
  have hnames : payloadTexts.map (·.1) = releaseAssetPayloadFiles := by simp [payloadTexts, releaseAssetPayloadFiles]
  have hnodup : releaseAssetPayloadFiles.Nodup := by simp [releaseAssetPayloadFiles]
  have h := @check_entries commit payloadTexts [] (fun f hf => hnames ▸ List.mem_map_of_mem hf) (by rwa [hnames])
  rwa [hnames] at h

theorem assetManifest_valid {commit : Str} (hc : IsString commit) (hne : commit ≠ []) :
    (assetHost commit).validateReleaseAssetManifest (assetFields commit) = .ok () := by
  have hdocDigest : docDigest (assetBody commit) ≠ [] := by
    obtain ⟨bs, hlen, hd⟩ := docDigest_hex (encodable_assetBody hc)
    rw [hd, ← List.length_pos_iff, Hex.length_hexLower, hlen]
    decide
  have hdigest : proofInputDigest ≠ [] := by
    rw [proofInputDigest, ← List.length_pos_iff, Hex.length_hexLower]
    exact Nat.mul_pos (by decide) (by simp [releaseHash])
  have hfields : ∀ f ∈ assetFields commit, isMissing f.2 = false := by
    unfold assetFields
    generalize docDigest (assetBody commit) = digest at hdocDigest ⊢
    simp [assetBody, Dict.ofList, isMissing, Json.pyEq, hne, hdocDigest, hdigest, expectedReleaseAssetSchema,
      attestedRepository, operatorKey]
  have hkeys : Asset.Host.releaseAssetManifestFields = (assetFields commit).map (·.1) := by
    simp [Asset.Host.releaseAssetManifestFields, assetFields, assetBody, Dict.ofList]
  have hself : (assetFields commit).get "manifest_digest" = .str (docDigest (assetBody commit)) := by
    refine Dict.get_of_get? ?_
    rw [assetFields, Dict.get?_append]
    simp [assetBody]
  obtain ⟨bytes, hbytes⟩ := canonicalBytes_encodable (encodable_assetBody hc)
  refine bind_ok.2 ⟨(), ?_, ?_⟩
  · rw [hkeys, requireFields_iff]
    exact present_fields hfields
  refine bind_ok.2 ⟨(), Release.require_ok.2 (Json.pyEq_str.mpr (assetFields_get (by simp [assetBody]))), ?_⟩
  refine bind_ok.2 ⟨(), Release.require_ok.2 (Json.pyEq_str.mpr (assetFields_get (by simp [assetBody]))), ?_⟩
  refine bind_ok.2 ⟨(), Release.require_ok.2 ?_, ?_⟩
  · rw [Host.textOf_str (s := proofInputDigest) _ (assetFields_get? (by simp [assetBody]))]
    exact isDigest_digestOf commit payloadText
  rw [assetFields_get (v := .arr inventory) (by simp [assetBody])]
  refine bind_ok.2 ⟨_, inventory_seen commit, bind_ok.2 ⟨(), Release.require_ok.2 ?_, ?_⟩⟩
  · rw [List.filter_eq_nil_iff.mpr (by simp)]
    rfl
  refine bind_ok.2 ⟨bytes, by rw [releaseAssetManifestBody, assetFields_body, hbytes], Release.require_ok.2 ?_⟩
  rw [hself, Json.pyEq_str, docDigest, Host.canonicalDigest, hbytes]
  rfl

theorem assetManifest_signed {commit : Str} (hc : IsString commit) :
    (assetHost commit).verifyManifestSignature (assetFields commit) signatureFields = .ok () := by
  have hlower : lower (strip operatorKey) = operatorKey := by decide +kernel
  have hmanifest : (assetHost commit).textOf (assetFields commit) "operator_public_key" = operatorKey :=
    Host.textOf_str _ (assetFields_get? (by simp [assetBody]))
  have hdoc : (assetHost commit).textOf signatureFields "public_key_hex" = operatorKey := by
    exact Host.textOf_str _ (by simp [signatureFields])
  have hsignature : (assetHost commit).textOf signatureFields "signature_hex" = List.replicate 128 0x30 := by
    exact Host.textOf_str _ (by simp [signatureFields])
  have hkey : Host.fromHex operatorKey = .ok (List.replicate 32 0x77) := by decide +kernel
  have hbytes : Host.fromHex (List.replicate 128 0x30) = .ok (List.replicate 64 0x00) := by decide +kernel
  obtain ⟨message, hmessage⟩ := canonicalBytes_encodable (encodable_assetBody hc)
  have hpinned : (assetHost commit).pinnedPublicKey = operatorKey := pinned_operatorKey _
  refine bind_ok.2 ⟨(), Release.require_ok.2 (by simp [signatureFields, Dict.get, Dict.getD, Json.pyEq]), ?_⟩
  refine bind_ok.2 ⟨(), Release.require_ok.2 (by rw [hpinned]; rfl), ?_⟩
  refine bind_ok.2 ⟨(), Release.require_ok.2 (by rw [hmanifest, hpinned, hlower]; exact decide_eq_true rfl), ?_⟩
  refine bind_ok.2 ⟨(), Release.require_ok.2 (by rw [hdoc, hpinned, hlower]; exact decide_eq_true rfl), ?_⟩
  refine bind_ok.2 ⟨_, by rw [hpinned, hkey], ?_⟩
  rw [if_neg (by simp)]
  refine bind_ok.2 ⟨_, by rw [hsignature, hbytes], ?_⟩
  refine bind_ok.2 ⟨message, by rw [releaseAssetManifestBody, assetFields_body, hmessage], Release.require_ok.2 ?_⟩
  rfl

theorem assetHashes_match (commit : Str) :
    (assetHost commit).verifyReleaseAssetHashes (assetDir commit).files (assetFields commit) = .ok () := by
  have hentry : ∀ f ∈ payloadTexts, f.1 ∈ requiredReleaseAssetFiles ∧ (assetTexts commit).lookup f.1 = some f.2 := by
    simp [payloadTexts, requiredReleaseAssetFiles, releaseAssetPayloadFiles, assetTexts, List.lookup_cons, beq_eq_decide]
  rw [Asset.Host.verifyReleaseAssetHashes, assetFields_get (v := .arr inventory) (by simp [assetBody])]
  refine forM_accepts fun v hv => ?_
  obtain ⟨f, hf, rfl⟩ := List.mem_map.mp hv
  obtain ⟨hn, hl⟩ := hentry f hf
  refine bind_ok.2 ⟨_, rfl, ?_⟩
  simp only [Dict.get?_ofList_cons, if_true, String.reduceEq, if_false]
  refine bind_ok.2 ⟨f.2, ?_, Release.require_ok.2 (decide_eq_true rfl)⟩
  rw [Platform.str, readBytes, assetDir_files commit hn, assetText, hl]
  rfl

def materialized : Listing := proofInputFiles.map (fun name => (name, .file (inputText name))) ++
  [(Str.ofString "ci_release_sha.json", .file (fileAt 5 (.obj ciDoc)))]

theorem asset_materialized (commit : Str) : (assetHost commit).materialize (assetDir commit).files = .ok materialized := by
  have hread {name : String} (hn : Str.ofString name ∈ requiredReleaseAssetFiles) {data : List UInt8}
      (hl : (assetTexts commit).lookup (Str.ofString name) = some data) :
      readBytes (assetDir commit).files (Str.ofString name) = .ok data := by
    rw [readBytes, assetDir_files commit hn, assetText, hl]
    rfl
  have hextract : (assetHost commit).extractProofInputTar [] =
      .ok (proofInputFiles.map fun name => (name, .file (inputText name))) := by
    refine bind_ok.2 ⟨_, @extract_inputs proofInputFiles [] (fun _ hn => hn) (by decide), ?_⟩
    refine bind_ok.2 ⟨(), Release.require_ok.2 ?_, rfl⟩
    rw [List.filter_eq_nil_iff.mpr (by simp)]
    rfl
  refine bind_ok.2 ⟨[], hread ?_ ?_, bind_ok.2 ⟨_, hextract, bind_ok.2 ⟨_, hread ?_ ?_, rfl⟩⟩⟩
  · simp [requiredReleaseAssetFiles, releaseAssetPayloadFiles]
  · simp [assetTexts, payloadTexts]
  · simp [requiredReleaseAssetFiles, releaseAssetPayloadFiles]
  · simp [assetTexts, payloadTexts, List.lookup_cons, beq_eq_decide]

theorem materialized_inputs : ∀ name ∈ proofInputFiles, materialized.files name = proofDir name := by
  intro name hn
  obtain ⟨data, -, hd⟩ := mem_left proofDir_inputs hn
  rw [Listing.files, materialized, List.lookup_append, lookup_map_self hn, hd, inputText, hd]
  rfl

theorem materialized_ci : materialized.files "ci_release_sha.json" = some (fileAt 5 (.obj ciDoc)) := by
  have hn : Str.ofString "ci_release_sha.json" ∉ proofInputFiles := by simp [proofInputFiles]
  rw [Listing.files, materialized, List.lookup_append, lookup_map_none hn]
  simp [Entry.bytes?]

/-- The proof files in the bundle are the ones of the sample's commit, whatever commit the asset manifest names. -/
theorem materialized_accepted (commit : Str) : (assetHost commit).verifyReleaseDir materialized.files =
    .ok ⟨.str buildCommit, .str "adn-build-fixture", proofInputDigest⟩ := by
  have hartifact : (Pattern.hex 64).test isAsciiDigit (Text.codePoints (List.replicate 64 0x61)) = true := by
    decide +kernel
  have hi : (proofDocs ++ assetDocs commit)[5]? = some (.obj ciDoc) := rfl
  exact attested_accepted (assetDocs commit) materialized_inputs hartifact materialized_ci hi

theorem assetMetadata_match (commit : Str) : (assetHost commit).verifyReleaseAssetMetadata (assetDir commit).files
    (assetFields commit) ⟨.str buildCommit, .str "adn-build-fixture", proofInputDigest⟩ = .ok () := by
  have hci : (assetHost commit).readJson (assetDir commit).files "ci_release_sha.json" = .ok (.obj ciDoc) :=
    read_asset commit (i := 5) (by simp [requiredReleaseAssetFiles, releaseAssetPayloadFiles])
      (by simp [assetTexts, payloadTexts, List.lookup_cons, beq_eq_decide]) rfl
  have hremote : (assetHost commit).readJson (assetDir commit).files "remote_verification_result.json" =
      .ok (.obj remoteFields) := read_asset commit (i := 6) (by simp [requiredReleaseAssetFiles, releaseAssetPayloadFiles])
      (by simp [assetTexts, payloadTexts, List.lookup_cons, beq_eq_decide]) rfl
  have hworkflow : (assetHost commit).readJson (assetDir commit).files "workflow_metadata.json" =
      .ok (.obj workflowFields) := read_asset commit (i := 7) (by simp [requiredReleaseAssetFiles, releaseAssetPayloadFiles])
      (by simp [assetTexts, payloadTexts, List.lookup_cons, beq_eq_decide]) rfl
  have hstates {doc : Dict} {field : String} {text : Str} (hs : doc.get? field = some (.str text)) {message : Str} :
      Release.require (Asset.Host.states doc field text) message = .ok () :=
    Release.require_ok.2 (Json.pyEq_str.mpr (Dict.get_of_get? hs))
  have hfile {name field : String} (data : List UInt8) (hn : Str.ofString name ∈ requiredReleaseAssetFiles)
      (hl : (assetTexts commit).lookup (Str.ofString name) = some data)
      (hw : workflowFields.get? field = some (.str (digestOf data))) :
      (assetHost commit).statesDigest (assetDir commit).files workflowFields field (Str.ofString name) = .ok true := by
    refine bind_ok.2 ⟨data, ?_, ?_⟩
    · rw [readBytes, assetDir_files commit hn, assetText, hl]
      rfl
    · exact congrArg Except.ok (Json.pyEq_str.mpr (Dict.get_of_get? hw))
  refine bind_ok.2 ⟨_, hci, bind_ok.2 ⟨_, hremote, bind_ok.2 ⟨_, hworkflow, bind_ok.2 ⟨ciDoc, rfl, ?_⟩⟩⟩⟩
  refine bind_ok.2 ⟨(), hstates (by simp [ciDoc, ciFields]), bind_ok.2 ⟨remoteFields, rfl, ?_⟩⟩
  refine bind_ok.2 ⟨(), hstates (by simp [remoteFields]), bind_ok.2 ⟨(), hstates (by simp [remoteFields]), ?_⟩⟩
  refine bind_ok.2 ⟨workflowFields, rfl, bind_ok.2 ⟨(), hstates (by simp [workflowFields]), ?_⟩⟩
  refine bind_ok.2 ⟨(), hstates (by simp [workflowFields]), ?_⟩
  refine bind_ok.2 ⟨(), hstates (assetFields_get? (by simp [assetBody])), ?_⟩
  refine bind_ok.2 ⟨true, hfile [] ?_ ?_ ?_, bind_ok.2 ⟨(), rfl, ?_⟩⟩
  · simp [requiredReleaseAssetFiles, releaseAssetPayloadFiles]
  · simp [assetTexts, payloadTexts]
  · simp [workflowFields]
  refine bind_ok.2 ⟨true, hfile (fileAt 5 (.obj ciDoc)) ?_ ?_ ?_, bind_ok.2 ⟨(), rfl, ?_⟩⟩
  · simp [requiredReleaseAssetFiles, releaseAssetPayloadFiles]
  · simp [assetTexts, payloadTexts, List.lookup_cons, beq_eq_decide]
  · simp [workflowFields]
  refine bind_ok.2 ⟨true, hfile (fileAt 6 (.obj remoteFields)) ?_ ?_ ?_, rfl⟩
  · simp [requiredReleaseAssetFiles, releaseAssetPayloadFiles]
  · simp [assetTexts, payloadTexts, List.lookup_cons, beq_eq_decide]
  · simp [workflowFields]

/-! The release. -/

def assetEntry (name : Str) : Dict := Dict.ofList [("name", .str name)]

def assetRelease (commit : Str) : Dict := Dict.ofList [("tag_name", .str "v1"), ("target_commitish", .str commit),
  ("assets", .arr (requiredReleaseAssetFiles.map fun name => .obj (assetEntry name)))]

def assetClient (commit : Str) : Client where
  getReleaseByTag _ _ := .ok (.obj (assetRelease commit))
  downloadReleaseAsset asset := .ok (assetText commit ((assetHost commit).textOf asset "name"))

theorem textOf_entry (commit name : Str) : (assetHost commit).textOf (assetEntry name) "name" = name := by
  exact Host.textOf_str _ (by simp [assetEntry])

theorem sort_assets (commit : Str) {names done : List Str} (hn : ∀ name ∈ names, name ∈ requiredReleaseAssetFiles)
    (hd : (done ++ names).Nodup) :
    (names.map fun name => Json.obj (assetEntry name)).foldlM (assetHost commit).sortAsset
      ⟨done.map fun name => (name, assetEntry name), [], []⟩ =
      .ok ⟨(done ++ names).map fun name => (name, assetEntry name), [], []⟩ := by
  induction names generalizing done with
  | nil => simp only [List.append_nil]; rfl
  | cons name names ih =>
    have hnot : name ∉ done := fun h => (List.disjoint_of_nodup_append hd h) List.mem_cons_self
    rw [List.map_cons, List.foldlM_cons]
    refine bind_ok.2 ⟨⟨(done ++ [name]).map fun name => (name, assetEntry name), [], []⟩, ?_, ?_⟩
    · unfold Asset.Host.sortAsset
      simp only [textOf_entry, lookup_map_none hnot, Option.isSome_none, Bool.false_eq_true, if_false,
        hn name List.mem_cons_self, not_true_eq_false, List.map_append, List.map_cons, List.map_nil]
    · have hih := @ih (done ++ [name]) (fun n hm => hn n (List.mem_cons_of_mem name hm)) (by simpa using hd)
      simpa using hih

theorem download_assets (commit : Str) {assets : List (Str × Dict)} {names done : List Str}
    (hn : ∀ name ∈ names, assets.lookup name = some (assetEntry name)) (hd : (done ++ names).Nodup) :
    names.foldlM (Asset.Host.downloadAsset (assetClient commit) assets) (done.map fun name => (name, .file (assetText commit name))) =
      .ok ((done ++ names).map fun name => (name, .file (assetText commit name))) := by
  induction names generalizing done with
  | nil => simp only [List.append_nil]; rfl
  | cons name names ih =>
    have hnot : name ∉ done := fun h => (List.disjoint_of_nodup_append hd h) List.mem_cons_self
    rw [List.foldlM_cons]
    refine bind_ok.2 ⟨(done ++ [name]).map fun name => (name, .file (assetText commit name)), ?_, ?_⟩
    · unfold Asset.Host.downloadAsset
      rw [hn name List.mem_cons_self]
      refine bind_ok.2 ⟨assetText commit name, ?_, bind_ok.2 ⟨(), Release.require_ok.2 ?_, ?_⟩⟩
      · exact congrArg (fun n => Except.ok (assetText commit n)) (textOf_entry commit name)
      · rw [lookup_map_none hnot]
        rfl
      · simp only [List.map_append, List.map_cons, List.map_nil]
        rfl
    · have hih := @ih (done ++ [name]) (fun n hm => hn n (List.mem_cons_of_mem name hm)) (by simpa using hd)
      simpa using hih

theorem assets_downloaded (commit : Str) :
    (assetHost commit).downloadReleaseAssets (assetClient commit) (assetRelease commit) = .ok (assetDir commit) := by
  have hnodup : requiredReleaseAssetFiles.Nodup := by simp [requiredReleaseAssetFiles, releaseAssetPayloadFiles]
  have hassets : (assetRelease commit).getD "assets" (.arr []) =
      .arr (requiredReleaseAssetFiles.map fun name => .obj (assetEntry name)) := by
    simp [assetRelease, Dict.getD]
  refine bind_ok.2 ⟨requiredReleaseAssetFiles.map fun name => (name, assetEntry name), ?_, ?_⟩
  · unfold Asset.Host.releaseAssetMap
    rw [hassets]
    refine bind_ok.2 ⟨_, @sort_assets commit _ [] (fun _ hn => hn) hnodup, ?_⟩
    refine bind_ok.2 ⟨(), rfl, bind_ok.2 ⟨(), rfl, bind_ok.2 ⟨(), Release.require_ok.2 ?_, rfl⟩⟩⟩
    rw [List.filter_eq_nil_iff.mpr fun name hn => by rw [List.nil_append, lookup_map_self hn]; simp]
    rfl
  · exact @download_assets commit _ _ [] (fun name hn => lookup_map_self hn) hnodup

/-- A release whose assets are of one commit and whose asset manifest is of another is accepted. -/
theorem release_accepted {commit : Str} (hc : IsString commit) (hne : commit ≠ []) (hs : strip commit = commit) :
    ∃ v, (assetHost commit).verifyReleaseAssetRemote (assetClient commit) none (some "v1") (some commit) = .ok v ∧
      v.sha = .str commit ∧ v.buildCommit = .str buildCommit := by
  have htag : (assetHost commit).expectedTag (some "v1") = Str.ofString "v1" :=
    Asset.Host.orText_some (by simp) _
  have hrepository : (assetHost commit).expectedRepository none = attestedRepository :=
    strip_repository (proofDocs ++ assetDocs commit)
  have hstr {label s : Str} {v : Json} (hv : v = .str s) : (assetHost commit).requireEqual label v s = .ok () :=
    (assetHost commit).requireEqual_ok.2 (by rw [hv]; rfl)
  have hname : (assetRelease commit).get "tag_name" = .str "v1" := Dict.get_of_get? (by simp [assetRelease])
  have htarget : (assetRelease commit).get "target_commitish" = .str commit :=
    Dict.get_of_get? (by simp [assetRelease])
  have hrelease : (assetHost commit).releaseTarget (assetRelease commit) = commit := by
    rw [Asset.Host.releaseTarget, Host.textOf_str _ (s := commit) (by simp [assetRelease]), hs]
  have hmanifest : (assetHost commit).readJson (assetDir commit).files "release_asset_manifest.json" =
      .ok (.obj (assetFields commit)) :=
    read_asset commit (i := 8) (by simp [requiredReleaseAssetFiles])
      (by simp [assetTexts, payloadTexts, List.lookup_cons, beq_eq_decide]) rfl
  have hsignature : (assetHost commit).readJson (assetDir commit).files "release_asset_manifest.sig" =
      .ok (.obj signatureFields) :=
    read_asset commit (i := 3) (by simp [requiredReleaseAssetFiles])
      (by simp [assetTexts, payloadTexts, List.lookup_cons, beq_eq_decide]) rfl
  have hsha : (assetFields commit).get "sha" = .str commit := assetFields_get (by simp [assetBody])
  have hfiles : requireReleaseAssetFiles (assetDir commit) = .ok () := by
    refine bind_ok.2 ⟨(), Release.require_ok.2 ?_, forM_accepts fun e he => ?_⟩
    · rw [List.filter_eq_nil_iff.mpr fun name hn => by rw [assetDir_files commit hn]; simp]
      rfl
    · obtain ⟨name, hn, rfl⟩ := List.mem_map.mp he
      unfold checkEntry
      split
      · rfl
      · exact Release.require_ok.2 (decide_eq_true hn)
  have hbinding : (assetHost commit).verifyReleaseManifestBinding (assetDir commit).files attestedRepository "v1"
      (some commit) commit = .ok (assetFields commit) := by
    refine bind_ok.2 ⟨_, hmanifest, bind_ok.2 ⟨_, rfl, bind_ok.2 ⟨(), hstr (assetFields_get (by simp [assetBody])), ?_⟩⟩⟩
    refine bind_ok.2 ⟨(), hstr (assetFields_get (by simp [assetBody])), ?_⟩
    rw [Asset.Host.orText_some hne]
    exact bind_ok.2 ⟨(), hstr hsha, bind_ok.2 ⟨(), hstr hsha, rfl⟩⟩
  have hlocal : (assetHost commit).verifyReleaseAssetDir (assetDir commit) = .ok
      ⟨.str buildCommit, .str "adn-build-fixture", proofInputDigest, (assetFields commit).get "release_tag"⟩ := by
    refine bind_ok.2 ⟨(), hfiles, bind_ok.2 ⟨_, hmanifest, bind_ok.2 ⟨_, hsignature, bind_ok.2 ⟨_, rfl, ?_⟩⟩⟩⟩
    refine bind_ok.2 ⟨(), assetManifest_valid hc hne, bind_ok.2 ⟨_, rfl, bind_ok.2 ⟨(), assetManifest_signed hc, ?_⟩⟩⟩
    refine bind_ok.2 ⟨(), assetHashes_match commit, bind_ok.2 ⟨_, asset_materialized commit, ?_⟩⟩
    exact bind_ok.2 ⟨_, materialized_accepted commit, bind_ok.2 ⟨(), assetMetadata_match commit, rfl⟩⟩
  have hmetadata : (assetHost commit).validateReleaseMetadata (assetRelease commit) "v1" (some commit) = .ok () := by
    have hassets : (assetRelease commit).get "assets" = .arr (requiredReleaseAssetFiles.map fun name => .obj (assetEntry name)) :=
      Dict.get_of_get? (by simp [assetRelease])
    refine bind_ok.2 ⟨(), hstr hname, bind_ok.2 ⟨(), ?_, by rw [hassets]; rfl⟩⟩
    cases commit with
    | nil => exact absurd rfl hne
    | cons u s => exact hstr htarget
  refine ⟨⟨attestedRepository, "v1", .str commit, .str buildCommit, .str "adn-build-fixture", proofInputDigest,
    (assetRelease commit).get "html_url"⟩, ?_, rfl, rfl⟩
  unfold Asset.Host.verifyReleaseAssetRemote
  rw [htag, hrepository]
  have hparts : parseRepository attestedRepository =
      .ok (Str.ofString "KAGEROU1107", Str.ofString "agent-delegation-network") := by
    decide +kernel
  refine bind_ok.2 ⟨(), Release.require_ok.2 (by simp), bind_ok.2 ⟨_, hparts, ?_⟩⟩
  refine bind_ok.2 ⟨_, rfl, bind_ok.2 ⟨assetRelease commit, rfl, bind_ok.2 ⟨(), hmetadata, ?_⟩⟩⟩
  rw [hrelease]
  refine bind_ok.2 ⟨(), Release.require_ok.2 (decide_eq_true hne), bind_ok.2 ⟨_, assets_downloaded commit, ?_⟩⟩
  refine bind_ok.2 ⟨_, hbinding, bind_ok.2 ⟨_, hlocal, ?_⟩⟩
  rw [hsha]
  rfl

/-- The release of the commit that its proof files were built from. -/
theorem release_bound : ∃ v b, (assetHost buildCommit).verifyReleaseAssetRemote (assetClient buildCommit) none (some "v1")
    (some buildCommit) = .ok v ∧ (assetHost buildCommit).bundle (assetClient buildCommit)
      ((assetHost buildCommit).expectedRepository none) ((assetHost buildCommit).expectedTag (some "v1")) = .ok b ∧
    ((assetHost buildCommit).Bound b (some buildCommit) v.sha ↔
      b.assetManifest.get "sha" = b.deploymentManifest.get "build_commit") := by
  obtain ⟨v, hv, -, -⟩ := @release_accepted buildCommit (isString_replicate 40 (by decide)) (by simp [buildCommit])
    (strip_eq_self fun u hu => by rw [List.eq_of_mem_replicate hu]; decide)
  obtain ⟨b, hb, hiff⟩ := (assetHost buildCommit).bound_iff (assetClient buildCommit) hv
  exact ⟨v, b, hv, hb, hiff⟩

/-- Another commit than the one the proof files were built from. -/
def otherCommit : Str := List.replicate 40 0x62

/-- A release of one commit is accepted with the proof files of another. -/
theorem release_unbound : ∃ v b, (assetHost otherCommit).verifyReleaseAssetRemote (assetClient otherCommit) none
    (some "v1") (some otherCommit) = .ok v ∧ (assetHost otherCommit).bundle (assetClient otherCommit)
      ((assetHost otherCommit).expectedRepository none) ((assetHost otherCommit).expectedTag (some "v1")) = .ok b ∧
    ¬(assetHost otherCommit).Bound b (some otherCommit) v.sha := by
  obtain ⟨v, hv, hsha, hbuilt⟩ := @release_accepted otherCommit (isString_replicate 40 (by decide)) (by simp [otherCommit])
    (strip_eq_self fun u hu => by rw [List.eq_of_mem_replicate hu]; decide)
  obtain ⟨b, commit, hb, -, -, -, hcommit, -, hchecked⟩ :=
    (assetHost otherCommit).verifyReleaseAssetRemote_ok (assetClient otherCommit) hv
  refine ⟨v, b, hv, hb, fun hbound => ?_⟩
  have heq := hbound.built
  rw [hsha, hcommit, ← hchecked, hbuilt] at heq
  exact absurd (Json.str.inj heq) (by decide)

end Sample

end Adn
