import Adn.ReleasePublished
/-!
# What an attestation pins

`ci_release_sha.json` names one digest: of the list of the digests of the six proof
inputs. Two directories that are accepted with the same attestation have the same
inputs, byte for byte (`inputs_eq`), unless SHA-256 collides on what was hashed.
-/

open Lib

namespace Adn

namespace Release

/-! ## The text that is hashed -/

/-- A document made of printable ASCII texts. -/
inductive PlainDoc : Json → Prop where
  | str {s : Str} (h : Text.Plain s) : PlainDoc (.str s)
  | arr {xs : List Json} (h : ∀ x ∈ xs, PlainDoc x) : PlainDoc (.arr xs)
  | obj {fs : Dict} (hk : ∀ f ∈ fs, Text.Plain f.1) (hv : ∀ f ∈ fs, PlainDoc f.2) : PlainDoc (.obj fs)

theorem quoteJsonString_of_plain {s : Str} (h : Text.Plain s) : quoteJsonString s = Text.quoteAscii s := by
  have hunit : ∀ u ∈ s, Text.escapeUnit (fun u => 0x20 ≤ u.toNat) u = Text.escapeUnit Text.isPrintable u := by
    intro u hu
    have hlt := h u hu
    simp only [Text.escapeUnit, Text.isPrintable, hlt, decide_true, Bool.and_true]
  rw [quoteJsonString, Text.quoteAscii, Text.asciiBody, List.flatMap_congr hunit]

theorem canonicalList_some {xs : List Json} {t : Json → Str} (h : ∀ x ∈ xs, canonicalJson x = some (t x)) :
    canonicalList xs = some (xs.map t) := by
  induction xs with
  | nil => rfl
  | cons x xs ih =>
    rw [canonicalList, h x List.mem_cons_self, ih fun y hy => h y (List.mem_cons_of_mem x hy)]
    rfl

theorem canonicalFields_some {fs : Dict} {t : Json → Str} (h : ∀ f ∈ fs, canonicalJson f.2 = some (t f.2)) :
    canonicalFields fs = some (fs.map fun f => (f.1, t f.2)) := by
  induction fs with
  | nil => rfl
  | cons f fs ih =>
    rw [canonicalFields, h f List.mem_cons_self, ih fun g hg => h g (List.mem_cons_of_mem f hg)]
    rfl

/-- On printable ASCII the verifier's canonical text is `json.dumps`'s, with sorted keys and no blanks. -/
theorem canonicalJson_plainDoc {v : Json} (h : PlainDoc v) : canonicalJson v = some v.dumps := by
  induction h with
  | str hs => rw [canonicalJson, quoteJsonString_of_plain hs, Json.dumps]
  | arr _ ih => rw [canonicalJson, canonicalList_some ih, Json.dumps_arr, Option.map_some]
  | @obj fs hk _ ih =>
    have htext : ∀ f ∈ sortFields (fs.map fun f => (f.1, f.2.dumps)), entryText f = fieldText f := by
      intro f hf
      obtain ⟨g, hg, rfl⟩ := List.mem_map.mp (mem_sortFields.mp hf)
      rw [entryText, fieldText, quoteJsonString_of_plain (hk g hg)]
    rw [canonicalJson, canonicalFields_some ih, Json.dumps, Json.dumpsFields_eq, Option.map_some,
      List.map_congr_left htext]

theorem canonicalBytes_plainDoc {v : Json} (h : PlainDoc v) : canonicalBytes v = .ok (Text.utf8 v.dumps) := by
  rw [canonicalBytes, canonicalJson_plainDoc h]
  exact encodeUtf8_isString (isString_plain (Json.plain_dumps v))

/-- A text without blanks has none at its ends. -/
theorem strip_eq_self {s : Str} (h : ∀ u ∈ s, isSpace u = false) : strip s = s := by
  rw [strip, List.dropWhile_eq_self_iff.mpr, List.rdropWhile_eq_self_iff.mpr]
  · intro hne
    rw [h _ (List.getLast_mem hne)]
    exact Bool.false_ne_true
  · intro hpos
    rw [h _ (List.getElem_mem hpos)]
    exact Bool.false_ne_true

/-! ## The inputs of a directory -/

/-- No field of a document is missing that holds something. -/
theorem present_fields {d : Dict} (h : ∀ f ∈ d, isMissing f.2 = false) :
    ∀ k ∈ d.map (·.1), isMissing (d.get k) = false := by
  intro k hk
  have hget : ∃ v, d.get? k = some v := by
    clear h
    induction d with
    | nil => cases hk
    | cons f d ih =>
      rw [Dict.get?_cons]
      split
      · exact ⟨_, rfl⟩
      · rename_i hne
        rcases List.mem_cons.mp hk with rfl | hk
        · exact absurd rfl hne
        · exact ih hk
  obtain ⟨v, hv⟩ := hget
  rw [Dict.get_of_get? hv]
  exact h _ (Dict.mem_of_get? hv)

/-- What `mapM` made, value by value. -/
theorem forall₂_mapM {α β : Type} {f : α → Except Failure β} {xs : List α} {ys : List β} (h : xs.mapM f = .ok ys) :
    List.Forall₂ (fun x y => f x = .ok y) xs ys := by
  induction xs generalizing ys with
  | nil =>
    obtain rfl := pure_ok.1 h
    exact .nil
  | cons x xs ih =>
    rw [List.mapM_cons] at h
    obtain ⟨y, hy, h⟩ := bind_ok.1 h
    obtain ⟨ys', hys, h⟩ := bind_ok.1 h
    obtain rfl := pure_ok.1 h
    exact .cons hy (ih hys)

/-- The names of the proof inputs are ASCII, without slashes and backslashes. -/
theorem units_proofInputFiles : ∀ name ∈ proofInputFiles, ∀ u ∈ name, u.toNat < 0x7F ∧ u.toNat ≠ 0x2F ∧ u.toNat ≠ 0x5C := by
  have hname (s : String) (hs : s.toList.all (fun c => c.toNat < 0x7F && c.toNat ≠ 0x2F && c.toNat ≠ 0x5C) = true) :
      ∀ u ∈ Str.ofString s, u.toNat < 0x7F ∧ u.toNat ≠ 0x2F ∧ u.toNat ≠ 0x5C := by
    have h : ∀ c ∈ s.toList, (c.toNat < 0x7F ∧ c.toNat ≠ 0x2F) ∧ c.toNat ≠ 0x5C := by simpa using hs
    intro u hu
    obtain ⟨c, hc, hu⟩ := Text.mem_ofString (fun c hc => Nat.lt_trans (h c hc).1.1 (by decide)) hu
    rw [hu]
    exact ⟨(h c hc).1.1, (h c hc).1.2, (h c hc).2⟩
  simp only [proofInputFiles, List.forall_mem_cons, List.not_mem_nil, false_imp_iff, implies_true, and_true]
  exact ⟨hname _ (by decide), hname _ (by decide), hname _ (by decide), hname _ (by decide), hname _ (by decide),
    hname _ (by decide)⟩

theorem plain_proofInputFiles : ∀ name ∈ proofInputFiles, Text.Plain name :=
  fun name hn u hu => (units_proofInputFiles name hn u hu).1

theorem mem_right {α β : Type} {R : α → β → Prop} {xs : List α} {ys : List β} (h : List.Forall₂ R xs ys) {y : β}
    (hy : y ∈ ys) : ∃ x ∈ xs, R x y := by
  induction h with
  | nil => cases hy
  | cons hr _ ih =>
    rcases List.mem_cons.mp hy with rfl | hy
    · exact ⟨_, List.mem_cons_self, hr⟩
    · obtain ⟨x, hx, hr⟩ := ih hy
      exact ⟨x, List.mem_cons_of_mem _ hx, hr⟩

theorem mem_left {α β : Type} {R : α → β → Prop} {xs : List α} {ys : List β} (h : List.Forall₂ R xs ys) {x : α}
    (hx : x ∈ xs) : ∃ y ∈ ys, R x y := by
  obtain ⟨y, hy, hr⟩ := mem_right h.flip hx
  exact ⟨y, hy, hr⟩

/-- The document whose digest is attested. -/
def inputPayload (files : List Json) : Json :=
  .obj (Dict.ofList [("schema_version", .str "adn-release-proof-input-v1"), ("files", .arr files)])

/-- The entry of one file in it. -/
def inputEntry (name digest : Str) : Json := .obj (Dict.ofList [("path", .str name), ("sha256", .str digest)])

theorem plain_inputEntry {name : Str} (hn : Text.Plain name) (data : List UInt8) :
    PlainDoc (inputEntry name (Hex.hexLower data)) := by
  refine .obj ?_ ?_ <;> simp only [Dict.ofList, List.map_cons, List.map_nil, List.forall_mem_cons, List.not_mem_nil,
    false_imp_iff, implies_true, and_true]
  · exact ⟨Text.plain_ofString (by decide), Text.plain_ofString (by decide)⟩
  · exact ⟨.str hn, .str (Hex.plain_hexLower data)⟩

theorem plain_inputPayload {files : List Json} (h : ∀ v ∈ files, PlainDoc v) : PlainDoc (inputPayload files) := by
  refine .obj ?_ ?_ <;> simp only [Dict.ofList, List.map_cons, List.map_nil, List.forall_mem_cons, List.not_mem_nil,
    false_imp_iff, implies_true, and_true]
  · exact ⟨Text.plain_ofString (by decide), Text.plain_ofString (by decide)⟩
  · exact ⟨.str (Text.plain_ofString (by decide)), .arr h⟩

/-- Payloads of one text list the same entries. -/
theorem inputPayload_inj {files files' : List Json} (h : Json.Same (inputPayload files) (inputPayload files')) :
    files.map Json.normalize = files'.map Json.normalize := by
  have hm : (Str.ofString "files", Json.arr files) ∈
      Dict.ofList [("schema_version", .str "adn-release-proof-input-v1"), ("files", .arr files)] := by
    simp [Dict.ofList]
  obtain ⟨w, hw, hs⟩ := Json.Same.field h hm
  obtain rfl : w = .arr files' := by simpa [Dict.ofList] using hw
  rw [Json.Same, Json.normalize_arr, Json.normalize_arr] at hs
  exact Json.arr.inj hs

theorem inputEntry_inj {name name' digest digest' : Str}
    (h : (inputEntry name digest).normalize = (inputEntry name' digest').normalize) : digest = digest' := by
  have hm : (Str.ofString "sha256", Json.str digest) ∈ Dict.ofList [("path", .str name), ("sha256", .str digest)] := by
    simp [Dict.ofList]
  obtain ⟨w, hw, hs⟩ := Json.Same.field h hm
  obtain rfl : w = .str digest' := by simpa [Dict.ofList] using hw
  exact Json.str.inj hs

namespace Host

variable (h : Host)

/-- What is hashed of a directory: its inputs, and the list of their digests. -/
def Hashed (dir : Files) : Set (List UInt8) := {data | (∃ name ∈ proofInputFiles, dir name = some data) ∨
  ∃ files, h.proofInputFileDigests dir = .ok files ∧ canonicalBytes (inputPayload files) = .ok data}

theorem fileDigest_ok {dir : Files} {name : Str} {v : Json} (hv : h.fileDigest dir name = .ok v) :
    ∃ data, dir name = some data ∧ v = inputEntry name (h.digestHex data) := by
  obtain ⟨data, hd, hv⟩ := bind_ok.1 hv
  obtain rfl := pure_ok.1 hv
  unfold readBytes at hd
  cases hf : dir name with
  | none => rw [hf] at hd; cases hd
  | some bytes =>
    rw [hf] at hd
    obtain rfl := Except.ok.inj hd
    exact ⟨bytes, rfl, rfl⟩

theorem computeProofInputDigest_ok {dir : Files} {digest : Str} (hd : h.computeProofInputDigest dir = .ok digest) :
    ∃ files bytes, h.proofInputFileDigests dir = .ok files ∧ canonicalBytes (inputPayload files) = .ok bytes ∧
      List.Forall₂ (fun name v => h.fileDigest dir name = .ok v) proofInputFiles files ∧
      bytes = Text.utf8 (inputPayload files).dumps ∧ digest = h.digestHex bytes := by
  obtain ⟨files, hfiles, hd⟩ := bind_ok.1 hd
  obtain ⟨bytes, hbytes, hd⟩ := bind_ok.1 hd
  obtain rfl := pure_ok.1 hd
  obtain ⟨_, _, hm⟩ := bind_ok.1 hfiles
  have hall := forall₂_mapM hm
  have hplain : ∀ v ∈ files, PlainDoc v := by
    intro v hv
    obtain ⟨name, hn, hv⟩ := mem_right hall hv
    obtain ⟨data, -, rfl⟩ := h.fileDigest_ok hv
    exact plain_inputEntry (plain_proofInputFiles name hn) _
  have heq := canonicalBytes_plainDoc (plain_inputPayload hplain)
  refine ⟨files, bytes, hfiles, hbytes, hall, ?_, rfl⟩
  exact Except.ok.inj (hbytes.symm.trans heq)

theorem computeProofInputDigest_files {dir : Files} {digest : Str} (hd : h.computeProofInputDigest dir = .ok digest) :
    ∀ name ∈ proofInputFiles, ∃ data, dir name = some data := by
  obtain ⟨_, hfiles, -⟩ := bind_ok.1 hd
  obtain ⟨_, hrequire, -⟩ := bind_ok.1 hfiles
  exact requireFiles_iff.1 hrequire

/-- Two lists of entries that say the same are of the same files. -/
theorem entries_eq {dir dir' : Files} {S : Set (List UInt8)} (hs : Set.InjOn h.platform.sha256 S) {names : List Str}
    {files files' : List Json} (hf : List.Forall₂ (fun name v => h.fileDigest dir name = .ok v) names files)
    (hf' : List.Forall₂ (fun name v => h.fileDigest dir' name = .ok v) names files')
    (hm : ∀ name ∈ names, ∀ data, dir name = some data ∨ dir' name = some data → data ∈ S)
    (heq : files.map Json.normalize = files'.map Json.normalize) : ∀ name ∈ names, dir name = dir' name := by
  induction hf generalizing files' with
  | nil => simp
  | @cons name v names files hv _ ih =>
    obtain _ | ⟨hv', hf'⟩ := hf'
    rw [List.map_cons, List.map_cons, List.cons.injEq] at heq
    refine List.forall_mem_cons.mpr ⟨?_, ih hf' (fun n hn => hm n (List.mem_cons_of_mem _ hn)) heq.2⟩
    obtain ⟨data, hd, rfl⟩ := h.fileDigest_ok hv
    obtain ⟨data', hd', rfl⟩ := h.fileDigest_ok hv'
    have hhash := Hex.hexLower_inj (inputEntry_inj heq.1)
    have hin := hm name List.mem_cons_self
    rw [hd, hd', hs (hin data (.inl hd)) (hin data' (.inr hd')) hhash]

/-- One digest is of one set of inputs. -/
theorem inputs_eq_of_digest {dir dir' : Files} (hs : Set.InjOn h.platform.sha256 (h.Hashed dir ∪ h.Hashed dir'))
    {digest : Str} (hd : h.computeProofInputDigest dir = .ok digest) (hd' : h.computeProofInputDigest dir' = .ok digest) :
    ∀ name ∈ proofInputFiles, dir name = dir' name := by
  obtain ⟨files, bytes, hfiles, hbytes, hall, htext, hdigest⟩ := h.computeProofInputDigest_ok hd
  obtain ⟨files', bytes', hfiles', hbytes', hall', htext', hdigest'⟩ := h.computeProofInputDigest_ok hd'
  have heq := hs (.inl (.inr ⟨files, hfiles, hbytes⟩)) (.inr (.inr ⟨files', hfiles', hbytes'⟩))
    (Hex.hexLower_inj (hdigest.symm.trans hdigest'))
  rw [htext, htext'] at heq
  refine h.entries_eq hs hall hall' ?_ (inputPayload_inj (Json.utf8_dumps_inj heq))
  rintro name hn data (hf | hf)
  · exact .inl (.inl ⟨name, hn, hf⟩)
  · exact .inr (.inl ⟨name, hn, hf⟩)

/-! ## The attestation -/

/-- Two directories that are accepted with the same attestation have the same proof inputs, byte for byte, whatever
key and repository each of them was verified for. -/
theorem inputs_pinned {dir dir' : Files} (env : Str → Option Str) {r r' : Verified}
    (hr : h.verifyReleaseDir dir = .ok r) (hr' : { h with env := env : Host }.verifyReleaseDir dir' = .ok r')
    (hci : dir "ci_release_sha.json" = dir' "ci_release_sha.json")
    (hs : Set.InjOn h.platform.sha256 (h.Hashed dir ∪ h.Hashed dir')) :
    ∀ name ∈ proofInputFiles, ∃ data, dir name = some data ∧ dir' name = some data := by
  obtain ⟨_, ciRelease, _, _, hread, _, _, _, hattested, hd⟩ := h.verifyReleaseDir_ok hr
  obtain ⟨_, ciRelease', _, _, hread', _, _, _, hattested', hd'⟩ := { h with env := env : Host }.verifyReleaseDir_ok hr'
  have hsame : h.readJson dir' "ci_release_sha.json" = .ok (.obj ciRelease) := by
    rw [← hread, readJson, readJson, readBytes, readBytes, hci]
  obtain rfl : ciRelease = ciRelease' := Json.obj.inj (Except.ok.inj (hsame.symm.trans hread'))
  rw [← Json.str.inj (hattested.inputs.symm.trans hattested'.inputs)] at hd'
  intro name hn
  obtain ⟨data, hdata⟩ := h.computeProofInputDigest_files hd name hn
  exact ⟨data, hdata, h.inputs_eq_of_digest hs hd hd' name hn ▸ hdata⟩

end Host

end Release

/-! ## A directory that is attested -/

namespace Sample

open Release

def attestedRepository : Str := "KAGEROU1107/agent-delegation-network"

def attestedRuns : Str := Str.ofString "https://github.com/" ++ attestedRepository ++ Str.ofString "/actions/runs/"

/-- An attestation of the sample's commit, for an artifact and a digest of proof inputs. -/
def ciFields (artifact digest : Str) : Dict := Dict.ofList [("evidence_source", .str "github_actions"),
  ("generated_by", .str Host.expectedCiGenerator), ("attested_workflow", .str Host.expectedAttestedWorkflow),
  ("attestation_phase", .str Host.expectedAttestationPhase), ("repository", .str attestedRepository),
  ("sha", .str buildCommit), ("workflow_run_id", .str "11"), ("workflow_run_url", .str (attestedRuns ++ Str.ofString "11")),
  ("workflow_conclusion", .str "success"), ("tests_workflow_run_id", .str "12"),
  ("tests_workflow_run_url", .str (attestedRuns ++ Str.ofString "12")), ("tests_workflow_conclusion", .str "success"),
  ("tests_workflow_head_sha", .str buildCommit), ("tests_workflow_event", .str "push"),
  ("tests_workflow_head_branch", .str "main"), ("artifact_id", .str "13"), ("artifact_name", .str "proof-input"),
  ("artifact_url", .str (attestedRuns ++ Str.ofString "11" ++ Str.ofString "/artifacts/" ++ Str.ofString "13")),
  ("artifact_digest", .str artifact), ("proof_input_digest", .str digest),
  ("proof_input_files", .arr (proofInputFiles.map .str)), ("retrieved_at", .str "2026-06-28T11:00:00Z")]

theorem ci_fields {artifact digest label : Str} (ha : artifact ≠ []) (hd : digest ≠ []) :
    requireFields label (ciFields artifact digest) Host.ciReleaseFields = .ok () := by
  have hkeys : Host.ciReleaseFields = (ciFields artifact digest).map (·.1) := by
    simp [Host.ciReleaseFields, ciFields, Dict.ofList]
  have hvalues : ∀ f ∈ ciFields artifact digest, isMissing f.2 = false := by
    simp [ciFields, Dict.ofList, isMissing, Json.pyEq, attestedRuns, buildCommit, Host.expectedCiGenerator,
      Host.expectedAttestedWorkflow, Host.expectedAttestationPhase, attestedRepository, ha, hd]
  rw [hkeys, requireFields_iff]
  exact present_fields hvalues

theorem strip_repository (docs : List Json) :
    strip ((verifierHost docs).environ "ADN_RELEASE_REPOSITORY" "KAGEROU1107/agent-delegation-network") =
      attestedRepository := by
  have h : strip attestedRepository = attestedRepository := by decide +kernel
  have henv : (verifierHost docs).env (Str.ofString "ADN_RELEASE_REPOSITORY") = none := by
    simp [verifierHost]
  rw [Host.environ, henv]
  exact h

theorem ci_attested (docs : List Json) {artifact digest : Str}
    (ha : (Pattern.hex 64).test isAsciiDigit (Text.codePoints artifact) = true) (hd : digest ≠ []) :
    (verifierHost docs).verifyCiRelease (ciFields artifact digest) manifestFields digest = .ok () := by
  have hcommit : manifestFields.get "build_commit" = .str buildCommit := manifest_get (by simp [bodyFields])
  have hartifact : artifact ≠ [] := by
    rintro rfl
    revert ha
    decide
  have htext {k : String} {s : Str} (hk : (ciFields artifact digest).get? k = some (.str s)) :
      Host.attests (ciFields artifact digest) k (.str s) = true := Json.pyEq_str.mpr (Dict.get_of_get? hk)
  have hof {k : String} {s : Str} (hk : (ciFields artifact digest).get? k = some (.str s)) :
      (verifierHost docs).textOf (ciFields artifact digest) k = s := Host.textOf_str _ hk
  have hruns {k : String} {s : Str} (hk : (ciFields artifact digest).get? k = some (.str (attestedRuns ++ s))) :
      attestedRuns.isPrefixOf ((verifierHost docs).textOf (ciFields artifact digest) k) = true := by
    rw [hof hk, List.isPrefixOf_iff_prefix]
    exact List.prefix_append _ _
  have hdigits {k s : String} (hk : (ciFields artifact digest).get? k = some (.str s)) (hs : s ≠ "" ∧
      s.toList.all (fun c => isAsciiDigit c.toNat) = true) :
      (verifierHost docs).isDigits ((verifierHost docs).textOf (ciFields artifact digest) k) = true := by
    rw [hof hk, Host.isDigits, Text.codePoints_ofString]
    refine (Bool.and_eq_true _ _).mpr ⟨by simpa using hs.1, ?_⟩
    rw [List.all_map]
    exact hs.2
  unfold Host.verifyCiRelease
  rw [strip_repository]
  refine bind_ok.2 ⟨(), ci_fields hartifact hd, ?_⟩
  refine bind_ok.2 ⟨(), Release.require_ok.2 (htext (by simp [ciFields])), ?_⟩
  refine bind_ok.2 ⟨(), Release.require_ok.2 (htext (by simp [ciFields])), ?_⟩
  refine bind_ok.2 ⟨(), Release.require_ok.2 (htext (by simp [ciFields])), ?_⟩
  refine bind_ok.2 ⟨(), Release.require_ok.2 (htext (by simp [ciFields])), ?_⟩
  refine bind_ok.2 ⟨(), Release.require_ok.2 (htext (by simp [ciFields])), ?_⟩
  refine bind_ok.2 ⟨(), Release.require_ok.2 (hruns (s := Str.ofString "11") (by simp [ciFields])), ?_⟩
  refine bind_ok.2 ⟨(), Release.require_ok.2 (hdigits (s := "13") (by simp [ciFields]) (by decide)), ?_⟩
  refine bind_ok.2 ⟨(), Release.require_ok.2 (htext ?_), ?_⟩
  · simp [ciFields, Dict.get, Dict.getD, Platform.str, attestedRuns]
  refine bind_ok.2 ⟨(), Release.require_ok.2 (by rw [hof (s := artifact) (by simp [ciFields])]; exact ha), ?_⟩
  refine bind_ok.2 ⟨(), Release.require_ok.2 ?_, ?_⟩
  · rw [Host.attests, Dict.get_of_get? (v := .arr (proofInputFiles.map .str)) (by simp [ciFields])]
    decide +kernel
  refine bind_ok.2 ⟨(), Release.require_ok.2 (htext (by simp [ciFields])), ?_⟩
  refine bind_ok.2 ⟨(), Release.require_ok.2 (htext (by simp [ciFields])), ?_⟩
  refine bind_ok.2 ⟨(), Release.require_ok.2 (by rw [hcommit]; exact htext (by simp [ciFields])), ?_⟩
  refine bind_ok.2 ⟨(), Release.require_ok.2 (hruns (s := Str.ofString "12") (by simp [ciFields])), ?_⟩
  refine bind_ok.2 ⟨(), Release.require_ok.2 (hdigits (s := "12") (by simp [ciFields]) (by decide)), ?_⟩
  refine bind_ok.2 ⟨(), Release.require_ok.2 (htext (by simp [ciFields])), ?_⟩
  refine bind_ok.2 ⟨(), Release.require_ok.2 (by rw [hcommit]; exact htext (by simp [ciFields])), ?_⟩
  refine bind_ok.2 ⟨(), Release.require_ok.2 ?_, ?_⟩
  · rw [Dict.get_of_get? (v := .str buildCommit) (by simp [ciFields])]
    exact htext (by simp [ciFields])
  refine bind_ok.2 ⟨(), Release.require_ok.2 (htext (by simp [ciFields])), ?_⟩
  exact Release.require_ok.2 (htext (by simp [ciFields]))

/-- The contents of the proof inputs, in the order they are listed. -/
def inputTexts : List (List UInt8) := [fileAt 4 (.obj manifestFields), fileAt 3 (.obj signatureFields),
  fileAt 0 (.obj registrationFields), fileAt 1 (.obj receiptFields), fileAt 1 (.obj receiptFields),
  fileAt 2 (.obj replayFields)]

def inputFiles : List Json := (proofInputFiles.zip inputTexts).map fun f => inputEntry f.1 (Hex.hexLower (releaseHash f.2))

def payloadText : List UInt8 := Text.utf8 (inputPayload inputFiles).dumps

def proofInputDigest : Str := Hex.hexLower (releaseHash payloadText)

theorem proofDir_inputs : List.Forall₂ (fun name data => proofDir name = some data) proofInputFiles inputTexts := by
  simp [proofInputFiles, inputTexts, proofDir, proofFiles, List.lookup_cons, beq_eq_decide]

theorem plain_inputFiles : ∀ v ∈ inputFiles, PlainDoc v := by
  intro v hv
  obtain ⟨f, hf, rfl⟩ := List.mem_map.mp hv
  exact plain_inputEntry (plain_proofInputFiles f.1 (List.of_mem_zip hf).1) _

theorem proofDir_digests (docs : List Json) {dir : Files} (hdir : ∀ name ∈ proofInputFiles, dir name = proofDir name) :
    (verifierHost docs).proofInputFileDigests dir = .ok inputFiles := by
  have hfiles : ∀ {names : List Str} {texts : List (List UInt8)}, (∀ name ∈ names, dir name = proofDir name) →
      List.Forall₂ (fun name data => proofDir name = some data) names texts →
      names.mapM ((verifierHost docs).fileDigest dir) =
        .ok ((names.zip texts).map fun f => inputEntry f.1 (Hex.hexLower (releaseHash f.2))) := by
    intro names texts hn h
    induction h with
    | nil => rfl
    | @cons name data names texts hd _ ih =>
      rw [List.mapM_cons]
      refine bind_ok.2 ⟨_, bind_ok.2 ⟨data, ?_, rfl⟩, ?_⟩
      · rw [readBytes, hn name List.mem_cons_self, hd]
      · exact bind_ok.2 ⟨_, ih fun n hm => hn n (List.mem_cons_of_mem name hm), rfl⟩
  have hall : ∀ name ∈ proofInputFiles, ∃ data, dir name = some data := by
    intro name hn
    obtain ⟨data, hd⟩ := (proofDir_retains [] fun _ _ => rfl).files name hn
    exact ⟨data, (hdir name hn).trans hd⟩
  exact bind_ok.2 ⟨(), requireFiles_iff.2 hall, hfiles hdir proofDir_inputs⟩

theorem proofDir_digest (docs : List Json) {dir : Files} (hdir : ∀ name ∈ proofInputFiles, dir name = proofDir name) :
    (verifierHost docs).computeProofInputDigest dir = .ok proofInputDigest := by
  have hbytes : canonicalBytes (inputPayload inputFiles) = .ok payloadText :=
    canonicalBytes_plainDoc (plain_inputPayload plain_inputFiles)
  refine bind_ok.2 ⟨inputFiles, proofDir_digests docs hdir, bind_ok.2 ⟨payloadText, hbytes, ?_⟩⟩
  rw [proofInputDigest]
  rfl

/-- The proof files are accepted with any attestation that names an artifact and their digest. -/
theorem attested_accepted (more : List Json) {dir : Files} (hdir : ∀ name ∈ proofInputFiles, dir name = proofDir name)
    {artifact : Str} (ha : (Pattern.hex 64).test isAsciiDigit (Text.codePoints artifact) = true) {i : ℕ}
    (hci : dir "ci_release_sha.json" = some (fileAt i (.obj (ciFields artifact proofInputDigest))))
    (hi : (proofDocs ++ more)[i]? = some (.obj (ciFields artifact proofInputDigest))) :
    (verifierHost (proofDocs ++ more)).verifyReleaseDir dir =
      .ok ⟨.str buildCommit, .str "adn-build-fixture", proofInputDigest⟩ := by
  have hretains := proofDir_retains more hdir
  have hdigest : proofInputDigest ≠ [] := by
    rw [proofInputDigest, ← List.length_pos_iff, Hex.length_hexLower]
    exact Nat.mul_pos (by decide) (by simp [releaseHash])
  refine bind_ok.2 ⟨(), requireFiles_iff.2 ?_, ?_⟩
  · intro name hn
    rcases List.mem_append.mp hn with hn | hn
    · exact hretains.files name hn
    · rw [List.mem_singleton.mp hn]
      exact ⟨_, hci⟩
  refine bind_ok.2 ⟨_, proofDir_accepted more hdir (proofDir_digest _ hdir), ?_⟩
  refine bind_ok.2 ⟨_, hretains.manifest, bind_ok.2 ⟨_, readJson_fileAt hci hi, ?_⟩⟩
  refine bind_ok.2 ⟨_, rfl, bind_ok.2 ⟨_, rfl, bind_ok.2 ⟨(), ci_attested _ ha hdigest, rfl⟩⟩⟩

def ciDoc : Dict := ciFields (List.replicate 64 0x61) proofInputDigest

def attestedHost : Host := verifierHost (proofDocs ++ [.obj ciDoc])

def attestedDir : Files := fun name => if name = "ci_release_sha.json" then some (fileAt 5 (.obj ciDoc)) else proofDir name

/-- The same files, and one more. -/
def annotatedDir : Files := fun name => if name = "README" then some [] else attestedDir name

def proofTexts : List (List UInt8) := payloadText :: [fileAt 0 (.obj registrationFields), fileAt 1 (.obj receiptFields),
  fileAt 2 (.obj replayFields), fileAt 3 (.obj signatureFields), fileAt 4 (.obj manifestFields)]

theorem proofTexts_digests : (proofTexts.map releaseHash).Nodup := by decide +kernel

theorem inputTexts_proofTexts : ∀ data ∈ inputTexts, data ∈ proofTexts := by
  simp [inputTexts, proofTexts]

theorem hashed_proofTexts (docs : List Json) {dir : Files} (hdir : ∀ name ∈ proofInputFiles, dir name = proofDir name) :
    (verifierHost docs).Hashed dir ⊆ {data | data ∈ proofTexts} := by
  rintro data (⟨name, hn, hd⟩ | ⟨files, hfiles, hbytes⟩)
  · obtain ⟨data', hm, hd'⟩ := mem_left proofDir_inputs hn
    rw [hdir name hn, hd'] at hd
    exact inputTexts_proofTexts data (Option.some.inj hd ▸ hm)
  · obtain rfl := Except.ok.inj ((proofDir_digests docs hdir).symm.trans hfiles)
    rw [canonicalBytes_plainDoc (plain_inputPayload plain_inputFiles)] at hbytes
    rw [← Except.ok.inj hbytes]
    exact List.mem_cons_self

theorem hashed_injOn (docs : List Json) {dir dir' : Files} (hdir : ∀ name ∈ proofInputFiles, dir name = proofDir name)
    (hdir' : ∀ name ∈ proofInputFiles, dir' name = proofDir name) :
    Set.InjOn releaseHash ((verifierHost docs).Hashed dir ∪ (verifierHost docs).Hashed dir') := by
  intro a ha b hb hab
  have hin {data : List UInt8} (hd : data ∈ (verifierHost docs).Hashed dir ∪ (verifierHost docs).Hashed dir') :
      data ∈ proofTexts := hd.elim (fun hd => hashed_proofTexts docs hdir hd) fun hd => hashed_proofTexts docs hdir' hd
  exact List.inj_on_of_nodup_map proofTexts_digests (hin ha) (hin hb) hab

theorem attestedDir_inputs : ∀ name ∈ proofInputFiles, attestedDir name = proofDir name := by
  simp [proofInputFiles, attestedDir]

theorem annotatedDir_inputs : ∀ name ∈ proofInputFiles, annotatedDir name = proofDir name := by
  simp [proofInputFiles, annotatedDir, attestedDir]

theorem annotated_inputs : annotatedDir "README" = some [] ∧
    ∀ name ∈ proofInputFiles, ∃ data, attestedDir name = some data ∧ annotatedDir name = some data := by
  have hartifact : (Pattern.hex 64).test isAsciiDigit (Text.codePoints (List.replicate 64 0x61)) = true := by
    decide +kernel
  have hci : attestedDir "ci_release_sha.json" = some (fileAt 5 (.obj ciDoc)) := by simp [attestedDir]
  have hci' : annotatedDir "ci_release_sha.json" = some (fileAt 5 (.obj ciDoc)) := by simp [annotatedDir, attestedDir]
  have hi : (proofDocs ++ [.obj ciDoc])[5]? = some (.obj ciDoc) := rfl
  have hsame : ({ attestedHost with env := attestedHost.env } : Host) = attestedHost := rfl
  have hr := attested_accepted [.obj ciDoc] attestedDir_inputs hartifact hci hi
  have hr' := attested_accepted [.obj ciDoc] annotatedDir_inputs hartifact hci' hi
  rw [← attestedHost, ← hsame] at hr'
  exact ⟨by simp [annotatedDir], attestedHost.inputs_pinned attestedHost.env hr hr' (hci.trans hci'.symm)
    (hashed_injOn _ attestedDir_inputs annotatedDir_inputs)⟩

end Sample

end Adn
