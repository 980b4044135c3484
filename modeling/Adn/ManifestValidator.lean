import Adn.ReleasePublished
/-!
# The manifest validator

`scripts/validate_manifest.py` looks at the manifest that `verify_release.py` looks at,
and computes its digest over another text: the whole manifest with a placeholder, not
the manifest without the digest. What one accepts the other rejects (`validate_rejects`).
-/

open Lib

namespace Adn

namespace Release

/-- `REQUIRED_FIELDS` -/
def requiredFields : List Str := ["schema_version", "contract_tail", "contract_version", "build_commit", "rustc_version",
  "trusted_issuer", "tenant_did", "build_config_id", "local_wasm_sha256", "registration_status", "registered_at",
  "remote_contract_id", "raw_registration_response_digest", "raw_registration_response_path", "first_invocation_digest",
  "first_invocation_path", "t3n_evidence_digest", "t3n_evidence_path", "operator_public_key", "manifest_digest"]

/-- `os.path.join(dir, path)` -/
def pathJoin (dir path : Str) : Str :=
  if path.head? = some 0x2F || dir = [] then path
  else if dir.getLast? = some 0x2F then dir ++ path
  else dir ++ 0x2F :: path

/-- The declared digest and path of a retained file. -/
def digestChecks : List (Str × Str) := [("raw_registration_response_digest", "raw_registration_response_path"),
  ("first_invocation_digest", "first_invocation_path"), ("t3n_evidence_digest", "t3n_evidence_path")]

/-- The manifest with a placeholder for its digest. -/
def withPlaceholder (manifest : Dict) : Json := .obj (manifest.set "manifest_digest" (.str "TBD"))

namespace Host

variable (h : Host)

/-- The error of one retained file, if it has one. -/
def checkFile (proofDir : Str) (dir : Files) (manifest : Dict) (check : Str × Str) : Except Failure (List Str) :=
  match manifest.get? check.1, manifest.get? check.2 with
  | some declared, some (.str path) =>
    match dir path with
    | none => .ok [Str.ofString "File not found: " ++ pathJoin proofDir path]
    | some bytes =>
      if declared.pyEq (.str (h.digestHex bytes)) then .ok []
      else .ok [Str.ofString "Digest mismatch for " ++ path ++ Str.ofString ": declared=" ++ h.platform.str declared ++
        Str.ofString ", actual=" ++ h.digestHex bytes]
  | some _, some _ => .error .other
  | _, _ => .ok []

/-- The error of the manifest's own digest, if it has one. -/
def checkSelfDigest (manifest : Dict) : List Str :=
  match manifest.get? "manifest_digest" with
  | none => []
  | some declared =>
    let expected := h.digestHex (Text.utf8 (withPlaceholder manifest).dumps)
    if declared.pyEq (.str expected) then []
    else [Str.ofString "manifest_digest mismatch: declared=" ++ h.platform.str declared ++ Str.ofString ", computed=" ++
      expected]

/-- `validate(proof_dir)`: the errors -/
def validate (proofDir : Str) (dir : Files) : Except Failure (List Str) := do
  let manifest ← asObject (← h.readJson dir "deployment_manifest.json")
  let missing := (requiredFields.filter fun field => !manifest.has field).map fun field =>
    Str.ofString "Missing required field: " ++ field
  let version :=
    if (manifest.get "schema_version").pyEq (.str "adn-release-proof-v1") then []
    else [Str.ofString "schema_version must be 'adn-release-proof-v1', got: " ++
      h.platform.str (manifest.get "schema_version")]
  let undeclared := (manifest.filter fun f => f.1 ∉ requiredFields).map fun f =>
    Str.ofString "Undeclared field (use remediation_report.json for extra data): " ++ f.1
  let files ← digestChecks.mapM (h.checkFile proofDir dir manifest)
  return missing ++ version ++ undeclared ++ files.flatten ++ h.checkSelfDigest manifest

end Host

/-! ## Two texts -/

theorem escapeUnit_plain {u : UInt16} (h : Text.Plain (Text.escapeUnit (fun u => 0x20 ≤ u.toNat) u)) :
    Text.escapeUnit (fun u => 0x20 ≤ u.toNat) u = Text.escapeUnit Text.isPrintable u := by
  unfold Text.escapeUnit at h ⊢
  cases hs : Text.shortEscape? u with
  | some e => rfl
  | none =>
    rw [hs] at h
    simp only at h ⊢
    by_cases hu : 0x20 ≤ u.toNat
    · rw [if_pos (decide_eq_true hu)] at h
      have hlt := (Text.Plain.cons.mp h).1
      rw [if_pos (decide_eq_true hu), if_pos (by simp [Text.isPrintable, hu, hlt])]
    · rw [if_neg (by simpa using hu), if_neg (by simp [Text.isPrintable, hu])]

/-- A plain text is quoted alike by both scripts. -/
theorem quoteJsonString_plain {s : Str} (h : Text.Plain (quoteJsonString s)) : quoteJsonString s = Text.quoteAscii s := by
  have hbody := (Text.Plain.append.mp (Text.Plain.cons.mp h).2).1
  have : s.flatMap (Text.escapeUnit fun u => 0x20 ≤ u.toNat) = Text.asciiBody s := by
    rw [Text.asciiBody]
    refine List.flatMap_congr fun u hu => escapeUnit_plain fun w hw => ?_
    exact hbody w (List.mem_flatMap.mpr ⟨u, hu, hw⟩)
  rw [quoteJsonString, this, Text.quoteAscii]

theorem entryText_plain {f : Str × Str} (h : Text.Plain (entryText f)) : Text.Plain f.2 ∧ entryText f = fieldText f := by
  rw [entryText, Text.Plain.append, Text.Plain.cons] at h
  exact ⟨h.2.2, by rw [entryText, fieldText, quoteJsonString_plain h.1]⟩

/-- What a plain canonical text says of a document. -/
def PlainAgrees (v : Json) : Prop := ∀ t, canonicalJson v = some t → Text.Plain t → t = v.dumps

theorem canonicalList_plain {xs : List Json} (ih : ∀ x ∈ xs, PlainAgrees x) {ts : List Str}
    (h : canonicalList xs = some ts) (hp : ∀ t ∈ ts, Text.Plain t) : ts = Json.dumpsList xs := by
  induction xs generalizing ts with
  | nil => exact (Option.some.inj h).symm
  | cons x xs ihx =>
    obtain ⟨t, ht, h⟩ := Option.bind_eq_some_iff.mp h
    obtain ⟨us, hus, h⟩ := Option.bind_eq_some_iff.mp h
    obtain rfl := Option.some.inj h
    rw [Json.dumpsList, ← ih x List.mem_cons_self t ht (hp t List.mem_cons_self),
      ← ihx (fun y hy => ih y (List.mem_cons_of_mem x hy)) hus fun u hu => hp u (List.mem_cons_of_mem t hu)]

theorem canonicalFields_plain {fs : Dict} (ih : ∀ f ∈ fs, PlainAgrees f.2) {ts : List (Str × Str)}
    (h : canonicalFields fs = some ts) (hp : ∀ f ∈ ts, Text.Plain f.2) : ts = Json.dumpsFields fs := by
  induction fs generalizing ts with
  | nil => exact (Option.some.inj h).symm
  | cons f fs ihf =>
    obtain ⟨t, ht, h⟩ := Option.bind_eq_some_iff.mp h
    obtain ⟨us, hus, h⟩ := Option.bind_eq_some_iff.mp h
    obtain rfl := Option.some.inj h
    rw [Json.dumpsFields, ← ih f List.mem_cons_self t ht (hp _ List.mem_cons_self),
      ← ihf (fun g hg => ih g (List.mem_cons_of_mem f hg)) hus fun u hu => hp u (List.mem_cons_of_mem _ hu)]

/-- A canonical text that is plain is the text `json.dumps` writes. -/
theorem canonicalJson_plain (v : Json) : PlainAgrees v := by
  induction v using Json.ind with
  | null => exact fun t h _ => (Option.some.inj h).symm
  | bool b => exact fun t h _ => (Option.some.inj h).symm
  | int n => exact fun t h _ => (Option.some.inj h).symm
  | float x =>
    intro t h _
    cases x with
    | posInf => cases h
    | negInf => cases h
    | nan => cases h
    | _ => exact (Option.some.inj h).symm
  | str s =>
    intro t h hp
    obtain rfl := Option.some.inj h
    exact quoteJsonString_plain hp
  | arr xs ih =>
    intro t h hp
    obtain ⟨ts, hts, rfl⟩ := Option.map_eq_some_iff.mp h
    have hp := Json.plain_of_joinComma (Text.Plain.append.mp (Text.Plain.cons.mp hp).2).1
    rw [canonicalList_plain ih hts hp]
    rfl
  | obj fs ih =>
    intro t h hp
    obtain ⟨ts, hts, rfl⟩ := Option.map_eq_some_iff.mp h
    have hp := Json.plain_of_joinComma (Text.Plain.append.mp (Text.Plain.cons.mp hp).2).1
    have hentry : ∀ f ∈ sortFields ts, Text.Plain f.2 ∧ entryText f = fieldText f := fun f hf =>
      entryText_plain (hp _ (List.mem_map_of_mem hf))
    rw [List.map_congr_left fun f hf => (hentry f hf).2,
      canonicalFields_plain ih hts fun f hf => (hentry f (mem_sortFields.mpr hf)).1]
    rfl

/-- The two texts of a manifest's own digest are never the same. -/
theorem selfTexts_ne {manifest : Dict} {t : Str} (h : canonicalJson (.obj (manifestBody manifest)) = some t) :
    Text.utf8 t ≠ Text.utf8 (withPlaceholder manifest).dumps := by
  intro he
  have hplain := Json.plain_dumps (withPlaceholder manifest)
  obtain rfl := Text.utf8_eq_ascii hplain.ascii he
  -- were they the same, the placeholder would be a field of the manifest without its digest
  have hsame := Json.dumps_inj (canonicalJson_plain _ _ h hplain)
  have hmem : (Str.ofString "manifest_digest", Json.str "TBD") ∈ manifest.set "manifest_digest" (.str "TBD") :=
    List.mem_append_right _ List.mem_cons_self
  obtain ⟨w, hw, -⟩ := hsame.field hmem
  have := (List.mem_filter.mp hw).2
  simp at this

namespace Host

variable (h : Host)

/-- SHA-256 takes the two texts of the manifest's own digest, which differ, to one digest. -/
def SelfTextsCollide (dir : Files) : Prop :=
  ∃ (manifest : Dict) (body : List UInt8), h.readJson dir "deployment_manifest.json" = .ok (.obj manifest) ∧
    canonicalBytes (.obj (manifestBody manifest)) = .ok body ∧
    body ≠ Text.utf8 (withPlaceholder manifest).dumps ∧
    h.platform.sha256 body = h.platform.sha256 (Text.utf8 (withPlaceholder manifest).dumps)

theorem requireDigest_ok {label expected : Str} {payload : Json}
    (hd : h.requireDigest label expected payload = .ok ()) : ∃ bytes, canonicalBytes payload = .ok bytes ∧
      h.digestHex bytes = expected := by
  obtain ⟨bytes, hb, hd⟩ := bind_ok.1 hd
  exact ⟨bytes, hb, of_decide_eq_true (require_ok.1 hd)⟩

theorem canonicalBytes_ok {v : Json} {bytes : List UInt8} (hb : canonicalBytes v = .ok bytes) :
    ∃ t, canonicalJson v = some t ∧ bytes = Text.utf8 t := by
  unfold canonicalBytes encodeUtf8 at hb
  cases hc : canonicalJson v with
  | none => rw [hc] at hb; cases hb
  | some t =>
    rw [hc] at hb
    simp only at hb
    split at hb
    · cases hb
    · exact ⟨t, rfl, (Except.ok.inj hb).symm⟩

/-- A manifest with a digest that the validator finds no error in declares the digest of the placeholder's text. -/
theorem validate_ok {proofDir : Str} {dir : Files} {manifest : Dict} {declared : Json}
    (hread : h.readJson dir "deployment_manifest.json" = .ok (.obj manifest))
    (hd : manifest.get? "manifest_digest" = some declared) (hv : h.validate proofDir dir = .ok []) :
    declared = .str (h.digestHex (Text.utf8 (withPlaceholder manifest).dumps)) := by
  obtain ⟨v, hread', hv⟩ := bind_ok.1 hv
  rw [hread] at hread'
  obtain rfl := Except.ok.inj hread'
  obtain ⟨m, hm, hv⟩ := bind_ok.1 hv
  obtain rfl := Json.obj.inj (asObject_ok.1 hm)
  obtain ⟨files, -, hv⟩ := bind_ok.1 hv
  have hself := (List.append_eq_nil_iff.mp (pure_ok.1 hv)).2
  rw [checkSelfDigest, hd] at hself
  simp only at hself
  split at hself
  · rename_i heq
    exact Json.pyEq_str.mp heq
  · cases hself

/-- What the release verifier accepts, the validator finds an error in. -/
theorem validate_rejects {dir : Files} {r : Verified} (hr : h.verifyReleaseInputs dir = .ok r)
    (hc : ¬h.SelfTextsCollide dir) (proofDir : Str) : h.validate proofDir dir ≠ .ok [] := by
  intro hv
  obtain ⟨manifest, hread, hschema, hdigest, -⟩ := h.verifyReleaseInputs_ok hr
  obtain ⟨body, hbody, hhash⟩ := h.requireDigest_ok hdigest
  obtain ⟨t, ht, rfl⟩ := canonicalBytes_ok hbody
  obtain ⟨declared, hdeclared⟩ := h.schema_required hschema (k := Str.ofString "manifest_digest") (by simp [Schema.releaseProof])
  have heq := h.validate_ok hread hdeclared hv
  -- one digest for two texts
  refine hc ⟨manifest, Text.utf8 t, hread, hbody, selfTexts_ne ht, Hex.hexLower_inj ?_⟩
  rw [textOf, Dict.getD, hdeclared, Option.getD_some, heq] at hhash
  exact hhash

end Host

end Release

namespace Sample

open Release

/-- The placeholder's text has another digest than the manifest declares. -/
theorem placeholder_digest :
    (verifierHost proofDocs).digestHex (Text.utf8 (withPlaceholder manifestFields).dumps) ≠ docDigest bodyFields := by
  decide +kernel

theorem proofDir_not_collide : ¬(verifierHost proofDocs).SelfTextsCollide proofDir := by
  rintro ⟨manifest, body, hread, hbody, -, hhash⟩
  rw [proofDir_manifest] at hread
  obtain rfl := Json.obj.inj (Except.ok.inj hread)
  rw [manifestBody_manifest] at hbody
  refine placeholder_digest ?_
  rw [Host.digestHex, ← hhash, docDigest, Host.canonicalDigest, hbody]
  rfl

/-- A directory the release verifier accepts. -/
theorem proofDir_rejected : (∃ r, (verifierHost proofDocs).verifyReleaseInputs proofDir = .ok r) ∧
    ¬(verifierHost proofDocs).SelfTextsCollide proofDir ∧
    (verifierHost proofDocs).validate "proof/release" proofDir ≠ .ok [] := by
  obtain ⟨r, hr⟩ := proofDir_isAccepted
  exact ⟨⟨r, hr⟩, proofDir_not_collide, (verifierHost proofDocs).validate_rejects hr proofDir_not_collide _⟩

theorem validators_disagree : (∃ r, (verifierHost proofDocs).verifyReleaseInputs proofDir = .ok r) ∧
    (verifierHost proofDocs).validate "proof/release" proofDir ≠ .ok [] := by
  refine ⟨proofDir_isAccepted, fun hv => ?_⟩
  have hself := (verifierHost proofDocs).validate_ok proofDir_manifest manifest_digest hv
  exact placeholder_digest (Json.str.inj hself).symm

end Sample

end Adn
