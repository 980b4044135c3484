import Adn.DeploymentManifest
/-!
# The build configuration's identifier

The contract hashes the environment it was built in, as the compiler saw it; the bridge
hashes the same variables, each trimmed first. The issuer loses `0x` and its capitals on
both sides, with code of its own on each.
-/

open Lib

namespace Adn

/-! ## What the contract computes -/

namespace Contract

/-- `CARGO_PKG_VERSION` -/
def cargoPkgVersion : Str := "3.9.2"

/-- `s.strip_prefix("0x").unwrap_or(s)` -/
def stripPrefix : Str → Str
  | 0x30 :: 0x78 :: s => s
  | s => s

/-- What is hashed. -/
def buildMaterial (env : ProcessEnv) : Str :=
  let commit := (env "ADN_BUILD_COMMIT").getD "unknown-commit"
  let rustc := (env "ADN_RUSTC_VERSION").getD "unknown-rustc"
  let issuer := ((env "ADN_TRUSTED_ISSUER").map fun s => lower (stripPrefix s)).getD "unpinned-issuer"
  let tenant := (env "ADN_TENANT_DID").getD "unbound-tenant"
  let colon := Str.ofString ":"
  Str.ofString "adn-processor:v" ++ cargoPkgVersion ++ colon ++ commit ++ colon ++ rustc ++ colon ++ issuer ++ colon ++ tenant

/-- `contract_build_config_id()`, where `option_env!` reads `env` -/
def contractBuildConfigId (sha256 : List UInt8 → List UInt8) (env : ProcessEnv) : Str :=
  let digest := sha256 (Text.utf8 (buildMaterial env))
  Str.ofString "adn-build-" ++ Hex.hexLower (digest.take 16)

end Contract

/-! ## What the bridge computes -/

namespace DeploymentManifest

namespace Host

variable (h : Host)

/-- The identifier in `writePendingDeploymentManifest`. -/
def buildConfig : Except Str Str := do
  let buildCommit ← h.requireManifestEnv "ADN_BUILD_COMMIT"
  let rustcVersion ← h.requireManifestEnv "ADN_RUSTC_VERSION"
  let trustedIssuer := h.toLowerCase (withoutHexPrefix (← h.requireManifestEnv "ADN_TRUSTED_ISSUER"))
  let tenantDid ← h.requireManifestEnv "ADN_TENANT_DID"
  return h.buildConfigId buildCommit rustcVersion trustedIssuer tenantDid

/-- It is the one that the pending manifest has. -/
theorem pending_buildConfig {localWasmSha256 : Str} {manifest : Props} (hm : h.pendingManifest localWasmSha256 = .ok manifest) :
    ∃ id, h.buildConfig = .ok id ∧ manifest.get "build_config_id" = .str id := by
  obtain ⟨commit, hcommit, hm⟩ := bind_ok.1 hm
  obtain ⟨rustc, hrustc, hm⟩ := bind_ok.1 hm
  obtain ⟨issuer, hissuer, hm⟩ := bind_ok.1 hm
  obtain ⟨tenant, htenant, hm⟩ := bind_ok.1 hm
  obtain ⟨key, _, hm⟩ := bind_ok.1 hm
  refine ⟨_, bind_ok.2 ⟨_, hcommit, bind_ok.2 ⟨_, hrustc, bind_ok.2 ⟨_, hissuer, bind_ok.2 ⟨_, htenant, rfl⟩⟩⟩⟩, ?_⟩
  rw [← Except.ok.inj hm]
  simp [Props.get]

theorem requireManifestEnv_ok {name : String} {s : Str} (hs : h.env name = some s) (hn : Js.trim s ≠ []) :
    h.requireManifestEnv name = .ok (Js.trim s) := by
  rw [requireManifestEnv, trimmed, hs]
  simp [Option.filter, hn]

end Host

end DeploymentManifest

/-- An upper-case ASCII letter becomes a lower-case one. -/
def lowerPoint (c : ℕ) : ℕ := if 0x41 ≤ c ∧ c ≤ 0x5A then c + 0x20 else c

/-- `lower` on one unit. -/
def lowerUnit (u : UInt16) : UInt16 := if 0x41 ≤ u.toNat && u.toNat ≤ 0x5A then u + 0x20 else u

theorem lowerUnit_toNat (u : UInt16) : (lowerUnit u).toNat = lowerPoint u.toNat := by
  unfold lowerUnit lowerPoint
  simp only [Bool.and_eq_true, decide_eq_true_eq]
  split
  · rw [UInt16.toNat_add]
    have : (0x20 : UInt16).toNat = 0x20 := rfl
    omega
  · rfl

theorem lowerPoint_of_lt {c : ℕ} (h : 0x5A < c) : lowerPoint c = c := if_neg (by omega)

theorem isHigh_lowerUnit (u : UInt16) : Text.isHigh (lowerUnit u) = Text.isHigh u := by
  simp only [Text.isHigh, lowerUnit_toNat, lowerPoint]
  split
  · rw [Bool.eq_iff_iff]
    simp only [Bool.and_eq_true, decide_eq_true_eq]
    omega
  · rfl

theorem isLow_lowerUnit (u : UInt16) : Text.isLow (lowerUnit u) = Text.isLow u := by
  simp only [Text.isLow, lowerUnit_toNat, lowerPoint]
  split
  · rw [Bool.eq_iff_iff]
    simp only [Bool.and_eq_true, decide_eq_true_eq]
    omega
  · rfl

theorem codePoints_lower (s : Str) : Text.codePoints (lower s) = (Text.codePoints s).map lowerPoint := by
  have hmap (s : Str) : lower s = s.map lowerUnit := rfl
  simp only [hmap]
  induction s using Text.codePoints.induct with
  | case1 => rfl
  | case2 u => simp [Text.codePoints, lowerUnit_toNat]
  | case3 u v rest hp ih =>
    have hj : 0x10000 ≤ Text.joinPair u v := by unfold Text.joinPair; omega
    have hhi : lowerUnit u = u ∧ lowerUnit v = v := by
      simp only [Text.isHigh, Text.isLow, Bool.and_eq_true, decide_eq_true_eq] at hp
      constructor <;> (unfold lowerUnit; exact if_neg (by simp; omega))
    rw [List.map_cons, List.map_cons, hhi.1, hhi.2, Text.codePoints, if_pos hp, ih, Text.codePoints, if_pos hp,
      List.map_cons, lowerPoint_of_lt (by omega)]
  | case4 u v rest hp ih =>
    rw [List.map_cons, List.map_cons, Text.codePoints, isHigh_lowerUnit, isLow_lowerUnit, if_neg hp, ← List.map_cons, ih,
      Text.codePoints, if_neg hp, List.map_cons, lowerUnit_toNat]

/-! ## The issuer -/

namespace Contract

/-- It starts with `0X`. -/
def UpperPrefix (s : Str) : Prop := ∃ t, s = 0x30 :: 0x58 :: t

theorem withoutHexPrefix_cases (s : Str) : (∃ t, s = 0x30 :: 0x78 :: t ∧ withoutHexPrefix s = t ∧ stripPrefix s = t) ∨
    (∃ t, s = 0x30 :: 0x58 :: t ∧ withoutHexPrefix s = t ∧ stripPrefix s = s) ∨
    (¬UpperPrefix s ∧ withoutHexPrefix s = s ∧ stripPrefix s = s) := by
  match s with
  | [] => exact .inr (.inr ⟨by simp [UpperPrefix], rfl, rfl⟩)
  | [u] =>
    refine .inr (.inr ⟨by simp [UpperPrefix], ?_, ?_⟩)
    · unfold withoutHexPrefix; split <;> simp_all
    · unfold stripPrefix; split <;> simp_all
  | u :: v :: t =>
    by_cases hu : u = 0x30
    · subst hu
      by_cases hx : v = 0x78
      · subst hx
        exact .inl ⟨t, rfl, rfl, rfl⟩
      · by_cases hX : v = 0x58
        · subst hX
          exact .inr (.inl ⟨t, rfl, rfl, rfl⟩)
        · refine .inr (.inr ⟨by simpa [UpperPrefix] using hX, by simp [withoutHexPrefix, hx, hX], ?_⟩)
          unfold stripPrefix
          split <;> simp_all
    · refine .inr (.inr ⟨by simp [UpperPrefix, hu], ?_, ?_⟩)
      · unfold withoutHexPrefix; split <;> simp_all
      · unfold stripPrefix; split <;> simp_all

theorem withoutHexPrefix_length (s : Str) : (withoutHexPrefix s).length ≤ s.length := by
  rcases withoutHexPrefix_cases s with ⟨t, rfl, h, -⟩ | ⟨t, rfl, h, -⟩ | ⟨-, h, -⟩
  · simp [h]; omega
  · simp [h]; omega
  · rw [h]

/-- The two prefixes that are stripped leave texts of one length only where nothing is trimmed and `0X` does not occur. -/
theorem length_stripped {s : Str} (hs : Js.trim s ≠ []) (h : (stripPrefix s).length = (withoutHexPrefix (Js.trim s)).length) :
    Js.trim s = s ∧ ¬UpperPrefix s := by
  obtain ⟨before, after, hsplit, hbefore, hafter⟩ := Js.trim_split s
  generalize Js.trim s = t at *
  have hle := withoutHexPrefix_length t
  have hlen : s.length = before.length + t.length + after.length := by
    rw [hsplit, List.length_append, List.length_append]
  -- a text that the contract leaves as it is can lose nothing on the bridge's side
  have hwhole (hstrip : stripPrefix s = s) : t = s := by
    rw [hstrip] at h
    have hb : before = [] := List.length_eq_zero_iff.mp (by omega)
    have ha : after = [] := List.length_eq_zero_iff.mp (by omega)
    simpa [hb, ha] using hsplit.symm
  rcases withoutHexPrefix_cases s with ⟨r, hr, -, hstrip⟩ | ⟨r, hr, hwithout, hstrip⟩ | ⟨hup, -, hstrip⟩
  · have hb : before = [] := by
      refine Js.blanks_nil_of_head hbefore (s := s) (t := t ++ after) (by simp [hr]) ?_ (by simpa using hsplit)
      simp only [hr, List.head_cons]
      decide
    rw [hb, List.nil_append, hr] at hsplit
    obtain ⟨t', rfl⟩ : ∃ t', t = 0x30 :: 0x78 :: t' := by
      cases t with
      | nil => exact absurd rfl hs
      | cons u t =>
        cases t with
        | nil =>
          simp only [List.cons_append, List.nil_append, List.cons.injEq] at hsplit
          have := hafter 0x78 (by rw [← hsplit.2]; exact List.mem_cons_self)
          exact absurd this (by decide)
        | cons v t =>
          simp only [List.cons_append, List.cons.injEq] at hsplit
          exact ⟨t, by rw [hsplit.1, hsplit.2.1]⟩
    have hwithout : withoutHexPrefix (0x30 :: 0x78 :: t') = t' := rfl
    have ha : after = [] := by
      refine List.length_eq_zero_iff.mp ?_
      rw [hstrip, hwithout] at h
      rw [hr, hb] at hlen
      simp only [List.length_cons, List.length_nil] at hlen
      omega
    refine ⟨by simpa [hr, ha] using hsplit.symm, ?_⟩
    rintro ⟨t'', ht⟩
    rw [hr] at ht
    simp at ht
  · have htrim := hwhole hstrip
    rw [htrim, hwithout, hstrip, hr] at h
    simp only [List.length_cons] at h
    omega
  · exact ⟨hwhole hstrip, hup⟩

theorem not_surrogate {u : UInt16} (h : Js.isWhiteSpace u = true) : Text.isHigh u = false ∧ Text.isLow u = false := by
  have hall : ∀ v : UInt16, Js.isWhiteSpace v = true → v.toNat < 0xD800 ∨ 0xE000 ≤ v.toNat := by
    intro v hv
    simp only [Js.isWhiteSpace, Bool.or_eq_true, Bool.and_eq_true, decide_eq_true_eq] at hv
    rcases hv with (((((((((hv | rfl) | rfl) | rfl) | hv) | rfl) | rfl) | rfl) | rfl) | rfl) | rfl
    · omega
    all_goals first | omega | decide
  have := hall u h
  simp only [Text.isHigh, Text.isLow, Bool.and_eq_false_iff, decide_eq_false_iff_not]
  omega

/-- A character outside ASCII that is left on the bridge's side is left on the contract's. -/
theorem mem_stripped {s : Str} {c : ℕ} (hc : 0x80 ≤ c) (h : c ∈ Text.codePoints (withoutHexPrefix (Js.trim s))) :
    c ∈ Text.codePoints (lower (stripPrefix s)) := by
  obtain ⟨before, after, hsplit, hbefore, hafter⟩ := Js.trim_split s
  have hpair (x : UInt16) (hx : Text.isHigh x = false) (t : Str) :
      Text.codePoints (0x30 :: x :: t) = 0x30 :: x.toNat :: Text.codePoints t := by
    rw [Text.codePoints_cons_of_not_high (by decide), Text.codePoints_cons_of_not_high hx]
    rfl
  have htrim : c ∈ Text.codePoints (Js.trim s) := by
    rcases withoutHexPrefix_cases (Js.trim s) with ⟨t, ht, hw, -⟩ | ⟨t, ht, hw, -⟩ | ⟨-, hw, -⟩
    · rw [ht, hpair 0x78 (by decide)]
      exact List.mem_cons_of_mem _ (List.mem_cons_of_mem _ (hw ▸ h))
    · rw [ht, hpair 0x58 (by decide)]
      exact List.mem_cons_of_mem _ (List.mem_cons_of_mem _ (hw ▸ h))
    · rwa [hw] at h
  have hs : c ∈ Text.codePoints s := by
    have htail : c ∈ Text.codePoints (Js.trim s ++ after) := by
      rw [Text.codePoints_append fun u hu => (not_surrogate (hafter u (List.mem_of_mem_head? hu))).2]
      exact List.mem_append_left _ htrim
    rw [hsplit, List.append_assoc]
    clear hsplit
    induction before with
    | nil => exact htail
    | cons u before ih =>
      rw [List.cons_append, Text.codePoints_cons_of_not_high (not_surrogate (hbefore u List.mem_cons_self)).1]
      exact List.mem_cons_of_mem _ (ih fun v hv => hbefore v (List.mem_cons_of_mem u hv))
  rw [codePoints_lower]
  refine List.mem_map.mpr ⟨c, ?_, lowerPoint_of_lt (by omega)⟩
  rcases withoutHexPrefix_cases s with ⟨t, ht, -, hstrip⟩ | ⟨t, ht, -, hstrip⟩ | ⟨-, -, hstrip⟩
  · rw [ht, hpair 0x78 (by decide)] at hs
    rw [hstrip]
    rcases List.mem_cons.mp hs with rfl | hs
    · omega
    · rcases List.mem_cons.mp hs with rfl | hs
      · exact absurd hc (by decide)
      · exact hs
  · rwa [hstrip]
  · rwa [hstrip]

/-- Where the two normal forms of an issuer are one. -/
theorem issuer_iff {toLowerCase : Str → Str} (hfold : ∀ s, toLowerCase s = lower s ∨
      ∃ c ∈ Text.codePoints s, 0x80 ≤ c ∧ c ∉ Text.codePoints (toLowerCase s)) {s : Str} (hs : Js.trim s ≠ []) :
    lower (stripPrefix s) = toLowerCase (withoutHexPrefix (Js.trim s)) ↔
      Js.trim s = s ∧ ¬UpperPrefix s ∧ toLowerCase (stripPrefix s) = lower (stripPrefix s) := by
  have hsame (htrim : Js.trim s = s) (hup : ¬UpperPrefix s) : withoutHexPrefix (Js.trim s) = stripPrefix s := by
    rw [htrim]
    rcases withoutHexPrefix_cases s with ⟨t, -, hw, hp⟩ | ⟨t, ht, -, -⟩ | ⟨-, hw, hp⟩
    · rw [hw, hp]
    · exact absurd ⟨t, ht⟩ hup
    · rw [hw, hp]
  constructor
  · intro heq
    rcases hfold (withoutHexPrefix (Js.trim s)) with hlower | ⟨c, hmem, hc, hgone⟩
    · have hlen : (stripPrefix s).length = (withoutHexPrefix (Js.trim s)).length := by
        have := congrArg List.length (heq.trans hlower)
        simpa [lower] using this
      obtain ⟨htrim, hup⟩ := length_stripped hs hlen
      refine ⟨htrim, hup, ?_⟩
      rw [← hsame htrim hup, hlower]
    · exact absurd (heq ▸ mem_stripped hc hmem) hgone
  · rintro ⟨htrim, hup, hlower⟩
    rw [hsame htrim hup, hlower]

/-! ## The identifiers -/

/-- The build variables. -/
structure BuildEnv where
  commit : Str
  rustc : Str
  issuer : Str
  tenant : Str

namespace BuildEnv

/-- They are set so, and none is blank. -/
structure Sets (e : BuildEnv) (env : ProcessEnv) : Prop where
  commit : env "ADN_BUILD_COMMIT" = some e.commit
  rustc : env "ADN_RUSTC_VERSION" = some e.rustc
  issuer : env "ADN_TRUSTED_ISSUER" = some e.issuer
  tenant : env "ADN_TENANT_DID" = some e.tenant
  notBlank : ∀ s ∈ [e.commit, e.rustc, e.issuer, e.tenant], Js.trim s ≠ []

/-- The text that is hashed, of an issuer in normal form. -/
def material (commit rustc issuer tenant : Str) : Str :=
  Str.ofString "adn-processor:v" ++ cargoPkgVersion ++ Str.ofString ":" ++ commit ++ Str.ofString ":" ++ rustc ++
    Str.ofString ":" ++ issuer ++ Str.ofString ":" ++ tenant

/-- What the bridge hashes. -/
def bridgeMaterial (e : BuildEnv) (toLowerCase : Str → Str) : Str :=
  material (Js.trim e.commit) (Js.trim e.rustc) (toLowerCase (withoutHexPrefix (Js.trim e.issuer))) (Js.trim e.tenant)

/-- No variable has a blank at an end, and the issuer has no `0X` in front and no capital outside ASCII. -/
structure Tidy (e : BuildEnv) (toLowerCase : Str → Str) : Prop where
  trimmed : ∀ s ∈ [e.commit, e.rustc, e.issuer, e.tenant], Js.trim s = s
  noUpperPrefix : ¬UpperPrefix e.issuer
  asciiCapitals : toLowerCase (stripPrefix e.issuer) = lower (stripPrefix e.issuer)

variable {e : BuildEnv} {env : ProcessEnv}

theorem Sets.material (he : e.Sets env) : buildMaterial env =
    BuildEnv.material e.commit e.rustc (lower (stripPrefix e.issuer)) e.tenant := by
  simp only [buildMaterial, he.commit, he.rustc, he.issuer, he.tenant, Option.map_some, Option.getD_some, BuildEnv.material]

/-- The two texts that are hashed are one only if each of their parts is. -/
theorem material_iff (he : e.Sets env) {issuer issuer' : Str} :
    BuildEnv.material e.commit e.rustc issuer e.tenant =
        BuildEnv.material (Js.trim e.commit) (Js.trim e.rustc) issuer' (Js.trim e.tenant) ↔
      Js.trim e.commit = e.commit ∧ Js.trim e.rustc = e.rustc ∧ Js.trim e.tenant = e.tenant ∧ issuer = issuer' := by
  have hmark : Js.isWhiteSpace 0x3A = false := by decide
  have hcolon : Str.ofString ":" = [0x3A] := by decide
  constructor
  · intro h
    simp only [BuildEnv.material, hcolon, List.append_assoc, List.cons_append, List.nil_append, List.append_cancel_left_eq,
      List.cons.injEq, true_and] at h
    obtain ⟨hcommit, h⟩ := Js.trim_cancel_left hmark (he.notBlank e.commit (by simp)) h.symm
    obtain ⟨hrustc, h⟩ := Js.trim_cancel_left hmark (he.notBlank e.rustc (by simp)) h
    obtain ⟨htenant, h⟩ := Js.trim_cancel_right hmark (he.notBlank e.tenant (by simp)) h
    exact ⟨hcommit, hrustc, htenant, h.symm⟩
  · rintro ⟨hcommit, hrustc, htenant, rfl⟩
    rw [hcommit, hrustc, htenant]

end BuildEnv

theorem hexLower_take (bs : List UInt8) (n : ℕ) : (Hex.hexLower bs).take (2 * n) = Hex.hexLower (bs.take n) := by
  induction bs generalizing n with
  | nil => simp [Hex.hexLower]
  | cons b bs ih =>
    cases n with
    | zero => simp [Hex.hexLower]
    | succ n =>
      have := ih n
      simp only [Hex.hexLower, List.flatMap_cons, List.take_succ_cons] at this ⊢
      rw [show 2 * (n + 1) = 2 + 2 * n by omega, List.take_add]
      simp [this]

/-- The identifier of a text. -/
def materialId (sha256 : List UInt8 → List UInt8) (material : Str) : Str :=
  Str.ofString "adn-build-" ++ Hex.hexLower ((sha256 (Text.utf8 material)).take 16)

theorem bridge_buildConfig (h : DeploymentManifest.Host) {e : BuildEnv} (he : e.Sets h.env) :
    h.buildConfig = .ok (materialId h.keys.sha256 (e.bridgeMaterial h.toLowerCase)) := by
  have hvalue {name : String} {s : Str} (hs : h.env name = some s) (hm : s ∈ [e.commit, e.rustc, e.issuer, e.tenant]) :=
    h.requireManifestEnv_ok hs (he.notBlank s hm)
  refine bind_ok.2 ⟨_, hvalue he.commit (by simp), bind_ok.2 ⟨_, hvalue he.rustc (by simp), ?_⟩⟩
  refine bind_ok.2 ⟨_, hvalue he.issuer (by simp), bind_ok.2 ⟨_, hvalue he.tenant (by simp), ?_⟩⟩
  rw [pure_ok, DeploymentManifest.Host.buildConfigId, ReleaseProof.Keys.sha256Hex, hexLower_take _ 16]
  rfl

/-- The contract and the bridge name a build configuration alike exactly where the variables are tidy, if SHA-256
tells the two texts that are hashed apart. -/
theorem buildConfigId_agrees_iff (h : DeploymentManifest.Host) {e : BuildEnv} (he : e.Sets h.env)
    (hfold : ∀ s, h.toLowerCase s = lower s ∨
      ∃ c ∈ Text.codePoints s, 0x80 ≤ c ∧ c ∉ Text.codePoints (h.toLowerCase s))
    (hsha : (h.keys.sha256 (Text.utf8 (buildMaterial h.env))).take 16 =
        (h.keys.sha256 (Text.utf8 (e.bridgeMaterial h.toLowerCase))).take 16 →
      buildMaterial h.env = e.bridgeMaterial h.toLowerCase) :
    (h.buildConfig = .ok (contractBuildConfigId h.keys.sha256 h.env) ↔ e.Tidy h.toLowerCase) ∧
      ∀ localWasmSha256 manifest, h.pendingManifest localWasmSha256 = .ok manifest →
        (manifest.get "build_config_id" = .str (contractBuildConfigId h.keys.sha256 h.env) ↔ e.Tidy h.toLowerCase) := by
  have htexts : buildMaterial h.env = e.bridgeMaterial h.toLowerCase ↔ e.Tidy h.toLowerCase := by
    rw [he.material, BuildEnv.bridgeMaterial, BuildEnv.material_iff he, issuer_iff hfold (he.notBlank e.issuer (by simp))]
    constructor
    · rintro ⟨hcommit, hrustc, htenant, hissuer, hup, hlower⟩
      refine ⟨fun s hs => ?_, hup, hlower⟩
      simp only [List.mem_cons, List.not_mem_nil, or_false] at hs
      rcases hs with rfl | rfl | rfl | rfl <;> assumption
    · rintro ⟨htrim, hup, hlower⟩
      exact ⟨htrim _ (by simp), htrim _ (by simp), htrim _ (by simp), htrim _ (by simp), hup, hlower⟩
  have hid : h.buildConfig = .ok (contractBuildConfigId h.keys.sha256 h.env) ↔ e.Tidy h.toLowerCase := by
    rw [bridge_buildConfig h he, ← htexts]
    constructor
    · intro heq
      have := List.append_cancel_left (Except.ok.inj heq)
      exact hsha (Hex.hexLower_inj this).symm
    · intro heq
      rw [← heq]
      rfl
  refine ⟨hid, fun localWasmSha256 manifest hm => ?_⟩
  obtain ⟨id, hbuild, hget⟩ := h.pending_buildConfig hm
  rw [← hid, hbuild, hget, Js.str.injEq, Except.ok.injEq]

end Contract

namespace Sample

open Contract

/-- The issuer is written with `0X`. -/
def capitalEnv : BuildEnv := ⟨"58daf8a", "rustc 1.85.0", "0X58DA", "did:t3n:01"⟩

/-- The same issuer with `0x`. -/
def tidyEnv : BuildEnv := { capitalEnv with issuer := "0x58DA" }

/-- A digest whose first bytes tell short texts apart. -/
def buildHash (bs : List UInt8) : List UInt8 :=
  let n := bs.foldl (fun n b => (n * 257 + b.toNat + 1) % 0x100000000) 1
  [(n / 0x1000000).toUInt8, (n / 0x10000).toUInt8, (n / 0x100).toUInt8, n.toUInt8] ++ List.replicate 28 0

def buildVariables (e : BuildEnv) : ProcessEnv := fun name =>
  [(Str.ofString "ADN_BUILD_COMMIT", e.commit), (Str.ofString "ADN_RUSTC_VERSION", e.rustc),
    (Str.ofString "ADN_TRUSTED_ISSUER", e.issuer), (Str.ofString "ADN_TENANT_DID", e.tenant)].lookup name

def buildHost (e : BuildEnv) : DeploymentManifest.Host where
  env := buildVariables e
  keys := ⟨buildHash, id, fun message _ => message⟩
  toLowerCase := lower
  parseInt _ := .nan
  now := []

theorem buildVariables_sets {e : BuildEnv} (hn : ∀ s ∈ [e.commit, e.rustc, e.issuer, e.tenant], Js.trim s ≠ []) :
    e.Sets (buildVariables e) where
  commit := by simp [buildVariables]
  rustc := by simp [buildVariables, List.lookup_cons, beq_eq_decide]
  issuer := by simp [buildVariables, List.lookup_cons, beq_eq_decide]
  tenant := by simp [buildVariables, List.lookup_cons, beq_eq_decide]
  notBlank := hn

theorem capitalEnv_sets : capitalEnv.Sets (buildHost capitalEnv).env := buildVariables_sets (by decide +kernel)

theorem tidyEnv_sets : tidyEnv.Sets (buildHost tidyEnv).env := buildVariables_sets (by decide +kernel)

/-- The bridge's identifier is not the contract's. -/
theorem capital_differs : ∃ id, (buildHost capitalEnv).buildConfig = .ok id ∧
    id ≠ contractBuildConfigId (buildHost capitalEnv).keys.sha256 (buildHost capitalEnv).env := by
  refine ⟨_, bridge_buildConfig (buildHost capitalEnv) capitalEnv_sets, ?_⟩
  rw [contractBuildConfigId, capitalEnv_sets.material]
  decide +kernel

theorem tidy_agrees : (buildHost tidyEnv).buildConfig =
      .ok (contractBuildConfigId (buildHost tidyEnv).keys.sha256 (buildHost tidyEnv).env) ∧ tidyEnv.Tidy lower := by
  have hplain : ¬UpperPrefix tidyEnv.issuer := by
    rintro ⟨t, ht⟩
    have hx : tidyEnv.issuer[1]? = some 0x78 := by decide +kernel
    rw [ht] at hx
    simp at hx
  have htidy : tidyEnv.Tidy lower := ⟨by decide +kernel, hplain, rfl⟩
  have hsame : buildMaterial (buildHost tidyEnv).env = tidyEnv.bridgeMaterial lower := by
    rw [tidyEnv_sets.material]
    decide +kernel
  have h := buildConfigId_agrees_iff (buildHost tidyEnv) tidyEnv_sets (fun s => .inl rfl) fun _ => hsame
  exact ⟨h.1.mpr htidy, htidy⟩

end Sample

end Adn
