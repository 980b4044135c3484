import Adn.BridgeEnvelope
/-!
# Which envelopes the contract accepts

The bridge and the contract each take the target and the action of a call from a place
of their own: the policy, the hash and the wire input. They agree exactly on the calls
of `Acceptable`: there is an action, and `callParams` has no target of its own.
-/

open Lib Lib.Serde

namespace Adn.Bridge

open Release (IsString)
open Contract (Runtime Parts Decodes Authorized verifyDelegateTask)

/-! ## Reading the call and its envelope -/

section
variable {fs : Dict} (hn : (fs.map (·.1)).Nodup)

include hn

theorem decodeInput_ok {r : Contract.DelegateTaskInput} : Contract.DelegateTaskInput.decode (.obj fs) = .ok r ↔
    fs.get? "to_agent_id" = some (.str r.toAgentId) ∧
    (fs.get? "action" = some (.str r.action) ∨ (fs.get? "action" = none ∧ r.action = [])) ∧
    (objFields fs).getOption "__delegation_envelope" Contract.DelegationEnvelopeFields.decode = .ok r.delegationEnvelope := by
  obtain ⟨toAgentId, action, envelope⟩ := r
  have hfields : fields ["to_agent_id", "action", "__delegation_envelope"] (.obj fs) = .ok (objFields fs) := rfl
  unfold Contract.DelegateTaskInput.decode
  simp only [hfields, bind_ok, Except.ok.injEq, exists_eq_left', get_string hn, getOr_string hn, pure_ok]
  constructor
  · rintro ⟨t, ht, a, ha, e, he, h⟩
    cases h
    exact ⟨ht, ha, he⟩
  · rintro ⟨ht, ha, he⟩
    exact ⟨toAgentId, ht, action, ha, envelope, he, rfl⟩

theorem decodeEnvelope_ok {j u n a r : Str} (hj : fs.get? "credential_jcs" = some (.str j))
    (hu : fs.get? "user_sig" = some (.str u)) (hnonce : fs.get? "nonce" = some (.str n))
    (ha : fs.get? "agent_sig" = some (.str a)) (hr : fs.get? "request_hash" = some (.str r)) :
    Contract.DelegationEnvelopeFields.decode (.obj fs) = .ok ⟨j, u, n, a, r⟩ := by
  have hfields : fields ["credential_jcs", "user_sig", "nonce", "agent_sig", "request_hash"] (.obj fs) =
    .ok (objFields fs) := rfl
  unfold Contract.DelegationEnvelopeFields.decode
  rw [hfields, bind_ok]
  refine ⟨_, rfl, bind_ok.2 ⟨j, (get_string hn).2 hj, bind_ok.2 ⟨u, (getOr_string hn).2 (.inl hu), ?_⟩⟩⟩
  refine bind_ok.2 ⟨n, (getOr_string hn).2 (.inl hnonce), bind_ok.2 ⟨a, (getOr_string hn).2 (.inl ha), ?_⟩⟩
  exact bind_ok.2 ⟨r, (getOr_string hn).2 (.inl hr), rfl⟩

end

section
variable {sdk : Sdk} {b : Build}

/-- What the contract reads of the credential. -/
def Build.credentialBody (sdk : Sdk) (b : Build) : Contract.CredentialBody where
  v := "ot3.delegation/1"
  functions := [Str.ofString "delegate-task"]
  notBeforeSecs := Numerals.intText (b.now - 5)
  notAfterSecs := Numerals.intText (b.now + 290)
  vcId := sdk.b64uEncodeBytes b.draws.vcId
  agentPubkey := sdk.b64uEncodeBytes (sdk.pubkeyFromSecret b.draws.agentSecret)
  userDid := b.tenantDid
  orgDid := b.tenantDid
  contract := "adn-processor"
  metadata := [(Str.ofString "adn_authorization_v1", b.policyText), (Str.ofString "role", Str.ofString "adn-worker"),
    (Str.ofString "session", Str.ofString "phase4")]

/-- The metadata's names in order. -/
theorem sort_metadata (policyText : Str) : Js.sortProps [(Str.ofString "role", Str.ofString "adn-worker"),
      (Str.ofString "session", Str.ofString "phase4"), (Str.ofString "adn_authorization_v1", policyText)] =
    [(Str.ofString "adn_authorization_v1", policyText), (Str.ofString "role", Str.ofString "adn-worker"),
      (Str.ofString "session", Str.ofString "phase4")] := by
  have hsa : ¬Js.propLe (Str.ofString "session", Str.ofString "phase4") (Str.ofString "adn_authorization_v1", policyText) :=
    (by decide : ¬Text.codeUnits (Str.ofString "session") ≤ Text.codeUnits (Str.ofString "adn_authorization_v1"))
  have hra : ¬Js.propLe (Str.ofString "role", Str.ofString "adn-worker") (Str.ofString "adn_authorization_v1", policyText) :=
    (by decide : ¬Text.codeUnits (Str.ofString "role") ≤ Text.codeUnits (Str.ofString "adn_authorization_v1"))
  have hrs : Js.propLe (Str.ofString "role", Str.ofString "adn-worker") (Str.ofString "session", Str.ofString "phase4") :=
    (by decide : Text.codeUnits (Str.ofString "role") ≤ Text.codeUnits (Str.ofString "session"))
  rw [Js.sortProps, List.insertionSort_cons, List.insertionSort_cons, List.insertionSort_cons, List.insertionSort_nil,
    List.orderedInsert_nil, List.orderedInsert_cons, if_neg hsa, List.orderedInsert_nil, List.orderedInsert_cons, if_neg hra,
    List.orderedInsert_cons, if_pos hrs]

/-- The contract reads from the document what the bridge has put into it. -/
theorem decodeCredential : Contract.CredentialBody.decode (.obj ((b.credential sdk).document sdk)) =
    .ok (b.credentialBody sdk) := by
  have hfields : fields ["v", "functions", "not_before_secs", "not_after_secs", "vc_id", "agent_pubkey", "user_did", "org_did",
    "contract", "metadata"] (.obj ((b.credential sdk).document sdk)) = .ok (objFields ((b.credential sdk).document sdk)) := rfl
  have hn : (((b.credential sdk).document sdk).map (·.1)).Nodup := by
    simp [CredentialFields.document, Dict.ofList]
  have hmeta : stringMap (.obj ((Js.sortProps (b.credential sdk).metadata).map fun e => (e.1, .str e.2))) =
      .ok (b.credentialBody sdk).metadata := by
    rw [Build.credential, sort_metadata]
    rfl
  have htext : ∀ (k s : Str), Dict.get? ((b.credential sdk).document sdk) k = some (.str s) →
      (objFields ((b.credential sdk).document sdk)).getOr k [] string = .ok s := fun k s h => (getOr_string hn).2 (.inl h)
  unfold Contract.CredentialBody.decode
  rw [hfields, bind_ok]
  refine ⟨_, rfl, bind_ok.2 ⟨(b.credentialBody sdk).v, (get_string hn).2 ?_, ?_⟩⟩
  · simp [CredentialFields.document, Build.credentialBody]
  refine bind_ok.2 ⟨(b.credentialBody sdk).functions, (get_ok hn).2 ⟨.arr [.str "delegate-task"], ?_, rfl⟩, ?_⟩
  · simp [CredentialFields.document, Build.credential]
  refine bind_ok.2 ⟨(b.credentialBody sdk).notBeforeSecs, (get_string hn).2 ?_, ?_⟩
  · simp [CredentialFields.document, Build.credential, Build.credentialBody]
  refine bind_ok.2 ⟨(b.credentialBody sdk).notAfterSecs, (get_string hn).2 ?_, ?_⟩
  · simp [CredentialFields.document, Build.credential, Build.credentialBody]
  refine bind_ok.2 ⟨(b.credentialBody sdk).vcId, htext _ _ ?_, ?_⟩
  · simp [CredentialFields.document, Build.credential, Build.credentialBody]
  refine bind_ok.2 ⟨(b.credentialBody sdk).agentPubkey, htext _ _ ?_, ?_⟩
  · simp [CredentialFields.document, Build.credential, Build.credentialBody]
  refine bind_ok.2 ⟨(b.credentialBody sdk).userDid, htext _ _ ?_, ?_⟩
  · simp [CredentialFields.document, Build.credential, Build.credentialBody]
  refine bind_ok.2 ⟨(b.credentialBody sdk).orgDid, htext _ _ ?_, ?_⟩
  · simp [CredentialFields.document, Build.credential, Build.credentialBody]
  refine bind_ok.2 ⟨(b.credentialBody sdk).contract, htext _ _ ?_, ?_⟩
  · simp [CredentialFields.document, Build.credential, Build.credentialBody]
  exact bind_ok.2 ⟨(b.credentialBody sdk).metadata, (getOr_ok hn).2 (.inl ⟨_, by simp [CredentialFields.document], hmeta⟩), rfl⟩

end

/-! ## Texts that both sides write -/

/-- Both sides hash the same text of a call. -/
theorem requestBytes_eq (rt : Runtime) (params : Props) : canonicalDelegateTaskRequestBytes params =
    Contract.canonicalRequest rt (textOr (params.get "to_agent_id") []) (textOr (params.get "action") []) := by
  rw [canonicalDelegateTaskRequestBytes, Contract.canonicalRequest, toVec, Contract.callText_eq]
  simp [stringify, Js.stringify, Js.stringifyProps, Js.propText, Props.ofList, joinComma]

theorem digitValue_digitUnit {d : ℕ} (h : d < 10) :
    (Hex.digitValue (Numerals.digitUnit d)).filter (fun d => decide (d < 10)) = some d := by
  have hall : ∀ d < 10, (Hex.digitValue (Numerals.digitUnit d)).filter (fun d => decide (d < 10)) = some d := by decide
  exact hall d h

theorem mapM_digits {ds : List ℕ} (h : Numerals.Digits ds) :
    (Numerals.digitsText ds).mapM (fun u => (Hex.digitValue u).filter (fun d => decide (d < 10))) = some ds := by
  induction ds with
  | nil => rfl
  | cons d ds ih =>
    obtain ⟨hd, hds⟩ := List.forall_mem_cons.1 h
    rw [Numerals.digitsText, List.map_cons, List.mapM_cons, digitValue_digitUnit hd]
    rw [Numerals.digitsText] at ih
    rw [ih hds]
    rfl

/-- A number of 64 bits is read back from its decimal text. -/
theorem parseU64_natText {n : ℕ} (h : n < 2 ^ 64) : Contract.parseU64 (Numerals.natText n) = some (UInt64.ofNat n) := by
  have hdig := Numerals.digits_natDigits n
  have hplus : ∀ t, Numerals.natText n ≠ 0x2B :: t := by
    intro t ht
    have hd := Numerals.isDigit_digitsText hdig 0x2B (by
      rw [Numerals.natText] at ht
      rw [ht]
      exact List.mem_cons_self)
    exact absurd hd (by decide)
  have hne : Numerals.natText n ≠ [] := by
    rw [Numerals.natText, Numerals.digitsText, Ne, List.map_eq_nil_iff]
    exact Numerals.natDigits_ne_nil n
  have hv : Nat.ofDigits 10 (Numerals.natDigits n).reverse = n := Numerals.digitsValue_natDigits n
  have hmap : (Numerals.natText n).mapM (fun u => (Hex.digitValue u).filter (fun d => decide (d < 10))) =
      some (Numerals.natDigits n) := mapM_digits hdig
  rw [Contract.parseU64]
  generalize Numerals.natText n = s at hplus hne hmap
  rw [Contract.fromStrRadix]
  · simp only [hne, if_false, hmap, hv, h, if_true, Option.bind_eq_bind, Option.bind_some, Option.map_some]
  · exact hplus

/-- A number below zero is not. -/
theorem parseU64_neg {n : ℤ} (h : n < 0) : Contract.parseU64 (Numerals.intText n) = none := by
  have hminus : (Hex.digitValue 0x2D).filter (fun d => decide (d < 10)) = none := by decide
  rw [Numerals.intText, if_pos h]
  unfold Contract.parseU64 Contract.fromStrRadix
  simp [hminus]

theorem parseU64_intText {n : ℤ} (h : n < 2 ^ 64) {u : UInt64} :
    Contract.parseU64 (Numerals.intText n) = some u ↔ (u.toNat : ℤ) = n := by
  rcases lt_or_ge n 0 with hneg | hpos
  · rw [parseU64_neg hneg]
    refine iff_of_false nofun ?_
    omega
  · obtain ⟨m, rfl⟩ := Int.eq_ofNat_of_zero_le hpos
    have hm : m < 2 ^ 64 := by exact_mod_cast h
    rw [Numerals.intText, if_neg (by omega), Int.natAbs_natCast, parseU64_natText hm, Option.some.injEq, Nat.cast_inj]
    constructor
    · rintro rfl
      exact UInt64.toNat_ofNat_of_lt' hm
    · rintro rfl
      exact UInt64.ofNat_toNat

/-! ## What is assumed of the two sides -/

/-- A field of type `String` is read as the text that is there, and another value as no text. -/
inductive TextRead : Option Json → Option Js → Prop where
  | absent : TextRead none none
  | undefined : TextRead none (some .undefined)
  | text (s : Str) : TextRead (some (.str s)) (some (.str s))
  | other {v : Json} {w : Js} (hv : ∀ s, v ≠ .str s) (hw : ∀ s, w ≠ .str s) (hu : w ≠ .undefined) :
    TextRead (some v) (some w)

/-- The property is not written. -/
def Missing (w : Option Js) : Prop := w = none ∨ w = some .undefined

/-- What the contract reads of the input is Unicode: `JSON.stringify` writes a lone surrogate as an escape
that `serde_json` refuses. -/
structure Legible (w : Props) : Prop where
  names : ∀ k v, w.get? k = some v → v ≠ .undefined → IsString k
  target : ∀ s, w.get? "to_agent_id" = some (.str s) → IsString s
  action : ∀ s, w.get? "action" = some (.str s) → IsString s

/-- The policy's document. -/
def Build.policyDocument (b : Build) : Dict := Dict.ofList [("to_agent_id", .str b.toAgentDid),
  ("actions", .arr [.str b.policyAction]), ("max_ttl_secs", .int 300)]

/-- What `serde_json` gives of the wire input. -/
structure WireRead (rt : Runtime) (sdk : Sdk) (b : Build) (fs env : Dict) : Prop where
  parse : rt.parse (b.wireBytes sdk) = some (.obj fs)
  nodup : (fs.map (·.1)).Nodup
  target : TextRead (fs.get? "to_agent_id") ((b.wire sdk).get? "to_agent_id")
  action : TextRead (fs.get? "action") ((b.wire sdk).get? "action")
  envelope : fs.get? "__delegation_envelope" = some (.obj env)
  same : Parsed (.obj env) (.obj (b.buildWireDelegationEnvelope sdk))

/-- The SDK and the contract run on the same hash and encodings, the two keys sign, and the contract's
parser reads what the bridge has written. -/
structure Honest (rt : Runtime) (sdk : Sdk) (b : Build) (issuer : List UInt8) : Prop where
  sha256 : ∀ bs, sdk.sha256 bs = (rt.sha256 bs).val
  preimage : ∀ vcId nonce reqHash, sdk.buildInvocationPreimage vcId nonce reqHash = Contract.buildPreimage vcId nonce reqHash
  base64 : ∀ bs, rt.base64 (sdk.b64uEncodeBytes bs) = some bs
  base64_nil : rt.base64 [] = some []
  agent : ∀ preimage, Contract.AgentSigned rt (sdk.pubkeyFromSecret b.draws.agentSecret) preimage
    (sdk.signAgentInvocation preimage b.draws.agentSecret)
  issuer : Contract.recoverEip191Address rt (b.jcs sdk) (sdk.signCredential (b.jcs sdk) b.userSecret) = .ok issuer
  credential : rt.parse (b.jcs sdk) = some (.obj ((b.credential sdk).document sdk))
  policy : IsString b.toAgentDid → IsString b.policyAction → rt.parse (Text.utf8 b.policyText) = some (.obj b.policyDocument)
  wire : Legible (b.wire sdk) → ∃ fs env, WireRead rt sdk b fs env
  illegible : ¬Legible (b.wire sdk) → rt.parse (b.wireBytes sdk) = none
  /-- `toISOString` has a date to write. -/
  date : b.now + 290 ≤ 8640000000000

/-- The contract's configuration at a time, with the bridge's issuer and tenant pinned. -/
def Build.config (b : Build) (issuer : List UInt8) (nowSecs : UInt64) : Contract.DelegationConfig :=
  ⟨some issuer, some b.tenantDid, nowSecs, 300, 120⟩

/-! ## The parts of a built input -/

/-- The envelope's fields, as texts. -/
def Build.envelopeFields (sdk : Sdk) (b : Build) : Contract.DelegationEnvelopeFields where
  credentialJcs := sdk.b64uEncodeBytes (b.envelope sdk).credentialJcs
  userSig := sdk.b64uEncodeBytes (b.envelope sdk).userSig
  nonce := sdk.b64uEncodeBytes (b.envelope sdk).nonce
  agentSig := sdk.b64uEncodeBytes (b.envelope sdk).agentSig
  requestHash := sdk.b64uEncodeBytes (b.envelope sdk).requestHash

/-- The call that the wire input asks for. -/
structure Sent (sdk : Sdk) (b : Build) (r : Contract.DelegateTaskInput) : Prop where
  target : (b.wire sdk).get? "to_agent_id" = some (.str r.toAgentId)
  action : (b.wire sdk).get? "action" = some (.str r.action) ∨ (Missing ((b.wire sdk).get? "action") ∧ r.action = [])
  envelope : r.delegationEnvelope = some (b.envelopeFields sdk)

/-- The parts that the bridge has built. -/
structure Built (rt : Runtime) (sdk : Sdk) (b : Build) (x : Parts) : Prop where
  input : Sent sdk b x.input
  envelope : x.envelope = b.envelopeFields sdk
  credBytes : x.credBytes = b.jcs sdk
  cred : x.cred = b.credentialBody sdk
  notBefore : (x.notBefore.toNat : ℤ) = b.now - 5
  notAfter : (x.notAfter.toNat : ℤ) = b.now + 290
  nonce : x.nonce = b.draws.nonce
  agentSig : x.agentSig = (b.envelope sdk).agentSig
  requestHash : x.requestHash = (b.envelope sdk).requestHash
  vcId : x.vcId = b.draws.vcId
  agentPubkey : x.agentPubkey = sdk.pubkeyFromSecret b.draws.agentSecret
  userSig : x.userSig = (b.envelope sdk).userSig
  policy : Contract.fromSlice rt Contract.AuthzPolicy.decode (Text.utf8 b.policyText) = .ok x.policy

theorem TextRead.text_iff {v : Option Json} {w : Option Js} (h : TextRead v w) (s : Str) :
    v = some (.str s) ↔ w = some (.str s) := by
  cases h with
  | absent => simp
  | undefined => simp
  | text t => simp
  | other hv hw _ => simp [hv s, hw s]

theorem TextRead.none_iff {v : Option Json} {w : Option Js} (h : TextRead v w) : v = none ↔ Missing w := by
  cases h with
  | other _ _ hu => simp [Missing, hu]
  | _ => simp [Missing]

section
variable {rt : Runtime} {sdk : Sdk} {b : Build} {issuer : List UInt8}

/-- The envelope is read field by field. -/
theorem decodeEnvelope {envelope : Dict} (h : Parsed (.obj envelope) (.obj (b.buildWireDelegationEnvelope sdk))) :
    Contract.DelegationEnvelopeFields.decode (.obj envelope) = .ok (b.envelopeFields sdk) := by
  have htext : ∀ k s, (b.buildWireDelegationEnvelope sdk).get? k = some (.str s) → envelope.get? k = some (.str s) := by
    intro k s hk
    rcases h.get? k with ⟨-, hnone⟩ | ⟨v, w, hv, hw, hp⟩
    · rw [hk] at hnone
      cases hnone
    · rw [hk] at hw
      cases hw
      cases hp
      exact hv
  refine decodeEnvelope_ok h.names_nodup.1 (htext _ _ ?_) (htext _ _ ?_) (htext _ _ ?_) (htext _ _ ?_) (htext _ _ ?_)
  all_goals simp [Build.buildWireDelegationEnvelope]

/-- The call that is decoded is the one that was sent. -/
theorem input_ok (h : Honest rt sdk b issuer) {r : Contract.DelegateTaskInput} :
    Contract.fromSlice rt Contract.DelegateTaskInput.decode (b.wireBytes sdk) = .ok r ↔
      Legible (b.wire sdk) ∧ Sent sdk b r := by
  unfold Contract.fromSlice
  by_cases hl : Legible (b.wire sdk)
  · obtain ⟨fs, env, hfs⟩ := h.wire hl
    have henv : (objFields fs).getOption "__delegation_envelope" Contract.DelegationEnvelopeFields.decode =
        .ok (some (b.envelopeFields sdk)) := by
      rw [Fields.getOption, values_eq hfs.nodup, hfs.envelope]
      simp [decodeEnvelope hfs.same, Except.map]
    rw [hfs.parse]
    dsimp only
    rw [decodeInput_ok hfs.nodup, hfs.target.text_iff, hfs.action.text_iff, hfs.action.none_iff, henv, Except.ok.injEq]
    constructor
    · rintro ⟨ht, ha, he⟩
      exact ⟨hl, ht, ha, he.symm⟩
    · rintro ⟨-, ht, ha, he⟩
      exact ⟨ht, ha, he.symm⟩
  · rw [h.illegible hl]
    simp [hl]

/-- The parts of a built input are the built ones. -/
theorem decodes_iff (h : Honest rt sdk b issuer) {x : Parts} :
    Decodes rt (b.wireBytes sdk) x ↔ Legible (b.wire sdk) ∧ Built rt sdk b x := by
  have hdate := h.date
  have hcred : Contract.fromSlice rt Contract.CredentialBody.decode (b.jcs sdk) = .ok (b.credentialBody sdk) := by
    rw [Contract.fromSlice, h.credential]
    exact decodeCredential
  have hlookup : lookup "adn_authorization_v1" (b.credentialBody sdk).metadata = some b.policyText := by
    simp [Build.credentialBody, lookup]
  have hbefore : ∀ u, Contract.parseU64 (Numerals.intText (b.now - 5)) = some u ↔ (u.toNat : ℤ) = b.now - 5 :=
    fun u => parseU64_intText (by omega)
  have hafter : ∀ u, Contract.parseU64 (Numerals.intText (b.now + 290)) = some u ↔ (u.toNat : ℤ) = b.now + 290 :=
    fun u => parseU64_intText (by omega)
  constructor
  · intro hx
    obtain ⟨hl, hsent⟩ := (input_ok h).1 hx.input
    have he : x.envelope = b.envelopeFields sdk := Option.some.inj (hx.envelope.symm.trans hsent.envelope)
    have hb64 : ∀ {s : Str} {bs bs' : List UInt8}, s = sdk.b64uEncodeBytes bs' → rt.base64 s = some bs → bs = bs' := by
      rintro s bs bs' rfl hs
      exact Option.some.inj (hs.symm.trans (h.base64 bs'))
    have hbytes : x.credBytes = b.jcs sdk := hb64 (by rw [he]; rfl) hx.credBytes
    have hc : x.cred = b.credentialBody sdk := by
      have := hx.cred
      rw [hbytes, hcred] at this
      exact (Except.ok.inj this).symm
    obtain ⟨policyStr, hp, hd⟩ := hx.policy
    rw [hc, hlookup] at hp
    cases hp
    refine ⟨hl, hsent, he, hbytes, hc, (hbefore _).1 ?_, (hafter _).1 ?_, hb64 ?_ hx.nonce, hb64 ?_ hx.agentSig,
      hb64 ?_ hx.requestHash, hb64 ?_ hx.vcId, hb64 ?_ hx.agentPubkey, hb64 ?_ hx.userSig, hd⟩
    · have := hx.notBefore
      rwa [hc] at this
    · have := hx.notAfter
      rwa [hc] at this
    all_goals first | (rw [he]; rfl) | (rw [hc]; rfl)
  · rintro ⟨hl, hx⟩
    constructor
    · exact (input_ok h).2 ⟨hl, hx.input⟩
    · rw [hx.input.envelope, hx.envelope]
    · rw [hx.envelope, hx.credBytes]
      exact h.base64 _
    · rw [hx.credBytes, hx.cred]
      exact hcred
    · rw [hx.cred]
      exact (hbefore _).2 hx.notBefore
    · rw [hx.cred]
      exact (hafter _).2 hx.notAfter
    · rw [hx.envelope, hx.nonce]
      exact h.base64 _
    · rw [hx.envelope, hx.agentSig]
      exact h.base64 _
    · rw [hx.envelope, hx.requestHash]
      exact h.base64 _
    · rw [hx.cred, hx.vcId]
      exact h.base64 _
    · rw [hx.cred, hx.agentPubkey]
      exact h.base64 _
    · rw [hx.envelope, hx.userSig]
      exact h.base64 _
    · exact ⟨b.policyText, by rw [hx.cred, hlookup], hx.policy⟩

/-! ## The calls that are accepted -/

/-- The calls on which policy, hash and wire input agree: `callParams` has an action, and no target but the
credential's own. The rest is asked of the texts and of the clock. -/
structure Acceptable (b : Build) : Prop where
  action : ∃ action, b.callParams.get? "action" = some (.str action) ∧ IsString action
  target : b.callParams.get? "to_agent_id" = none ∨ b.callParams.get? "to_agent_id" = some (.str b.toAgentDid)
  toAgentDid : IsString b.toAgentDid
  names : ∀ k v, b.callParams.get? k = some v → v ≠ .undefined → IsString k
  begins : 5 ≤ b.now
  ends : b.now + 290 ≤ Contract.maxTimestamp

/-- The wire input is legible if its parts are. -/
theorem legible_of (hnames : ∀ k v, b.callParams.get? k = some v → v ≠ .undefined → IsString k) (hdid : IsString b.toAgentDid)
    (ht : b.callParams.get? "to_agent_id" = none ∨ b.callParams.get? "to_agent_id" = some (.str b.toAgentDid))
    (ha : ∀ s, b.callParams.get? "action" = some (.str s) → IsString s) : Legible (b.wire sdk) := by
  constructor
  · intro k v hk hv
    rw [get?_wire] at hk
    split at hk
    · rename_i hname
      subst hname
      exact Release.isString_ofString _
    · rcases Option.or_eq_some_iff.1 hk with hk | ⟨-, hk⟩
      · exact hnames k v hk hv
      · -- the only other name is the target's
        have hm := Props.mem_of_get? hk
        rw [Props.ofList, List.map_cons, List.map_nil, List.mem_singleton] at hm
        cases hm
        exact Release.isString_ofString _
  · intro s hs
    rw [get?_wire_target] at hs
    rcases ht with ht | ht <;> (rw [ht] at hs; cases hs; exact hdid)
  · intro s hs
    rw [get?_wire_action] at hs
    exact ha s hs

theorem Acceptable.legible (h : Acceptable b) : Legible (b.wire sdk) := by
  obtain ⟨action, ha, hstring⟩ := h.action
  refine legible_of h.names h.toAgentDid h.target fun s hs => ?_
  rw [ha] at hs
  cases hs
  exact hstring

/-- The names of a legible input are those of `callParams` and two more. -/
theorem Legible.callParams (h : Legible (b.wire sdk)) {k : Str} {v : Js} (hk : b.callParams.get? k = some v)
    (hv : v ≠ .undefined) : IsString k := by
  by_cases hname : Str.ofString "__delegation_envelope" = k
  · subst hname
    exact Release.isString_ofString _
  · refine h.names k v ?_ hv
    rw [get?_wire, if_neg hname, hk]
    rfl

theorem decodePolicy (h : Honest rt sdk b issuer) (ht : IsString b.toAgentDid) (ha : IsString b.policyAction) :
    Contract.fromSlice rt Contract.AuthzPolicy.decode (Text.utf8 b.policyText) = .ok ⟨b.toAgentDid, [b.policyAction], 300⟩ := by
  have hfields : fields ["to_agent_id", "actions", "max_ttl_secs"] (.obj b.policyDocument) =
    .ok (objFields b.policyDocument) := rfl
  have hn : (b.policyDocument.map (·.1)).Nodup := by
    simp [Build.policyDocument, Dict.ofList]
  rw [Contract.fromSlice, h.policy ht ha]
  dsimp only
  unfold Contract.AuthzPolicy.decode
  rw [hfields, bind_ok]
  refine ⟨_, rfl, bind_ok.2 ⟨b.toAgentDid, (getOr_string hn).2 (.inl ?_), bind_ok.2 ⟨[b.policyAction], (getOr_ok hn).2 (.inl
    ⟨.arr [.str b.policyAction], ?_, rfl⟩), bind_ok.2 ⟨300, (getOr_ok hn).2 (.inl ⟨.int 300, ?_, rfl⟩), rfl⟩⟩⟩⟩
  all_goals simp [Build.policyDocument]

/-- The policy allows only the credential's target, and one action. -/
theorem acceptable_of_accepted {build : ProcessEnv} {nowSecs : UInt64} {out : Contract.DelegateTaskOutput}
    (h : Honest rt sdk b issuer)
    (haccepted : verifyDelegateTask rt build (b.wireBytes sdk) (b.config issuer nowSecs) = .ok out)
    (hrouted : out.routedTo = b.toAgentDid) : Acceptable b := by
  have hdate := h.date
  obtain ⟨x, signer, expiry, hx, -, ha, -, hexpiry, rfl⟩ := Contract.verifyDelegateTask_ok.1 haccepted
  obtain ⟨hl, hb⟩ := (decodes_iff h).1 hx
  have hto : x.input.toAgentId = b.toAgentDid := hrouted
  have htarget := hb.input.target
  rw [hto] at htarget
  have hdid : IsString b.toAgentDid := hl.target _ htarget
  have hbefore := hb.notBefore
  have hafter := hb.notAfter
  have hpolicy : IsString b.policyAction → x.policy = ⟨b.toAgentDid, [b.policyAction], 300⟩ := fun hs =>
    Except.ok.inj (hb.policy.symm.trans (decodePolicy h hdid hs))
  refine ⟨?_, ?_, hdid, fun k v => hl.callParams, by omega, ?_⟩
  · rcases hb.input.action with hs | ⟨hmissing, hempty⟩
    · exact ⟨x.input.action, by rwa [get?_wire_action] at hs, hl.action _ hs⟩
    · -- the policy allows `PROCESS_DATA`, and the call has the empty action
      have hdefault : b.policyAction = Str.ofString "PROCESS_DATA" := by
        rw [get?_wire_action] at hmissing
        rcases hmissing with hm | hm <;> simp [Build.policyAction, Props.get, hm, textOr]
      have haction := ha.policy.action
      rw [hpolicy (hdefault ▸ Release.isString_ofString _), hempty, hdefault, List.mem_singleton] at haction
      exact absurd haction (by decide)
  · rw [get?_wire_target, Option.or_eq_some_iff] at htarget
    rcases htarget with ht | ⟨ht, -⟩
    · exact .inr ht
    · exact .inl ht
  · have hbound := (Contract.epochToRfc3339_iff (by omega)).1 ⟨expiry, hexpiry⟩
    omega

/-- What is built for an acceptable call, for a window that is not negative. -/
def Build.parts (sdk : Sdk) (b : Build) (action : Str) : Parts where
  input := ⟨b.toAgentDid, action, some (b.envelopeFields sdk)⟩
  envelope := b.envelopeFields sdk
  credBytes := b.jcs sdk
  cred := b.credentialBody sdk
  notBefore := UInt64.ofNat (b.now - 5).toNat
  notAfter := UInt64.ofNat (b.now + 290).toNat
  nonce := b.draws.nonce
  agentSig := (b.envelope sdk).agentSig
  requestHash := (b.envelope sdk).requestHash
  vcId := b.draws.vcId
  agentPubkey := sdk.pubkeyFromSecret b.draws.agentSecret
  userSig := (b.envelope sdk).userSig
  policy := ⟨b.toAgentDid, [action], 300⟩

theorem toNat_ofNat_toNat {n : ℤ} (h : 0 ≤ n) (hlt : n < 2 ^ 64) : ((UInt64.ofNat n.toNat).toNat : ℤ) = n := by
  rw [UInt64.toNat_ofNat_of_lt' (by change n.toNat < 2 ^ 64; omega), Int.toNat_of_nonneg h]

theorem parts_built (h : Honest rt sdk b issuer) (hb : Acceptable b) {action : Str}
    (ha : b.callParams.get? "action" = some (.str action)) (hs : IsString action) :
    Built rt sdk b (b.parts sdk action) := by
  have hdate := h.date
  have hbegins := hb.begins
  have hpolicy : b.policyAction = action := by
    simp [Build.policyAction, Props.get, ha, textOr]
  have htarget : (b.wire sdk).get? "to_agent_id" = some (.str b.toAgentDid) := by
    rcases hb.target with ht | ht <;> simp [ht]
  refine ⟨⟨htarget, .inl (by rw [get?_wire_action]; exact ha), rfl⟩, rfl, rfl, rfl, ?_, ?_, rfl, rfl, rfl, rfl, rfl, rfl, ?_⟩
  · exact toNat_ofNat_toNat (by omega) (by omega)
  · exact toNat_ofNat_toNat (by omega) (by omega)
  · rw [decodePolicy h hb.toAgentDid (hpolicy ▸ hs), hpolicy]
    rfl

/-- The bridge hashes the request that the contract hashes. -/
theorem requestHash_eq (h : Honest rt sdk b issuer) (hb : Acceptable b) {action : Str}
    (ha : b.callParams.get? "action" = some (.str action)) :
    (b.envelope sdk).requestHash = (rt.sha256 (Contract.canonicalRequest rt b.toAgentDid action)).val := by
  have htarget : b.request.get "to_agent_id" = .str b.toAgentDid := by
    rcases hb.target with ht | ht <;> simp [Props.get, get?_request, ht]
  have haction : b.request.get "action" = .str action := by
    simp [Props.get, get?_request, ha]
  change sdk.sha256 (canonicalDelegateTaskRequestBytes b.request) = _
  rw [h.sha256, requestBytes_eq rt, htarget, haction]
  rfl

theorem parts_authorized (h : Honest rt sdk b issuer) (hb : Acceptable b) {action : Str}
    (ha : b.callParams.get? "action" = some (.str action)) (hs : IsString action) {nowSecs : UInt64}
    (hlo : b.now - 5 ≤ nowSecs.toNat) (hhi : nowSecs.toNat ≤ b.now + 290) :
    Authorized rt (b.config issuer nowSecs) (b.parts sdk action) issuer := by
  have hx := parts_built h hb ha hs
  have hbefore := hx.notBefore
  have hafter := hx.notAfter
  have hlength : (b.parts sdk action).notAfter.toNat - (b.parts sdk action).notBefore.toNat ≤ (300 : UInt64).toNat := by
    change _ ≤ 300
    omega
  constructor
  · rfl
  · rfl
  · rintro td ⟨⟩
    exact ⟨rfl, rfl⟩
  · exact ⟨by omega, hlength, by change _ ≤ nowSecs.toNat; omega, by change nowSecs.toNat ≤ _; omega⟩
  · exact List.mem_singleton.2 rfl
  · exact b.draws.vcId_length
  · exact b.draws.nonce_length
  · exact requestHash_eq h hb ha
  · have hsig := h.agent (sdk.buildInvocationPreimage b.draws.vcId b.draws.nonce (b.envelope sdk).requestHash)
    rw [h.preimage] at hsig
    change Contract.AgentSigned rt _ _ (sdk.signAgentInvocation (sdk.buildInvocationPreimage b.draws.vcId b.draws.nonce
      (b.envelope sdk).requestHash) b.draws.agentSecret)
    rw [h.preimage]
    exact hsig
  · exact h.issuer
  · rfl
  · exact ⟨rfl, List.mem_singleton.2 rfl, (by decide : 0 < (300 : UInt64).toNat), le_refl _, hlength⟩

theorem accepted_of_acceptable (h : Honest rt sdk b issuer) (hb : Acceptable b) (build : ProcessEnv) {nowSecs : UInt64}
    (hlo : b.now - 5 ≤ nowSecs.toNat) (hhi : nowSecs.toNat ≤ b.now + 290) :
    ∃ out, verifyDelegateTask rt build (b.wireBytes sdk) (b.config issuer nowSecs) = .ok out ∧
      out.routedTo = b.toAgentDid := by
  have hdate := h.date
  have hends := hb.ends
  obtain ⟨action, ha, hs⟩ := hb.action
  have hbuilt := parts_built h hb ha hs
  have hafter := hbuilt.notAfter
  have hx : Decodes rt (b.wireBytes sdk) (b.parts sdk action) := (decodes_iff h).2 ⟨hb.legible, hbuilt⟩
  have hauth := parts_authorized h hb ha hs hlo hhi
  have hclock : (b.config issuer nowSecs).nowSecs.toNat + (b.config issuer nowSecs).clockSkewSecs.toNat < 2 ^ 64 := by
    change nowSecs.toNat + 120 < 2 ^ 64
    omega
  have hbound : ((b.parts sdk action).notAfter.toNat : ℤ) ≤ Contract.maxTimestamp := by omega
  obtain ⟨expiry, hexpiry⟩ := (Contract.epochToRfc3339_iff (by omega)).2 hbound
  exact ⟨_, Contract.verifyDelegateTask_ok.2 ⟨_, issuer, _, hx, hx.filled h.base64_nil hauth, hauth,
    hauth.window.within_skew hclock, hexpiry, rfl⟩, rfl⟩

/-- While the credential's window is open, exactly the acceptable calls are accepted for the agent that the
envelope was built for. -/
theorem envelope_accepted_iff (h : Honest rt sdk b issuer) (build : ProcessEnv) {nowSecs : UInt64}
    (hlo : b.now - 5 ≤ nowSecs.toNat) (hhi : nowSecs.toNat ≤ b.now + 290) :
    (∃ out, verifyDelegateTask rt build (b.wireBytes sdk) (b.config issuer nowSecs) = .ok out ∧
      out.routedTo = b.toAgentDid) ↔ Acceptable b := by
  constructor
  · rintro ⟨out, hout, hrouted⟩
    exact acceptable_of_accepted h hout hrouted
  · intro hb
    exact accepted_of_acceptable h hb build hlo hhi

end

/-! ### A call without an action -/

namespace Sample

open Contract.Sample (firstBytes openSignature callRuntime signedVcId signedNonce length_openSignature)

def userSecret : List UInt8 := List.replicate 32 0x11
def agentSecret : List UInt8 := List.replicate 32 7

/-- A key that shows its secret. -/
def openKey (secret : List UInt8) : List UInt8 := 2 :: (firstBytes secret).val

def issuer : List UInt8 := (firstBytes (userSecret ++ userSecret)).val.drop 12

/-- An SDK with open signatures, before it writes credentials. -/
def encoders : Sdk where
  credentialJcs _ := []
  signCredential _ secret := secret ++ secret ++ [27]
  buildInvocationPreimage := Contract.buildPreimage
  signAgentInvocation preimage secret := openSignature (openKey secret) (firstBytes preimage)
  b64uEncodeBytes := Base64.encode
  pubkeyFromSecret := openKey
  sha256 bs := firstBytes bs
  toISOString _ := "1970-01-01T00:21:30.000Z"

def openSdk : Sdk := { encoders with credentialJcs := fun f => toVec (fun _ => []) (.obj (f.document encoders)) }

/-- `callParams` with an action, or without. -/
def paramsOf (action : Option Str) : Props := Props.ofList (action.toList.map fun a => ("action", .str a))

/-- The call, built at second 1000. -/
def buildOf (action : Option Str) : Build where
  tenantDid := "t"
  toAgentDid := "w"
  apiKey := List.replicate 64 0x31
  callParams := paramsOf action
  callParams_nodup := by cases action <;> simp [paramsOf, Props.ofList]
  now := 1000
  draws := ⟨agentSecret, signedVcId, signedNonce, rfl, rfl⟩

/-- An object of texts, read by Rust and by JavaScript. -/
theorem parsed_texts {ts : List (String × Str)} (hn : (ts.map (·.1)).Nodup) :
    Parsed (.obj (Dict.ofList (ts.map fun t => (t.1, .str t.2)))) (.obj (Props.ofList (ts.map fun t => (t.1, .str t.2)))) := by
  refine .obj ?_ ?_ ?_ (List.Perm.refl _)
  · simp [Dict.ofList, Props.ofList]
  · have hinj : Function.Injective Str.ofString := fun s t => Text.ofString_inj.1
    have hmap := hn.map hinj
    rw [List.map_map] at hmap
    rwa [Dict.ofList, List.map_map, List.map_map]
  · intro p hp
    rw [Dict.ofList, Props.ofList, List.map_map, List.map_map, List.zip_map'] at hp
    obtain ⟨t, -, rfl⟩ := List.mem_map.1 hp
    exact .str t.2

/-- The texts of the envelope. -/
def envelopeTexts (b : Build) : List (String × Str) :=
  [("credential_jcs", openSdk.b64uEncodeBytes (b.envelope openSdk).credentialJcs),
    ("user_sig", openSdk.b64uEncodeBytes (b.envelope openSdk).userSig),
    ("agent_sig", openSdk.b64uEncodeBytes (b.envelope openSdk).agentSig),
    ("nonce", openSdk.b64uEncodeBytes (b.envelope openSdk).nonce),
    ("request_hash", openSdk.b64uEncodeBytes (b.envelope openSdk).requestHash),
    ("authorization_expires_at", openSdk.toISOString ((b.now + 290) * 1000))]

def envelopeDocument (b : Build) : Dict := Dict.ofList ((envelopeTexts b).map fun t => (t.1, .str t.2))

def wireDocument (action : Option Str) : Dict := Dict.ofList (("to_agent_id", .str "w") ::
  action.toList.map (fun a => ("action", .str a)) ++ [("__delegation_envelope", .obj (envelopeDocument (buildOf action)))])

/-- A runtime that reads the three documents of this call. -/
def runtimeOf (action : Option Str) : Runtime :=
  let b := buildOf action
  { callRuntime with
    parse := fun bytes =>
      if bytes = b.wireBytes openSdk then some (.obj (wireDocument action))
      else if bytes = b.jcs openSdk then some (.obj ((b.credential openSdk).document openSdk))
      else if bytes = Text.utf8 b.policyText then some (.obj b.policyDocument)
      else none }

/-- The three documents differ in what they start with. -/
theorem documents_ne {action : Option Str} (h : action = none ∨ action = some (Str.ofString "A")) :
    (buildOf action).jcs openSdk ≠ (buildOf action).wireBytes openSdk ∧
      Text.utf8 (buildOf action).policyText ≠ (buildOf action).wireBytes openSdk ∧
      Text.utf8 (buildOf action).policyText ≠ (buildOf action).jcs openSdk := by
  rcases h with rfl | rfl
  · refine ⟨fun h => ?_, fun h => ?_, fun h => ?_⟩
    · have h3 := congrArg (·[2]?) h
      exact absurd h3 (by decide +kernel)
    · have h3 := congrArg (·[20]?) h
      exact absurd h3 (by decide +kernel)
    · have h3 := congrArg (·[2]?) h
      exact absurd h3 (by decide +kernel)
  · refine ⟨fun h => ?_, fun h => ?_, fun h => ?_⟩
    · have h3 := congrArg (·[2]?) h
      exact absurd h3 (by decide +kernel)
    · have h3 := congrArg (·[26]?) h
      exact absurd h3 (by decide +kernel)
    · have h3 := congrArg (·[2]?) h
      exact absurd h3 (by decide +kernel)

theorem get?_action (action : Option Str) : Dict.get? (wireDocument action) "action" = action.map .str ∧
    (buildOf action).callParams.get? "action" = action.map .str := by
  cases action <;> simp [wireDocument, buildOf, paramsOf]

theorem get?_target (action : Option Str) : Dict.get? (wireDocument action) "to_agent_id" = some (.str "w") ∧
    (buildOf action).callParams.get? "to_agent_id" = none := by
  cases action <;> simp [wireDocument, buildOf, paramsOf]

theorem wire_read (action : Option Str) :
    WireRead (runtimeOf action) openSdk (buildOf action) (wireDocument action) (envelopeDocument (buildOf action)) where
  parse := by simp [runtimeOf]
  nodup := by cases action <;> simp [wireDocument, Dict.ofList]
  target := by
    rw [(get?_target action).1, get?_wire_target, (get?_target action).2]
    exact .text _
  action := by
    rw [(get?_action action).1, get?_wire_action, (get?_action action).2]
    cases action with
    | none => exact .absent
    | some a => exact .text a
  envelope := by cases action <;> simp [wireDocument]
  same := by
    have hprops : (buildOf action).buildWireDelegationEnvelope openSdk =
        Props.ofList ((envelopeTexts (buildOf action)).map fun t => (t.1, .str t.2)) := by
      simp only [Build.buildWireDelegationEnvelope, envelopeTexts, List.map_cons, List.map_nil]
    rw [hprops]
    exact parsed_texts (by simp [envelopeTexts])

theorem names {action : Option Str} {k : Str} {v : Js} (hk : (buildOf action).callParams.get? k = some v) : IsString k := by
  have hm := Props.mem_of_get? hk
  cases action with
  | none => cases hm
  | some a =>
    cases List.mem_singleton.1 hm
    exact Release.isString_ofString _

theorem legible {action : Option Str} (h : action = none ∨ action = some (Str.ofString "A")) :
    Legible ((buildOf action).wire openSdk) := by
  refine legible_of (fun k v hk _ => names hk) (Release.isString_ofString _) (.inl (get?_target action).2) fun s hs => ?_
  rw [(get?_action action).2] at hs
  rcases h with rfl | rfl
  · cases hs
  · cases hs
    exact Release.isString_ofString _

/-- The assumptions hold of the two calls. -/
theorem honest {action : Option Str} (h : action = none ∨ action = some (Str.ofString "A")) :
    Honest (runtimeOf action) openSdk (buildOf action) issuer where
  sha256 _ := rfl
  preimage _ _ _ := rfl
  base64 := Base64.decode_encode
  base64_nil := rfl
  agent preimage :=
    { pubkey_length := by
        have hlen := (firstBytes agentSecret).property
        rw [show openSdk.pubkeyFromSecret (buildOf action).draws.agentSecret = 2 :: (firstBytes agentSecret).val from rfl,
          List.length_cons, hlen]
      sig_length := length_openSignature _ _
      isPublicKey := rfl
      isSignature := by
        have hlen := length_openSignature (openKey agentSecret) (firstBytes preimage)
        exact decide_eq_true hlen
      verified := decide_eq_true rfl }
  issuer := by
    have hsecret : Gateway.bufferFromHex (Contract.stripPrefix (List.replicate 64 0x31)) = userSecret := by decide
    rw [Build.userSecret, buildOf, hsecret]
    rfl
  credential := by
    obtain ⟨hw, -, -⟩ := documents_ne h
    simp [runtimeOf, hw]
  policy _ _ := by
    obtain ⟨-, hw, hj⟩ := documents_ne h
    simp [runtimeOf, hw, hj]
  wire _ := ⟨_, _, wire_read action⟩
  illegible := fun hl => absurd (legible h) hl
  date := by simp [buildOf]

/-- Without an action the credential allows `PROCESS_DATA`, and the call asks for none: it is refused. -/
theorem no_action_refused : Honest (runtimeOf none) openSdk (buildOf none) issuer ∧
    ¬∃ out, verifyDelegateTask (runtimeOf none) (fun _ => none) ((buildOf none).wireBytes openSdk)
      ((buildOf none).config issuer 1000) = .ok out ∧ out.routedTo = (buildOf none).toAgentDid := by
  refine ⟨honest (.inl rfl), ?_⟩
  rintro ⟨out, hout, hrouted⟩
  obtain ⟨action, ha, -⟩ := (acceptable_of_accepted (honest (.inl rfl)) hout hrouted).action
  rw [(get?_action none).2] at ha
  cases ha

/-- With an action it is accepted. -/
theorem action_accepted : ∃ out, verifyDelegateTask (runtimeOf (some "A")) (fun _ => none)
    ((buildOf (some "A")).wireBytes openSdk) ((buildOf (some "A")).config issuer 1000) = .ok out ∧ out.routedTo = "w" :=
  (envelope_accepted_iff (honest (.inr rfl)) _ (by decide) (by decide)).2
    { action := ⟨_, (get?_action _).2, Release.isString_ofString _⟩
      target := .inl (get?_target _).2
      toAgentDid := Release.isString_ofString _
      names := fun k v hk _ => names hk
      begins := by decide
      ends := by decide }

end Sample

end Adn.Bridge
