import Adn.ContractAuthority
import Adn.Lib.Base64
/-!
# The calls that the contract accepts

`verify_delegate_task` decodes an input step by step and checks each part as it
gets it. `Decodes` says what the parts of an input are and `Authorized` what they
must satisfy; `verifyDelegateTask_ok` says that the function accepts exactly such
inputs, and with which output.
-/

open Lib Lib.Serde

namespace Adn.Contract

section
variable (rt : Runtime)

/-! ## The parts of an input -/

/-- What is hashed of a call. -/
def canonicalRequest (toAgentId action : Str) : List UInt8 :=
  toVec rt.floatText (.obj (Dict.ofList [("to_agent_id", .str toAgentId), ("action", .str action)]))

structure Parts where
  input : DelegateTaskInput
  envelope : DelegationEnvelopeFields
  credBytes : List UInt8
  cred : CredentialBody
  notBefore : UInt64
  notAfter : UInt64
  nonce : List UInt8
  agentSig : List UInt8
  requestHash : List UInt8
  vcId : List UInt8
  agentPubkey : List UInt8
  userSig : List UInt8
  policy : AuthzPolicy

/-- The input has these parts. -/
structure Decodes (bytes : List UInt8) (x : Parts) : Prop where
  input : fromSlice rt DelegateTaskInput.decode bytes = .ok x.input
  envelope : x.input.delegationEnvelope = some x.envelope
  credBytes : rt.base64 x.envelope.credentialJcs = some x.credBytes
  cred : fromSlice rt CredentialBody.decode x.credBytes = .ok x.cred
  notBefore : parseU64 x.cred.notBeforeSecs = some x.notBefore
  notAfter : parseU64 x.cred.notAfterSecs = some x.notAfter
  nonce : rt.base64 x.envelope.nonce = some x.nonce
  agentSig : rt.base64 x.envelope.agentSig = some x.agentSig
  requestHash : rt.base64 x.envelope.requestHash = some x.requestHash
  vcId : rt.base64 x.cred.vcId = some x.vcId
  agentPubkey : rt.base64 x.cred.agentPubkey = some x.agentPubkey
  userSig : rt.base64 x.envelope.userSig = some x.userSig
  policy : ∃ policyStr, lookup "adn_authorization_v1" x.cred.metadata = some policyStr ∧
    fromSlice rt AuthzPolicy.decode (Text.utf8 policyStr) = .ok x.policy

/-- The six texts that may not be empty. -/
structure Parts.Filled (x : Parts) : Prop where
  vcId : x.cred.vcId ≠ []
  agentPubkey : x.cred.agentPubkey ≠ []
  nonce : x.envelope.nonce ≠ []
  agentSig : x.envelope.agentSig ≠ []
  requestHash : x.envelope.requestHash ≠ []
  userSig : x.envelope.userSig ≠ []

/-! ## What is asked of them -/

/-- The signature is the one of this key for the preimage. -/
structure AgentSigned (agentPubkey preimage agentSig : List UInt8) : Prop where
  pubkey_length : agentPubkey.length = 33
  sig_length : agentSig.length = 64
  isPublicKey : rt.isPublicKey agentPubkey = true
  isSignature : rt.isSignature agentSig = true
  verified : rt.verifyPrehash agentPubkey (rt.sha256 preimage) agentSig = true

/-- The credential opens at `now` for no longer than `maxTtlSecs`. -/
structure WindowOpen (cfg : DelegationConfig) (notBefore notAfter : UInt64) : Prop where
  ordered : notBefore.toNat < notAfter.toNat
  length : notAfter.toNat - notBefore.toNat ≤ cfg.maxTtlSecs.toNat
  begun : notBefore.toNat ≤ cfg.nowSecs.toNat
  unexpired : cfg.nowSecs.toNat ≤ notAfter.toNat

/-- The issuer's policy allows this target and action, for a window of this length. -/
structure PolicyAllows (cfg : DelegationConfig) (x : Parts) : Prop where
  target : x.policy.toAgentId = x.input.toAgentId
  action : x.input.action ∈ x.policy.actions
  maxTtl_pos : 0 < x.policy.maxTtlSecs.toNat
  maxTtl_le : x.policy.maxTtlSecs.toNat ≤ cfg.maxTtlSecs.toNat
  length : x.notAfter.toNat - x.notBefore.toNat ≤ x.policy.maxTtlSecs.toNat

/-- The parts authorize the call. -/
structure Authorized (cfg : DelegationConfig) (x : Parts) (signer : List UInt8) : Prop where
  domain : x.cred.v = "ot3.delegation/1"
  contract : x.cred.contract = "adn-processor"
  tenant : ∀ td, cfg.tenantDid = some td → x.cred.orgDid = td ∧ x.cred.userDid = td
  window : WindowOpen cfg x.notBefore x.notAfter
  function : Str.ofString "delegate-task" ∈ x.cred.functions
  vcId_length : x.vcId.length = 16
  nonce_length : x.nonce.length = 16
  requestHash : x.requestHash = (rt.sha256 (canonicalRequest rt x.input.toAgentId x.input.action)).val
  agentSig : AgentSigned rt x.agentPubkey (buildPreimage x.vcId x.nonce x.requestHash) x.agentSig
  userSig : recoverEip191Address rt x.credBytes x.userSig = .ok signer
  issuer : cfg.trustedIssuer = some signer
  policy : PolicyAllows cfg x

end

/-! ## One lemma for each check -/

section
variable {rt : Runtime}

theorem isEmpty_eq_false {s : Str} : isEmpty s = false ↔ s ≠ [] := by
  simp [isEmpty]

/-- A check that throws was not met by an accepted value. -/
theorem throw_ok {α : Type} {c : Prop} [Decidable c] {message : Str} {f : Unit → Except Str α} {x : Except Str α} {a : α} :
    (if c then throw message >>= f else x) = .ok a ↔ ¬c ∧ x = .ok a := by
  split <;> simp [*, throw, throwThe, MonadExceptOf.throw, bind, Except.bind]

theorem throw_last_ok {c : Prop} [Decidable c] {message : Str} {u : Unit} :
    (if c then throw message else pure () : Except Str Unit) = .ok u ↔ ¬c := by
  split <;> simp [*, throw, throwThe, MonadExceptOf.throw, pure, Except.pure]

theorem verifyAgentSig_ok {agentPubkey preimage agentSig : List UInt8} {u : Unit} :
    verifyAgentSig rt agentPubkey preimage agentSig = .ok u ↔ AgentSigned rt agentPubkey preimage agentSig := by
  unfold verifyAgentSig
  dsimp only
  rw [throw_ok, throw_ok, throw_ok, throw_ok, throw_last_ok]
  constructor
  · rintro ⟨hk, hs, hp, hg, hv⟩
    exact ⟨not_not.1 hk, not_not.1 hs, by simpa using hp, by simpa using hg, by simpa using hv⟩
  · rintro ⟨hk, hs, hp, hg, hv⟩
    exact ⟨not_not.2 hk, not_not.2 hs, by simpa using hp, by simpa using hg, by simpa using hv⟩

theorem checkCredential_ok {cfg : DelegationConfig} {cred : CredentialBody} {u : Unit} :
    checkCredential cfg cred = .ok u ↔ cred.v = "ot3.delegation/1" ∧ cred.contract = "adn-processor" ∧
      (∀ td, cfg.tenantDid = some td → cred.orgDid = td ∧ cred.userDid = td) ∧ cred.vcId ≠ [] ∧
      cred.agentPubkey ≠ [] := by
  unfold checkCredential
  cases hd : cfg.tenantDid with
  | none => simp [Outcome.bind_eq_ok, Outcome.refuseIf_eq_ok, isEmpty_eq_false]
  | some td => simp [Outcome.bind_eq_ok, Outcome.refuseIf_eq_ok, isEmpty_eq_false, and_assoc]

/-- In a window that is ordered the subtraction does not wrap around. -/
theorem sub_le_iff {a b m : UInt64} (h : a.toNat < b.toNat) : ¬m < b - a ↔ b.toNat - a.toNat ≤ m.toNat := by
  rw [UInt64.lt_iff_toNat_lt, UInt64.toNat_sub_of_le _ _ (UInt64.le_iff_toNat_le.2 h.le), not_lt]

theorem checkWindow_ok {cfg : DelegationConfig} {cred : CredentialBody} {w : UInt64 × UInt64} :
    checkWindow cfg cred = .ok w ↔ parseU64 cred.notBeforeSecs = some w.1 ∧ parseU64 cred.notAfterSecs = some w.2 ∧
      w.1 ≤ cfg.nowSecs + cfg.clockSkewSecs ∧ WindowOpen cfg w.1 w.2 := by
  obtain ⟨notBefore, notAfter⟩ := w
  unfold checkWindow
  simp only [Outcome.bind_eq_ok, Outcome.okOr_eq_ok, Outcome.refuseIf_eq_ok, exists_const, decide_eq_false_iff_not, ge_iff_le,
    gt_iff_lt]
  constructor
  · rintro ⟨a, ha, b, hb, hord, hlen, hskew, hbegun, hend, h⟩
    cases h
    have hlt : notBefore.toNat < notAfter.toNat := by simpa [UInt64.le_iff_toNat_le] using hord
    refine ⟨ha, hb, UInt64.not_lt.1 hskew, hlt, (sub_le_iff hlt).1 hlen, ?_, ?_⟩
    · simpa [UInt64.lt_iff_toNat_lt] using hbegun
    · simpa [UInt64.lt_iff_toNat_lt] using hend
  · rintro ⟨ha, hb, hskew, hlt, hlen, hbegun, hend⟩
    refine ⟨notBefore, ha, notAfter, hb, ?_, (sub_le_iff hlt).2 hlen, UInt64.not_lt.2 hskew, ?_, ?_, rfl⟩
    · simpa [UInt64.le_iff_toNat_le] using hlt
    · simpa [UInt64.lt_iff_toNat_lt] using hbegun
    · simpa [UInt64.lt_iff_toNat_lt] using hend

theorem checkInvocation_ok {r : DelegateTaskInput} {env : DelegationEnvelopeFields} {cred : CredentialBody}
    {i : Invocation} : checkInvocation rt r env cred = .ok i ↔
      (env.nonce ≠ [] ∧ rt.base64 env.nonce = some i.nonce ∧ i.nonce.length = 16) ∧
      (env.agentSig ≠ [] ∧ rt.base64 env.agentSig = some i.agentSig) ∧
      (env.requestHash ≠ [] ∧ rt.base64 env.requestHash = some i.requestHash ∧
        i.requestHash = (rt.sha256 (canonicalRequest rt r.toAgentId r.action)).val) ∧
      (rt.base64 cred.vcId = some i.vcId ∧ i.vcId.length = 16) ∧
      ∃ agentPubkey, rt.base64 cred.agentPubkey = some agentPubkey ∧
        AgentSigned rt agentPubkey (buildPreimage i.vcId i.nonce i.requestHash) i.agentSig := by
  obtain ⟨nonce, agentSig, requestHash, vcId⟩ := i
  unfold checkInvocation
  simp only [Outcome.bind_eq_ok, Outcome.okOr_eq_ok, Outcome.refuseIf_eq_ok, Outcome.ofExcept_eq_ok, exists_const,
    decide_eq_false_iff_not, isEmpty_eq_false, verifyAgentSig_ok, ne_eq, not_not]
  constructor
  · rintro ⟨hn, _, hnb, hnl, ha, _, hab, hr, _, hrb, -, hh, _, hvb, hvl, k, hk, hs, h⟩
    cases h
    exact ⟨⟨hn, hnb, hnl⟩, ⟨ha, hab⟩, ⟨hr, hrb, hh.symm⟩, ⟨hvb, hvl⟩, k, hk, hs⟩
  · rintro ⟨⟨hn, hnb, hnl⟩, ⟨ha, hab⟩, ⟨hr, hrb, hh⟩, ⟨hvb, hvl⟩, k, hk, hs⟩
    refine ⟨hn, nonce, hnb, hnl, ha, agentSig, hab, hr, requestHash, hrb, ?_, hh.symm, vcId, hvb, hvl, k, hk, hs, rfl⟩
    rw [hh]
    exact (rt.sha256 _).property

theorem mapErr_eq_ok {α : Type} {f : Str → Str} {x : Outcome α} {a : α} : x.mapErr f = .ok a ↔ x = .ok a := by
  cases x <;> simp [Outcome.mapErr]

theorem checkIssuer_ok {cfg : DelegationConfig} {env : DelegationEnvelopeFields} {credBytes signer : List UInt8} :
    checkIssuer rt cfg env credBytes = .ok signer ↔ env.userSig ≠ [] ∧
      ∃ userSig, rt.base64 env.userSig = some userSig ∧ recoverEip191Address rt credBytes userSig = .ok signer ∧
        cfg.trustedIssuer = some signer := by
  unfold checkIssuer
  simp only [Outcome.bind_eq_ok, Outcome.okOr_eq_ok, Outcome.refuseIf_eq_ok, mapErr_eq_ok, exists_const,
    decide_eq_false_iff_not, isEmpty_eq_false, ne_eq, not_not]
  constructor
  · rintro ⟨hne, userSig, hb, _, hrec, _, ht, rfl, h⟩
    cases h
    exact ⟨hne, userSig, hb, hrec, ht⟩
  · rintro ⟨hne, userSig, hb, hrec, ht⟩
    exact ⟨hne, userSig, hb, signer, hrec, signer, ht, rfl, rfl⟩

/-- The policy's checks, once it is decoded. -/
theorem checkPolicy_ok {cfg : DelegationConfig} {x : Parts} (hlt : x.notBefore.toNat < x.notAfter.toNat)
    {u : Unit} : checkPolicy rt cfg x.input x.cred x.notBefore x.notAfter = .ok u ↔
      ∃ policyStr policy, lookup "adn_authorization_v1" x.cred.metadata = some policyStr ∧
        fromSlice rt AuthzPolicy.decode (Text.utf8 policyStr) = .ok policy ∧
        PolicyAllows cfg { x with policy } := by
  unfold checkPolicy
  simp only [Outcome.bind_eq_ok, Outcome.okOr_eq_ok, Outcome.refuseIf_eq_ok, Outcome.ofExcept_eq_ok, exists_const,
    decide_eq_false_iff_not, ne_eq, not_not, not_or, gt_iff_lt, sub_le_iff hlt]
  constructor
  · rintro ⟨policyStr, hp, policy, hd, ht, ha, ⟨hpos, hle⟩, hlen⟩
    refine ⟨policyStr, policy, hp, hd, ht, ha, ?_, UInt64.le_iff_toNat_le.1 (UInt64.not_lt.1 hle), hlen⟩
    exact Nat.pos_of_ne_zero fun h => hpos (UInt64.toNat_inj.1 h)
  · rintro ⟨policyStr, policy, hp, hd, ht, ha, hpos, hle, hlen⟩
    refine ⟨policyStr, hp, policy, hd, ht, ha, ⟨?_, UInt64.not_lt.2 (UInt64.le_iff_toNat_le.2 hle)⟩, hlen⟩
    intro h
    rw [show policy.maxTtlSecs = 0 from h] at hpos
    exact absurd hpos (lt_irrefl 0)

theorem parseInput_ok {α : Type} {item : Decoder α} {bytes : List UInt8} {ctx : Str} {a : α} :
    parseInput rt item bytes ctx = .ok a ↔ fromSlice rt item bytes = .ok a := Outcome.ofExcept_eq_ok

/-- The first half of a digest. -/
theorem sliceDigest_ok {d : Digest} {id : List UInt8} : Outcome.slice d.val 0 16 = .ok id ↔ id = d.val.take 16 := by
  have hd := d.property
  rw [Outcome.slice_eq_ok, List.drop_zero]
  constructor
  · rintro ⟨-, rfl⟩
    rfl
  · rintro rfl
    exact ⟨⟨by omega, by omega⟩, rfl⟩

/-! ## What is accepted -/

/-- What `verify_delegate_task` returns for these parts. -/
def Parts.output (rt : Runtime) (build : ProcessEnv) (x : Parts) (signer : List UInt8) (expiry : Str) :
    DelegateTaskOutput where
  delegationId := Str.ofString "tee-del-" ++ Hex.hexLower ((rt.sha256 (x.vcId ++ x.nonce ++ x.requestHash)).val.take 16)
  status := "ROUTED"
  routedTo := x.input.toAgentId
  credentialEnforced := some true
  credentialFingerprint := some (Hex.hexLower (rt.sha256 x.credBytes))
  userSigner := some (Str.ofString "0x" ++ Hex.hexLower signer)
  buildConfigId := some (contractBuildConfigId (fun bs => rt.sha256 bs) build)
  authorizationExpiresAt := some expiry

/-- The inputs that are accepted, and the output. -/
theorem verifyDelegateTask_ok {build : ProcessEnv} {bytes : List UInt8} {cfg : DelegationConfig}
    {out : DelegateTaskOutput} : verifyDelegateTask rt build bytes cfg = .ok out ↔
      ∃ x signer expiry, Decodes rt bytes x ∧ x.Filled ∧ Authorized rt cfg x signer ∧
        x.notBefore ≤ cfg.nowSecs + cfg.clockSkewSecs ∧ epochToRfc3339 rt x.notAfter = .ok expiry ∧
        out = x.output rt build signer expiry := by
  unfold verifyDelegateTask
  simp only [Outcome.bind_eq_ok, parseInput_ok, Outcome.okOr_eq_ok, Outcome.ofExcept_eq_ok, Outcome.refuseIf_eq_ok,
    exists_const, checkCredential_ok, checkWindow_ok, checkInvocation_ok, checkIssuer_ok, sliceDigest_ok,
    decide_eq_false_iff_not, not_not, Prod.exists]
  constructor
  · rintro ⟨r, hr, env, henv, credBytes, hcb, cred, hcred, ⟨hv, hc, ht, hvne, hkne⟩, notBefore, notAfter,
      ⟨hb, ha, hskew, hw⟩, hf, ⟨nonce, agentSig, requestHash, vcId⟩,
      ⟨⟨hnne, hnb, hnl⟩, ⟨hane, hab⟩, ⟨hrne, hrb, hrh⟩, ⟨hvb, hvl⟩, agentPubkey, hkb, hsig⟩, signer,
      ⟨hune, userSig, hub, hrec, hiss⟩, _, hpol, _, rfl, expiry, hexp, h⟩
    cases h
    obtain ⟨policyStr, policy, hl, hd, hall⟩ := (checkPolicy_ok (x := ⟨r, env, credBytes, cred, notBefore, notAfter, nonce,
      agentSig, requestHash, vcId, agentPubkey, userSig, ⟨[], [], 0⟩⟩) hw.ordered).1 hpol
    exact ⟨⟨r, env, credBytes, cred, notBefore, notAfter, nonce, agentSig, requestHash, vcId, agentPubkey, userSig, policy⟩,
      signer, expiry, ⟨hr, henv, hcb, hcred, hb, ha, hnb, hab, hrb, hvb, hkb, hub, policyStr, hl, hd⟩,
      ⟨hvne, hkne, hnne, hane, hrne, hune⟩, ⟨hv, hc, ht, hw, hf, hvl, hnl, hrh, hsig, hrec, hiss, hall⟩, hskew, hexp, rfl⟩
  · rintro ⟨x, signer, expiry, hx, hne, ha, hskew, hexp, rfl⟩
    obtain ⟨policyStr, hl, hd⟩ := hx.policy
    exact ⟨x.input, hx.input, x.envelope, hx.envelope, x.credBytes, hx.credBytes, x.cred, hx.cred,
      ⟨ha.domain, ha.contract, ha.tenant, hne.vcId, hne.agentPubkey⟩, x.notBefore, x.notAfter,
      ⟨hx.notBefore, hx.notAfter, hskew, ha.window⟩, ha.function, ⟨x.nonce, x.agentSig, x.requestHash, x.vcId⟩,
      ⟨⟨hne.nonce, hx.nonce, ha.nonce_length⟩, ⟨hne.agentSig, hx.agentSig⟩, ⟨hne.requestHash, hx.requestHash, ha.requestHash⟩,
        ⟨hx.vcId, ha.vcId_length⟩, x.agentPubkey, hx.agentPubkey, ha.agentSig⟩, signer,
      ⟨hne.userSig, x.userSig, hx.userSig, ha.userSig, ha.issuer⟩,
      (), (checkPolicy_ok ha.window.ordered).2 ⟨policyStr, x.policy, hl, hd, ha.policy⟩, _, rfl, expiry, hexp, rfl⟩

/-- The parts of an input are its own. -/
theorem Decodes.unique {bytes : List UInt8} {x y : Parts} (hx : Decodes rt bytes x) (hy : Decodes rt bytes y) : x = y := by
  obtain ⟨input, envelope, credBytes, cred, notBefore, notAfter, nonce, agentSig, requestHash, vcId, agentPubkey, userSig,
    policy⟩ := x
  obtain ⟨h1, h2, h3, h4, h5, h6, h7, h8, h9, h10, h11, h12, policyStr, h13, h14⟩ := hx
  obtain ⟨g1, g2, g3, g4, g5, g6, g7, g8, g9, g10, g11, g12, policyStr', g13, g14⟩ := hy
  dsimp only at *
  obtain rfl := Except.ok.inj (h1.symm.trans g1)
  obtain rfl := Option.some.inj (h2.symm.trans g2)
  obtain rfl := Option.some.inj (h3.symm.trans g3)
  obtain rfl := Except.ok.inj (h4.symm.trans g4)
  obtain rfl := Option.some.inj (h13.symm.trans g13)
  obtain rfl := Except.ok.inj (h14.symm.trans g14)
  obtain rfl := Option.some.inj (h5.symm.trans g5)
  obtain rfl := Option.some.inj (h6.symm.trans g6)
  obtain rfl := Option.some.inj (h7.symm.trans g7)
  obtain rfl := Option.some.inj (h8.symm.trans g8)
  obtain rfl := Option.some.inj (h9.symm.trans g9)
  obtain rfl := Option.some.inj (h10.symm.trans g10)
  obtain rfl := Option.some.inj (h11.symm.trans g11)
  obtain rfl := Option.some.inj (h12.symm.trans g12)
  rfl

/-- The empty text has no bytes, so what has bytes is not empty. -/
theorem Decodes.filled {bytes : List UInt8} {cfg : DelegationConfig} {x : Parts} {signer : List UInt8}
    (hb : rt.base64 [] = some []) (hx : Decodes rt bytes x) (ha : Authorized rt cfg x signer) : x.Filled := by
  have hne : ∀ {s : Str} {bs : List UInt8}, rt.base64 s = some bs → 0 < bs.length → s ≠ [] := by
    rintro s bs hs hlen rfl
    rw [hb] at hs
    cases hs
    cases hlen
  constructor
  · exact hne hx.vcId (by rw [ha.vcId_length]; omega)
  · exact hne hx.agentPubkey (by rw [ha.agentSig.pubkey_length]; omega)
  · exact hne hx.nonce (by rw [ha.nonce_length]; omega)
  · exact hne hx.agentSig (by rw [ha.agentSig.sig_length]; omega)
  · exact hne hx.requestHash (by rw [ha.requestHash, (rt.sha256 _).property]; omega)
  · refine hne hx.userSig ?_
    have hlen : x.userSig.length = 65 := by
      obtain ⟨_, h, -⟩ := Outcome.bind_eq_ok.1 ha.userSig
      simpa [Outcome.refuseIf_eq_ok] using h
    omega

/-- A window that has begun has not begun too far in the future, if the clock does not overflow. -/
theorem WindowOpen.within_skew {cfg : DelegationConfig} {notBefore notAfter : UInt64} (h : WindowOpen cfg notBefore notAfter)
    (hclock : cfg.nowSecs.toNat + cfg.clockSkewSecs.toNat < 2 ^ 64) : notBefore ≤ cfg.nowSecs + cfg.clockSkewSecs := by
  have hb := h.begun
  rw [UInt64.le_iff_toNat_le, UInt64.toNat_add, Nat.mod_eq_of_lt hclock]
  omega

/-- A number below `2 ^ 63` is not negative as a signed one. -/
theorem toInt_toInt64 {u : UInt64} (h : u.toNat < 2 ^ 63) : u.toInt64.toInt = u.toNat := by
  have hu : 2 * u.toBitVec.toNat < 2 ^ 64 := by
    rw [UInt64.toNat_toBitVec]
    omega
  exact BitVec.toInt_eq_toNat_of_lt hu

/-- The expiry is written up to the end of the year 9999. -/
theorem epochToRfc3339_iff {u : UInt64} (h : u.toNat < 2 ^ 63) :
    (∃ expiry, epochToRfc3339 rt u = .ok expiry) ↔ (u.toNat : ℤ) ≤ maxTimestamp := by
  rw [epochToRfc3339, toInt_toInt64 h]
  unfold minTimestamp yearZero
  by_cases hlate : maxTimestamp < (u.toNat : ℤ)
  · rw [if_pos (.inr hlate)]
    exact iff_of_false (by simp) (not_le.2 hlate)
  · rw [if_neg (by omega), if_neg (by omega)]
    exact iff_of_true ⟨_, rfl⟩ (not_lt.1 hlate)

/-- Exactly the authorized calls are accepted. -/
theorem accepts_iff_authorized {build : ProcessEnv} {bytes : List UInt8} {cfg : DelegationConfig}
    (hb : rt.base64 [] = some []) (hclock : cfg.nowSecs.toNat + cfg.clockSkewSecs.toNat < 2 ^ 64)
    (hexpiry : ∀ x, Decodes rt bytes x → ∃ expiry, epochToRfc3339 rt x.notAfter = .ok expiry) :
    (∃ out, verifyDelegateTask rt build bytes cfg = .ok out) ↔
      ∃ x signer, Decodes rt bytes x ∧ Authorized rt cfg x signer := by
  constructor
  · rintro ⟨out, h⟩
    obtain ⟨x, signer, _, hx, -, ha, -⟩ := verifyDelegateTask_ok.1 h
    exact ⟨x, signer, hx, ha⟩
  · rintro ⟨x, signer, hx, ha⟩
    obtain ⟨expiry, hexp⟩ := hexpiry x hx
    exact ⟨_, verifyDelegateTask_ok.2 ⟨x, signer, expiry, hx, hx.filled hb ha, ha, ha.window.within_skew hclock, hexp, rfl⟩⟩

end

/-! ### A call that is accepted -/

namespace Sample

/-- The first 32 bytes. -/
def firstBytes (bs : List UInt8) : Digest :=
  ⟨(bs ++ List.replicate 32 0).take 32, by simp⟩

/-- A signature that shows its key: 64 bytes from the key and the digest. -/
def openSignature (key digest : List UInt8) : List UInt8 := (key ++ digest ++ List.replicate 64 0).take 64

theorem length_openSignature (key digest : List UInt8) : (openSignature key digest).length = 64 := by
  rw [openSignature, List.length_take, List.length_append, List.length_replicate]
  omega

/-- The point of a signature that is the key, twice. -/
def openPoint (sig : List UInt8) : Option Point :=
  if h : sig.length = 64 then some ⟨0x04 :: sig, by rw [List.length_cons, h]⟩ else none

def issuerSecret : List UInt8 := List.replicate 32 9
def agentKey : List UInt8 := 2 :: List.replicate 32 7

def issuer : List UInt8 := ((firstBytes (issuerSecret ++ issuerSecret)).val.drop 12)

def signedVcId : List UInt8 := List.replicate 16 1
def signedNonce : List UInt8 := List.replicate 16 2

def policyDocument : Json := .obj (Dict.ofList [("to_agent_id", .str "w"), ("actions", .arr [.str "A"]),
  ("max_ttl_secs", .int 300)])

def policyText : Str := Serde.text (fun _ => []) policyDocument

def credentialDocument : Json := .obj (Dict.ofList [("v", .str "ot3.delegation/1"), ("contract", .str "adn-processor"),
  ("functions", .arr [.str "delegate-task"]), ("not_before_secs", .str "100"), ("not_after_secs", .str "300"),
  ("vc_id", .str (Base64.encode signedVcId)), ("agent_pubkey", .str (Base64.encode agentKey)), ("user_did", .str "t"),
  ("org_did", .str "t"), ("metadata", .obj (Dict.ofList [("adn_authorization_v1", .str policyText)]))])

def credentialBytes : List UInt8 := toVec (fun _ => []) credentialDocument

def requestDigest : Digest := firstBytes (toVec (fun _ => [])
  (.obj (Dict.ofList [("to_agent_id", .str "w"), ("action", .str "A")])))

def invocationSig : List UInt8 :=
  openSignature agentKey (firstBytes (buildPreimage signedVcId signedNonce requestDigest.val))

def issuerSig : List UInt8 := issuerSecret ++ issuerSecret ++ [27]

def envelopeDocument : Dict := Dict.ofList [("credential_jcs", .str (Base64.encode credentialBytes)),
  ("user_sig", .str (Base64.encode issuerSig)), ("nonce", .str (Base64.encode signedNonce)),
  ("agent_sig", .str (Base64.encode invocationSig)), ("request_hash", .str (Base64.encode requestDigest.val))]

def callDocument : Json := .obj (Dict.ofList [("to_agent_id", .str "w"), ("action", .str "A"),
  ("__delegation_envelope", .obj envelopeDocument)])

def callBytes : List UInt8 := toVec (fun _ => []) callDocument

/-- A runtime that reads the three documents, and whose signatures are the open ones. -/
def callRuntime : Runtime where
  sha256 := firstBytes
  keccak256 := firstBytes
  rnd := .finite
  floatText _ := []
  parse bytes := if bytes = callBytes then some callDocument else if bytes = credentialBytes then some credentialDocument
    else if bytes = Text.utf8 policyText then some policyDocument else none
  serdeText _ _ := []
  base64 := Base64.decode
  isPublicKey key := key.length = 33
  isSignature sig := sig.length = 64
  verifyPrehash key digest sig := sig = openSignature key digest
  recoverFromPrehash _ sig _ := openPoint sig
  rfc3339 _ := []
  debugText s := s

/-- The contract's configuration at a time. -/
def configAt (nowSecs : UInt64) : DelegationConfig := ⟨some issuer, some "t", nowSecs, 300, 120⟩

def callParts : Parts where
  input := ⟨"w", "A", some ⟨Base64.encode credentialBytes, Base64.encode issuerSig, Base64.encode signedNonce,
    Base64.encode invocationSig, Base64.encode requestDigest.val⟩⟩
  envelope := ⟨Base64.encode credentialBytes, Base64.encode issuerSig, Base64.encode signedNonce,
    Base64.encode invocationSig, Base64.encode requestDigest.val⟩
  credBytes := credentialBytes
  cred := ⟨"ot3.delegation/1", [Str.ofString "delegate-task"], "100", "300", Base64.encode signedVcId, Base64.encode agentKey,
    "t", "t", "adn-processor", [(Str.ofString "adn_authorization_v1", policyText)]⟩
  notBefore := 100
  notAfter := 300
  nonce := signedNonce
  agentSig := invocationSig
  requestHash := requestDigest.val
  vcId := signedVcId
  agentPubkey := agentKey
  userSig := issuerSig
  policy := ⟨"w", [Str.ofString "A"], 300⟩

theorem credential_ne_call : credentialBytes ≠ callBytes := by
  intro h
  have h3 := congrArg (·[2]?) h
  exact absurd h3 (by decide +kernel)

theorem policy_ne : Text.utf8 policyText ≠ callBytes ∧ Text.utf8 policyText ≠ credentialBytes := by
  constructor
  · intro h
    have h3 := congrArg (·[26]?) h
    exact absurd h3 (by decide +kernel)
  · intro h
    have h3 := congrArg (·[2]?) h
    exact absurd h3 (by decide +kernel)

theorem call_decodes : Decodes callRuntime callBytes callParts where
  input := by
    have hp : callRuntime.parse callBytes = some callDocument := by simp [callRuntime]
    rw [fromSlice, hp]
    rfl
  envelope := rfl
  credBytes := Base64.decode_encode _
  cred := by
    have hp : callRuntime.parse credentialBytes = some credentialDocument := by simp [callRuntime, credential_ne_call]
    rw [fromSlice, callParts, hp]
    rfl
  notBefore := by decide +kernel
  notAfter := by decide +kernel
  nonce := Base64.decode_encode _
  agentSig := Base64.decode_encode _
  requestHash := Base64.decode_encode _
  vcId := Base64.decode_encode _
  agentPubkey := Base64.decode_encode _
  userSig := Base64.decode_encode _
  policy := by
    have hp : callRuntime.parse (Text.utf8 policyText) = some policyDocument := by
      simp [callRuntime, policy_ne.1, policy_ne.2]
    refine ⟨policyText, by simp [callParts, lookup], ?_⟩
    rw [fromSlice, hp]
    rfl

theorem issuer_recovered : recoverEip191Address callRuntime credentialBytes issuerSig = .ok issuer := by
  rfl

/-- The call is authorized throughout the credential's window. -/
theorem call_authorized {nowSecs : UInt64} (hb : 100 ≤ nowSecs.toNat) (ha : nowSecs.toNat ≤ 300) :
    Authorized callRuntime (configAt nowSecs) callParts issuer where
  domain := rfl
  contract := rfl
  tenant := by
    rintro td ⟨⟩
    exact ⟨rfl, rfl⟩
  window := ⟨by decide, by simp [callParts, configAt], hb, ha⟩
  function := by simp [callParts]
  vcId_length := rfl
  nonce_length := rfl
  requestHash := rfl
  agentSig :=
    { pubkey_length := rfl
      sig_length := length_openSignature _ _
      isPublicKey := rfl
      isSignature := by simp [callRuntime, callParts, invocationSig, length_openSignature]
      verified := by simp [callRuntime, callParts, invocationSig] }
  userSig := issuer_recovered
  issuer := rfl
  policy := ⟨rfl, by simp [callParts], by decide, le_refl 300, by decide⟩

/-- The call is accepted. -/
theorem call_accepted : ∃ out, verifyDelegateTask callRuntime (fun _ => none) callBytes (configAt 200) = .ok out :=
  (accepts_iff_authorized (by rfl) (by decide) fun x hx => by
    obtain rfl := call_decodes.unique hx
    exact ⟨[], rfl⟩).2 ⟨callParts, issuer, call_decodes, call_authorized (by decide) (by decide)⟩

end Sample

end Adn.Contract
