import Adn.ContractExports
import Adn.ContractAcceptance
/-!
# Times in the contract

The window of a credential is compared with the clock four times. `skewHonoured_iff`:
the tolerance of one comparison is undone by the next. `verifyDelegateTask_checked`:
no sum or difference of times wraps around, since each comparison bounds the next.
-/

open Lib Lib.Serde

namespace Adn.Contract

/-! ## Arithmetic with overflow checks -/

section
variable (rt : Runtime)

/-- `checkWindow`, in a build that checks for overflow -/
def checkWindowChecked (cfg : DelegationConfig) (cred : CredentialBody) : Outcome (UInt64 × UInt64) := do
  let notBefore ← Outcome.okOr (parseU64 cred.notBeforeSecs) (task "invalid not_before_secs")
  let notAfter ← Outcome.okOr (parseU64 cred.notAfterSecs) (task "invalid not_after_secs")
  Outcome.refuseIf (notBefore ≥ notAfter) (task "credential window invalid (not_before >= not_after)")
  let length ← Outcome.checkedSub notAfter notBefore
  Outcome.refuseIf (length > cfg.maxTtlSecs)
    (task "credential TTL exceeds maximum " ++ u64Text cfg.maxTtlSecs ++ Str.ofString "s")
  let latest ← Outcome.checkedAdd cfg.nowSecs cfg.clockSkewSecs
  Outcome.refuseIf (notBefore > latest) (task "credential not_before is too far in the future")
  Outcome.refuseIf (cfg.nowSecs < notBefore) (task "credential not yet valid")
  Outcome.refuseIf (cfg.nowSecs > notAfter) (task "credential expired (expired epoch " ++ u64Text notAfter ++
    Str.ofString ", now " ++ u64Text cfg.nowSecs ++ Str.ofString ")")
  return (notBefore, notAfter)

/-- `checkPolicy`, in such a build -/
def checkPolicyChecked (cfg : DelegationConfig) (r : DelegateTaskInput) (cred : CredentialBody)
    (notBefore notAfter : UInt64) : Outcome Unit := do
  let policyStr ← Outcome.okOr (lookup "adn_authorization_v1" cred.metadata)
    (task "missing adn_authorization_v1 policy in credential")
  let bytes := Text.utf8 policyStr
  let policy ← Outcome.ofExcept (fun e => task "invalid authorization policy: " ++ rt.serdeText bytes e)
    (fromSlice rt AuthzPolicy.decode bytes)
  Outcome.refuseIf (policy.toAgentId ≠ r.toAgentId) (task "target not authorized by credential policy")
  Outcome.refuseIf (r.action ∉ policy.actions) (task "action not authorized by credential policy")
  Outcome.refuseIf (policy.maxTtlSecs = 0 ∨ policy.maxTtlSecs > cfg.maxTtlSecs)
    (task "policy max_ttl_secs must be in 1..=" ++ u64Text cfg.maxTtlSecs)
  let length ← Outcome.checkedSub notAfter notBefore
  Outcome.refuseIf (length > policy.maxTtlSecs) (task "credential TTL exceeds policy maximum")

/-- `verify_delegate_task`, in such a build: the two checks are the only ones with sums or differences -/
def verifyDelegateTaskChecked (build : ProcessEnv) (bytes : List UInt8) (cfg : DelegationConfig) :
    Outcome DelegateTaskOutput := do
  let r ← parseInput rt DelegateTaskInput.decode bytes "delegate-task"
  let env ← Outcome.okOr r.delegationEnvelope
    (task "__delegation_envelope required — unauthenticated delegation is not permitted")
  let credBytes ← Outcome.okOr (rt.base64 env.credentialJcs) (task "invalid credential_jcs encoding")
  let cred ← Outcome.ofExcept (fun e => task "invalid credential body: " ++ rt.serdeText credBytes e)
    (fromSlice rt CredentialBody.decode credBytes)
  checkCredential cfg cred
  let (notBefore, notAfter) ← checkWindowChecked cfg cred
  Outcome.refuseIf (Str.ofString "delegate-task" ∉ cred.functions) (task "function not in delegated scope")
  let i ← checkInvocation rt r env cred
  let signer ← checkIssuer rt cfg env credBytes
  checkPolicyChecked rt cfg r cred notBefore notAfter
  let idDigest := rt.sha256 (i.vcId ++ i.nonce ++ i.requestHash)
  let id ← Outcome.slice idDigest.val 0 16
  let expiry ← Outcome.ofExcept (fun e => e) (epochToRfc3339 rt notAfter)
  return {
    delegationId := Str.ofString "tee-del-" ++ Hex.hexLower id
    status := "ROUTED"
    routedTo := r.toAgentId
    credentialEnforced := some true
    credentialFingerprint := some (Hex.hexLower (rt.sha256 credBytes))
    userSigner := some (Str.ofString "0x" ++ Hex.hexLower signer)
    buildConfigId := some (contractBuildConfigId (fun bs => rt.sha256 bs) build)
    authorizationExpiresAt := some expiry }

end

section
variable {rt : Runtime} {cfg : DelegationConfig}

/-- The window is ordered before its length is taken. -/
theorem checkWindow_checked (hclock : cfg.nowSecs.toNat + cfg.clockSkewSecs.toNat < 2 ^ 64) (cred : CredentialBody) :
    checkWindowChecked cfg cred = checkWindow cfg cred := by
  unfold checkWindowChecked checkWindow
  refine Outcome.bind_congr fun notBefore _ => ?_
  refine Outcome.bind_congr fun notAfter _ => ?_
  refine Outcome.bind_congr fun _ hordered => ?_
  have hle : notBefore.toNat ≤ notAfter.toNat := by
    have hlt := of_decide_eq_false (Outcome.refuseIf_eq_ok.1 hordered)
    rw [ge_iff_le, UInt64.le_iff_toNat_le] at hlt
    omega
  rw [Outcome.checkedSub_of_le hle, Outcome.checkedAdd_of_lt hclock]
  rfl

theorem checkPolicy_checked {notBefore notAfter : UInt64} (h : notBefore.toNat ≤ notAfter.toNat) (r : DelegateTaskInput)
    (cred : CredentialBody) :
    checkPolicyChecked rt cfg r cred notBefore notAfter = checkPolicy rt cfg r cred notBefore notAfter := by
  unfold checkPolicyChecked checkPolicy
  rw [Outcome.checkedSub_of_le h]
  rfl

/-- As long as the clock with its tolerance is a number of 64 bits, nothing overflows. -/
theorem verifyDelegateTask_checked (hclock : cfg.nowSecs.toNat + cfg.clockSkewSecs.toNat < 2 ^ 64) (build : ProcessEnv)
    (bytes : List UInt8) : verifyDelegateTaskChecked rt build bytes cfg = verifyDelegateTask rt build bytes cfg := by
  unfold verifyDelegateTaskChecked verifyDelegateTask
  refine Outcome.bind_congr fun r _ => ?_
  refine Outcome.bind_congr fun env _ => ?_
  refine Outcome.bind_congr fun credBytes _ => ?_
  refine Outcome.bind_congr fun cred _ => ?_
  refine Outcome.bind_congr fun _ _ => ?_
  rw [checkWindow_checked hclock]
  refine Outcome.bind_congr fun window hwindow => ?_
  have hordered := (checkWindow_ok.1 hwindow).2.2.2.ordered
  refine Outcome.bind_congr fun _ _ => ?_
  refine Outcome.bind_congr fun i _ => ?_
  refine Outcome.bind_congr fun signer _ => ?_
  rw [checkPolicy_checked hordered.le]

/-- With the configuration of `delegate-task`, at any time up to 300 seconds before the end of the year 9999, no sum
or difference of times overflows, and the expiry of a call that has passed every check can be written. -/
theorem times_do_not_overflow (hmax : cfg.maxTtlSecs = 300) (hskew : cfg.clockSkewSecs = 120)
    (hnow : cfg.nowSecs.toNat ≤ 253402300499) (build : ProcessEnv) (bytes : List UInt8) :
    verifyDelegateTaskChecked rt build bytes cfg = verifyDelegateTask rt build bytes cfg ∧
      verifyDelegateTaskChecked rt build bytes cfg ≠ .panic ∧
      ∀ x signer, Decodes rt bytes x → x.Filled → Authorized rt cfg x signer →
        x.notBefore ≤ cfg.nowSecs + cfg.clockSkewSecs → ∃ expiry, epochToRfc3339 rt x.notAfter = .ok expiry := by
  have hskewNat : cfg.clockSkewSecs.toNat = 120 := by rw [hskew]; rfl
  have hmaxNat : cfg.maxTtlSecs.toNat = 300 := by rw [hmax]; rfl
  have hchecked : verifyDelegateTaskChecked rt build bytes cfg = verifyDelegateTask rt build bytes cfg := by
    apply verifyDelegateTask_checked
    omega
  refine ⟨hchecked, ?_, ?_⟩
  · rw [hchecked]
    exact verifyDelegateTask_runs build bytes cfg
  · intro x signer _ _ ha _
    have hlength := ha.window.length
    have hbegun := ha.window.begun
    have hlast : x.notAfter.toNat ≤ 253402300799 := by omega
    rw [epochToRfc3339_iff (by omega)]
    unfold maxTimestamp
    omega

/-! ## The tolerance -/

/-- The call is accepted at this time. -/
def AcceptedAt (rt : Runtime) (build : ProcessEnv) (bytes : List UInt8) (cfg : DelegationConfig) (nowSecs : UInt64) : Prop :=
  ∃ out, verifyDelegateTask rt build bytes { cfg with nowSecs } = .ok out

/-- Before the window begins, no call is accepted. -/
theorem AcceptedAt.begun {build : ProcessEnv} {bytes : List UInt8} {nowSecs : UInt64} {x : Parts}
    (h : AcceptedAt rt build bytes cfg nowSecs) (hx : Decodes rt bytes x) : x.notBefore.toNat ≤ nowSecs.toNat := by
  obtain ⟨out, hout⟩ := h
  obtain ⟨x', signer, expiry, hx', -, ha, -⟩ := verifyDelegateTask_ok.1 hout
  obtain rfl := hx.unique hx'
  exact ha.window.begun

/-- A call that is accepted at some time is accepted before its window too, as far as the tolerance reaches and no
further. -/
structure SkewHonoured (rt : Runtime) (build : ProcessEnv) (bytes : List UInt8) (cfg : DelegationConfig)
    (notBefore : UInt64) : Prop where
  accepts : ∀ inside, AcceptedAt rt build bytes cfg inside → ∀ nowSecs : UInt64,
    notBefore.toNat ≤ nowSecs.toNat + cfg.clockSkewSecs.toNat → nowSecs.toNat < notBefore.toNat →
    AcceptedAt rt build bytes cfg nowSecs
  refuses : ∀ nowSecs : UInt64, nowSecs.toNat + cfg.clockSkewSecs.toNat < notBefore.toNat →
    ¬AcceptedAt rt build bytes cfg nowSecs

/-- The tolerance is honoured only where there is no time for it to reach. -/
theorem skewHonoured_iff {build : ProcessEnv} {bytes : List UInt8} {inside : UInt64} {x : Parts}
    (h : AcceptedAt rt build bytes cfg inside) (hx : Decodes rt bytes x) :
    SkewHonoured rt build bytes cfg x.notBefore ↔ cfg.clockSkewSecs = 0 ∨ x.notBefore = 0 := by
  constructor
  · intro hhonoured
    by_contra hnot
    rw [not_or] at hnot
    obtain ⟨hskew, hbefore⟩ := hnot
    have hskewPos : 0 < cfg.clockSkewSecs.toNat := Nat.pos_of_ne_zero fun hz => hskew (UInt64.toNat_inj.1 hz)
    have hbeforePos : 0 < x.notBefore.toNat := Nat.pos_of_ne_zero fun hz => hbefore (UInt64.toNat_inj.1 hz)
    -- one second before the window
    have hlt := x.notBefore.toNat_lt
    have htoNat : (UInt64.ofNat (x.notBefore.toNat - 1)).toNat = x.notBefore.toNat - 1 :=
      UInt64.toNat_ofNat_of_lt' (by change _ < 2 ^ 64; omega)
    have hbegun := (hhonoured.accepts inside h (.ofNat (x.notBefore.toNat - 1)) (by omega) (by omega)).begun hx
    omega
  · intro hnone
    -- no time is both before the window and within the tolerance
    have hreach : cfg.clockSkewSecs.toNat = 0 ∨ x.notBefore.toNat = 0 := by
      rcases hnone with hz | hz
      · exact .inl (by rw [hz]; rfl)
      · exact .inr (by rw [hz]; rfl)
    constructor
    · intro _ _ t ht hlt
      omega
    · intro t ht haccepted
      have hbegun := haccepted.begun hx
      omega

end

/-! ### A call one second early -/

namespace Sample

/-- The sample call is accepted throughout its window. -/
theorem call_inside {nowSecs : UInt64} (hb : 100 ≤ nowSecs.toNat) (ha : nowSecs.toNat ≤ 300) :
    AcceptedAt callRuntime (fun _ => none) callBytes (configAt 0) nowSecs := by
  have hauth := call_authorized hb ha
  have hclock : (configAt nowSecs).nowSecs.toNat + (configAt nowSecs).clockSkewSecs.toNat < 2 ^ 64 := by
    change nowSecs.toNat + 120 < 2 ^ 64
    omega
  exact ⟨_, verifyDelegateTask_ok.2 ⟨callParts, issuer, [], call_decodes, call_decodes.filled rfl hauth, hauth,
    hauth.window.within_skew hclock, rfl, rfl⟩⟩

/-- One second before the window, with a tolerance of 120 seconds, the call is refused. -/
theorem early_call_refused : AcceptedAt callRuntime (fun _ => none) callBytes (configAt 0) 200 ∧
    callParts.notBefore.toNat ≤ (99 : UInt64).toNat + (configAt 0).clockSkewSecs.toNat ∧
    ¬AcceptedAt callRuntime (fun _ => none) callBytes (configAt 0) 99 := by
  refine ⟨call_inside (by decide) (by decide), by decide, ?_⟩
  intro h
  exact absurd (h.begun call_decodes) (by decide)

theorem call_skew_ignored : ¬SkewHonoured callRuntime (fun _ => none) callBytes (configAt 0) callParts.notBefore := by
  have hinside : AcceptedAt callRuntime (fun _ => none) callBytes (configAt 0) 200 := call_inside (by decide) (by decide)
  rw [skewHonoured_iff hinside call_decodes]
  decide

/-- The call is accepted with overflow checks too. -/
theorem call_checked : ∃ out, verifyDelegateTaskChecked callRuntime (fun _ => none) callBytes (configAt 200) = .ok out := by
  rw [(times_do_not_overflow rfl rfl (by decide) (fun _ => none) callBytes).1]
  exact call_inside (by decide) (by decide)

end Sample

end Adn.Contract
