import Adn.BuildConfig
import Adn.Lib.Serde
import Adn.Lib.Trap
/-!
# Delegated authority in the contract

`verify_delegate_task` and what it calls: the address parser, the two signature
checks and the formatted expiry. Third-party code is a `Runtime`. The build is
optimised, so that `u64` arithmetic wraps around.
-/

open Lib Lib.Serde

namespace Adn.Contract

/-! ## What the contract runs on -/

/-- A 32-byte hash. -/
abbrev Digest := {d : List UInt8 // d.length = 32}

/-- An uncompressed curve point. -/
abbrev Point := {d : List UInt8 // d.length = 65}

/-- The crates, and the parts of the standard library that are tables. -/
structure Runtime where
  sha256 : List UInt8 → Digest
  keccak256 : List UInt8 → Digest
  /-- Rounding to a float. -/
  rnd : ℚ → PyFloat
  /-- How `serde_json` writes a float. -/
  floatText : PyFloat → Str
  /-- The document that `serde_json` parses. -/
  parse : List UInt8 → Option Json
  /-- The message of a deserialization error. -/
  serdeText : List UInt8 → DecodeError → Str
  /-- `URL_SAFE_NO_PAD.decode` -/
  base64 : Str → Option (List UInt8)
  /-- `VerifyingKey::from_sec1_bytes` succeeds. -/
  isPublicKey : List UInt8 → Bool
  /-- `Signature::from_slice` succeeds. -/
  isSignature : List UInt8 → Bool
  verifyPrehash : (key digest signature : List UInt8) → Bool
  recoverFromPrehash : (digest signature : List UInt8) → ℕ → Option Point
  /-- The RFC 3339 text of a timestamp. -/
  rfc3339 : ℤ → Str
  /-- `format!("{:?}", s)` -/
  debugText : Str → Str

section
variable (rt : Runtime)

/-- `serde_json::from_slice` -/
def fromSlice {α : Type} (item : Decoder α) (bytes : List UInt8) : Except DecodeError α :=
  match rt.parse bytes with
  | none => .error .malformed
  | some v => item v

/-- `parse_input` -/
def parseInput {α : Type} (item : Decoder α) (bytes : List UInt8) (ctx : Str) : Outcome α :=
  .ofExcept (fun e => ctx ++ Str.ofString ": bad input: " ++ rt.serdeText bytes e) (fromSlice rt item bytes)

end

/-- `s.is_empty()` -/
def isEmpty (s : Str) : Bool := s = []

/-! ## Numbers and addresses as text -/

/-- `from_str_radix` of an unsigned type with `limit` values -/
def fromStrRadix (radix limit : ℕ) (s : Str) : Option ℕ :=
  let digits := match s with
    | 0x2B :: t => if t = [] then s else t
    | _ => s
  if digits = [] then none
  else do
    let ds ← digits.mapM fun u => (Hex.digitValue u).filter (· < radix)
    let n := Nat.ofDigits radix ds.reverse
    if n < limit then some n else none

/-- `s.parse::<u64>()` -/
def parseU64 (s : Str) : Option UInt64 := (fromStrRadix 10 (2 ^ 64) s).map UInt64.ofNat

/-- The bytes that the pairs of digits `is` of `s` stand for, up to a pair that stands for none. -/
def hexPairs (s : Str) : List ℕ → Outcome (Option (List UInt8))
  | [] => .ok (some [])
  | i :: is => do
    let pair ← Outcome.sliceText s (2 * i) (2 * i + 2)
    match fromStrRadix 16 256 pair with
    | none => return none
    | some b => return (← hexPairs s is).map (UInt8.ofNat b :: ·)

/-- `parse_addr_hex` -/
def parseAddrHex (s : Str) : Outcome (Option (List UInt8)) :=
  let s := stripPrefix s
  if Text.byteLen s ≠ 40 then .ok none else hexPairs s (List.range 20)

/-- `trusted_issuer`, in a build with these variables -/
def trustedIssuer (build : ProcessEnv) : Outcome (Option (List UInt8)) :=
  match build "ADN_TRUSTED_ISSUER" with
  | none => .ok none
  | some s => parseAddrHex s

/-- `configured_tenant_did` -/
def configuredTenantDid (build : ProcessEnv) : Option Str := build "ADN_TENANT_DID"

/-! ## Signatures -/

/-- `INVOCATION_DOMAIN` -/
def invocationDomain : List UInt8 := Text.utf8 "ot3.invocation/1"

/-- `build_preimage` -/
def buildPreimage (vcId nonce requestHash : List UInt8) : List UInt8 := invocationDomain ++ vcId ++ nonce ++ requestHash

section
variable (rt : Runtime)

/-- `verify_agent_sig` -/
def verifyAgentSig (agentPubkey preimage agentSig : List UInt8) : Except Str Unit := do
  if agentPubkey.length ≠ 33 then throw (Str.ofString "agent_pubkey must be 33 bytes (compressed secp256k1)")
  if agentSig.length ≠ 64 then throw (Str.ofString "agent_sig must be 64 bytes (compact secp256k1)")
  if !rt.isPublicKey agentPubkey then throw (Str.ofString "agent_pubkey not a valid point")
  if !rt.isSignature agentSig then throw (Str.ofString "agent_sig malformed")
  if !rt.verifyPrehash agentPubkey (rt.sha256 preimage) agentSig then
    throw (Str.ofString "agent_sig verification failed")

/-- What EIP-191 hashes. -/
def personalMessage (message : List UInt8) : List UInt8 :=
  Text.utf8 (0x19 :: Str.ofString "Ethereum Signed Message:" ++ 0x0A :: Numerals.natText message.length) ++ message

/-- `recover_eip191_address` -/
def recoverEip191Address (message sig65 : List UInt8) : Outcome (List UInt8) := do
  Outcome.refuseIf (sig65.length ≠ 65) "user_sig must be 65 bytes (r||s||v)"
  let digest := rt.keccak256 (personalMessage message)
  let v ← Outcome.index sig65 64
  Outcome.refuseIf (v.toNat < 27) "user_sig recovery id out of range"
  let recId := v.toNat - 27
  Outcome.refuseIf (3 < recId) "user_sig invalid recovery id"
  let signature ← Outcome.slice sig65 0 64
  Outcome.refuseIf (!rt.isSignature signature) "user_sig malformed"
  let point ← Outcome.okOr (rt.recoverFromPrehash digest signature recId) "user_sig recovery failed"
  let coordinates ← Outcome.slice point.val 1 point.val.length
  let hash := rt.keccak256 coordinates
  Outcome.copyFromSlice 20 (← Outcome.slice hash.val 12 hash.val.length)

/-! ## The expiry -/

/-- The timestamps from the year -9999 to 9999. -/
def minTimestamp : ℤ := -377705116800
def maxTimestamp : ℤ := 253402300799

/-- The start of the year 0. -/
def yearZero : ℤ := -62167219200

/-- `epoch_to_rfc3339` -/
def epochToRfc3339 (epochSecs : UInt64) : Except Str Str :=
  let t := epochSecs.toInt64.toInt
  if t < minTimestamp ∨ maxTimestamp < t then .error "delegate-task: invalid authorization expiry epoch"
  else if t < yearZero then .error "delegate-task: failed to format authorization expiry"
  else .ok (rt.rfc3339 t)

end

/-! ## The input -/

structure DelegationEnvelopeFields where
  credentialJcs : Str
  userSig : Str
  nonce : Str
  agentSig : Str
  requestHash : Str

def DelegationEnvelopeFields.decode : Decoder DelegationEnvelopeFields := fun v => do
  let fs ← fields ["credential_jcs", "user_sig", "nonce", "agent_sig", "request_hash"] v
  return {
    credentialJcs := ← fs.get "credential_jcs" string
    userSig := ← fs.getOr "user_sig" [] string
    nonce := ← fs.getOr "nonce" [] string
    agentSig := ← fs.getOr "agent_sig" [] string
    requestHash := ← fs.getOr "request_hash" [] string }

structure CredentialBody where
  v : Str
  functions : List Str
  notBeforeSecs : Str
  notAfterSecs : Str
  vcId : Str
  agentPubkey : Str
  userDid : Str
  orgDid : Str
  contract : Str
  metadata : List (Str × Str)

def CredentialBody.decode : Decoder CredentialBody := fun v => do
  let fs ← fields ["v", "functions", "not_before_secs", "not_after_secs", "vc_id", "agent_pubkey", "user_did", "org_did",
    "contract", "metadata"] v
  return {
    v := ← fs.get "v" string
    functions := ← fs.get "functions" (list string)
    notBeforeSecs := ← fs.get "not_before_secs" string
    notAfterSecs := ← fs.get "not_after_secs" string
    vcId := ← fs.getOr "vc_id" [] string
    agentPubkey := ← fs.getOr "agent_pubkey" [] string
    userDid := ← fs.getOr "user_did" [] string
    orgDid := ← fs.getOr "org_did" [] string
    contract := ← fs.getOr "contract" [] string
    metadata := ← fs.getOr "metadata" [] stringMap }

structure AuthzPolicy where
  toAgentId : Str
  actions : List Str
  maxTtlSecs : UInt64

def AuthzPolicy.decode : Decoder AuthzPolicy := fun v => do
  let fs ← fields ["to_agent_id", "actions", "max_ttl_secs"] v
  return {
    toAgentId := ← fs.getOr "to_agent_id" [] string
    actions := ← fs.getOr "actions" [] (list string)
    maxTtlSecs := ← fs.getOr "max_ttl_secs" 0 u64 }

structure DelegateTaskInput where
  toAgentId : Str
  action : Str
  delegationEnvelope : Option DelegationEnvelopeFields

def DelegateTaskInput.decode : Decoder DelegateTaskInput := fun v => do
  let fs ← fields ["to_agent_id", "action", "__delegation_envelope"] v
  return {
    toAgentId := ← fs.get "to_agent_id" string
    action := ← fs.getOr "action" [] string
    delegationEnvelope := ← fs.getOption "__delegation_envelope" DelegationEnvelopeFields.decode }

structure DelegationConfig where
  trustedIssuer : Option (List UInt8)
  tenantDid : Option Str
  nowSecs : UInt64
  maxTtlSecs : UInt64
  clockSkewSecs : UInt64

structure DelegateTaskOutput where
  delegationId : Str
  status : Str
  routedTo : Str
  credentialEnforced : Option Bool
  credentialFingerprint : Option Str
  userSigner : Option Str
  buildConfigId : Option Str
  authorizationExpiresAt : Option Str

/-- A field that is skipped when it is `None`. -/
def optionField (k : String) (v : Option Json) : Dict :=
  match v with
  | none => []
  | some v => [(Str.ofString k, v)]

def DelegateTaskOutput.toJson (o : DelegateTaskOutput) : Dict :=
  Dict.ofList [("delegation_id", .str o.delegationId), ("status", .str o.status), ("routed_to", .str o.routedTo)] ++
    optionField "credential_enforced" (o.credentialEnforced.map .bool) ++
    optionField "credential_fingerprint" (o.credentialFingerprint.map .str) ++
    optionField "user_signer" (o.userSigner.map .str) ++
    optionField "build_config_id" (o.buildConfigId.map .str) ++
    optionField "authorization_expires_at" (o.authorizationExpiresAt.map .str)

/-! ## Verification -/

/-- An error of `delegate-task`. -/
def task (message : String) : Str := Str.ofString "delegate-task: " ++ Str.ofString message

def u64Text (n : UInt64) : Str := Numerals.natText n.toNat

section
variable (rt : Runtime)

/-- The checks of the credential's domain, contract and tenant. -/
def checkCredential (cfg : DelegationConfig) (cred : CredentialBody) : Outcome Unit := do
  Outcome.refuseIf (cred.v ≠ "ot3.delegation/1") (task "invalid credential domain")
  Outcome.refuseIf (cred.contract ≠ "adn-processor") (task "credential contract mismatch")
  match cfg.tenantDid with
  | none => pure ()
  | some td =>
    Outcome.refuseIf (cred.orgDid ≠ td) (task "credential org_did is not the configured tenant")
    Outcome.refuseIf (cred.userDid ≠ td) (task "credential user_did is not the configured tenant")
  Outcome.refuseIf (isEmpty cred.vcId) (task "vc_id missing from credential")
  Outcome.refuseIf (isEmpty cred.agentPubkey) (task "agent_pubkey missing from credential")

/-- The credential's window, checked against the clock. -/
def checkWindow (cfg : DelegationConfig) (cred : CredentialBody) : Outcome (UInt64 × UInt64) := do
  let notBefore ← Outcome.okOr (parseU64 cred.notBeforeSecs) (task "invalid not_before_secs")
  let notAfter ← Outcome.okOr (parseU64 cred.notAfterSecs) (task "invalid not_after_secs")
  Outcome.refuseIf (notBefore ≥ notAfter) (task "credential window invalid (not_before >= not_after)")
  Outcome.refuseIf (notAfter - notBefore > cfg.maxTtlSecs)
    (task "credential TTL exceeds maximum " ++ u64Text cfg.maxTtlSecs ++ Str.ofString "s")
  Outcome.refuseIf (notBefore > cfg.nowSecs + cfg.clockSkewSecs) (task "credential not_before is too far in the future")
  Outcome.refuseIf (cfg.nowSecs < notBefore) (task "credential not yet valid")
  Outcome.refuseIf (cfg.nowSecs > notAfter) (task "credential expired (expired epoch " ++ u64Text notAfter ++
    Str.ofString ", now " ++ u64Text cfg.nowSecs ++ Str.ofString ")")
  return (notBefore, notAfter)

/-- The bytes of the envelope that the agent signs. -/
structure Invocation where
  nonce : List UInt8
  agentSig : List UInt8
  requestHash : List UInt8
  vcId : List UInt8

/-- The envelope's bytes, and that they bind this call. -/
def checkInvocation (r : DelegateTaskInput) (env : DelegationEnvelopeFields) (cred : CredentialBody) :
    Outcome Invocation := do
  Outcome.refuseIf (isEmpty env.nonce) (task "nonce required")
  let nonce ← Outcome.okOr (rt.base64 env.nonce) (task "invalid nonce encoding")
  Outcome.refuseIf (nonce.length ≠ 16) (task "nonce must be exactly 16 bytes")
  Outcome.refuseIf (isEmpty env.agentSig) (task "agent_sig missing from envelope")
  let agentSig ← Outcome.okOr (rt.base64 env.agentSig) (task "invalid agent_sig encoding")
  Outcome.refuseIf (isEmpty env.requestHash) (task "request_hash required")
  let requestHash ← Outcome.okOr (rt.base64 env.requestHash) (task "invalid request_hash encoding")
  Outcome.refuseIf (requestHash.length ≠ 32) (task "request_hash must be 32 bytes")
  let canon := toVec rt.floatText (.obj (Dict.ofList [("to_agent_id", .str r.toAgentId), ("action", .str r.action)]))
  Outcome.refuseIf ((rt.sha256 canon).val ≠ requestHash)
    (task "request_hash does not bind this call (to_agent_id/action mismatch)")
  let vcId ← Outcome.okOr (rt.base64 cred.vcId) (task "invalid vc_id encoding")
  Outcome.refuseIf (vcId.length ≠ 16) (task "vc_id must be 16 bytes")
  let agentPubkey ← Outcome.okOr (rt.base64 cred.agentPubkey) (task "invalid agent_pubkey encoding")
  Outcome.ofExcept (task "" ++ ·) (verifyAgentSig rt agentPubkey (buildPreimage vcId nonce requestHash) agentSig)
  return { nonce, agentSig, requestHash, vcId }

/-- The signer of the credential, who has to be the trusted issuer. -/
def checkIssuer (cfg : DelegationConfig) (env : DelegationEnvelopeFields) (credBytes : List UInt8) :
    Outcome (List UInt8) := do
  Outcome.refuseIf (isEmpty env.userSig) (task "user_sig required — credential must be issuer-signed")
  let userSig ← Outcome.okOr (rt.base64 env.userSig) (task "invalid user_sig encoding")
  let signer ← (recoverEip191Address rt credBytes userSig).mapErr (task "" ++ ·)
  let trusted ← Outcome.okOr cfg.trustedIssuer
    (task "trusted issuer not pinned (build with ADN_TRUSTED_ISSUER) — refusing to authorize")
  Outcome.refuseIf (signer ≠ trusted) (task "credential issuer is not the trusted tenant")
  return signer

/-- The issuer's policy: target, action and TTL. -/
def checkPolicy (cfg : DelegationConfig) (r : DelegateTaskInput) (cred : CredentialBody) (notBefore notAfter : UInt64) :
    Outcome Unit := do
  let policyStr ← Outcome.okOr (lookup "adn_authorization_v1" cred.metadata)
    (task "missing adn_authorization_v1 policy in credential")
  let bytes := Text.utf8 policyStr
  let policy ← Outcome.ofExcept (fun e => task "invalid authorization policy: " ++ rt.serdeText bytes e)
    (fromSlice rt AuthzPolicy.decode bytes)
  Outcome.refuseIf (policy.toAgentId ≠ r.toAgentId) (task "target not authorized by credential policy")
  Outcome.refuseIf (r.action ∉ policy.actions) (task "action not authorized by credential policy")
  Outcome.refuseIf (policy.maxTtlSecs = 0 ∨ policy.maxTtlSecs > cfg.maxTtlSecs)
    (task "policy max_ttl_secs must be in 1..=" ++ u64Text cfg.maxTtlSecs)
  Outcome.refuseIf (notAfter - notBefore > policy.maxTtlSecs) (task "credential TTL exceeds policy maximum")

/-- `verify_delegate_task`, in a build with these variables -/
def verifyDelegateTask (build : ProcessEnv) (bytes : List UInt8) (cfg : DelegationConfig) : Outcome DelegateTaskOutput := do
  let r ← parseInput rt DelegateTaskInput.decode bytes "delegate-task"
  let env ← Outcome.okOr r.delegationEnvelope
    (task "__delegation_envelope required — unauthenticated delegation is not permitted")
  let credBytes ← Outcome.okOr (rt.base64 env.credentialJcs) (task "invalid credential_jcs encoding")
  let cred ← Outcome.ofExcept (fun e => task "invalid credential body: " ++ rt.serdeText credBytes e)
    (fromSlice rt CredentialBody.decode credBytes)
  checkCredential cfg cred
  let (notBefore, notAfter) ← checkWindow cfg cred
  Outcome.refuseIf (Str.ofString "delegate-task" ∉ cred.functions) (task "function not in delegated scope")
  let i ← checkInvocation rt r env cred
  let signer ← checkIssuer rt cfg env credBytes
  checkPolicy rt cfg r cred notBefore notAfter
  let idDigest := rt.sha256 (i.vcId ++ i.nonce ++ i.requestHash)
  let id ← Outcome.slice idDigest.val 0 16
  let expiry ← Outcome.ofExcept (fun e => e) (epochToRfc3339 rt notAfter)
  return {
    delegationId := Str.ofString "tee-del-" ++ Hex.hexLower id
    status := "ROUTED"
    routedTo := r.toAgentId
    credentialEnforced := some true
    credentialFingerprint := some (Hex.hexLower (rt.sha256 credBytes))
    userSigner := some (Str.ofString "0x" ++ Hex.hexLower signer)
    buildConfigId := some (contractBuildConfigId (fun bs => rt.sha256 bs) build)
    authorizationExpiresAt := some expiry }

end

end Adn.Contract
