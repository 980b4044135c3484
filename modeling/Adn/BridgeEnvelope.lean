import Adn.Lib.Parsed
import Adn.ContractAcceptance
import Adn.DelegationIdentity
import Adn.GatewayExecutor
/-!
# The envelopes that the bridge builds

`buildWireDelegationEnvelope` makes a credential for one call, with a policy in it,
and signs the hash of the call. The SDK that builds and signs is a `Sdk`. The policy
takes the action from `callParams`, or `PROCESS_DATA`; the hash takes target and
action from `callParams` laid over the target. `Build.wire` is the input that the
contract is sent.
-/

open Lib

namespace Adn.Bridge

open Release (IsString)

/-! ## The SDK -/

/-- What `buildDelegationCredential` is given. -/
structure CredentialFields where
  userDid : Str
  agentPubkey : List UInt8
  orgDid : Str
  contract : Str
  functions : List Str
  scopes : List Str
  metadata : List (Str × Str)
  notBeforeSecs : ℤ
  notAfterSecs : ℤ
  vcId : List UInt8

/-- The SDK, and what else the bridge runs on. -/
structure Sdk where
  /-- `canonicaliseCredential(buildDelegationCredential(fields))` -/
  credentialJcs : CredentialFields → List UInt8
  /-- `signCredential(jcs, secret).sig` -/
  signCredential : (jcs secret : List UInt8) → List UInt8
  buildInvocationPreimage : (vcId nonce reqHash : List UInt8) → List UInt8
  signAgentInvocation : (preimage secret : List UInt8) → List UInt8
  b64uEncodeBytes : List UInt8 → Str
  pubkeyFromSecret : List UInt8 → List UInt8
  /-- `createHash("sha256")` -/
  sha256 : List UInt8 → List UInt8
  /-- `new Date(ms).toISOString()` -/
  toISOString : ℤ → Str

/-- The credential's document: binary values in base64, times as decimal texts. -/
def CredentialFields.document (sdk : Sdk) (f : CredentialFields) : Dict :=
  Dict.ofList [("agent_pubkey", .str (sdk.b64uEncodeBytes f.agentPubkey)), ("contract", .str f.contract),
    ("functions", .arr (f.functions.map .str)), ("metadata", .obj ((Js.sortProps f.metadata).map fun e => (e.1, .str e.2))),
    ("not_after_secs", .str (Numerals.intText f.notAfterSecs)), ("not_before_secs", .str (Numerals.intText f.notBeforeSecs)),
    ("org_did", .str f.orgDid), ("scopes", .arr (f.scopes.map .str)), ("user_did", .str f.userDid),
    ("v", .str "ot3.delegation/1"), ("vc_id", .str (sdk.b64uEncodeBytes f.vcId))]

/-! ## One envelope -/

/-- `JSON.stringify(o)` -/
def stringify (o : Props) : Str := (Js.stringify (.obj o)).getD []

/-- `typeof v === "string" ? v : default` -/
def textOr (v : Js) (default : Str) : Str :=
  match v with
  | .str s => s
  | _ => default

/-- `canonicalDelegateTaskRequestBytes` -/
def canonicalDelegateTaskRequestBytes (params : Props) : List UInt8 :=
  let toAgentId := textOr (params.get "to_agent_id") []
  let action := textOr (params.get "action") []
  Text.utf8 (stringify (Props.ofList [("to_agent_id", .str toAgentId), ("action", .str action)]))

structure DelegationEnvelope where
  credentialJcs : List UInt8
  userSig : List UInt8
  agentSig : List UInt8
  nonce : List UInt8
  requestHash : List UInt8

/-- `buildEnvelope`, with the nonce it draws -/
def buildEnvelope (sdk : Sdk) (vcId jcs userSig agentSecret nonce : List UInt8) (callParams : Props) : DelegationEnvelope :=
  let reqHash := sdk.sha256 (canonicalDelegateTaskRequestBytes callParams)
  let preimage := sdk.buildInvocationPreimage vcId nonce reqHash
  { credentialJcs := jcs
    userSig
    agentSig := sdk.signAgentInvocation preimage agentSecret
    nonce
    requestHash := reqHash }

/-- What is drawn for one envelope: `randomBytes(32)` and twice `randomBytes(16)`. -/
structure Draws where
  agentSecret : List UInt8
  vcId : List UInt8
  nonce : List UInt8
  vcId_length : vcId.length = 16
  nonce_length : nonce.length = 16

/-- One call of `buildWireDelegationEnvelope`: its arguments, the clock in seconds and what it draws.
An object has a name once. -/
structure Build where
  tenantDid : Str
  toAgentDid : Str
  apiKey : Str
  callParams : Props
  callParams_nodup : (callParams.map (·.1)).Nodup
  now : ℤ
  draws : Draws

namespace Build

variable (sdk : Sdk) (b : Build)

/-- `Buffer.from(apiKey.replace(/^0x/, ""), "hex")` -/
def userSecret : List UInt8 := Gateway.bufferFromHex (Contract.stripPrefix b.apiKey)

/-- The action that the policy allows. -/
def policyAction : Str := textOr (b.callParams.get "action") "PROCESS_DATA"

/-- The policy, as it is signed. -/
def policyText : Str := stringify (Props.ofList [("to_agent_id", .str b.toAgentDid), ("actions", .arr [.str b.policyAction]),
  ("max_ttl_secs", .num (.finite 300))])

def credential : CredentialFields where
  userDid := b.tenantDid
  agentPubkey := sdk.pubkeyFromSecret b.draws.agentSecret
  orgDid := b.tenantDid
  contract := "adn-processor"
  functions := [Str.ofString "delegate-task"]
  scopes := []
  metadata := [(Str.ofString "role", Str.ofString "adn-worker"), (Str.ofString "session", Str.ofString "phase4"),
    (Str.ofString "adn_authorization_v1", b.policyText)]
  notBeforeSecs := b.now - 5
  notAfterSecs := b.now + 290
  vcId := b.draws.vcId

def jcs : List UInt8 := sdk.credentialJcs (b.credential sdk)

/-- `{ to_agent_id: toAgentDid, ...callParams }` -/
def request : Props := (Props.ofList [("to_agent_id", .str b.toAgentDid)]).spread b.callParams

def envelope : DelegationEnvelope :=
  buildEnvelope sdk b.draws.vcId (b.jcs sdk) (sdk.signCredential (b.jcs sdk) b.userSecret) b.draws.agentSecret b.draws.nonce
    b.request

/-- `buildWireDelegationEnvelope` -/
def buildWireDelegationEnvelope : Props :=
  let envelope := b.envelope sdk
  Props.ofList [("credential_jcs", .str (sdk.b64uEncodeBytes envelope.credentialJcs)),
    ("user_sig", .str (sdk.b64uEncodeBytes envelope.userSig)),
    ("agent_sig", .str (sdk.b64uEncodeBytes envelope.agentSig)),
    ("nonce", .str (sdk.b64uEncodeBytes envelope.nonce)),
    ("request_hash", .str (sdk.b64uEncodeBytes envelope.requestHash)),
    ("authorization_expires_at", .str (sdk.toISOString ((b.now + 290) * 1000)))]

/-- The input of the call: `{ to_agent_id, ...callParams, __delegation_envelope }`. -/
def wire : Props := b.request.set "__delegation_envelope" (.obj (b.buildWireDelegationEnvelope sdk))

def wireBytes : List UInt8 := Text.utf8 (stringify (b.wire sdk))

end Build

/-! ## Names of an object -/

/-- Later properties replace earlier ones. -/
theorem get?_spread_or (o o' : Props) (hn : (o'.map (·.1)).Nodup) (k : Str) :
    (o.spread o').get? k = (o'.get? k).or (o.get? k) := by
  unfold Props.spread
  induction o' generalizing o with
  | nil => rfl
  | cons f o' ih =>
    obtain ⟨j, v⟩ := f
    rw [List.map_cons, List.nodup_cons] at hn
    rw [List.foldl_cons, ih _ hn.2, Props.get?_set, Props.get?_cons]
    by_cases hk : j = k
    · -- the name does not come again
      subst hk
      have hnone : Props.get? o' j = none := by
        cases hg : Props.get? o' j with
        | none => rfl
        | some w => exact absurd (List.mem_map_of_mem (f := (·.1)) (Props.mem_of_get? hg)) hn.1
      rw [hnone, if_pos rfl, if_pos rfl]
      rfl
    · rw [if_neg hk, if_neg hk]

section
variable (sdk : Sdk) (b : Build)

theorem get?_request (k : Str) : b.request.get? k = (b.callParams.get? k).or (Props.get? (Props.ofList
    [("to_agent_id", .str b.toAgentDid)]) k) :=
  get?_spread_or _ _ b.callParams_nodup k

/-- What the wire input has under a name. -/
theorem get?_wire (k : Str) : (b.wire sdk).get? k = if "__delegation_envelope" = k then
    some (.obj (b.buildWireDelegationEnvelope sdk)) else (b.callParams.get? k).or (Props.get? (Props.ofList
      [("to_agent_id", .str b.toAgentDid)]) k) := by
  rw [Build.wire, Props.get?_set, get?_request]

@[simp]
theorem get?_wire_target : (b.wire sdk).get? "to_agent_id" = (b.callParams.get? "to_agent_id").or (some (.str b.toAgentDid)) := by
  rw [get?_wire, if_neg (by simp)]
  simp

@[simp]
theorem get?_wire_action : (b.wire sdk).get? "action" = b.callParams.get? "action" := by
  rw [get?_wire, if_neg (by simp)]
  simp

@[simp]
theorem get?_wire_envelope : (b.wire sdk).get? "__delegation_envelope" =
    some (.obj (b.buildWireDelegationEnvelope sdk)) := by
  rw [get?_wire, if_pos rfl]

end

end Adn.Bridge
