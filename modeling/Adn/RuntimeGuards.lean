import Adn.RuntimeConfig
/-!
# Guards of live mode

Four functions that handle a gateway key refuse in live mode. Each guard compares
`ADN_RUNTIME_MODE` with `live` itself; `getRuntimeMode` has a default, trims, and
ignores case. `guardsAgree_iff` says for which values they agree.
-/

open Lib

namespace Adn

/-! ## Functions with a record of key uses -/

/-- What a function of the bridge does with a gateway key. -/
inductive KeyAct where
  /-- It has the key's value from the environment. -/
  | reads (key : Str)
  /-- It starts a child with the key, or writes the key to a file for a child. -/
  | handsOn (key : Str)
  /-- It starts a child that makes a key. -/
  | creates

/-- Why a function throws or rejects. -/
inductive BridgeError where
  /-- On the ground of live mode. -/
  | blocked (message : Str)
  | other (message : Str)

structure Traced (α : Type) where
  acts : List KeyAct
  result : Except BridgeError α

namespace Traced

variable {α β : Type}

instance : Monad Traced where
  pure a := ⟨[], .ok a⟩
  bind x f :=
    match x.result with
    | .error e => ⟨x.acts, .error e⟩
    | .ok a => ⟨x.acts ++ (f a).acts, (f a).result⟩

def act (a : KeyAct) : Traced Unit := ⟨[a], .ok ()⟩

def fail (e : BridgeError) : Traced α := ⟨[], .error e⟩

/-- A step that handles no gateway key. -/
def of (x : Except Str α) : Traced α := ⟨[], x.mapError .other⟩

end Traced

/-! ## The guarded functions -/

namespace BridgeHost

variable (h : BridgeHost)

/-- `if (process.env.ADN_RUNTIME_MODE === "live") throw` -/
def guardLive (message : Str) : Traced Unit :=
  if h.env "ADN_RUNTIME_MODE" = some (Str.ofString "live") then .fail (.blocked message) else pure ()

/-- A key from the environment, where one is set. -/
def readKey : Traced (Option Str) := do
  let key := trimmed (h.env "ADN_GATEWAY_PRIVATE_KEY_HEX")
  match key with
  | some k => .act (.reads k)
  | none => pure ()
  return key

/-- The environment with some variables set, and others deleted. -/
def withEnv (set : List (Str × Str)) (deleted : List Str) : ProcessEnv := fun k =>
  match set.lookup k with
  | some v => some v
  | none => if k ∈ deleted then none else h.env k

/-- `spawnGatewayExecutor`, up to the address of the executor -/
def spawnGatewayExecutor : Traced Str := do
  h.guardLive "[gateway] spawnGatewayExecutor() is blocked in live mode. Start the executor as a separate process and use connectToExistingExecutor() instead."
  match ← h.readKey with
  | none =>
    .of (.error "ADN_GATEWAY_PRIVATE_KEY_HEX must be set for dev-mode executor spawn. The key is read by the executor from its own environment, not by the bridge.")
  | some key =>
    .act (.handsOn key)
    .of (h.executor (h.withEnv [("GATEWAY_CAPABILITY_TOKEN", h.randomHex)] []))

/-- `GatewayKeyBundle` -/
structure GatewayKeyBundle where
  gatewayKeyId : Str
  publicKeyHex : Str
  privateKeyHex : Str

def requireConfiguredGatewayKeyBundleFromEnv : Traced GatewayKeyBundle := do
  h.guardLive "[ADN] requireConfiguredGatewayKeyBundleFromEnv() is blocked in live mode. Use connectToExistingExecutor() instead."
  let _ ← h.readKey
  let privateKeyHex ← .of (requireHexSecret (h.env "ADN_GATEWAY_PRIVATE_KEY_HEX") "ADN_GATEWAY_PRIVATE_KEY_HEX")
  let publicKeyHex ←
    .of (requireHexSecret (h.env "ADN_TRUSTED_GATEWAY_PUBLIC_KEY_HEX") "ADN_TRUSTED_GATEWAY_PUBLIC_KEY_HEX")
  let gatewayKeyId := (trimmed (h.env "ADN_GATEWAY_KEY_ID")).getD (Str.ofString "gateway-" ++ publicKeyHex.take 12)
  return { gatewayKeyId, publicKeyHex, privateKeyHex }

/-- The environment `runPythonProcess` starts a child in. -/
def childEnv (extra : List (Str × Str)) : ProcessEnv :=
  let base : List (Str × Str) := [("ADN_ROOT", h.adnRoot), ("T3_MOCK", "false")]
  h.withEnv (extra ++ base) ["T3N_API_KEY", "ADN_GATEWAY_PRIVATE_KEY_HEX", "ADN_TRUSTED_GATEWAY_PUBLIC_KEY_HEX",
    "ADN_REPLAY_LEDGER_INTEGRITY_KEY_HEX", "ADN_REPLAY_LEDGER_INTEGRITY_KEY_FILE"]

/-- `runPythonProcess`, for a child that uses a gateway key in some way -/
def runPythonProcess (use : KeyAct) (extra : List (Str × Str)) : Traced (Str × Str) := do
  let _ ← .of (h.makeTempDir "adn_run")
  .act use
  .of (h.python (h.childEnv extra))

def prepareGatewayKeyBundle : Traced Js := do
  h.guardLive "[ADN] prepareGatewayKeyBundle() is blocked in live mode. Use connectToExistingExecutor() instead."
  let tempDir ← .of (h.makeTempDir "adn_gateway")
  let outputPath := h.tempPath tempDir "adn_gateway" "json"
  let _ ← h.runPythonProcess .creates [("DID", "did:t3n:gateway-local"), ("ADN_RUN_MODE", "prepare_gateway"),
    ("ADN_OUTPUT_PATH", outputPath), ("ADN_REPLAY_LEDGER_DIR", tempDir ++ h.sep ++ Str.ofString "replay-ledger")]
  .of (h.readJson outputPath)

/-- `PreparedAdnExecution` -/
structure PreparedAdnExecution where
  tenantDid : Str
  coordinator : Js
  worker1 : Js
  worker2 : Js
  validator : Js
  workerKeysTempDir : Str

/-- `writeJsonTemp` and `writeSecretTemp`: the path of a new file with this content. -/
def writeTemp (tempDir name suffix : Str) (content : Str) : Except Str Str := do
  let path := h.tempPath tempDir name suffix
  h.writeFile path content
  return path

def writeJsonTemp (tempDir name : Str) (payload : Props) : Except Str Str :=
  h.writeTemp tempDir name "json" ((Js.stringify (.obj payload)).getD [])

def GatewayKeyBundle.props (b : GatewayKeyBundle) : Props :=
  Props.ofList [("gatewayKeyId", .str b.gatewayKeyId), ("publicKeyHex", .str b.publicKeyHex),
    ("privateKeyHex", .str b.privateKeyHex)]

def modeText : RuntimeMode → Str
  | .live => "live"
  | .demo => "demo"
  | .test => "test"

def runAdnWithRealDid (tenantDid : Str) (prepared : PreparedAdnExecution) (teeAuthorizationBundle : Props)
    (gatewayKeyBundle : GatewayKeyBundle) : Traced Js := do
  h.guardLive "[ADN] runAdnWithRealDid() is blocked in live mode. Use runAdnWithSignedGateway() with spawnGatewayExecutor()."
  let tempDir ← .of (h.makeTempDir "adn_execute")
  let runtimeMode ← .of h.getRuntimeMode
  let replayLedgerDir ← .of (h.requireReplayLedgerDir runtimeMode tempDir)
  let replayKeyProvider ← .of (h.resolveReplayKeyProvider runtimeMode)
  let identityBundlePath ← .of (h.writeJsonTemp tempDir "adn_identity_bundle" (Props.ofList
    [("tenantDid", .str prepared.tenantDid), ("coordinator", prepared.coordinator), ("worker1", prepared.worker1),
      ("worker2", prepared.worker2), ("validator", prepared.validator)]))
  let teeAuthorizationPath ← .of (h.writeJsonTemp tempDir "adn_tee_bundle" teeAuthorizationBundle)
  .act (.handsOn gatewayKeyBundle.privateKeyHex)
  let gatewayKeyBundlePath ← .of (h.writeJsonTemp tempDir "adn_gateway_bundle" gatewayKeyBundle.props)
  let replayIntegrityKeyPath ← .of (h.writeTemp tempDir "adn_replay_integrity" "key" replayKeyProvider.keyHex)
  let workerKeysPath := prepared.workerKeysTempDir ++ h.sep ++ Str.ofString "worker_private_keys.json"
  let (stdout, stderr) ← h.runPythonProcess (.handsOn gatewayKeyBundle.privateKeyHex) [("DID", tenantDid),
    ("ADN_RUN_MODE", "execute"), ("ADN_IDENTITY_BUNDLE_PATH", identityBundlePath),
    ("TEE_AUTHORIZATION_BUNDLE_PATH", teeAuthorizationPath), ("ADN_GATEWAY_KEY_BUNDLE_PATH", gatewayKeyBundlePath),
    ("ADN_PRIVATE_KEYS_PATH", workerKeysPath), ("ADN_RUNTIME_MODE", modeText runtimeMode),
    ("ADN_REPLAY_LEDGER_DIR", replayLedgerDir), ("ADN_REPLAY_LEDGER_INTEGRITY_KEY_FILE", replayIntegrityKeyPath),
    ("ADN_REPLAY_LEDGER_KEY_REF", replayKeyProvider.keyRef)]
  match h.parseJson (Js.trim stdout) with
  | .ok v => return v
  | .error _ =>
    .of (.error (Str.ofString "ADN output parse error:\n" ++ stdout ++ Str.ofString "\n" ++ stderr))

end BridgeHost

/-! ## When the guards agree -/

/-- A call of a function that is documented as blocked in live mode. -/
inductive GuardedCall where
  | spawnGatewayExecutor
  | requireConfiguredGatewayKeyBundleFromEnv
  | prepareGatewayKeyBundle
  | runAdnWithRealDid (tenantDid : Str) (prepared : BridgeHost.PreparedAdnExecution) (teeAuthorizationBundle : Props)
      (gatewayKeyBundle : BridgeHost.GatewayKeyBundle)

/-- What the call does, whatever it returns. -/
def GuardedCall.run (h : BridgeHost) : GuardedCall → Traced Unit
  | .spawnGatewayExecutor => discard h.spawnGatewayExecutor
  | .requireConfiguredGatewayKeyBundleFromEnv => discard h.requireConfiguredGatewayKeyBundleFromEnv
  | .prepareGatewayKeyBundle => discard h.prepareGatewayKeyBundle
  | .runAdnWithRealDid tenantDid prepared tee gateway => discard (h.runAdnWithRealDid tenantDid prepared tee gateway)

/-- It throws, and has not handled a key. -/
def Traced.Refuses (t : Traced Unit) : Prop := t.acts = [] ∧ ∃ e, t.result = .error e

/-- It throws on the ground of live mode. -/
def Traced.Blocked {α : Type} (t : Traced α) : Prop := ∃ message, t.result = .error (.blocked message)

/-- Under this value of `ADN_RUNTIME_MODE` the guarded functions do what the
resolved mode asks for. -/
def GuardsAgree (value : Option Str) : Prop :=
  ∀ h : BridgeHost, h.env "ADN_RUNTIME_MODE" = value →
    (h.getRuntimeMode = .ok .live → ∀ call, (GuardedCall.run h call).Refuses) ∧
    (h.getRuntimeMode = .ok .demo ∨ h.getRuntimeMode = .ok .test → ∀ call, ¬(GuardedCall.run h call).Blocked)

section
variable {α β : Type} {h : BridgeHost}

theorem unblocked_pure (a : α) : ¬(pure a : Traced α).Blocked := fun ⟨_, h⟩ => nomatch h

theorem unblocked_act (a : KeyAct) : ¬(Traced.act a).Blocked := fun ⟨_, h⟩ => nomatch h

theorem unblocked_of (x : Except Str α) : ¬(Traced.of x).Blocked := by
  rintro ⟨message, h⟩
  cases x <;> cases h

theorem unblocked_bind {x : Traced α} {f : α → Traced β} (hx : ¬x.Blocked) (hf : ∀ a, ¬(f a).Blocked) :
    ¬(x >>= f).Blocked := by
  rintro ⟨message, h⟩
  simp only [bind] at h
  split at h
  · rename_i e he
    cases h
    exact hx ⟨message, he⟩
  · exact hf _ ⟨message, h⟩

theorem unblocked_discard {x : Traced α} (hx : ¬x.Blocked) : ¬(discard x).Blocked :=
  unblocked_bind hx fun _ => unblocked_pure ()

/-- The guards compare the value itself. -/
theorem guardLive_live {message : Str} {f : Unit → Traced α} (hl : h.env "ADN_RUNTIME_MODE" = some (Str.ofString "live")) :
    h.guardLive message >>= f = .fail (.blocked message) := by
  rw [BridgeHost.guardLive, if_pos hl]
  rfl

theorem guardLive_other {message : Str} {f : Unit → Traced α} (hl : h.env "ADN_RUNTIME_MODE" ≠ some (Str.ofString "live")) :
    h.guardLive message >>= f = f () := by
  rw [BridgeHost.guardLive, if_neg hl]
  rfl

theorem refuses_blocked (message : Str) : (discard (Traced.fail (.blocked message) : Traced α)).Refuses :=
  ⟨rfl, _, rfl⟩

/-- For the value `live` every call is blocked. -/
theorem run_live (hl : h.env "ADN_RUNTIME_MODE" = some (Str.ofString "live")) (call : GuardedCall) :
    (GuardedCall.run h call).Refuses := by
  cases call with
  | spawnGatewayExecutor =>
    rw [GuardedCall.run, BridgeHost.spawnGatewayExecutor, guardLive_live hl]
    exact refuses_blocked _
  | requireConfiguredGatewayKeyBundleFromEnv =>
    rw [GuardedCall.run, BridgeHost.requireConfiguredGatewayKeyBundleFromEnv, guardLive_live hl]
    exact refuses_blocked _
  | prepareGatewayKeyBundle =>
    rw [GuardedCall.run, BridgeHost.prepareGatewayKeyBundle, guardLive_live hl]
    exact refuses_blocked _
  | runAdnWithRealDid =>
    rw [GuardedCall.run, BridgeHost.runAdnWithRealDid, guardLive_live hl]
    exact refuses_blocked _

theorem unblocked_readKey : ¬h.readKey.Blocked := by
  rw [BridgeHost.readKey]
  cases trimmed (h.env "ADN_GATEWAY_PRIVATE_KEY_HEX") with
  | none => exact unblocked_bind (unblocked_pure ()) fun _ => unblocked_pure _
  | some k => exact unblocked_bind (unblocked_act _) fun _ => unblocked_pure _

theorem unblocked_runPythonProcess (use : KeyAct) (extra : List (Str × Str)) : ¬(h.runPythonProcess use extra).Blocked :=
  unblocked_bind (unblocked_of _) fun _ => unblocked_bind (unblocked_act _) fun _ => unblocked_of _

/-- For every other value no call is blocked. -/
theorem run_other (hl : h.env "ADN_RUNTIME_MODE" ≠ some (Str.ofString "live")) (call : GuardedCall) :
    ¬(GuardedCall.run h call).Blocked := by
  cases call with
  | spawnGatewayExecutor =>
    rw [GuardedCall.run, BridgeHost.spawnGatewayExecutor, guardLive_other hl]
    refine unblocked_discard (unblocked_bind unblocked_readKey fun key => ?_)
    cases key with
    | none => exact unblocked_of _
    | some k => exact unblocked_bind (unblocked_act _) fun _ => unblocked_of _
  | requireConfiguredGatewayKeyBundleFromEnv =>
    rw [GuardedCall.run, BridgeHost.requireConfiguredGatewayKeyBundleFromEnv, guardLive_other hl]
    exact unblocked_discard (unblocked_bind unblocked_readKey fun _ => unblocked_bind (unblocked_of _) fun _ =>
      unblocked_bind (unblocked_of _) fun _ => unblocked_pure _)
  | prepareGatewayKeyBundle =>
    rw [GuardedCall.run, BridgeHost.prepareGatewayKeyBundle, guardLive_other hl]
    exact unblocked_discard (unblocked_bind (unblocked_of _) fun _ => unblocked_bind (unblocked_runPythonProcess _ _)
      fun _ => unblocked_of _)
  | runAdnWithRealDid =>
    rw [GuardedCall.run, BridgeHost.runAdnWithRealDid, guardLive_other hl]
    refine unblocked_discard ?_
    -- six steps up to the gateway bundle, two more files, and the child
    iterate 6 refine unblocked_bind (unblocked_of _) fun _ => ?_
    refine unblocked_bind (unblocked_act _) fun _ => ?_
    iterate 2 refine unblocked_bind (unblocked_of _) fun _ => ?_
    refine unblocked_bind (unblocked_runPythonProcess _ _) fun ⟨stdout, stderr⟩ => ?_
    simp only
    cases h.parseJson (Js.trim stdout) with
    | ok v => exact unblocked_pure _
    | error _ => exact unblocked_of _

theorem acts_bind {x : Traced α} {f : α → Traced β} (hx : x.acts ≠ []) : (x >>= f).acts ≠ [] := by
  simp only [bind]
  split
  · exact hx
  · simp [hx]

/-- What a configured key is for: past its guard the function has read it. -/
theorem bundle_reads (hl : h.env "ADN_RUNTIME_MODE" ≠ some (Str.ofString "live")) {key : Str}
    (hk : trimmed (h.env "ADN_GATEWAY_PRIVATE_KEY_HEX") = some key) :
    (GuardedCall.run h .requireConfiguredGatewayKeyBundleFromEnv).acts ≠ [] := by
  rw [GuardedCall.run, BridgeHost.requireConfiguredGatewayKeyBundleFromEnv, guardLive_other hl]
  refine acts_bind (acts_bind ?_)
  rw [BridgeHost.readKey, hk]
  simp [bind, Traced.act]

end

/-- 64 hexadecimal digits. -/
def someKey : Str := List.replicate 64 0x31

/-- A host whose environment has a mode and a gateway key. -/
def keyHost (value : Option Str) : BridgeHost where
  env k := if k = Str.ofString "ADN_RUNTIME_MODE" then value
    else if k = Str.ofString "ADN_GATEWAY_PRIVATE_KEY_HEX" then some someKey else none
  adnRoot := []
  isWindows := false
  sep := "/"
  lstat _ := .error []
  isAbsolute _ := false
  isInside _ _ := false
  makeDir _ := .ok ()
  makeTempDir _ := .ok []
  tempPath _ _ _ := []
  writeFile _ _ := .ok ()
  readJson _ := .error []
  parseJson _ := .error []
  randomHex := []
  python _ := .error []
  executor _ := .error []

theorem keyHost_mode (value : Option Str) : (keyHost value).env "ADN_RUNTIME_MODE" = value := by simp [keyHost]

theorem keyHost_key (value : Option Str) : trimmed ((keyHost value).env "ADN_GATEWAY_PRIVATE_KEY_HEX") = some someKey := by
  have he : (keyHost value).env "ADN_GATEWAY_PRIVATE_KEY_HEX" = some someKey := by simp [keyHost]
  rw [he]
  decide +kernel

/-- A value that resolves to live mode, but is not the text `live`, lets a key be read. -/
theorem not_guardsAgree {value : Option Str} (hm : runtimeModeOf value = .ok .live)
    (hv : value ≠ some (Str.ofString "live")) : ¬GuardsAgree value := by
  intro ha
  have hmode : (keyHost value).getRuntimeMode = .ok .live := by rw [BridgeHost.getRuntimeMode, keyHost_mode, hm]
  obtain ⟨hno, -⟩ := (ha (keyHost value) (keyHost_mode value)).1 hmode .requireConfiguredGatewayKeyBundleFromEnv
  exact bundle_reads (by rwa [keyHost_mode]) (keyHost_key value) hno

/-- The guards agree with `getRuntimeMode` exactly when a value that resolves to
live mode is the text `live` itself. -/
theorem guardsAgree_iff (value : Option Str) :
    GuardsAgree value ↔ (runtimeModeOf value = .ok .live → value = some (Str.ofString "live")) := by
  constructor
  · intro ha hm
    by_contra hv
    exact not_guardsAgree hm hv ha
  · intro hv h henv
    rw [BridgeHost.getRuntimeMode, henv]
    refine ⟨fun hm call => run_live (henv.trans (hv hm)) call, fun hm call => run_other (fun hl => ?_) call⟩
    have hlive : runtimeModeOf value = .ok .live := by
      rw [← henv, hl]
      decide +kernel
    rw [hlive] at hm
    rcases hm with hm | hm <;> cases hm

/-- A process without `ADN_RUNTIME_MODE` is live, and is not guarded. -/
theorem unset_mode_unguarded : runtimeModeOf none = .ok .live ∧ ¬GuardsAgree none := by
  have hm : runtimeModeOf none = .ok .live := by decide +kernel
  exact ⟨hm, not_guardsAgree hm (by simp)⟩

end Adn
