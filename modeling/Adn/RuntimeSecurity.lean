import Adn.Platform
/-!
# Runtime mode and worker authorization policy

`resolveRuntimeMode` fails closed on an unknown mode, and in live mode
`fromTrustedConfig` requires a TEE authorization whatever the caller asks for.
-/

open Lib

namespace Adn

inductive RuntimeMode where
  | live
  | demo
  | test
deriving DecidableEq

def runtimeModeError : Str := "ADN_RUNTIME_MODE must be live, demo, or test"

/-- `resolve_runtime_mode()` -/
def resolveRuntimeMode (env : Env) : Except PyErr RuntimeMode :=
  let mode := lower (strip (env.runtimeMode.getD "live"))
  if mode = Str.ofString "live" then .ok .live
  else if mode = Str.ofString "demo" then .ok .demo
  else if mode = Str.ofString "test" then .ok .test
  else .error (.runtimeError runtimeModeError)

/-- `bool(s)` of an optional string -/
def isSet : Option Str → Bool
  | some s => s ≠ []
  | none => false

def gatewayContextConfigured (publicKeyHex keyId buildConfigId : Option Str) : Bool :=
  isSet publicKeyHex || isSet keyId || isSet buildConfigId

structure WorkerAuthorizationContext where
  runtimeMode : RuntimeMode
  requireTeeAuthorization : Bool
  expectedGatewayPublicKeyHex : Str
  expectedGatewayKeyId : Str
  expectedBuildConfigId : Str

/-- `WorkerAuthorizationContext.from_trusted_config` -/
def fromTrustedConfig (env : Env) (publicKeyHex keyId buildConfigId : Option Str) (requireTee : Option Bool) :
    Except PyErr WorkerAuthorizationContext := do
  let runtimeMode ← resolveRuntimeMode env
  let trustedRequirement :=
    runtimeMode = .live || gatewayContextConfigured publicKeyHex keyId buildConfigId || requireTee.getD false
  return {
    runtimeMode
    requireTeeAuthorization := trustedRequirement
    expectedGatewayPublicKeyHex := publicKeyHex.getD []
    expectedGatewayKeyId := keyId.getD []
    expectedBuildConfigId := buildConfigId.getD [] }

/-- The values the caller expects are handed on, and live mode requires a TEE
authorization. -/
theorem fromTrustedConfig_ok {env : Env} {publicKeyHex keyId buildConfigId : Option Str} {requireTee : Option Bool}
    {ctx : WorkerAuthorizationContext}
    (h : fromTrustedConfig env publicKeyHex keyId buildConfigId requireTee = .ok ctx) :
    resolveRuntimeMode env = .ok ctx.runtimeMode ∧
      ctx.expectedGatewayPublicKeyHex = publicKeyHex.getD [] ∧ ctx.expectedGatewayKeyId = keyId.getD [] ∧
      ctx.expectedBuildConfigId = buildConfigId.getD [] ∧
      (ctx.runtimeMode = .live → ctx.requireTeeAuthorization = true) := by
  obtain ⟨mode, hm, h⟩ := bind_ok.1 h
  obtain rfl := pure_ok.1 h
  exact ⟨hm, rfl, rfl, rfl, fun hl => by simp only [] at hl; simp [hl]⟩

/-! ## Ledger integrity keys -/

/-- The key file's checks and contents, as the file system answers them. -/
structure KeyFile where
  validated : Except PyErr Unit
  text : Except PyErr Str

/-- Where the ledger's integrity secret comes from. -/
structure IntegrityConfig where
  keyHex : Option Str
  keyFile : Option Str
  file : KeyFile

def removePrefix0x (s : Str) : Str :=
  match s with
  | 0x30 :: 0x78 :: rest => rest
  | _ => s

/-- `_configured_integrity_secret_hex` -/
def configuredIntegritySecretHex (env : Env) (cfg : IntegrityConfig) : Except PyErr (Option Str) := do
  let rawEnvSecret := strip (cfg.keyHex.getD [])
  let keyFile := strip (cfg.keyFile.getD [])
  let runtimeMode ← resolveRuntimeMode env
  require (!(runtimeMode = .live && rawEnvSecret ≠ []))
    "ADN_REPLAY_LEDGER_INTEGRITY_KEY_HEX is not accepted in live mode"
  require (!(runtimeMode = .live && keyFile = []))
    "ADN_REPLAY_LEDGER_INTEGRITY_KEY_FILE is required in live mode"
  if keyFile ≠ [] then
    if runtimeMode = .live then cfg.file.validated
    let text ← cfg.file.text
    return some (lower (removePrefix0x (strip text)))
  else
    let secret := lower (removePrefix0x rawEnvSecret)
    return if secret = [] then none else some secret

/-- `derive_integrity_key` -/
def deriveIntegrityKey (p : Platform) (secretHex : Option Str) (domain : Str) : Except PyErr (Option Str) :=
  match secretHex with
  | none => .ok none
  | some [] => .ok none
  | some s =>
    match Hex.fromHex s with
    | none => .error (.valueError "non-hexadecimal number found in fromhex() arg")
    | some secret => .ok (some (Hex.hexLower (p.hmacSha256 secret
        (Text.utf8 ((Str.ofString "adn.replay-ledger.integrity.") ++ domain)))))

/-- `configured_integrity_key` -/
def configuredIntegrityKey (p : Platform) (env : Env) (cfg : IntegrityConfig) (domain : Str) :
    Except PyErr (Option Str) := do
  deriveIntegrityKey p (← configuredIntegritySecretHex env cfg) domain

end Adn
