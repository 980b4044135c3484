import Adn.RuntimeSecurity
import Adn.Lib.Js
/-!
# Runtime configuration of the bridge

`getRuntimeMode`, the replay ledger's directory and its key, and the texts that
stand for secrets. The file system and the child processes are the host's.
-/

open Lib

namespace Adn

/-- `process.env` -/
abbrev ProcessEnv := Str → Option Str

/-- `s.replace(/^0x/i, "")` -/
def withoutHexPrefix : Str → Str
  | 0x30 :: u :: s => if u = 0x78 || u = 0x58 then s else 0x30 :: u :: s
  | s => s

/-- `/^[0-9a-f]{n}$/` -/
def isLowerHex (n : ℕ) (s : Str) : Bool :=
  s.length = n && s.all fun u => (0x30 ≤ u.toNat && u.toNat ≤ 0x39) || (0x61 ≤ u.toNat && u.toNat ≤ 0x66)

/-- `value?.trim()`, where it is not empty -/
def trimmed (value : Option Str) : Option Str := (value.map Js.trim).filter (· ≠ [])

def requireHexSecret (value : Option Str) (name : Str) : Except Str Str :=
  let normalized := lower (withoutHexPrefix (Js.trim (value.getD [])))
  if normalized = [] then .error (name ++ Str.ofString " is required")
  else if !isLowerHex 64 normalized then
    .error (name ++ Str.ofString " must be 32 bytes of hex, with or without 0x.")
  else .ok normalized

/-- What `getRuntimeMode` makes of the value of `ADN_RUNTIME_MODE`. -/
def runtimeModeOf (value : Option Str) : Except Str RuntimeMode :=
  let mode := lower (Js.trim (value.getD "live"))
  if mode = Str.ofString "live" then .ok .live
  else if mode = Str.ofString "test" then .ok .test
  else if mode = Str.ofString "demo" then .ok .demo
  else .error "ADN_RUNTIME_MODE must be live, test, or demo"

/-- `ReplayKeyProvider` -/
structure ReplayKeyProvider where
  source : Str
  keyRef : Str
  keyHex : Str

/-- What `lstatSync`, `statSync` and `readFileSync` tell about a path. -/
structure FileStat where
  isSymbolicLink : Bool
  isFile : Bool
  mode : ℕ
  parentMode : ℕ
  /-- The service user owns it, or the platform has no users. -/
  owned : Bool
  content : Str

/-- What the bridge finds outside itself. -/
structure BridgeHost where
  env : ProcessEnv
  adnRoot : Str
  isWindows : Bool
  /-- The separator of path components. -/
  sep : Str
  /-- `lstatSync`, or why it throws -/
  lstat : Str → Except Str FileStat
  isAbsolute : Str → Bool
  /-- `pathIsInside` -/
  isInside : Str → Str → Bool
  /-- `mkdirSync` and `chmodSync` of a directory -/
  makeDir : Str → Except Str Unit
  /-- `mkdtempSync` and `chmodSync`, for a prefix -/
  makeTempDir : Str → Except Str Str
  /-- A path in a directory, with a prefix and a suffix; the middle is random. -/
  tempPath : Str → Str → Str → Str
  /-- `writeFileSync` of a path -/
  writeFile : Str → Str → Except Str Unit
  /-- `JSON.parse(readFileSync(path))` -/
  readJson : Str → Except Str Js
  /-- `JSON.parse`, or why it throws -/
  parseJson : Str → Except Str Js
  /-- `randomBytes(32).toString("hex")` -/
  randomHex : Str
  /-- The Python child under an environment: what it prints, or why it fails. -/
  python : ProcessEnv → Except Str (Str × Str)
  /-- The executor child under an environment: where it listens, or why it does not. -/
  executor : ProcessEnv → Except Str Str

namespace BridgeHost

variable (h : BridgeHost)

def getRuntimeMode : Except Str RuntimeMode := runtimeModeOf (h.env "ADN_RUNTIME_MODE")

/-- `requireReplayLedgerDir` -/
def requireReplayLedgerDir (mode : RuntimeMode) (tempDir : Str) : Except Str Str := do
  match trimmed (h.env "ADN_REPLAY_LEDGER_DIR") with
  | none =>
    if mode = .live then throw (Str.ofString "ADN_REPLAY_LEDGER_DIR is required for durable live replay protection")
    let dir := tempDir ++ h.sep ++ Str.ofString "replay-ledger"
    h.makeDir dir
    return dir
  | some dir =>
    if mode = .live && h.isInside dir tempDir then
      throw (Str.ofString "ADN_REPLAY_LEDGER_DIR must not be inside the bridge transient workspace")
    h.makeDir dir
    return dir

def keyFile (text : String) : Str := Str.ofString "ADN_REPLAY_LEDGER_KEY_REF file provider " ++ Str.ofString text

def verifyLiveFileMode (stat : FileStat) : Except Str Unit := do
  if h.isWindows then return ()
  if stat.mode ≠ 0o600 then throw (keyFile "requires key file mode 0600 in live mode")
  if stat.parentMode ≠ 0o700 then throw (keyFile "requires parent directory mode 0700 in live mode")
  if !stat.owned then throw (keyFile "key file must be owned by the service user")

def fileRef : Str := "file:"

def readFileKey (ref : Str) (mode : RuntimeMode) : Except Str Str := do
  let path := ref.drop fileRef.length
  if path = [] then throw (keyFile "requires file:<path>")
  if mode = .live && !h.isAbsolute path then throw (keyFile "requires an absolute key file path in live mode")
  let stat ← h.lstat path
  if stat.isSymbolicLink then throw (keyFile "does not allow symlink key files")
  if !stat.isFile then throw (keyFile "requires a regular file")
  if mode = .live then h.verifyLiveFileMode stat
  requireHexSecret (some stat.content) (Str.ofString "ADN_REPLAY_LEDGER_KEY_REF " ++ ref)

/-- `resolveReplayKeyProvider` -/
def resolveReplayKeyProvider (mode : RuntimeMode) : Except Str ReplayKeyProvider := do
  let rawEnvSecret := trimmed (h.env "ADN_REPLAY_LEDGER_INTEGRITY_KEY_HEX")
  let keyRef := trimmed (h.env "ADN_REPLAY_LEDGER_KEY_REF")
  if mode = .live then
    if rawEnvSecret.isSome then
      throw (Str.ofString "ADN_REPLAY_LEDGER_INTEGRITY_KEY_HEX is not accepted in live mode; set ADN_REPLAY_LEDGER_KEY_REF=file:<path-to-0600-hex-key> or a supported secret-manager reference.")
    match keyRef with
    | none => throw (Str.ofString "ADN_REPLAY_LEDGER_KEY_REF is required for durable live replay protection")
    | some ref =>
      if !fileRef.isPrefixOf ref then
        throw (Str.ofString "ADN_REPLAY_LEDGER_KEY_REF provider is not supported in this build; use file:<path-to-0600-hex-key>.")
      return ⟨"file", ref, ← h.readFileKey ref mode⟩
  else
    match keyRef.filter (fileRef.isPrefixOf ·) with
    | some ref => return ⟨"file", ref, ← h.readFileKey ref mode⟩
    | none =>
      match rawEnvSecret with
      | some secret =>
        return ⟨"env-test-only", keyRef.getD "env:ADN_REPLAY_LEDGER_INTEGRITY_KEY_HEX",
          ← requireHexSecret (some secret) "ADN_REPLAY_LEDGER_INTEGRITY_KEY_HEX"⟩
      | none => return ⟨"generated-test-only", keyRef.getD "transient-local-test-key", h.randomHex⟩

end BridgeHost

end Adn
