import Adn.RuntimeSecurity
import Mathlib.Logic.Function.Basic
/-!
# The replay ledger

One SQLite table, keyed by replay key, shared by every worker and verifier
process. Each operation is one `BEGIN IMMEDIATE` transaction: it takes the
ledger before it and returns its reply with the ledger after it, or raises and
leaves the ledger as it was. `db` is whether SQLite opens the ledger, takes its
lock and accepts the replay key. `LedgerSteps` lists what each operation can do.
-/

open Lib

namespace Adn

def requestKind : Str := "request"
def resultKind : Str := "result"
def stateRunning : Str := "RUNNING"
def stateCompleted : Str := "COMPLETED"
def stateRetryableFailure : Str := "RETRYABLE_FAILURE"
def stateFinalFailure : Str := "FINAL_FAILURE"
def stateConsumed : Str := "CONSUMED"
def runningLeaseSeconds : ℚ := 5 * 60
def resultReplayTtlSeconds : ℚ := 15 * 60
def maxRequestAttempts : ℤ := 2

/-! ## Rows -/

/-- A row as the program stores it; `Table.Row` has what else its columns can hold. `state` is a `TEXT` column: any text a
caller finalizes with. -/
structure Row where
  kind : Str
  state : Str
  attemptCount : ℤ
  maxAttempts : ℤ
  firstSeenAt : ℚ
  updatedAt : ℚ
  expiresAt : Time
  ownerAgentId : Option Str
  delegationId : Option Str
  payloadFingerprint : Option Str
  integrityMac : Option Str
  lastError : Option Str
  executionToken : Option Str
deriving DecidableEq

/-- The rows by replay key, which is the table's primary key. -/
abbrev Ledger := Str → Option Row

/-- The values of a row before SQLite stores them. -/
structure Record where
  kind : Str
  state : Str
  attemptCount : ℤ
  maxAttempts : ℤ
  firstSeenAt : ℚ
  updatedAt : ℚ
  expiresAt : PyFloat
  ownerAgentId : Json
  delegationId : Json
  payloadFingerprint : Json
  lastError : Option Str
  executionToken : Option Str

def optText : Option Str → Json
  | none => .null
  | some s => .str s

def Row.record (row : Row) : Record where
  kind := row.kind
  state := row.state
  attemptCount := row.attemptCount
  maxAttempts := row.maxAttempts
  firstSeenAt := row.firstSeenAt
  updatedAt := row.updatedAt
  expiresAt := row.expiresAt.toFloat
  ownerAgentId := optText row.ownerAgentId
  delegationId := optText row.delegationId
  payloadFingerprint := optText row.payloadFingerprint
  lastError := row.lastError
  executionToken := row.executionToken

/-- `_stable_record_payload` -/
def stableRecordPayload (replayKey : Str) (r : Record) : Str :=
  canonical (.obj (Dict.ofList [("replay_key", .str replayKey), ("kind", .str r.kind), ("state", .str r.state),
    ("attempt_count", .int r.attemptCount), ("max_attempts", .int r.maxAttempts),
    ("first_seen_at", .float (.finite r.firstSeenAt)), ("updated_at", .float (.finite r.updatedAt)),
    ("expires_at", .float r.expiresAt), ("owner_agent_id", r.ownerAgentId), ("delegation_id", r.delegationId),
    ("payload_fingerprint", r.payloadFingerprint), ("last_error", optText r.lastError),
    ("execution_token", optText r.executionToken)]))

/-- `_compute_integrity_mac` -/
def computeIntegrityMac (p : Platform) (replayKey : Str) (r : Record) (secretHex : Option Str) :
    Except PyErr (Option Str) :=
  match secretHex with
  | none => .ok none
  | some [] => .ok none
  | some s =>
    match Hex.fromHex s with
    | none => .error (.valueError "non-hexadecimal number found in fromhex() arg")
    | some secret => .ok (some (Hex.hexLower (p.hmacSha256 secret (Text.utf8 (stableRecordPayload replayKey r)))))

/-- A MAC is computed under every hexadecimal secret. -/
theorem computeIntegrityMac_hex (p : Platform) (replayKey : Str) (r : Record) (secret : List UInt8) :
    ∃ mac, computeIntegrityMac p replayKey r (some (Hex.hexLower secret)) = .ok mac := by
  unfold computeIntegrityMac
  split
  · exact ⟨_, rfl⟩
  · exact ⟨_, rfl⟩
  · rename_i s _ hs
    obtain rfl := Option.some.inj hs
    rw [Hex.fromHex_hexLower]
    exact ⟨_, rfl⟩

/-- `_verify_integrity` -/
def verifyIntegrity (p : Platform) (replayKey : Str) (row : Row) (secretHex : Option Str) : Except PyErr Unit := do
  match ← computeIntegrityMac p replayKey row.record secretHex with
  | none => return ()
  | some expected =>
    match row.integrityMac with
    | none => .error (.runtimeError "Replay ledger integrity check failed")
    | some actual =>
      -- `hmac.compare_digest` takes ASCII texts only; an empty text fails as any other that is not the digest
      if actual.all fun u => u.toNat < 0x80 then
        require (actual = expected) "Replay ledger integrity check failed"
      else .error .typeError

/-- A row with its own MAC passes. -/
theorem verifyIntegrity_own {p : Platform} {k : Str} {row : Row} {secret : Option Str}
    (h : computeIntegrityMac p k row.record secret = .ok row.integrityMac) : verifyIntegrity p k row secret = .ok () := by
  rw [verifyIntegrity, h, ok_bind]
  cases hmac : row.integrityMac with
  | none => rfl
  | some mac =>
    rw [hmac] at h
    have hascii : (mac.all fun u => u.toNat < 0x80) = true := by
      unfold computeIntegrityMac at h
      split at h
      · cases h
      · cases h
      · split at h
        · cases h
        · obtain rfl := Option.some.inj (Except.ok.inj h)
          rw [List.all_eq_true]
          exact fun u hu => decide_eq_true ((Hex.plain_hexLower _).ascii u hu)
    dsimp only
    rw [if_pos hascii, require, if_pos (decide_eq_true rfl)]

/-! ## Storing a row -/

/-- A string without surrogates, which is what SQLite can store. -/
def encodable (s : Str) : Bool := (Text.codePoints s).all fun c => !Text.isSurrogate c

theorem encodable_ascii {s : Str} (h : Text.IsAscii s) : encodable s = true := by
  rw [encodable, Text.codePoints_ascii h, List.all_eq_true]
  intro c hc
  obtain ⟨u, hu, rfl⟩ := List.mem_map.1 hc
  have := h u hu
  simp only [Text.isSurrogate, Bool.not_eq_true', Bool.and_eq_false_iff, decide_eq_false_iff_not]
  omega

/-- What a `TEXT` column keeps of a value. -/
def bindText (p : Platform) : Json → Except PyErr (Option Str)
  | .null => .ok none
  | .bool b => .ok (some (Numerals.intText (if b then 1 else 0)))
  | .int n => if -2 ^ 63 ≤ n ∧ n < 2 ^ 63 then .ok (some (Numerals.intText n)) else .error .overflowError
  | .float .nan => .ok none
  | .float x => .ok (some (p.realText x))
  | .str s => if encodable s then .ok (some s) else .error .unicodeError
  | .arr _ => .error .sqliteError
  | .obj _ => .error .sqliteError

/-- What the `NOT NULL` column `expires_at` keeps of a float: SQLite stores `NaN` as `NULL`. -/
def bindReal (x : PyFloat) : Except PyErr Time :=
  match time? x with
  | some t => .ok t
  | none => .error .sqliteError

/-- `_write_record`. The values are bound first; `NOT NULL` is looked at after that. -/
def writeRecord (p : Platform) (replayKey : Str) (r : Record) (secretHex : Option Str) (L : Ledger) :
    Except PyErr Ledger := do
  let mac ← computeIntegrityMac p replayKey r secretHex
  let ownerAgentId ← bindText p r.ownerAgentId
  let delegationId ← bindText p r.delegationId
  let payloadFingerprint ← bindText p r.payloadFingerprint
  let lastError ← bindText p (optText r.lastError)
  let expiresAt ← bindReal r.expiresAt
  return Function.update L replayKey (some {
    kind := r.kind
    state := r.state
    attemptCount := r.attemptCount
    maxAttempts := r.maxAttempts
    firstSeenAt := r.firstSeenAt
    updatedAt := r.updatedAt
    expiresAt
    ownerAgentId
    delegationId
    payloadFingerprint
    integrityMac := mac
    lastError
    executionToken := r.executionToken })

/-- `DELETE FROM replay_entries WHERE expires_at <= now` -/
def Ledger.purge (L : Ledger) (now : ℚ) : Ledger := fun k => (L k).filter fun row => (now : Time) < row.expiresAt

/-! ## Operations -/

structure BeginArgs where
  replayKey : Str
  replayExpiresAt : PyFloat
  ownerAgentId : Str
  delegationId : Json
  payloadFingerprint : Str
  integritySecretHex : Option Str

structure BeginReply where
  allowed : Bool
  reason : Str
  token : Option Str
deriving DecidableEq

def refused (reason : Str) : BeginReply := ⟨false, reason, none⟩

/-- The record a first `begin` writes. -/
def BeginArgs.first (a : BeginArgs) (now : ℚ) (token : Str) : Record where
  kind := requestKind
  state := stateRunning
  attemptCount := 1
  maxAttempts := maxRequestAttempts
  firstSeenAt := now
  updatedAt := now
  expiresAt := a.replayExpiresAt
  ownerAgentId := .str a.ownerAgentId
  delegationId := a.delegationId
  payloadFingerprint := .str a.payloadFingerprint
  lastError := none
  executionToken := some token

/-- The record a `begin` writes over a row that is already there. -/
def BeginArgs.again (a : BeginArgs) (now : ℚ) (row : Row) (state : Str) (attemptCount : ℤ)
    (lastError executionToken : Option Str) : Record where
  kind := requestKind
  state
  attemptCount
  maxAttempts := row.maxAttempts
  firstSeenAt := row.firstSeenAt
  updatedAt := now
  expiresAt := pyMin row.expiresAt.toFloat a.replayExpiresAt
  ownerAgentId := .str a.ownerAgentId
  delegationId := a.delegationId
  payloadFingerprint := .str a.payloadFingerprint
  lastError
  executionToken

/-- `begin_request_execution`; `token` is what `secrets.token_hex(16)` draws. -/
def beginRequestExecution (p : Platform) (db : Except PyErr Unit) (now : ℚ) (token : Str) (a : BeginArgs)
    (L : Ledger) : Except PyErr (BeginReply × Ledger) :=
  if a.replayKey = [] then .ok (refused "Delegation request replay key missing", L)
  else do
    db
    let L := L.purge now
    match L a.replayKey with
    | none =>
      let L ← writeRecord p a.replayKey (a.first now token) a.integritySecretHex L
      return (⟨true, [], some token⟩, L)
    | some row =>
      verifyIntegrity p a.replayKey row a.integritySecretHex
      if row.state = stateCompleted then return (refused "Delegation request replay detected", L)
      else if row.state = stateFinalFailure then return (refused "Delegation request reached final failure", L)
      else if row.state = stateRunning ∧ now - row.updatedAt < runningLeaseSeconds then
        return (refused "Delegation request already running", L)
      else if row.maxAttempts ≤ row.attemptCount then
        let limit : Str := "Delegation request retry limit exceeded"
        let L ← writeRecord p a.replayKey (a.again now row stateFinalFailure row.attemptCount (some limit) none)
          a.integritySecretHex L
        return (refused limit, L)
      else
        let L ← writeRecord p a.replayKey (a.again now row stateRunning (row.attemptCount + 1) none (some token))
          a.integritySecretHex L
        return (⟨true, [], some token⟩, L)

/-- `existing.get(column) or ""` -/
def orBlank (s : Option Str) : Json := .str (s.getD [])

/-- `existing_token and existing_token != execution_token` -/
def tokenMismatch (row : Row) (token : Option Str) : Bool :=
  match row.executionToken with
  | none => false
  | some t => t ≠ [] && some t ≠ token

/-- The record `heartbeat` and `finalize` write over a row. -/
def Row.rewrite (row : Row) (now : ℚ) (state : Str) (lastError executionToken : Option Str) : Record where
  kind := requestKind
  state
  attemptCount := row.attemptCount
  maxAttempts := row.maxAttempts
  firstSeenAt := row.firstSeenAt
  updatedAt := now
  expiresAt := row.expiresAt.toFloat
  ownerAgentId := orBlank row.ownerAgentId
  delegationId := orBlank row.delegationId
  payloadFingerprint := orBlank row.payloadFingerprint
  lastError
  executionToken

/-- `heartbeat_request_execution` -/
def heartbeatRequestExecution (p : Platform) (db : Except PyErr Unit) (now : ℚ) (replayKey : Str)
    (integritySecretHex executionToken : Option Str) (L : Ledger) : Except PyErr (Bool × Ledger) :=
  if replayKey = [] then .ok (false, L)
  else do
    db
    match L replayKey with
    | none => return (false, L)
    | some row =>
      verifyIntegrity p replayKey row integritySecretHex
      if row.state ≠ stateRunning then return (false, L)
      else if tokenMismatch row executionToken then return (false, L)
      else
        let L ← writeRecord p replayKey (row.rewrite now stateRunning row.lastError row.executionToken)
          integritySecretHex L
        return (true, L)

/-- `last_error or "Delegation request retry limit exceeded"` -/
def orLimit : Option Str → Option Str
  | none => some "Delegation request retry limit exceeded"
  | some [] => some "Delegation request retry limit exceeded"
  | some e => some e

/-- A retryable failure of the last attempt is final. -/
def exhausted (row : Row) (finalState : Str) : Bool :=
  finalState = stateRetryableFailure && row.maxAttempts ≤ row.attemptCount

/-- `finalize_request_execution` -/
def finalizeRequestExecution (p : Platform) (db : Except PyErr Unit) (now : ℚ) (replayKey finalState : Str)
    (integritySecretHex lastError executionToken : Option Str) (L : Ledger) : Except PyErr (Bool × Ledger) :=
  if replayKey = [] then .ok (false, L)
  else do
    db
    match L replayKey with
    | none => return (false, L)
    | some row =>
      verifyIntegrity p replayKey row integritySecretHex
      if tokenMismatch row executionToken then return (false, L)
      else
        let nextState := if exhausted row finalState then stateFinalFailure else finalState
        let lastError := if exhausted row finalState then orLimit lastError else lastError
        let L ← writeRecord p replayKey (row.rewrite now nextState lastError none) integritySecretHex L
        return (true, L)

structure ConsumeArgs where
  replayKey : Str
  ownerAgentId : Str
  delegationId : Json
  payloadFingerprint : Json
  expiresAt : Option PyFloat
  integritySecretHex : Option Str

/-- `float(expires_at or (now_ts + RESULT_REPLAY_TTL_SECONDS))` -/
def effectiveExpiresAt (now : ℚ) : Option PyFloat → PyFloat
  | none => .finite (now + resultReplayTtlSeconds)
  | some (.finite 0) => .finite (now + resultReplayTtlSeconds)
  | some .negZero => .finite (now + resultReplayTtlSeconds)
  | some x => x

/-- The record of a consumed result. -/
def ConsumeArgs.record (a : ConsumeArgs) (now : ℚ) : Record where
  kind := resultKind
  state := stateConsumed
  attemptCount := 1
  maxAttempts := 1
  firstSeenAt := now
  updatedAt := now
  expiresAt := effectiveExpiresAt now a.expiresAt
  ownerAgentId := .str a.ownerAgentId
  delegationId := a.delegationId
  payloadFingerprint := a.payloadFingerprint
  lastError := none
  executionToken := none

/-- `consume_result_replay` -/
def consumeResultReplay (p : Platform) (db : Except PyErr Unit) (now : ℚ) (a : ConsumeArgs) (L : Ledger) :
    Except PyErr ((Bool × Str) × Ledger) :=
  if a.replayKey = [] then .ok ((false, "result replay key missing"), L)
  else if !isSet a.integritySecretHex then .ok ((false, "result replay integrity key missing"), L)
  else do
    db
    let L := L.purge now
    match L a.replayKey with
    | some row =>
      verifyIntegrity p a.replayKey row a.integritySecretHex
      return ((false, "result replay already consumed"), L)
    | none =>
      let L ← writeRecord p a.replayKey (a.record now) a.integritySecretHex L
      return ((true, []), L)

end Adn
