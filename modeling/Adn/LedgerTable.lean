import Adn.LedgerTransactions
/-!
# The ledger's table

The four operations over everything the SQLite table can hold. The program fills
a column with values of its declared type only (`ReplayLedger`), but a column
takes a `BLOB` as well, a text that is not UTF-8, and where numbers are declared
any text. Then the operations meet errors of their own: `SELECT` when it decodes
a text, `json.dumps` at bytes, `hmac.compare_digest` at a text that is not ASCII.
SQLite opens the table and executes every statement here.

`WrittenTable`: on a table that the program wrote they do what `Call.exec` does.
-/

open Lib

namespace Adn.Table

/-! ## Columns -/

/-- A stored value. SQLite takes any bytes for a text; `undecodable` are those that are not UTF-8. -/
inductive Cell where
  | null
  | integer (n : ℤ)
  | real (x : Time)
  | text (s : Str)
  | undecodable (bytes : List UInt8)
  | blob (bytes : List UInt8)
deriving DecidableEq

/-- The declared type of a column. -/
inductive Affinity where
  | text
  | integer
  | real

/-- What stays as it is in a column: `TEXT` makes texts of numbers, and `REAL` reals of integers. -/
def Affinity.Keeps : Affinity → Cell → Prop
  | .text, .integer _ => False
  | .text, .real _ => False
  | .real, .integer _ => False
  | _, _ => True

abbrev Column (affinity : Affinity) := {c : Cell // affinity.Keeps c}

/-- A row of `replay_entries`, its key apart. -/
structure Row where
  kind : Column .text
  state : Column .text
  attemptCount : Column .integer
  maxAttempts : Column .integer
  firstSeenAt : Column .real
  updatedAt : Column .real
  expiresAt : Column .real
  ownerAgentId : Column .text
  delegationId : Column .text
  payloadFingerprint : Column .text
  integrityMac : Column .text
  lastError : Column .text
  executionToken : Column .text
deriving DecidableEq

abbrev Ledger := Str → Option Row

/-! ## Values -/

/-- A value as Python has it from a column, or binds it to one. -/
inductive Value where
  | json (v : Json)
  | bytes (bs : List UInt8)

namespace Value

/-- `bool(v)` -/
def truthy : Value → Bool
  | .json v => v.truthy
  | .bytes bs => bs ≠ []

/-- `v or ""` -/
def orBlank (v : Value) : Value := if v.truthy then v else .json (.str [])

/-- `v == s` -/
def isText (v : Value) (s : Str) : Bool :=
  match v with
  | .json (.str t) => t = s
  | _ => false

def isBytes : Value → Bool
  | .json _ => false
  | .bytes _ => true

/-- The value where it is not bytes. -/
def document : Value → Json
  | .json v => v
  | .bytes _ => .null

/-- A text that may be missing, as a value. -/
def ofText (s : Option Str) : Value := .json (optText s)

end Value

/-- What a cell is read as, where it can be read. -/
def Cell.value : Cell → Value
  | .null => .json .null
  | .integer n => .json (.int n)
  | .real x => .json (.float x.toFloat)
  | .text s => .json (.str s)
  | .undecodable bytes => .bytes bytes
  | .blob bytes => .bytes bytes

def Cell.isUndecodable : Cell → Bool
  | .undecodable _ => true
  | _ => false

def Cell.isBlob : Cell → Bool
  | .blob _ => true
  | _ => false

/-- `dict(record)`, its key apart. -/
structure Values where
  kind : Value
  state : Value
  attemptCount : Value
  maxAttempts : Value
  firstSeenAt : Value
  updatedAt : Value
  expiresAt : Value
  ownerAgentId : Value
  delegationId : Value
  payloadFingerprint : Value
  integrityMac : Value
  lastError : Value
  executionToken : Value

/-- The columns the MAC is over, the key apart. -/
def Row.covered (row : Row) : List Cell :=
  [row.kind.1, row.state.1, row.attemptCount.1, row.maxAttempts.1, row.firstSeenAt.1, row.updatedAt.1, row.expiresAt.1,
    row.ownerAgentId.1, row.delegationId.1, row.payloadFingerprint.1, row.lastError.1, row.executionToken.1]

def Row.cells (row : Row) : List Cell := row.integrityMac.1 :: row.covered

def Row.values (row : Row) : Values where
  kind := row.kind.1.value
  state := row.state.1.value
  attemptCount := row.attemptCount.1.value
  maxAttempts := row.maxAttempts.1.value
  firstSeenAt := row.firstSeenAt.1.value
  updatedAt := row.updatedAt.1.value
  expiresAt := row.expiresAt.1.value
  ownerAgentId := row.ownerAgentId.1.value
  delegationId := row.delegationId.1.value
  payloadFingerprint := row.payloadFingerprint.1.value
  integrityMac := row.integrityMac.1.value
  lastError := row.lastError.1.value
  executionToken := row.executionToken.1.value

/-- `fetchone()`; a text that is not UTF-8 raises `OperationalError`. -/
def Row.fetch (row : Row) : Except PyErr Values :=
  if row.cells.any Cell.isUndecodable then .error .sqliteError else .ok row.values

/-! ## Integrity -/

/-- The fields of `body`, `replay_key` apart. -/
def Values.covered (v : Values) : List (Str × Value) :=
  [("kind", v.kind), ("state", v.state), ("attempt_count", v.attemptCount), ("max_attempts", v.maxAttempts),
    ("first_seen_at", v.firstSeenAt), ("updated_at", v.updatedAt), ("expires_at", v.expiresAt),
    ("owner_agent_id", v.ownerAgentId), ("delegation_id", v.delegationId),
    ("payload_fingerprint", v.payloadFingerprint), ("last_error", v.lastError), ("execution_token", v.executionToken)]

/-- The text of `body` where no value is bytes. -/
def payloadText (replayKey : Str) (v : Values) : Str :=
  canonical (.obj (("replay_key", .str replayKey) :: v.covered.map fun f => (f.1, f.2.document)))

/-- `_stable_record_payload`; bytes are not JSON serializable. -/
def stableRecordPayload (replayKey : Str) (v : Values) : Except PyErr Str :=
  if v.covered.any (·.2.isBytes) then .error .typeError else .ok (payloadText replayKey v)

/-- `_compute_integrity_mac` -/
def computeIntegrityMac (p : Platform) (replayKey : Str) (v : Values) (secretHex : Option Str) :
    Except PyErr (Option Str) :=
  match secretHex with
  | none => .ok none
  | some [] => .ok none
  | some s =>
    match Hex.fromHex s with
    | none => .error (.valueError "non-hexadecimal number found in fromhex() arg")
    | some secret => do
      let payload ← stableRecordPayload replayKey v
      return some (Hex.hexLower (p.hmacSha256 secret (Text.utf8 payload)))

def tampered : PyErr := .runtimeError "Replay ledger integrity check failed"

/-- `if not actual or not hmac.compare_digest(actual, expected)`, which compares ASCII texts only. -/
def compareMac (actual : Value) (expected : Str) : Except PyErr Unit :=
  if !actual.truthy then .error tampered
  else
    match actual with
    | .json (.str s) => if s.all fun u => u.toNat < 0x80 then if s = expected then .ok () else .error tampered
      else .error .typeError
    | _ => .error .typeError

/-- `_verify_integrity` -/
def verifyIntegrity (p : Platform) (replayKey : Str) (v : Values) (secretHex : Option Str) : Except PyErr Unit := do
  match ← computeIntegrityMac p replayKey v secretHex with
  | none => return ()
  | some expected => compareMac v.integrityMac expected

/-! ## Numbers -/

/-- What `int()` and `float()` make of a text or of bytes, or the message of their `ValueError`. -/
structure Conversions where
  int : Value → Except Str ℤ
  float : Value → Except Str PyFloat

/-- `int(x)` of a float -/
def truncate : PyFloat → Except PyErr ℤ
  | .finite q => .ok (q.num.tdiv q.den)
  | .negZero => .ok 0
  | .nan => .error (.valueError "cannot convert float NaN to integer")
  | .posInf => .error .overflowError
  | .negInf => .error .overflowError

/-- `int(v)` -/
def Conversions.toInt (conv : Conversions) : Value → Except PyErr ℤ
  | .json (.int n) => .ok n
  | .json (.bool b) => .ok (if b then 1 else 0)
  | .json (.float x) => truncate x
  | .json .null => .error .typeError
  | .json (.arr _) => .error .typeError
  | .json (.obj _) => .error .typeError
  | .json (.str s) => (conv.int (.json (.str s))).mapError .valueError
  | .bytes bs => (conv.int (.bytes bs)).mapError .valueError

/-- `float(v)` -/
def Conversions.toFloat (conv : Conversions) : Value → Except PyErr PyFloat
  | .json (.str s) => (conv.float (.json (.str s))).mapError .valueError
  | .bytes bs => (conv.float (.bytes bs)).mapError .valueError
  | .json v => Adn.toFloat v

/-! ## Storing a row -/

/-- The values of a row before SQLite stores them. -/
structure Record where
  kind : Str
  state : Str
  attemptCount : ℤ
  maxAttempts : ℤ
  firstSeenAt : PyFloat
  updatedAt : PyFloat
  expiresAt : PyFloat
  ownerAgentId : Value
  delegationId : Value
  payloadFingerprint : Value
  lastError : Value
  executionToken : Value

/-- A record whose values have the declared types. -/
def Record.of (r : Adn.Record) : Record where
  kind := r.kind
  state := r.state
  attemptCount := r.attemptCount
  maxAttempts := r.maxAttempts
  firstSeenAt := .finite r.firstSeenAt
  updatedAt := .finite r.updatedAt
  expiresAt := r.expiresAt
  ownerAgentId := .json r.ownerAgentId
  delegationId := .json r.delegationId
  payloadFingerprint := .json r.payloadFingerprint
  lastError := .ofText r.lastError
  executionToken := .ofText r.executionToken

/-- The `record` of `_write_record`, before it has its MAC. -/
def Record.values (r : Record) : Values where
  kind := .json (.str r.kind)
  state := .json (.str r.state)
  attemptCount := .json (.int r.attemptCount)
  maxAttempts := .json (.int r.maxAttempts)
  firstSeenAt := .json (.float r.firstSeenAt)
  updatedAt := .json (.float r.updatedAt)
  expiresAt := .json (.float r.expiresAt)
  ownerAgentId := r.ownerAgentId
  delegationId := r.delegationId
  payloadFingerprint := r.payloadFingerprint
  integrityMac := .json .null
  lastError := r.lastError
  executionToken := r.executionToken

def textColumn : Option Str → Column .text
  | none => ⟨.null, trivial⟩
  | some s => ⟨.text s, trivial⟩

/-- What a `TEXT` column keeps of a value. -/
def storeText (p : Platform) : Value → Except PyErr (Column .text)
  | .json v => (bindText p v).map textColumn
  | .bytes bs => .ok ⟨.blob bs, trivial⟩

/-- An integer that SQLite can bind. -/
def Fits (n : ℤ) : Prop := -2 ^ 63 ≤ n ∧ n < 2 ^ 63

instance (n : ℤ) : Decidable (Fits n) := inferInstanceAs (Decidable (_ ∧ _))

def storeInt (n : ℤ) : Except PyErr (Column .integer) :=
  if Fits n then .ok ⟨.integer n, trivial⟩ else .error .overflowError

/-- What a `REAL NOT NULL` column keeps of a float. -/
def storeReal (x : PyFloat) : Except PyErr (Column .real) := (bindReal x).map fun t => ⟨.real t, trivial⟩

/-- `_write_record`. The values are bound one after the other; `NOT NULL` is looked at after that. -/
def writeRecord (p : Platform) (replayKey : Str) (r : Record) (secretHex : Option Str) (L : Ledger) :
    Except PyErr Ledger := do
  let mac ← computeIntegrityMac p replayKey r.values secretHex
  let kind ← storeText p (.json (.str r.kind))
  let state ← storeText p (.json (.str r.state))
  let attemptCount ← storeInt r.attemptCount
  let maxAttempts ← storeInt r.maxAttempts
  let ownerAgentId ← storeText p r.ownerAgentId
  let delegationId ← storeText p r.delegationId
  let payloadFingerprint ← storeText p r.payloadFingerprint
  let lastError ← storeText p r.lastError
  let executionToken ← storeText p r.executionToken
  let firstSeenAt ← storeReal r.firstSeenAt
  let updatedAt ← storeReal r.updatedAt
  let expiresAt ← storeReal r.expiresAt
  return Function.update L replayKey (some {
    kind
    state
    attemptCount
    maxAttempts
    firstSeenAt
    updatedAt
    expiresAt
    ownerAgentId
    delegationId
    payloadFingerprint
    integrityMac := textColumn mac
    lastError
    executionToken })

/-- `expires_at <= now`, which is true of numbers only: `NULL` compares with nothing, texts and BLOBs are greater. -/
def Row.expired (row : Row) (now : ℚ) : Bool :=
  match row.expiresAt.1 with
  | .real t => t ≤ (now : Time)
  | _ => false

/-- `DELETE FROM replay_entries WHERE expires_at <= now` -/
def Ledger.purge (L : Ledger) (now : ℚ) : Ledger := fun k => (L k).filter fun row => !row.expired now

/-- `SELECT * FROM replay_entries WHERE replay_key = ?` -/
def Ledger.select (L : Ledger) (replayKey : Str) : Except PyErr (Option Row) :=
  if encodable replayKey then .ok (L replayKey) else .error .unicodeError

/-! ## Operations -/

/-- `now_ts - updated_at < RUNNING_LEASE_SECONDS` -/
def leaseHolds (now : ℚ) : PyFloat → Bool
  | .finite q => now - q < runningLeaseSeconds
  | .negZero => now < runningLeaseSeconds
  | .posInf => true
  | .negInf => false
  | .nan => false

/-- The record a `begin` writes over a row that is already there. -/
def againRecord (a : BeginArgs) (now : ℚ) (state : Str) (attemptCount maxAttempts : ℤ) (firstSeenAt expiresAt : PyFloat)
    (lastError executionToken : Option Str) : Record where
  kind := requestKind
  state
  attemptCount
  maxAttempts
  firstSeenAt
  updatedAt := .finite now
  expiresAt := pyMin expiresAt a.replayExpiresAt
  ownerAgentId := .json (.str a.ownerAgentId)
  delegationId := .json a.delegationId
  payloadFingerprint := .json (.str a.payloadFingerprint)
  lastError := .ofText lastError
  executionToken := .ofText executionToken

/-- What `begin` does with a row that passed its check. -/
def beginAgain (p : Platform) (conv : Conversions) (now : ℚ) (token : Str) (a : BeginArgs) (existing : Values)
    (L : Ledger) : Except PyErr (BeginReply × Ledger) := do
  let attemptCount ← conv.toInt existing.attemptCount
  let maxAttempts ← conv.toInt existing.maxAttempts
  let firstSeenAt ← conv.toFloat existing.firstSeenAt
  let updatedAt ← conv.toFloat existing.updatedAt
  let expiresAt ← conv.toFloat existing.expiresAt
  if existing.state.isText stateCompleted then return (refused "Delegation request replay detected", L)
  else if existing.state.isText stateFinalFailure then return (refused "Delegation request reached final failure", L)
  else if existing.state.isText stateRunning && leaseHolds now updatedAt then
    return (refused "Delegation request already running", L)
  else if maxAttempts ≤ attemptCount then
    let limit : Str := "Delegation request retry limit exceeded"
    let L ← writeRecord p a.replayKey
      (againRecord a now stateFinalFailure attemptCount maxAttempts firstSeenAt expiresAt (some limit) none)
      a.integritySecretHex L
    return (refused limit, L)
  else
    let L ← writeRecord p a.replayKey
      (againRecord a now stateRunning (attemptCount + 1) maxAttempts firstSeenAt expiresAt none (some token))
      a.integritySecretHex L
    return (⟨true, [], some token⟩, L)

/-- `begin_request_execution` -/
def beginRequestExecution (p : Platform) (conv : Conversions) (now : ℚ) (token : Str) (a : BeginArgs) (L : Ledger) :
    Except PyErr (BeginReply × Ledger) :=
  if a.replayKey = [] then .ok (refused "Delegation request replay key missing", L)
  else do
    match ← (L.purge now).select a.replayKey with
    | none =>
      let L ← writeRecord p a.replayKey (.of (a.first now token)) a.integritySecretHex (L.purge now)
      return (⟨true, [], some token⟩, L)
    | some row =>
      let existing ← row.fetch
      verifyIntegrity p a.replayKey existing a.integritySecretHex
      beginAgain p conv now token a existing (L.purge now)

/-- `existing_token and existing_token != execution_token` -/
def tokenMismatch (existing : Value) (token : Option Str) : Bool := existing.truthy && !token.any existing.isText

/-- The record `heartbeat` and `finalize` write over a row. -/
def rewriteRecord (conv : Conversions) (existing : Values) (now : ℚ) (state : Str) (lastError executionToken : Value) :
    Except PyErr Record := do
  let attemptCount ← conv.toInt existing.attemptCount
  let maxAttempts ← conv.toInt existing.maxAttempts
  let firstSeenAt ← conv.toFloat existing.firstSeenAt
  let expiresAt ← conv.toFloat existing.expiresAt
  return {
    kind := requestKind
    state
    attemptCount
    maxAttempts
    firstSeenAt
    updatedAt := .finite now
    expiresAt
    ownerAgentId := existing.ownerAgentId.orBlank
    delegationId := existing.delegationId.orBlank
    payloadFingerprint := existing.payloadFingerprint.orBlank
    lastError
    executionToken }

/-- `heartbeat_request_execution` -/
def heartbeatRequestExecution (p : Platform) (conv : Conversions) (now : ℚ) (replayKey : Str)
    (integritySecretHex executionToken : Option Str) (L : Ledger) : Except PyErr (Bool × Ledger) :=
  if replayKey = [] then .ok (false, L)
  else do
    match ← L.select replayKey with
    | none => return (false, L)
    | some row =>
      let existing ← row.fetch
      verifyIntegrity p replayKey existing integritySecretHex
      if !existing.state.isText stateRunning then return (false, L)
      else if tokenMismatch existing.executionToken executionToken then return (false, L)
      else
        let r ← rewriteRecord conv existing now stateRunning existing.lastError existing.executionToken
        let L ← writeRecord p replayKey r integritySecretHex L
        return (true, L)

/-- A retryable failure of the last attempt is final; the counts are looked at for a retryable failure only. -/
def exhausted (conv : Conversions) (existing : Values) (finalState : Str) : Except PyErr Bool :=
  if finalState = stateRetryableFailure then do
    let attemptCount ← conv.toInt existing.attemptCount
    let maxAttempts ← conv.toInt existing.maxAttempts
    return maxAttempts ≤ attemptCount
  else return false

/-- `finalize_request_execution` -/
def finalizeRequestExecution (p : Platform) (conv : Conversions) (now : ℚ) (replayKey finalState : Str)
    (integritySecretHex lastError executionToken : Option Str) (L : Ledger) : Except PyErr (Bool × Ledger) :=
  if replayKey = [] then .ok (false, L)
  else do
    match ← L.select replayKey with
    | none => return (false, L)
    | some row =>
      let existing ← row.fetch
      verifyIntegrity p replayKey existing integritySecretHex
      if tokenMismatch existing.executionToken executionToken then return (false, L)
      else
        let final ← exhausted conv existing finalState
        let r ← rewriteRecord conv existing now (if final then stateFinalFailure else finalState)
          (.ofText (if final then orLimit lastError else lastError)) (.ofText none)
        let L ← writeRecord p replayKey r integritySecretHex L
        return (true, L)

/-- `consume_result_replay` -/
def consumeResultReplay (p : Platform) (now : ℚ) (a : ConsumeArgs) (L : Ledger) :
    Except PyErr ((Bool × Str) × Ledger) :=
  if a.replayKey = [] then .ok ((false, "result replay key missing"), L)
  else if !isSet a.integritySecretHex then .ok ((false, "result replay integrity key missing"), L)
  else do
    match ← (L.purge now).select a.replayKey with
    | some row =>
      let existing ← row.fetch
      verifyIntegrity p a.replayKey existing a.integritySecretHex
      return ((false, "result replay already consumed"), L.purge now)
    | none =>
      let L ← writeRecord p a.replayKey (.of (a.record now)) a.integritySecretHex (L.purge now)
      return ((true, []), L)

/-! ## Calls -/

/-- A table without rows. -/
def Ledger.empty : Ledger := fun _ => none

/-- What a call comes to: its reply with the ledger after it, or what it raises. -/
def outcome (p : Platform) (conv : Conversions) (L : Ledger) : Call → Except PyErr (Event × Ledger)
  | .begin now token a => (beginRequestExecution p conv now token a L).map fun x => (.begin now token a x.1, x.2)
  | .heartbeat now k secret token =>
    (heartbeatRequestExecution p conv now k secret token L).map fun x => (.heartbeat now k token x.1, x.2)
  | .finalize now k state secret error token =>
    (finalizeRequestExecution p conv now k state secret error token L).map fun x => (.finalize now k state token x.1, x.2)
  | .consume now a => (consumeResultReplay p now a L).map fun x => (.consume now a x.1, x.2)

/-- The call's event and the ledger after it; an operation that raises is rolled back. -/
def exec (p : Platform) (conv : Conversions) (L : Ledger) (c : Call) : Event × Ledger :=
  match outcome p conv L c with
  | .ok x => x
  | .error _ => (.raised, L)

end Adn.Table
