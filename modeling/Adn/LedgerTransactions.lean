import Adn.LedgerRuns
import Adn.Sample
import Adn.Lib.Transaction
/-!
# The ledger's transactions

The four operations statement by statement, as they run on their connection:
`DELETE` and the upsert change what the transaction sees, and nothing is in the
table before the `COMMIT`. Any statement may fail. `ReplayLedger` gives the
outcome of each operation as one step; `call_settles` is that the statements
come to that step, or raise and leave the table as it was.
-/

open Lib

namespace Adn

/-! ## Statements -/

inductive Statement where
  | connect
  | beginImmediate
  | delete
  | select
  | upsert
  | commit

/-- Whether SQLite executes a statement; an operation has at most one of each kind. -/
abbrev Sqlite := Statement → Except PyErr Unit

abbrev LedgerTx := Tx Ledger PyErr

def beginImmediate (io : Sqlite) : LedgerTx Unit := Tx.execute (io .beginImmediate) fun L => .ok ((), L)

/-- `DELETE FROM replay_entries WHERE expires_at <= ?` -/
def deleteExpired (io : Sqlite) (now : ℚ) : LedgerTx Unit := Tx.execute (io .delete) fun L => .ok ((), L.purge now)

/-- `SELECT * FROM replay_entries WHERE replay_key = ?` -/
def selectRow (io : Sqlite) (replayKey : Str) : LedgerTx (Option Row) :=
  Tx.execute (io .select) fun L => .ok (L replayKey, L)

/-- `_write_record`: the MAC, then the upsert. -/
def upsertRecord (p : Platform) (io : Sqlite) (replayKey : Str) (r : Record) (secretHex : Option Str) : LedgerTx Unit :=
  Tx.execute (io .upsert) fun L => (writeRecord p replayKey r secretHex L).map fun L' => ((), L')

/-- `conn.commit()`, and the reply. -/
def commitReply {α : Type} (io : Sqlite) (r : α) : LedgerTx α := do
  Tx.commit (io .commit)
  return r

/-! ## Operations -/

def beginStatements (p : Platform) (io : Sqlite) (now : ℚ) (token : Str) (a : BeginArgs) : LedgerTx BeginReply := do
  beginImmediate io
  deleteExpired io now
  let row ← selectRow io a.replayKey
  match row with
  | none => do
    upsertRecord p io a.replayKey (a.first now token) a.integritySecretHex
    commitReply io ⟨true, [], some token⟩
  | some row => do
    Tx.ofExcept (verifyIntegrity p a.replayKey row a.integritySecretHex)
    if row.state = stateCompleted then commitReply io (refused "Delegation request replay detected")
    else if row.state = stateFinalFailure then commitReply io (refused "Delegation request reached final failure")
    else if row.state = stateRunning ∧ now - row.updatedAt < runningLeaseSeconds then
      commitReply io (refused "Delegation request already running")
    else if row.maxAttempts ≤ row.attemptCount then do
      let limit : Str := "Delegation request retry limit exceeded"
      upsertRecord p io a.replayKey (a.again now row stateFinalFailure row.attemptCount (some limit) none)
        a.integritySecretHex
      commitReply io (refused limit)
    else do
      upsertRecord p io a.replayKey (a.again now row stateRunning (row.attemptCount + 1) none (some token))
        a.integritySecretHex
      commitReply io ⟨true, [], some token⟩

def heartbeatStatements (p : Platform) (io : Sqlite) (now : ℚ) (replayKey : Str)
    (integritySecretHex executionToken : Option Str) : LedgerTx Bool := do
  beginImmediate io
  let row ← selectRow io replayKey
  match row with
  | none => commitReply io false
  | some row => do
    Tx.ofExcept (verifyIntegrity p replayKey row integritySecretHex)
    if row.state ≠ stateRunning then commitReply io false
    else if tokenMismatch row executionToken then commitReply io false
    else do
      upsertRecord p io replayKey (row.rewrite now stateRunning row.lastError row.executionToken) integritySecretHex
      commitReply io true

def finalizeStatements (p : Platform) (io : Sqlite) (now : ℚ) (replayKey finalState : Str)
    (integritySecretHex lastError executionToken : Option Str) : LedgerTx Bool := do
  beginImmediate io
  let row ← selectRow io replayKey
  match row with
  | none => commitReply io false
  | some row => do
    Tx.ofExcept (verifyIntegrity p replayKey row integritySecretHex)
    if tokenMismatch row executionToken then commitReply io false
    else do
      let nextState := if exhausted row finalState then stateFinalFailure else finalState
      let lastError := if exhausted row finalState then orLimit lastError else lastError
      upsertRecord p io replayKey (row.rewrite now nextState lastError none) integritySecretHex
      commitReply io true

def consumeStatements (p : Platform) (io : Sqlite) (now : ℚ) (a : ConsumeArgs) : LedgerTx (Bool × Str) := do
  beginImmediate io
  deleteExpired io now
  let row ← selectRow io a.replayKey
  match row with
  | some row => do
    Tx.ofExcept (verifyIntegrity p a.replayKey row a.integritySecretHex)
    commitReply io (false, "result replay already consumed")
  | none => do
    upsertRecord p io a.replayKey (a.record now) a.integritySecretHex
    commitReply io (true, [])

/-- `_connect()`, the statements, and `conn.close()`, which rolls back what is not committed. -/
def withConnection {α : Type} (io : Sqlite) (statements : LedgerTx α) (L : Ledger) : Except PyErr α × Ledger :=
  match io .connect with
  | .error e => (.error e, L)
  | .ok () => statements.transact L

/-- The event of a call that ended so. -/
def recorded {α : Type} (reply : α → Event) : Except PyErr α × Ledger → Event × Ledger
  | (.ok r, L) => (reply r, L)
  | (.error _, L) => (.raised, L)

def Call.run (p : Platform) (io : Sqlite) (L : Ledger) : Call → Event × Ledger
  | .begin now token a => recorded (.begin now token a)
    (if a.replayKey = [] then (.ok (refused "Delegation request replay key missing"), L)
    else withConnection io (beginStatements p io now token a) L)
  | .heartbeat now k secret token => recorded (.heartbeat now k token)
    (if k = [] then (.ok false, L) else withConnection io (heartbeatStatements p io now k secret token) L)
  | .finalize now k state secret error token => recorded (.finalize now k state token)
    (if k = [] then (.ok false, L) else withConnection io (finalizeStatements p io now k state secret error token) L)
  | .consume now a => recorded (.consume now a)
    (if a.replayKey = [] then (.ok (false, "result replay key missing"), L)
    else if !isSet a.integritySecretHex then (.ok (false, "result replay integrity key missing"), L)
    else withConnection io (consumeStatements p io now a) L)

/-! ## The statements refine the operations -/

section
variable {p : Platform} {io : Sqlite} {now : ℚ} {L : Ledger} {c : Connection Ledger}

theorem ends_upsert {α : Type} {k : Str} {r : Record} {secret : Option Str} {b : α} :
    Tx.Ends (do upsertRecord p io k r secret; commitReply io b) c (do let L ← writeRecord p k r secret c.working; return (b, L)) := by
  refine Tx.ends_execute fun _ L' h => ?_
  cases hw : writeRecord p k r secret c.working with
  | error e =>
    rw [hw] at h
    cases h
  | ok L₁ =>
    rw [hw] at h
    cases h
    exact Tx.ends_commit _ _ _

theorem ends_select {α : Type} {k : Str} {next : Option Row → LedgerTx α} {out : Except PyErr (α × Ledger)}
    (h : Tx.Ends (next (c.working k)) c out) : Tx.Ends (selectRow io k >>= next) c out := by
  refine Tx.ends_execute fun row L' he => ?_
  cases he
  exact h

theorem ends_begin {α : Type} {next : Unit → LedgerTx α} {out : Except PyErr (α × Ledger)} (h : Tx.Ends (next ()) c out) :
    Tx.Ends (beginImmediate io >>= next) c out := by
  refine Tx.ends_execute fun _ L' he => ?_
  cases he
  exact h

theorem ends_delete {α : Type} {next : Unit → LedgerTx α} {out : Except PyErr (α × Ledger)}
    (h : Tx.Ends (next ()) { c with working := c.working.purge now } out) :
    Tx.Ends (deleteExpired io now >>= next) c out := by
  refine Tx.ends_execute fun _ L' he => ?_
  cases he
  exact h

theorem begin_ends {token : Str} {a : BeginArgs} (hk : a.replayKey ≠ []) :
    Tx.Ends (beginStatements p io now token a) ⟨L, L⟩ (beginRequestExecution p (.ok ()) now token a L) := by
  unfold beginStatements
  refine ends_begin (ends_delete (ends_select ?_))
  rw [beginRequestExecution, if_neg hk, ok_bind]
  dsimp only
  cases hr : L.purge now a.replayKey with
  | none => exact ends_upsert
  | some row =>
    refine Tx.ends_ofExcept fun _ hv => ?_
    dsimp only
    rw [hv, ok_bind]
    split_ifs
    · exact Tx.ends_commit _ _ _
    · exact Tx.ends_commit _ _ _
    · exact Tx.ends_commit _ _ _
    · exact ends_upsert
    · exact ends_upsert

theorem heartbeat_ends {k : Str} {secret token : Option Str} (hk : k ≠ []) :
    Tx.Ends (heartbeatStatements p io now k secret token) ⟨L, L⟩
      (heartbeatRequestExecution p (.ok ()) now k secret token L) := by
  unfold heartbeatStatements
  refine ends_begin (ends_select ?_)
  rw [heartbeatRequestExecution, if_neg hk, ok_bind]
  dsimp only
  cases hr : L k with
  | none => exact Tx.ends_commit _ _ _
  | some row =>
    refine Tx.ends_ofExcept fun _ hv => ?_
    dsimp only
    rw [hv, ok_bind]
    split_ifs
    · exact Tx.ends_commit _ _ _
    · exact Tx.ends_commit _ _ _
    · exact ends_upsert

theorem finalize_ends {k state : Str} {secret error token : Option Str} (hk : k ≠ []) :
    Tx.Ends (finalizeStatements p io now k state secret error token) ⟨L, L⟩
      (finalizeRequestExecution p (.ok ()) now k state secret error token L) := by
  unfold finalizeStatements
  refine ends_begin (ends_select ?_)
  rw [finalizeRequestExecution, if_neg hk, ok_bind]
  dsimp only
  cases hr : L k with
  | none => exact Tx.ends_commit _ _ _
  | some row =>
    refine Tx.ends_ofExcept fun _ hv => ?_
    dsimp only
    rw [hv, ok_bind]
    by_cases hm : tokenMismatch row token = true
    · rw [if_pos hm, if_pos hm]
      exact Tx.ends_commit _ _ _
    · rw [if_neg hm, if_neg hm]
      exact ends_upsert

theorem consume_ends {a : ConsumeArgs} (hk : a.replayKey ≠ []) (hs : isSet a.integritySecretHex = true) :
    Tx.Ends (consumeStatements p io now a) ⟨L, L⟩ (consumeResultReplay p (.ok ()) now a L) := by
  unfold consumeStatements
  refine ends_begin (ends_delete (ends_select ?_))
  rw [consumeResultReplay, if_neg hk, hs, if_neg (by simp), ok_bind]
  dsimp only
  cases hr : L.purge now a.replayKey with
  | none => exact ends_upsert
  | some row =>
    refine Tx.ends_ofExcept fun _ hv => ?_
    dsimp only
    rw [hv, ok_bind]
    exact Tx.ends_commit _ _ _

/-- Statements that come to a step are recorded as that step, or as nothing done. -/
theorem withConnection_settles {α : Type} {statements : LedgerTx α} {out : Except PyErr (α × Ledger)}
    (h : Tx.Ends statements ⟨L, L⟩ out) (reply : α → Event) :
    recorded reply (withConnection io statements L) = (.raised, L) ∨
      recorded reply (withConnection io statements L) = settle L reply out := by
  unfold withConnection
  cases io .connect with
  | error e => exact .inl rfl
  | ok _ =>
    rcases h.transact with ⟨e, ht⟩ | ⟨r, L', ht, hout⟩
    · left
      simp only [ht]
      rfl
    · right
      simp only [ht, hout]
      rfl

/-- A call comes to the step of its operation, or raises and leaves the table as it was. -/
theorem call_settles (p : Platform) (io : Sqlite) (L : Ledger) (c : Call) :
    c.run p io L = (.raised, L) ∨ c.run p io L = c.exec p L := by
  cases c with
  | begin now token a =>
    rw [Call.run, Call.exec]
    by_cases hk : a.replayKey = []
    · right
      rw [if_pos hk, beginRequestExecution, if_pos hk]
      rfl
    · rw [if_neg hk]
      exact withConnection_settles (begin_ends hk) _
  | heartbeat now k secret token =>
    rw [Call.run, Call.exec]
    by_cases hk : k = []
    · right
      rw [if_pos hk, heartbeatRequestExecution, if_pos hk]
      rfl
    · rw [if_neg hk]
      exact withConnection_settles (heartbeat_ends hk) _
  | finalize now k state secret error token =>
    rw [Call.run, Call.exec]
    by_cases hk : k = []
    · right
      rw [if_pos hk, finalizeRequestExecution, if_pos hk]
      rfl
    · rw [if_neg hk]
      exact withConnection_settles (finalize_ends hk) _
  | consume now a =>
    rw [Call.run, Call.exec]
    by_cases hk : a.replayKey = []
    · right
      rw [if_pos hk, consumeResultReplay, if_pos hk]
      rfl
    · rw [if_neg hk]
      cases hs : isSet a.integritySecretHex with
      | false =>
        right
        rw [consumeResultReplay, if_neg hk, hs]
        rfl
      | true => exact withConnection_settles (consume_ends hk hs) _

theorem run_step (p : Platform) (io : Sqlite) (L : Ledger) (c : Call) :
    LedgerStep p L (c.run p io L).1 (c.run p io L).2 := by
  rcases call_settles p io L c with h | h
  · rw [h]
    exact .raised
  · rw [h]
    exact exec_step p L c

end

/-! ## The frame of a call -/

def Call.key : Call → Str
  | .begin _ _ a => a.replayKey
  | .heartbeat _ k _ _ => k
  | .finalize _ k _ _ _ _ => k
  | .consume _ a => a.replayKey

def Call.reading : Call → ℚ
  | .begin now _ _ => now
  | .heartbeat now _ _ _ => now
  | .finalize now _ _ _ _ _ => now
  | .consume now _ => now

/-- A reply of `False`. -/
def Event.refused : Event → Bool
  | .begin _ _ _ r => !r.allowed
  | .heartbeat _ _ _ ok => !ok
  | .finalize _ _ _ _ ok => !ok
  | .consume _ _ r => !r.1
  | .raised => false

/-- A `begin` that finds its row's attempts used up, and makes the failure final. -/
def Exhausts (c : Call) (L L' : Ledger) : Prop :=
  (∃ now token a, c = .begin now token a) ∧ ∃ row row', L c.key = some row ∧ row.maxAttempts ≤ row.attemptCount ∧
    L' c.key = some row' ∧ row'.state = stateFinalFailure ∧ row'.attemptCount = row.attemptCount

/-- What one call leaves alone. -/
structure Framed (c : Call) (L : Ledger) (e : Event) (L' : Ledger) : Prop where
  others : ∀ k, k ≠ c.key → L' k = L k ∨ ∃ row, L k = some row ∧ row.expiresAt ≤ c.reading ∧ L' k = none
  raised : e = .raised → L' = L
  refused : e.refused = true → L' c.key = L c.key ∨ Exhausts c L L'

/-- The same row later. -/
structure Continues (row row' : Row) : Prop where
  firstSeenAt : row'.firstSeenAt = row.firstSeenAt
  maxAttempts : row'.maxAttempts = row.maxAttempts
  attemptCount : row.attemptCount ≤ row'.attemptCount
  expiresAt : row'.expiresAt ≤ row.expiresAt

theorem Continues.rfl' (row : Row) : Continues row row := ⟨rfl, rfl, le_refl _, le_refl _⟩

theorem Continues.trans {row row' row'' : Row} (h : Continues row row') (h' : Continues row' row'') :
    Continues row row'' where
  firstSeenAt := h'.firstSeenAt.trans h.firstSeenAt
  maxAttempts := h'.maxAttempts.trans h.maxAttempts
  attemptCount := h.attemptCount.trans h'.attemptCount
  expiresAt := h'.expiresAt.trans h.expiresAt

section
variable {p : Platform} {io : Sqlite} {now : ℚ} {k : Str} {L L' : Ledger} {e : Event} {row row' : Row}

theorem time?_pyMin_le {t t' : Time} {x : PyFloat} (h : time? (pyMin t.toFloat x) = some t') : t' ≤ t := by
  unfold pyMin at h
  rw [time?_toFloat] at h
  cases hx : time? x with
  | none =>
    simp only [hx, time?_toFloat, Option.some.injEq] at h
    exact le_of_eq h.symm
  | some s =>
    simp only [hx] at h
    split at h
    · rename_i hlt
      rw [hx] at h
      exact Option.some.inj h ▸ le_of_lt hlt
    · rw [time?_toFloat] at h
      exact le_of_eq (Option.some.inj h).symm

theorem continues_again {a : BeginArgs} {state : Str} {n : ℤ} {error token : Option Str} (hn : row.attemptCount ≤ n)
    (h : Stores (a.again now row state n error token) row') : Continues row row' where
  firstSeenAt := h.firstSeenAt
  maxAttempts := h.maxAttempts
  attemptCount := h.attemptCount ▸ hn
  expiresAt := time?_pyMin_le h.expiresAt

theorem continues_rewrite {state : Str} {error token : Option Str}
    (h : Stores (row.rewrite now state error token) row') : Continues row row' where
  firstSeenAt := h.firstSeenAt
  maxAttempts := h.maxAttempts
  attemptCount := le_of_eq h.attemptCount.symm
  expiresAt := le_of_eq (h.expiresAt_eq rfl)

/-- A row that is not purged goes on. -/
theorem step_continues (h : LedgerStep p L e L') (hu : Unpurged k L e) (hr : L k = some row) :
    ∃ row', L' k = some row' ∧ Continues row row' := by
  by_cases hk : e.key = some k
  · have hcurrent : ∀ now, e.purges = some now → L.purge now k = some row := fun now hn =>
      purge_some.2 ⟨hr, hu now hn row hr⟩
    cases h with
    | @begin db now token a _ _ r hb =>
      obtain rfl := Option.some.inj hk
      have hp := hcurrent now rfl
      cases begin_step hb with
      | keyMissing => exact ⟨row, hr, .rfl' row⟩
      | blocked => exact ⟨row, hp, .rfl' row⟩
      | first _ hn =>
        rw [hn] at hp
        cases hp
      | exhausted row₁ row' _ _ h₁ _ _ hs =>
        obtain rfl := Option.some.inj (h₁.symm.trans hp)
        exact ⟨row', Function.update_self _ _ _, continues_again (le_refl _) hs⟩
      | again row₁ row' h₁ _ _ hs =>
        obtain rfl := Option.some.inj (h₁.symm.trans hp)
        exact ⟨row', Function.update_self _ _ _, continues_again (by omega) hs⟩
    | heartbeat hb =>
      obtain rfl := Option.some.inj hk
      cases heartbeat_step hb with
      | refused => exact ⟨row, hr, .rfl' row⟩
      | renewed row₁ row' h₁ _ _ hs =>
        obtain rfl := Option.some.inj (h₁.symm.trans hr)
        exact ⟨row', Function.update_self _ _ _, continues_rewrite hs⟩
    | finalize hb =>
      obtain rfl := Option.some.inj hk
      cases finalize_step hb with
      | refused => exact ⟨row, hr, .rfl' row⟩
      | recorded row₁ row' _ h₁ _ hs =>
        obtain rfl := Option.some.inj (h₁.symm.trans hr)
        exact ⟨row', Function.update_self _ _ _, continues_rewrite hs⟩
    | @consume db now a _ _ r hb =>
      obtain rfl := Option.some.inj hk
      have hp := hcurrent now rfl
      cases consume_step hb with
      | unkeyed => exact ⟨row, hr, .rfl' row⟩
      | present => exact ⟨row, hp, .rfl' row⟩
      | consumed _ hn =>
        rw [hn] at hp
        cases hp
    | raised => cases hk
  · exact ⟨row, (row_elsewhere h hk hu).trans hr, .rfl' row⟩

/-- A row continues through every run in which it is not purged. -/
theorem run_continues {es : List Event} (h : Run (Meeting (LedgerStep p) (Unpurged k)) L es L') (hr : L k = some row) :
    ∃ row', L' k = some row' ∧ Continues row row' := by
  refine h.inv (I := fun L => ∃ row', L k = some row' ∧ Continues row row') ⟨row, hr, .rfl' row⟩ ?_
  rintro s e s' ⟨row₁, hr₁, hc₁⟩ ⟨hst, hu⟩
  obtain ⟨row₂, hr₂, hc₂⟩ := step_continues hst hu hr₁
  exact ⟨row₂, hr₂, hc₁.trans hc₂⟩

/-- What an operation that answers `False` leaves under its key. -/
theorem step_refused (h : LedgerStep p L e L') (hk : e.key = some k) (hf : e.refused = true) :
    L' k = L k ∨ (∃ now token a r, e = .begin now token a r) ∧ ∃ row row', L k = some row ∧
      row.maxAttempts ≤ row.attemptCount ∧ L' k = some row' ∧ row'.state = stateFinalFailure ∧
      row'.attemptCount = row.attemptCount := by
  cases h with
  | begin hb =>
    obtain rfl := Option.some.inj hk
    cases begin_step hb with
    | keyMissing => exact .inl rfl
    | blocked row _ hp => exact .inl (hp.trans (purge_some.1 hp).1.symm)
    | first => cases hf
    | exhausted row row' _ _ hp _ hle hs =>
      exact .inr ⟨⟨_, _, _, _, rfl⟩, row, row', (purge_some.1 hp).1, hle, Function.update_self _ _ _, hs.state,
        hs.attemptCount⟩
    | again => cases hf
  | heartbeat hb =>
    cases heartbeat_step hb with
    | refused => exact .inl rfl
    | renewed => cases hf
  | finalize hb =>
    cases finalize_step hb with
    | refused => exact .inl rfl
    | recorded => cases hf
  | consume hb =>
    obtain rfl := Option.some.inj hk
    cases consume_step hb with
    | unkeyed => exact .inl rfl
    | present row _ hp => exact .inl (hp.trans (purge_some.1 hp).1.symm)
    | consumed => cases hf
  | raised => cases hk

/-- What a call is recorded as. -/
theorem exec_event (p : Platform) (L : Ledger) (c : Call) : c.exec p L = (.raised, L) ∨
    (c.exec p L).1.key = some c.key ∧ (∀ now, (c.exec p L).1.purges = some now → now = c.reading) ∧
      ∀ now token a r, (c.exec p L).1 = .begin now token a r → c = .begin now token a := by
  have settled : ∀ {α : Type} {reply : α → Event} {x : Except PyErr (α × Ledger)},
      (∀ r, (reply r).key = some c.key ∧ (∀ now, (reply r).purges = some now → now = c.reading) ∧
        ∀ now token a s, reply r = .begin now token a s → c = .begin now token a) →
      settle L reply x = (.raised, L) ∨ (settle L reply x).1.key = some c.key ∧
        (∀ now, (settle L reply x).1.purges = some now → now = c.reading) ∧
        ∀ now token a r, (settle L reply x).1 = .begin now token a r → c = .begin now token a := by
    intro α reply x h
    cases x with
    | error e => exact .inl rfl
    | ok y => exact .inr (h y.1)
  cases c with
  | begin now token a =>
    refine settled fun r => ⟨rfl, fun _ hn => (Option.some.inj hn).symm, ?_⟩
    rintro _ _ _ _ h
    cases h
    rfl
  | heartbeat =>
    refine settled fun r => ⟨rfl, (by intro _ hn; cases hn), ?_⟩
    intro _ _ _ _ h
    cases h
  | finalize =>
    refine settled fun r => ⟨rfl, (by intro _ hn; cases hn), ?_⟩
    intro _ _ _ _ h
    cases h
  | consume now a =>
    refine settled fun r => ⟨rfl, fun _ hn => (Option.some.inj hn).symm, ?_⟩
    intro _ _ _ _ h
    cases h

theorem framed (p : Platform) (io : Sqlite) (L : Ledger) (c : Call) :
    Framed c L (c.run p io L).1 (c.run p io L).2 := by
  have hnothing : Framed c L .raised L := ⟨fun _ _ => .inl rfl, fun _ => rfl, fun h => by cases h⟩
  rcases call_settles p io L c with h | h
  · rw [h]
    exact hnothing
  rw [h]
  rcases exec_event p L c with h | ⟨hkey, hreading, hbegin⟩
  · rw [h]
    exact hnothing
  have hstep := exec_step p L c
  refine ⟨fun k hk => ?_, fun hraised => ?_, fun hf => ?_⟩
  · have hne : (c.exec p L).1.key ≠ some k := by
      rw [hkey]
      exact fun he => hk (Option.some.inj he).symm
    cases hr : L k with
    | none => exact .inl (step_other_none hstep hne hr)
    | some row =>
      rcases step_other_row hstep hne hr with he | ⟨now, hn, hle, he⟩
      · exact .inl he
      · obtain rfl := hreading now hn
        exact .inr ⟨row, rfl, hle, he⟩
  · rw [hraised] at hkey
    cases hkey
  · rcases step_refused hstep hkey hf with he | ⟨⟨now, token, a, r, he⟩, hrow⟩
    · exact .inl he
    · exact .inr ⟨⟨now, token, a, hbegin now token a r he⟩, hrow⟩

end

/-! ## Runs of calls -/

/-- A call, with any of its statements failing. -/
def CallStep (p : Platform) (L : Ledger) (e : Event) (L' : Ledger) : Prop := ∃ io c, Call.run p io L c = (e, L')

/-- Every call keeps to its frame, and every row continues until it is purged. -/
theorem ledger_frame (p : Platform) (L : Ledger) :
    (∀ io c, Framed c L (Call.run p io L c).1 (Call.run p io L c).2) ∧
      ∀ k row, L k = some row → ∀ es L', Run (Meeting (CallStep p) (Unpurged k)) L es L' →
        ∃ row', L' k = some row' ∧ Continues row row' := by
  refine ⟨fun io c => framed p io L c, fun k row hr es L' h => run_continues (p := p) (h.mono ?_) hr⟩
  rintro s e s' ⟨⟨io, c, hrun⟩, hu⟩
  have hst := run_step p io s c
  rw [hrun] at hst
  exact ⟨hst, hu⟩

/-- A database that executes every statement. -/
def Sample.sqlite : Sqlite := fun _ => .ok ()

/-- The ledger after a first begin. -/
def Sample.begun : Ledger := ((Call.begin 0 "a" Sample.beginArgs).run Sample.platform Sample.sqlite Ledger.empty).2

/-- A heartbeat of its holder. -/
def Sample.beat : Event × Ledger := (Call.heartbeat 100 "k" none (some "a")).run Sample.platform Sample.sqlite Sample.begun

theorem begun_row_continues : Sample.beat.1 = .heartbeat 100 "k" (some "a") true ∧
    ∃ row, Sample.beat.2 "k" = some row ∧ row.firstSeenAt = 0 ∧ row.maxAttempts = 2 := by
  obtain ⟨row, hrow⟩ : ∃ row, Sample.begun "k" = some row := ⟨_, rfl⟩
  have hstep : Meeting (CallStep Sample.platform) (Unpurged "k") Sample.begun Sample.beat.1 Sample.beat.2 :=
    ⟨⟨Sample.sqlite, .heartbeat 100 "k" none (some "a"), rfl⟩, fun now hn => by cases hn⟩
  obtain ⟨row', hrow', hc⟩ := (ledger_frame Sample.platform Sample.begun).2 "k" row hrow _ _ (Run.snoc .nil hstep)
  obtain rfl := Option.some.inj (hrow.symm.trans rfl)
  exact ⟨rfl, row', hrow', hc.firstSeenAt, hc.maxAttempts⟩

end Adn
