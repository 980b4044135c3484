import Adn.ReplayLedger
/-!
# What a ledger operation can do

One inductive predicate for each operation, with one constructor for each way it
can end, and the lemma that it ends in one of these. An operation that raises
has no step: its transaction is rolled back.
-/

open Lib

namespace Adn

/-- A stored row holds a record's values. -/
structure Stores (r : Record) (row : Row) : Prop where
  kind : row.kind = r.kind
  state : row.state = r.state
  attemptCount : row.attemptCount = r.attemptCount
  maxAttempts : row.maxAttempts = r.maxAttempts
  firstSeenAt : row.firstSeenAt = r.firstSeenAt
  updatedAt : row.updatedAt = r.updatedAt
  expiresAt : time? r.expiresAt = some row.expiresAt
  executionToken : row.executionToken = r.executionToken

theorem bindReal_ok {x : PyFloat} {t : Time} : bindReal x = .ok t ↔ time? x = some t := by
  unfold bindReal
  cases time? x <;> simp

theorem writeRecord_ok {p : Platform} {k : Str} {r : Record} {secret : Option Str} {L L' : Ledger}
    (h : writeRecord p k r secret L = .ok L') : ∃ row, Stores r row ∧ L' = Function.update L k (some row) := by
  simp only [writeRecord, bind_ok, pure_ok] at h
  obtain ⟨mac, -, o, -, d, -, f, -, e, -, t, ht, rfl⟩ := h
  exact ⟨_, ⟨rfl, rfl, rfl, rfl, rfl, rfl, bindReal_ok.1 ht, rfl⟩, rfl⟩

theorem writeRecord_eq {p : Platform} {k : Str} {r : Record} {secret : Option Str} {L : Ledger}
    {mac o d f e : Option Str} {t : Time} (hm : computeIntegrityMac p k r secret = .ok mac)
    (ht : bindReal r.expiresAt = .ok t) (ho : bindText p r.ownerAgentId = .ok o) (hd : bindText p r.delegationId = .ok d)
    (hf : bindText p r.payloadFingerprint = .ok f) (he : bindText p (optText r.lastError) = .ok e) :
    writeRecord p k r secret L = .ok (Function.update L k (some {
      kind := r.kind
      state := r.state
      attemptCount := r.attemptCount
      maxAttempts := r.maxAttempts
      firstSeenAt := r.firstSeenAt
      updatedAt := r.updatedAt
      expiresAt := t
      ownerAgentId := o
      delegationId := d
      payloadFingerprint := f
      integrityMac := mac
      lastError := e
      executionToken := r.executionToken })) := by
  simp only [writeRecord, hm, ht, ho, hd, hf, he]
  rfl

theorem bindText_str {p : Platform} {s : Str} (h : encodable s = true) : bindText p (.str s) = .ok (some s) := by
  rw [bindText, if_pos h]

theorem time?_toFloat (t : Time) : time? t.toFloat = some t := by
  match t with
  | ⊥ => rfl
  | some ⊤ => rfl
  | some (some q) => rfl

/-- A rewritten row keeps its expiry. -/
theorem Stores.expiresAt_eq {r : Record} {row : Row} (h : Stores r row) {t : Time} (ht : r.expiresAt = t.toFloat) :
    row.expiresAt = t := by
  have := h.expiresAt
  rw [ht, time?_toFloat] at this
  exact (Option.some.inj this).symm

/-! ## Purging -/

theorem purge_some {L : Ledger} {now : ℚ} {k : Str} {row : Row} :
    L.purge now k = some row ↔ L k = some row ∧ (now : Time) < row.expiresAt := by
  simp only [Ledger.purge, Option.filter_eq_some_iff, decide_eq_true_eq]

/-- A row that is not past stays. -/
theorem purge_of_current {L : Ledger} {now : ℚ} {k : Str} (h : ∀ row, L k = some row → (now : Time) < row.expiresAt) :
    L.purge now k = L k := by
  cases hk : L k with
  | none => simp [Ledger.purge, hk]
  | some row => exact purge_some.2 ⟨hk, h row hk⟩

/-! ## Begin -/

/-- A row that keeps a request from beginning again. -/
def Blocks (now : ℚ) (row : Row) : Prop :=
  row.state = stateCompleted ∨ row.state = stateFinalFailure ∨
    (row.state = stateRunning ∧ now - row.updatedAt < runningLeaseSeconds)

inductive BeginStep (now : ℚ) (token : Str) (a : BeginArgs) (L : Ledger) : BeginReply → Ledger → Prop
  | keyMissing (reason : Str) : a.replayKey = [] → BeginStep now token a L (refused reason) L
  | blocked (row : Row) (reason : Str) : L.purge now a.replayKey = some row → Blocks now row →
      BeginStep now token a L (refused reason) (L.purge now)
  | first (row : Row) : L.purge now a.replayKey = none → Stores (a.first now token) row →
      BeginStep now token a L ⟨true, [], some token⟩ (Function.update (L.purge now) a.replayKey (some row))
  | exhausted (row row' : Row) (reason : Str) (lastError : Option Str) : L.purge now a.replayKey = some row →
      ¬Blocks now row → row.maxAttempts ≤ row.attemptCount →
      Stores (a.again now row stateFinalFailure row.attemptCount lastError none) row' →
      BeginStep now token a L (refused reason) (Function.update (L.purge now) a.replayKey (some row'))
  | again (row row' : Row) : L.purge now a.replayKey = some row → ¬Blocks now row →
      row.attemptCount < row.maxAttempts →
      Stores (a.again now row stateRunning (row.attemptCount + 1) none (some token)) row' →
      BeginStep now token a L ⟨true, [], some token⟩ (Function.update (L.purge now) a.replayKey (some row'))

theorem begin_step {p : Platform} {db : Except PyErr Unit} {now : ℚ} {token : Str} {a : BeginArgs} {L L' : Ledger}
    {r : BeginReply} (h : beginRequestExecution p db now token a L = .ok (r, L')) :
    BeginStep now token a L r L' := by
  unfold beginRequestExecution at h
  split at h
  · cases h
    exact .keyMissing _ ‹_›
  · obtain ⟨_, -, h⟩ := bind_ok.1 h
    cases hk : L.purge now a.replayKey with
    | none =>
      simp only [hk, bind_ok, pure_ok, Prod.mk.injEq] at h
      obtain ⟨L₁, hw, rfl, rfl⟩ := h
      obtain ⟨row, hs, rfl⟩ := writeRecord_ok hw
      exact .first row hk hs
    | some row =>
      simp only [hk] at h
      obtain ⟨_, -, h⟩ := bind_ok.1 h
      split at h
      · cases h
        exact .blocked row _ hk (.inl ‹_›)
      split at h
      · cases h
        exact .blocked row _ hk (.inr (.inl ‹_›))
      split at h
      · cases h
        exact .blocked row _ hk (.inr (.inr ‹_›))
      have hb : ¬Blocks now row := by
        unfold Blocks
        tauto
      split at h
      · simp only [bind_ok, pure_ok, Prod.mk.injEq] at h
        obtain ⟨L₁, hw, rfl, rfl⟩ := h
        obtain ⟨row', hs, rfl⟩ := writeRecord_ok hw
        exact .exhausted row row' _ _ hk hb ‹_› hs
      · simp only [bind_ok, pure_ok, Prod.mk.injEq] at h
        obtain ⟨L₁, hw, rfl, rfl⟩ := h
        obtain ⟨row', hs, rfl⟩ := writeRecord_ok hw
        exact .again row row' hk hb (not_le.1 ‹_›) hs

/-- A first `begin` is allowed if SQLite can store its values. -/
theorem begin_first {p : Platform} {now : ℚ} {token : Str} {a : BeginArgs} {L L' : Ledger} (hk : a.replayKey ≠ [])
    (hn : L.purge now a.replayKey = none)
    (hw : writeRecord p a.replayKey (a.first now token) a.integritySecretHex (L.purge now) = .ok L') :
    beginRequestExecution p (.ok ()) now token a L = .ok (⟨true, [], some token⟩, L') := by
  rw [beginRequestExecution, if_neg hk]
  simp only [hn]
  exact bind_ok.2 ⟨(), rfl, bind_ok.2 ⟨L', hw, rfl⟩⟩

/-- A row that does not block begins again while it has attempts left. -/
theorem begin_again {p : Platform} {now : ℚ} {token : Str} {a : BeginArgs} {L L' : Ledger} {row : Row}
    (hk : a.replayKey ≠ []) (hr : L.purge now a.replayKey = some row)
    (hv : verifyIntegrity p a.replayKey row a.integritySecretHex = .ok ()) (hb : ¬Blocks now row)
    (hlt : row.attemptCount < row.maxAttempts)
    (hw : writeRecord p a.replayKey (a.again now row stateRunning (row.attemptCount + 1) none (some token))
      a.integritySecretHex (L.purge now) = .ok L') :
    beginRequestExecution p (.ok ()) now token a L = .ok (⟨true, [], some token⟩, L') := by
  simp only [Blocks, not_or] at hb
  rw [beginRequestExecution, if_neg hk]
  simp only [hr]
  refine bind_ok.2 ⟨(), rfl, bind_ok.2 ⟨(), hv, ?_⟩⟩
  rw [if_neg hb.1, if_neg hb.2.1, if_neg hb.2.2, if_neg (not_le.2 hlt)]
  exact bind_ok.2 ⟨L', hw, rfl⟩

/-! ## Heartbeat and finalize -/

inductive HeartbeatStep (now : ℚ) (k : Str) (token : Option Str) (L : Ledger) : Bool → Ledger → Prop
  | refused : HeartbeatStep now k token L false L
  | renewed (row row' : Row) : L k = some row → row.state = stateRunning → tokenMismatch row token = false →
      Stores (row.rewrite now stateRunning row.lastError row.executionToken) row' →
      HeartbeatStep now k token L true (Function.update L k (some row'))

theorem heartbeat_step {p : Platform} {db : Except PyErr Unit} {now : ℚ} {k : Str} {secret token : Option Str}
    {L L' : Ledger} {b : Bool} (h : heartbeatRequestExecution p db now k secret token L = .ok (b, L')) :
    HeartbeatStep now k token L b L' := by
  unfold heartbeatRequestExecution at h
  split at h
  · cases h
    exact .refused
  · obtain ⟨_, -, h⟩ := bind_ok.1 h
    cases hk : L k with
    | none =>
      simp only [hk] at h
      cases h
      exact .refused
    | some row =>
      simp only [hk] at h
      obtain ⟨_, -, h⟩ := bind_ok.1 h
      split at h
      · cases h
        exact .refused
      split at h
      · cases h
        exact .refused
      · simp only [bind_ok, pure_ok, Prod.mk.injEq] at h
        obtain ⟨L₁, hw, rfl, rfl⟩ := h
        obtain ⟨row', hs, rfl⟩ := writeRecord_ok hw
        exact .renewed row row' hk (not_not.1 ‹_›) (by simpa using ‹¬tokenMismatch row token = true›) hs

/-- The state a finalize records. -/
def finalStateOf (row : Row) (finalState : Str) : Str := if exhausted row finalState then stateFinalFailure else finalState

inductive FinalizeStep (now : ℚ) (k finalState : Str) (token : Option Str) (L : Ledger) : Bool → Ledger → Prop
  | refused : (k ≠ [] → ∀ row, L k = some row → tokenMismatch row token = true) →
      FinalizeStep now k finalState token L false L
  | recorded (row row' : Row) (lastError : Option Str) : L k = some row → tokenMismatch row token = false →
      Stores (row.rewrite now (finalStateOf row finalState) lastError none) row' →
      FinalizeStep now k finalState token L true (Function.update L k (some row'))

theorem finalize_step {p : Platform} {db : Except PyErr Unit} {now : ℚ} {k finalState : Str}
    {secret lastError token : Option Str} {L L' : Ledger} {b : Bool}
    (h : finalizeRequestExecution p db now k finalState secret lastError token L = .ok (b, L')) :
    FinalizeStep now k finalState token L b L' := by
  unfold finalizeRequestExecution at h
  split at h
  · cases h
    exact .refused fun hne => absurd ‹_› hne
  · obtain ⟨_, -, h⟩ := bind_ok.1 h
    cases hk : L k with
    | none =>
      simp only [hk] at h
      cases h
      exact .refused fun _ row hr => by rw [hk] at hr; cases hr
    | some row =>
      simp only [hk] at h
      obtain ⟨_, -, h⟩ := bind_ok.1 h
      split at h
      · cases h
        exact .refused fun _ row' hr => by rw [hk] at hr; cases hr; assumption
      · simp only [bind_ok, pure_ok, Prod.mk.injEq] at h
        obtain ⟨L₁, hw, rfl, rfl⟩ := h
        obtain ⟨row', hs, rfl⟩ := writeRecord_ok hw
        exact .recorded row row' _ hk (by simpa using ‹¬tokenMismatch row token = true›) hs

/-- Another holder's row is not finalized. -/
theorem finalize_mismatch {p : Platform} {now : ℚ} {k state : Str} {secret error token : Option Str} {L : Ledger}
    {row : Row} (hr : L k = some row) (hv : verifyIntegrity p k row secret = .ok ())
    (ht : tokenMismatch row token = true) :
    finalizeRequestExecution p (.ok ()) now k state secret error token L = .ok (false, L) := by
  rw [finalizeRequestExecution]
  split
  · rfl
  · simp only [hr]
    refine bind_ok.2 ⟨(), rfl, bind_ok.2 ⟨(), hv, ?_⟩⟩
    rw [if_pos ht]
    rfl

theorem finalize_match {p : Platform} {now : ℚ} {k state : Str} {secret error token : Option Str} {L L' : Ledger}
    {row : Row} (hk : k ≠ []) (hr : L k = some row) (hv : verifyIntegrity p k row secret = .ok ())
    (ht : tokenMismatch row token = false) (hx : exhausted row state = false)
    (hw : writeRecord p k (row.rewrite now state error none) secret L = .ok L') :
    finalizeRequestExecution p (.ok ()) now k state secret error token L = .ok (true, L') := by
  rw [finalizeRequestExecution, if_neg hk]
  simp only [hr]
  refine bind_ok.2 ⟨(), rfl, bind_ok.2 ⟨(), hv, ?_⟩⟩
  simp only [ht, hx, Bool.false_eq_true, if_false]
  exact bind_ok.2 ⟨L', hw, rfl⟩

/-! ## Consume -/

inductive ConsumeStep (now : ℚ) (a : ConsumeArgs) (L : Ledger) : Bool × Str → Ledger → Prop
  | unkeyed (reason : Str) : ConsumeStep now a L (false, reason) L
  | present (row : Row) (reason : Str) : L.purge now a.replayKey = some row →
      ConsumeStep now a L (false, reason) (L.purge now)
  | consumed (row : Row) : L.purge now a.replayKey = none → Stores (a.record now) row →
      ConsumeStep now a L (true, []) (Function.update (L.purge now) a.replayKey (some row))

theorem consume_step {p : Platform} {db : Except PyErr Unit} {now : ℚ} {a : ConsumeArgs} {L L' : Ledger}
    {r : Bool × Str} (h : consumeResultReplay p db now a L = .ok (r, L')) : ConsumeStep now a L r L' := by
  unfold consumeResultReplay at h
  split at h
  · cases h
    exact .unkeyed _
  split at h
  · cases h
    exact .unkeyed _
  · obtain ⟨_, -, h⟩ := bind_ok.1 h
    cases hk : L.purge now a.replayKey with
    | none =>
      simp only [hk, bind_ok, pure_ok, Prod.mk.injEq] at h
      obtain ⟨L₁, hw, rfl, rfl⟩ := h
      obtain ⟨row, hs, rfl⟩ := writeRecord_ok hw
      exact .consumed row hk hs
    | some row =>
      simp only [hk] at h
      obtain ⟨_, -, h⟩ := bind_ok.1 h
      cases h
      exact .present row _ hk

/-- A result that is not in the ledger is consumed if SQLite can store its values. -/
theorem consume_first {p : Platform} {now : ℚ} {a : ConsumeArgs} {L L' : Ledger} (hk : a.replayKey ≠ [])
    (hs : isSet a.integritySecretHex = true) (hn : L.purge now a.replayKey = none)
    (hw : writeRecord p a.replayKey (a.record now) a.integritySecretHex (L.purge now) = .ok L') :
    consumeResultReplay p (.ok ()) now a L = .ok ((true, []), L') := by
  rw [consumeResultReplay, if_neg hk, hs, if_neg (by simp)]
  simp only [hn]
  exact bind_ok.2 ⟨(), rfl, bind_ok.2 ⟨L', hw, rfl⟩⟩

end Adn
