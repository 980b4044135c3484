import Adn.LedgerTable
/-!
# The table that the program writes

`Row.of` is a row of `ReplayLedger` as SQLite stores it. Over rows that the
program wrote, the operations of `LedgerTable` are those of `ReplayLedger`
(`exec_written`), so every run of the one is a run of the other (`run_written`).
-/

open Lib

namespace Adn.Table

/-! ## Rows of the program -/

def Row.of (row : Adn.Row) : Row where
  kind := textColumn (some row.kind)
  state := textColumn (some row.state)
  attemptCount := ⟨.integer row.attemptCount, trivial⟩
  maxAttempts := ⟨.integer row.maxAttempts, trivial⟩
  firstSeenAt := ⟨.real (row.firstSeenAt : Time), trivial⟩
  updatedAt := ⟨.real (row.updatedAt : Time), trivial⟩
  expiresAt := ⟨.real row.expiresAt, trivial⟩
  ownerAgentId := textColumn row.ownerAgentId
  delegationId := textColumn row.delegationId
  payloadFingerprint := textColumn row.payloadFingerprint
  integrityMac := textColumn row.integrityMac
  lastError := textColumn row.lastError
  executionToken := textColumn row.executionToken

def Ledger.of (L : Adn.Ledger) : Ledger := fun k => (L k).map Row.of

/-- What SQLite needs of a row to store it again. -/
structure Storable (row : Adn.Row) : Prop where
  attemptCount : Fits row.attemptCount
  maxAttempts : Fits row.maxAttempts
  executionToken : ∀ t, row.executionToken = some t → encodable t = true

/-- Every row can be stored again. -/
def AllStorable (L : Adn.Ledger) : Prop := ∀ k row, L k = some row → Storable row

/-- The texts of a call that go into the table as they are. -/
def CallStorable : Call → Prop
  | .begin _ token a => encodable a.replayKey = true ∧ encodable token = true
  | .heartbeat _ k _ _ => encodable k = true
  | .finalize _ k state _ _ _ => encodable k = true ∧ encodable state = true
  | .consume _ a => encodable a.replayKey = true

section
variable {p : Platform} {conv : Conversions} {k : Str} {row : Adn.Row} {L : Adn.Ledger} {now : ℚ} {secret token : Option Str}

theorem value_textColumn (s : Option Str) : (textColumn s).1.value = .ofText s := by
  cases s <;> rfl

theorem readable_textColumn (s : Option Str) : (textColumn s).1.isUndecodable = false := by
  cases s <;> rfl

theorem blob_textColumn (s : Option Str) : (textColumn s).1.isBlob = false := by
  cases s <;> rfl

/-- A row of the program has no texts that cannot be decoded, and no BLOBs. -/
theorem plain_of (row : Adn.Row) :
    (Row.of row).cells.any Cell.isUndecodable = false ∧ (Row.of row).covered.any Cell.isBlob = false := by
  simp only [Row.cells, Row.covered, Row.of, List.any_cons, List.any_nil, readable_textColumn, blob_textColumn]
  exact ⟨rfl, rfl⟩

theorem fetch_of (row : Adn.Row) : (Row.of row).fetch = .ok (Row.of row).values := by
  rw [Row.fetch, (plain_of row).1, if_neg Bool.false_ne_true]

/-- The values of a stored row are those of its record. -/
theorem values_of (row : Adn.Row) : (Row.of row).values = { (Record.of row.record).values with
    integrityMac := .ofText row.integrityMac } := by
  simp only [Row.values, Row.of, Record.values, Record.of, Adn.Row.record, value_textColumn]
  rfl

theorem payload_of (k : Str) (r : Adn.Record) (mac : Value) :
    stableRecordPayload k { (Record.of r).values with integrityMac := mac } = .ok (Adn.stableRecordPayload k r) := by
  rw [stableRecordPayload, if_neg]
  · simp only [payloadText, Adn.stableRecordPayload, Values.covered, Record.values, Record.of, Value.document, Value.ofText,
      Dict.ofList, List.map_cons, List.map_nil]
  · simp [Values.covered, Record.values, Record.of, Value.isBytes, Value.ofText]

theorem mac_of (p : Platform) (k : Str) (r : Adn.Record) (mac : Value) (secret : Option Str) :
    computeIntegrityMac p k { (Record.of r).values with integrityMac := mac } secret =
      Adn.computeIntegrityMac p k r secret := by
  unfold computeIntegrityMac Adn.computeIntegrityMac
  rw [payload_of]
  rfl

theorem mac_of_row (p : Platform) (k : Str) (row : Adn.Row) (secret : Option Str) :
    computeIntegrityMac p k (Row.of row).values secret = Adn.computeIntegrityMac p k row.record secret := by
  rw [values_of, mac_of]

/-- A digest in hexadecimal is not empty. -/
theorem mac_ne (hd : ∀ key m, p.hmacSha256 key m ≠ []) {r : Adn.Record} {mac : Str}
    (h : Adn.computeIntegrityMac p k r secret = .ok (some mac)) : mac ≠ [] := by
  unfold Adn.computeIntegrityMac at h
  split at h
  · cases h
  · cases h
  · split at h
    · cases h
    · obtain rfl := Option.some.inj (Except.ok.inj h)
      exact Hex.hexLower_ne (hd _ _)

theorem verify_of (hd : ∀ key m, p.hmacSha256 key m ≠ []) (k : Str) (row : Adn.Row) (secret : Option Str) :
    verifyIntegrity p k (Row.of row).values secret = Adn.verifyIntegrity p k row secret := by
  rw [verifyIntegrity, mac_of_row, Adn.verifyIntegrity]
  cases hm : Adn.computeIntegrityMac p k row.record secret with
  | error e => rfl
  | ok mac =>
    rw [ok_bind, ok_bind]
    cases mac with
    | none => rfl
    | some expected =>
      have hmac : (Row.of row).values.integrityMac = .ofText row.integrityMac := value_textColumn _
      dsimp only
      rw [hmac]
      cases row.integrityMac with
      | none => rfl
      | some actual =>
        cases actual with
        | nil =>
          -- `not actual` on the one side, a text that is no digest on the other
          have hne : decide (([] : Str) = expected) = false := by
            rw [decide_eq_false_iff_not]
            exact (mac_ne hd hm).symm
          simp only [List.all_nil, if_true, require, hne]
          rfl
        | cons u us =>
          simp only [compareMac, Value.ofText, optText, Value.truthy, Json.truthy, require, decide_eq_true_eq]
          rfl

theorem purge_of (L : Adn.Ledger) (now : ℚ) : (Ledger.of L).purge now = Ledger.of (L.purge now) := by
  funext k
  rw [Ledger.purge, Ledger.of, Ledger.of, Adn.Ledger.purge]
  cases L k with
  | none => rfl
  | some row =>
    have hexpired : (!(Row.of row).expired now) = decide ((now : Time) < row.expiresAt) := by
      simp only [Row.expired, Row.of, ← decide_not, not_le]
    simp only [Option.map_some, Option.filter_some, hexpired]
    split <;> rfl

theorem update_of (L : Adn.Ledger) (k : Str) (row : Adn.Row) :
    Function.update (Ledger.of L) k (some (Row.of row)) = Ledger.of (Function.update L k (some row)) := by
  funext k'
  rw [Ledger.of]
  by_cases hk : k' = k
  · subst hk
    rw [Function.update_self, Function.update_self]
    rfl
  · rw [Function.update_of_ne hk, Function.update_of_ne hk]
    rfl

theorem select_of (hk : encodable k = true) (L : Adn.Ledger) : (Ledger.of L).select k = .ok ((L k).map Row.of) := by
  rw [Ledger.select, if_pos hk]
  rfl

theorem storeText_str {t : Str} (h : encodable t = true) : storeText p (.json (.str t)) = .ok (textColumn (some t)) := by
  rw [storeText, bindText_str h]
  rfl

theorem storeInt_fits {n : ℤ} (h : Fits n) : storeInt n = .ok ⟨.integer n, trivial⟩ := if_pos h

/-- A record of the program that SQLite can bind. -/
structure Bindable (r : Adn.Record) : Prop where
  kind : encodable r.kind = true
  state : encodable r.state = true
  attemptCount : Fits r.attemptCount
  maxAttempts : Fits r.maxAttempts
  executionToken : ∀ t, r.executionToken = some t → encodable t = true

theorem writeRecord_of {r : Adn.Record} (h : Bindable r) (L : Adn.Ledger) :
    writeRecord p k (.of r) secret (Ledger.of L) = (Adn.writeRecord p k r secret L).map Ledger.of := by
  have htoken : storeText p (Record.of r).executionToken = .ok (textColumn r.executionToken) := by
    change storeText p (.ofText r.executionToken) = _
    cases ht : r.executionToken with
    | none => rfl
    | some t => exact storeText_str (h.executionToken t ht)
  have hmac : computeIntegrityMac p k (Record.of r).values secret = Adn.computeIntegrityMac p k r secret :=
    mac_of p k r (.json .null) secret
  rw [writeRecord, Adn.writeRecord, hmac, htoken]
  cases Adn.computeIntegrityMac p k r secret with
  | error e => rfl
  | ok mac =>
    simp only [ok_bind, Record.of, storeText_str h.kind, storeText_str h.state, storeInt_fits h.attemptCount,
      storeInt_fits h.maxAttempts, Value.ofText]
    simp only [storeText, storeReal]
    cases bindText p r.ownerAgentId with
    | error e => rfl
    | ok o =>
    cases bindText p r.delegationId with
    | error e => rfl
    | ok d =>
    cases bindText p r.payloadFingerprint with
    | error e => rfl
    | ok f =>
    cases bindText p (optText r.lastError) with
    | error e => rfl
    | ok e =>
    cases bindReal r.expiresAt with
    | error e => rfl
    | ok t =>
      exact congrArg Except.ok (update_of L k ⟨r.kind, r.state, r.attemptCount, r.maxAttempts, r.firstSeenAt, r.updatedAt, t,
        o, d, f, mac, e, r.executionToken⟩)

/-! ## Operations -/

theorem orBlank_of (s : Option Str) : (Value.ofText s).orBlank = .json (orBlank s) := by
  cases s with
  | none => rfl
  | some t => cases t <;> rfl

theorem tokenMismatch_of (row : Adn.Row) (token : Option Str) :
    tokenMismatch (.ofText row.executionToken) token = Adn.tokenMismatch row token := by
  rw [tokenMismatch, Adn.tokenMismatch]
  cases row.executionToken with
  | none => rfl
  | some t =>
    cases t with
    | nil => rfl
    | cons u us =>
      cases token with
      | none => rfl
      | some t' => simp [Value.truthy, Value.ofText, optText, Json.truthy, Value.isText]

theorem rewriteRecord_of (conv : Conversions) (row : Adn.Row) (now : ℚ) (state : Str) (lastError token : Option Str) :
    rewriteRecord conv (Row.of row).values now state (.ofText lastError) (.ofText token) =
      .ok (.of (row.rewrite now state lastError token)) := by
  rw [values_of]
  simp only [rewriteRecord, Record.values, Record.of, Conversions.toInt, Conversions.toFloat, Adn.toFloat, ok_bind,
    Adn.Row.record, Adn.Row.rewrite, pure, Except.pure]
  rw [← orBlank_of, ← orBlank_of, ← orBlank_of]
  rfl

theorem rewrite_bindable {state : Str} {lastError token : Option Str} (h : Storable row) (hs : encodable state = true)
    (ht : ∀ t, token = some t → encodable t = true) : Bindable (row.rewrite now state lastError token) :=
  ⟨(by decide : encodable requestKind = true), hs, h.attemptCount, h.maxAttempts, ht⟩

/-- A reply that follows a write. -/
theorem reply_of {α : Type} {x : Except PyErr Ledger} {y : Except PyErr Adn.Ledger} (h : x = y.map Ledger.of) (r : α) :
    (do let L ← x; return (r, L)) = (do let L ← y; return (r, L) : Except PyErr (α × Adn.Ledger)).map fun z =>
      (z.1, Ledger.of z.2) := by
  subst h
  cases y <;> rfl

theorem again_bindable {a : BeginArgs} {state : Str} {n : ℤ} {lastError token : Option Str} (h : Storable row)
    (hs : encodable state = true) (hn : Fits n) (ht : ∀ t, token = some t → encodable t = true) :
    Bindable (a.again now row state n lastError token) :=
  ⟨(by decide : encodable requestKind = true), hs, hn, h.maxAttempts, ht⟩

/-- What `begin` does with a row of the program that passed its check. -/
theorem beginAgain_of {a : BeginArgs} {t : Str} (h : Storable row) (ht : encodable t = true)
    (hk : a.replayKey ≠ []) (hr : L.purge now a.replayKey = some row)
    (hv : Adn.verifyIntegrity p a.replayKey row a.integritySecretHex = .ok ()) :
    beginAgain p conv now t a (Row.of row).values (Ledger.of (L.purge now)) =
      (Adn.beginRequestExecution p (.ok ()) now t a L).map fun x => (x.1, Ledger.of x.2) := by
  rw [Adn.beginRequestExecution, if_neg hk, ok_bind]
  simp only [hr, hv, ok_bind]
  rw [values_of]
  simp only [beginAgain, Record.values, Record.of, Conversions.toInt, Conversions.toFloat, Adn.toFloat, ok_bind,
    Adn.Row.record, Value.isText, decide_eq_true_eq, Bool.and_eq_true, leaseHolds]
  split_ifs with hcompleted hfinal hrunning hlimit
  · rfl
  · rfl
  · rfl
  · have hb : Bindable (a.again now row stateFinalFailure row.attemptCount
        (some "Delegation request retry limit exceeded") none) :=
      again_bindable h (by decide) h.attemptCount (by simp)
    exact reply_of (writeRecord_of hb _) _
  -- the count is below the limit, which fits
  · have hfits : Fits (row.attemptCount + 1) := by
      have hcount := h.attemptCount
      have hmax := h.maxAttempts
      unfold Fits at *
      omega
    have hb : Bindable (a.again now row stateRunning (row.attemptCount + 1) none (some t)) :=
      again_bindable h (by decide) hfits (by simpa using ht)
    exact reply_of (writeRecord_of hb _) _

theorem outcome_exec {α : Type} {reply : α → Event} {x : Except PyErr (α × Ledger)} {y : Except PyErr (α × Adn.Ledger)}
    {c : Call} (hx : outcome p conv (Ledger.of L) c = x.map fun z => (reply z.1, z.2))
    (h : x = y.map fun z => (z.1, Ledger.of z.2)) :
    exec p conv (Ledger.of L) c = ((settle L reply y).1, Ledger.of (settle L reply y).2) := by
  rw [exec, hx, h]
  cases y <;> rfl

variable (hd : ∀ key m, p.hmacSha256 key m ≠ [])
include hd

theorem consume_of {a : ConsumeArgs} (hkey : encodable a.replayKey = true) :
    consumeResultReplay p now a (Ledger.of L) =
      (Adn.consumeResultReplay p (.ok ()) now a L).map fun x => (x.1, Ledger.of x.2) := by
  rw [consumeResultReplay, Adn.consumeResultReplay]
  split_ifs with hk hs
  · rfl
  · rfl
  rw [purge_of, select_of hkey, ok_bind, ok_bind]
  dsimp only
  cases L.purge now a.replayKey with
  | none =>
    have hb : Bindable (a.record now) :=
      ⟨(by decide : encodable resultKind = true), (by decide : encodable stateConsumed = true), (by decide : Fits 1),
        (by decide : Fits 1), fun _ h => by cases h⟩
    exact reply_of (writeRecord_of hb _) _
  | some row =>
    simp only [Option.map_some]
    rw [fetch_of, ok_bind, verify_of hd]
    cases Adn.verifyIntegrity p a.replayKey row a.integritySecretHex <;> rfl

variable (hL : AllStorable L)
include hL

theorem begin_of {a : BeginArgs} {t : Str} (hkey : encodable a.replayKey = true) (ht : encodable t = true) :
    beginRequestExecution p conv now t a (Ledger.of L) =
      (Adn.beginRequestExecution p (.ok ()) now t a L).map fun x => (x.1, Ledger.of x.2) := by
  by_cases hk : a.replayKey = []
  · rw [beginRequestExecution, Adn.beginRequestExecution, if_pos hk, if_pos hk]
    rfl
  rw [beginRequestExecution, if_neg hk, purge_of, select_of hkey, ok_bind]
  cases hr : L.purge now a.replayKey with
  | none =>
    rw [Adn.beginRequestExecution, if_neg hk, ok_bind]
    simp only [hr]
    have hb : Bindable (a.first now t) := by
      refine ⟨(by decide : encodable requestKind = true), (by decide : encodable stateRunning = true),
        (by decide : Fits 1), (by decide : Fits maxRequestAttempts), ?_⟩
      rintro _ h
      obtain rfl := Option.some.inj h
      exact ht
    exact reply_of (writeRecord_of hb _) _
  | some row =>
    simp only [Option.map_some]
    rw [fetch_of, ok_bind, verify_of hd]
    cases hv : Adn.verifyIntegrity p a.replayKey row a.integritySecretHex with
    | error e =>
      rw [Adn.beginRequestExecution, if_neg hk, ok_bind]
      simp only [hr, hv]
      rfl
    | ok u =>
      rw [ok_bind]
      exact beginAgain_of (hL _ row (purge_some.1 hr).1) ht hk hr hv

theorem heartbeat_of (hkey : encodable k = true) :
    heartbeatRequestExecution p conv now k secret token (Ledger.of L) =
      (Adn.heartbeatRequestExecution p (.ok ()) now k secret token L).map fun x => (x.1, Ledger.of x.2) := by
  rw [heartbeatRequestExecution, Adn.heartbeatRequestExecution]
  split_ifs with hk
  · rfl
  rw [select_of hkey, ok_bind, ok_bind]
  cases hr : L k with
  | none => rfl
  | some row =>
    simp only [Option.map_some]
    rw [fetch_of, ok_bind, verify_of hd]
    cases Adn.verifyIntegrity p k row secret with
    | error e => rfl
    | ok u =>
      have hstate : (Row.of row).values.state.isText stateRunning = decide (row.state = stateRunning) := rfl
      have htoken : (Row.of row).values.executionToken = .ofText row.executionToken := value_textColumn _
      have herror : (Row.of row).values.lastError = .ofText row.lastError := value_textColumn _
      rw [ok_bind, ok_bind, hstate, htoken, herror, tokenMismatch_of, rewriteRecord_of, ok_bind]
      by_cases hs : row.state = stateRunning
      · rw [if_neg (by simpa using hs), if_neg (not_not.2 hs)]
        split_ifs
        · rfl
        · exact reply_of (writeRecord_of (rewrite_bindable (hL k row hr) (by decide) (hL k row hr).executionToken) _) _
      · rw [if_pos (by simpa using hs), if_pos hs]
        rfl

theorem finalize_of {state : Str} {error : Option Str} (hkey : encodable k = true) (hstate : encodable state = true) :
    finalizeRequestExecution p conv now k state secret error token (Ledger.of L) =
      (Adn.finalizeRequestExecution p (.ok ()) now k state secret error token L).map fun x => (x.1, Ledger.of x.2) := by
  rw [finalizeRequestExecution, Adn.finalizeRequestExecution]
  split_ifs with hk
  · rfl
  rw [select_of hkey, ok_bind, ok_bind]
  cases hr : L k with
  | none => rfl
  | some row =>
    simp only [Option.map_some]
    rw [fetch_of, ok_bind, verify_of hd]
    cases Adn.verifyIntegrity p k row secret with
    | error e => rfl
    | ok u =>
      have htoken : (Row.of row).values.executionToken = .ofText row.executionToken := value_textColumn _
      have hexhausted : exhausted conv (Row.of row).values state = .ok (Adn.exhausted row state) := by
        rw [exhausted, Adn.exhausted]
        split_ifs with hretry
        · rw [decide_eq_true hretry, Bool.true_and]
          rfl
        · rw [decide_eq_false hretry, Bool.false_and]
          rfl
      have hnext : encodable (if Adn.exhausted row state then stateFinalFailure else state) = true := by
        split_ifs
        · decide
        · exact hstate
      rw [ok_bind, ok_bind, htoken, tokenMismatch_of, hexhausted, ok_bind, rewriteRecord_of, ok_bind]
      by_cases hm : Adn.tokenMismatch row token = true
      · rw [if_pos hm, if_pos hm]
        rfl
      · rw [if_neg hm, if_neg hm]
        exact reply_of (writeRecord_of (rewrite_bindable (hL k row hr) hnext (by simp)) _) _

/-- Over a table that the program wrote a call does what it does in `ReplayLedger`. -/
theorem exec_written (conv : Conversions) {c : Call} (hc : CallStorable c) :
    exec p conv (Ledger.of L) c = ((c.exec p L).1, Ledger.of (c.exec p L).2) := by
  cases c with
  | begin now token a => exact outcome_exec rfl (begin_of hd hL hc.1 hc.2)
  | heartbeat now k secret token => exact outcome_exec rfl (heartbeat_of hd hL hc)
  | finalize now k state secret error token => exact outcome_exec rfl (finalize_of hd hL hc.1 hc.2)
  | consume now a => exact outcome_exec rfl (consume_of hd hc)

end

/-! ## Runs -/

section
variable {p : Platform} {k : Str} {row : Adn.Row} {L L' : Adn.Ledger} {cs : List Call}

theorem AllStorable.purge (h : AllStorable L) (now : ℚ) : AllStorable (L.purge now) :=
  fun k row hr => h k row (purge_some.1 hr).1

theorem AllStorable.update (h : AllStorable L) (hs : Storable row) : AllStorable (Function.update L k (some row)) := by
  intro k' row' hr
  by_cases hk : k' = k
  · rw [hk, Function.update_self] at hr
    exact Option.some.inj hr ▸ hs
  · rw [Function.update_of_ne hk] at hr
    exact h k' row' hr

/-- A row can be stored again if its record could. -/
theorem storable_of_stores {r : Adn.Record} (h : Stores r row) (ha : Fits r.attemptCount) (hm : Fits r.maxAttempts)
    (ht : ∀ t, r.executionToken = some t → encodable t = true) : Storable row :=
  ⟨h.attemptCount ▸ ha, h.maxAttempts ▸ hm, h.executionToken ▸ ht⟩

theorem begin_storable {now : ℚ} {t : Str} {a : BeginArgs} {r : BeginReply} (hL : AllStorable L)
    (ht : encodable t = true) (h : BeginStep now t a L r L') : AllStorable L' := by
  have htoken : ∀ s, some t = some s → encodable s = true := fun s hs => Option.some.inj hs ▸ ht
  cases h with
  | keyMissing => exact hL
  | blocked => exact hL.purge now
  | first row _ hs => exact (hL.purge now).update (storable_of_stores hs (by decide : Fits 1) (by decide : Fits 2) htoken)
  | exhausted row row' _ _ hr _ _ hs =>
    have hrow := hL.purge now _ row hr
    exact (hL.purge now).update (storable_of_stores hs hrow.attemptCount hrow.maxAttempts fun _ h => by cases h)
  | again row row' hr _ hlt hs =>
    have hrow := hL.purge now _ row hr
    have hfits : Fits (row.attemptCount + 1) := by
      have hcount := hrow.attemptCount
      have hmax := hrow.maxAttempts
      unfold Fits at *
      omega
    exact (hL.purge now).update (storable_of_stores hs hfits hrow.maxAttempts htoken)

theorem exec_storable {c : Call} (hc : CallStorable c) (hL : AllStorable L) : AllStorable (c.exec p L).2 := by
  have settled : ∀ {α : Type} {reply : α → Event} {x : Except PyErr (α × Adn.Ledger)},
      (∀ r L', x = .ok (r, L') → AllStorable L') → AllStorable (settle L reply x).2 := by
    intro α reply x h
    cases x with
    | error e => exact hL
    | ok y => exact h y.1 y.2 rfl
  cases c with
  | begin now token a => exact settled fun r L' h => begin_storable hL hc.2 (begin_step h)
  | heartbeat now k secret token =>
    refine settled fun r L' h => ?_
    cases heartbeat_step h with
    | refused => exact hL
    | renewed row row' hr _ _ hs =>
      have hrow := hL k row hr
      exact hL.update (storable_of_stores hs hrow.attemptCount hrow.maxAttempts hrow.executionToken)
  | finalize now k state secret error token =>
    refine settled fun r L' h => ?_
    cases finalize_step h with
    | refused => exact hL
    | recorded row row' _ hr _ hs =>
      have hrow := hL k row hr
      exact hL.update (storable_of_stores hs hrow.attemptCount hrow.maxAttempts fun _ h => by cases h)
  | consume now a =>
    refine settled fun r L' h => ?_
    cases consume_step h with
    | unkeyed => exact hL
    | present => exact hL.purge now
    | consumed row _ hs =>
      exact (hL.purge now).update (storable_of_stores hs (by decide : Fits 1) (by decide : Fits 1) fun _ h => by cases h)

/-- Every run of the program is a run over its table, with whatever else is asked of the calls. -/
theorem run_written (hd : ∀ key m, p.hmacSha256 key m ≠ []) (conv : Conversions) (P : Call → Prop)
    (h : Run (fun L c L' => (P c ∧ CallStorable c) ∧ (c.exec p L).2 = L') Adn.Ledger.empty cs L) :
    Run (fun T c T' => P c ∧ (exec p conv T c).2 = T') Ledger.empty cs (Ledger.of L) ∧ AllStorable L := by
  -- what a call does is carried over by `exec_written`, which needs that the rows can be stored again
  induction h with
  | nil => exact ⟨.nil, fun k row hr => by cases hr⟩
  | snoc _ hst ih =>
    obtain ⟨⟨hP, hc⟩, rfl⟩ := hst
    obtain ⟨hrun, hL⟩ := ih
    exact ⟨hrun.snoc ⟨hP, by rw [exec_written hd hL conv hc]⟩, exec_storable hc hL⟩

end

end Adn.Table
