import Adn.CompletedOnce
import Adn.ParameterBinding
/-!
# Single use, by replay key

A worker takes deliveries one after the other, possibly with crashes and other
users of its ledger in between. The replay key is a hash of the delegation id,
the request hash and the receipt's fingerprint, and a request completes at most
once for each replay key (`completed_once`). The same receipt around another
request has another replay key (`receipt_used_twice`).
-/

open Lib

namespace Adn

/-! ## Deliveries -/

/-- One call of `process_delegation_request`. -/
structure Delivery where
  env : Env
  agent : Agent
  caller : CallerContext
  circumstances : Circumstances
  signed : Dict
  records : Records

section
variable (p : Platform)

def Delivery.processed (d : Delivery) (L : Ledger) : Processed :=
  processDelegationRequest p d.env d.agent d.caller d.circumstances d.signed L d.records

def Delivery.prepared (d : Delivery) : Except Done Ready :=
  (prepare p d.env d.agent d.caller d.circumstances.clock d.signed).2

/-- The delivery's `begin`. -/
def Delivery.begun (d : Delivery) (ready : Ready) (L : Ledger) : Except PyErr (BeginReply × Ledger) :=
  beginRequestExecution p d.circumstances.dbBegin d.circumstances.begin d.circumstances.token ready.args L

/-- The ledger when the handler starts. -/
def Delivery.started (d : Delivery) (L : Ledger) : Ledger :=
  match d.prepared p with
  | .ok ready => ledgerAfter L (d.begun p ready L)
  | .error _ => L

def Effect.isHandler : Effect → Bool
  | .handlerInvoked .. => true
  | _ => false

/-- The handler ran, and the reply says `COMPLETED`. -/
def Delivery.completes (d : Delivery) (L : Ledger) : Bool :=
  (d.processed p L).effects.any Effect.isHandler && (d.processed p L).reply.1.status = .completed

/-- The ledger, and the replay keys of the executions completed so far. -/
structure WorkerLog where
  ledger : Ledger
  completed : List Str

inductive WorkerEvent where
  | deliver (d : Delivery)
  /-- The worker stops while the handler runs. -/
  | crash (d : Delivery)
  | other (e : Event)

inductive WorkerLogStep : WorkerLog → WorkerEvent → WorkerLog → Prop
  | deliver {s : WorkerLog} {d : Delivery} : WorkerLogStep s (.deliver d) ⟨(d.processed p s.ledger).ledger,
      if d.completes p s.ledger then requestKey p d.signed :: s.completed else s.completed⟩
  | crash {s : WorkerLog} {d : Delivery} : WorkerLogStep s (.crash d) ⟨d.started p s.ledger, s.completed⟩
  | other {s : WorkerLog} {e : Event} {L' : Ledger} : LedgerStep p s.ledger e L' →
      WorkerLogStep s (.other e) ⟨L', s.completed⟩

/-- What others do without touching the row of `k`, before it is past. -/
def AsideStep (k : Str) : Ledger → Event → Ledger → Prop :=
  Meeting (LedgerStep p) fun L e => Aside k e ∧ Unpurged k L e

/-- The delivery begins before the row of `k` is past. -/
def InTime (k : Str) (d : Delivery) (L : Ledger) : Prop :=
  ∀ row, L k = some row → (d.circumstances.begin : Time) < row.expiresAt

/-- No reading of the clock reaches the expiry of the row of `k`, and the row is
used by the worker's own calls and by heartbeats. -/
def Quiet (k : Str) (s : WorkerLog) : WorkerEvent → Prop
  | .deliver d => InTime k d s.ledger ∧
      ∃ es, Run (AsideStep p k) (d.started p s.ledger) es (d.circumstances.during (d.started p s.ledger))
  | .crash d => InTime k d s.ledger
  | .other e => Aside k e ∧ Unpurged k s.ledger e

end

/-! ## What keeps a completed row -/

section
variable {p : Platform} {k : Str} {L L' : Ledger}

/-- The row says `COMPLETED`. -/
def RowCompleted (row : Option Row) : Prop := ∃ r, row = some r ∧ r.state = stateCompleted

/-- The row is running for the holder of `token`. -/
def RowHeld (token : Str) (row : Option Row) : Prop :=
  ∃ r, row = some r ∧ r.state = stateRunning ∧ r.executionToken = some token

theorem begin_elsewhere {now : ℚ} {token : Str} {a : BeginArgs} {r : BeginReply} (h : BeginStep now token a L r L')
    (hk : k ≠ a.replayKey) (hu : ∀ row, L k = some row → (now : Time) < row.expiresAt) : L' k = L k := by
  have hp := purge_of_current hu
  cases h with
  | keyMissing => rfl
  | blocked => exact hp
  | first | exhausted | again => exact (Function.update_of_ne hk _ _).trans hp

/-- A completed row refuses every `begin`. -/
theorem begin_completed {now : ℚ} {token : Str} {a : BeginArgs} {r : BeginReply} (h : BeginStep now token a L r L')
    (hu : ∀ row, L a.replayKey = some row → (now : Time) < row.expiresAt) (hc : RowCompleted (L a.replayKey)) :
    r.allowed = false ∧ L' a.replayKey = L a.replayKey := by
  have hp := purge_of_current hu
  obtain ⟨row, hr, hs⟩ := hc
  cases h with
  | keyMissing => exact ⟨rfl, rfl⟩
  | blocked => exact ⟨rfl, hp⟩
  | first _ hn => simp [hp, hr] at hn
  | exhausted row' _ _ _ hr' hb =>
    rw [hp, hr] at hr'
    cases hr'
    exact absurd (.inl hs) hb
  | again row' _ hr' hb =>
    rw [hp, hr] at hr'
    cases hr'
    exact absurd (.inl hs) hb

/-- An allowed `begin` leaves the row running for its token. -/
theorem begin_held {now : ℚ} {token t : Str} {a : BeginArgs} {r : BeginReply} (h : BeginStep now token a L r L')
    (ha : r.allowed = true) (ht : r.token = some t) : RowHeld t (L' a.replayKey) := by
  cases h with
  | keyMissing | blocked | exhausted => cases ha
  | first row _ hs =>
    cases ht
    exact ⟨row, Function.update_self .., hs.state, hs.executionToken⟩
  | again row row' _ _ _ hs =>
    cases ht
    exact ⟨row', Function.update_self .., hs.state, hs.executionToken⟩

theorem aside_completed {e : Event} (h : AsideStep p k L e L') (hc : RowCompleted (L k)) : RowCompleted (L' k) := by
  obtain ⟨h, ha, hu⟩ := h
  by_cases hk : e.key = some k
  · cases h with
    | heartbeat hb =>
      cases hk
      cases heartbeat_step hb with
      | refused => exact hc
      | renewed row _ hr hrun =>
        obtain ⟨row₀, hr₀, hs⟩ := hc
        rw [hr] at hr₀
        cases hr₀
        rw [hrun] at hs
        exact absurd hs (by decide)
    | raised => cases hk
    | _ => exact absurd hk ha
  · rwa [row_elsewhere h hk hu]

theorem aside_held {e : Event} {token : Str} (h : AsideStep p k L e L') (hc : RowHeld token (L k)) :
    RowHeld token (L' k) := by
  obtain ⟨h, ha, hu⟩ := h
  by_cases hk : e.key = some k
  · cases h with
    | heartbeat hb =>
      cases hk
      cases heartbeat_step hb with
      | refused => exact hc
      | renewed row row' hr hrun _ hs =>
        obtain ⟨row₀, hr₀, -, ht⟩ := hc
        rw [hr] at hr₀
        cases hr₀
        exact ⟨row', Function.update_self .., hs.state, hs.executionToken.trans ht⟩
    | raised => cases hk
    | _ => exact absurd hk ha
  · rwa [row_elsewhere h hk hu]

theorem finalize_elsewhere {now : ℚ} {k' state : Str} {token : Option Str} {ok : Bool}
    (h : FinalizeStep now k' state token L ok L') (hk : k ≠ k') : L' k = L k := by
  cases h with
  | refused => rfl
  | recorded => exact Function.update_of_ne hk _ _

/-- The holder's `finalize` with `COMPLETED` is recorded. -/
theorem finalize_held {now : ℚ} {token : Str} {ok : Bool} (hk : k ≠ [])
    (h : FinalizeStep now k stateCompleted (some token) L ok L') (hh : RowHeld token (L k)) : RowCompleted (L' k) := by
  obtain ⟨row₀, hr₀, -, ht⟩ := hh
  cases h with
  | refused hn =>
    have := hn hk row₀ hr₀
    simp [tokenMismatch, ht] at this
  | recorded row row' _ hr _ hs =>
    refine ⟨row', Function.update_self .., ?_⟩
    rw [hs.state, Row.rewrite, finalStateOf, if_neg (by simp [exhausted, stateCompleted, stateRetryableFailure])]

/-! ## One delivery -/

theorem ledgerAfter_finalize {db : Except PyErr Unit} {now : ℚ} {k' state : Str} {secret error token : Option Str}
    (hk : k ≠ k') : ledgerAfter L (finalizeDelegationRequest p db now k' state secret error token L) k = L k := by
  cases hx : finalizeDelegationRequest p db now k' state secret error token L with
  | error e => rfl
  | ok y => exact finalize_elsewhere (finalizeDelegationRequest_step hx) hk

/-- From the handler on, a call writes to its own row. -/
theorem conclude_elsewhere {agent : Agent} {c : Circumstances} {ready : Ready} {token : Str}
    (hk : k ≠ ready.args.replayKey) : (conclude p agent c ready token L).1 k = L k := by
  unfold conclude
  simp only
  split
  · exact ledgerAfter_finalize hk
  · exact (ledgerAfter_finalize hk).trans (ledgerAfter_finalize hk)

/-- A call whose first `finalize` does not raise ends with the handler's outcome. -/
theorem conclude_finalized {agent : Agent} {c : Circumstances} {ready : Ready} {token : Str} {b : Bool}
    (hx : finalizeDelegationRequest p c.dbFinalize c.finalize ready.args.replayKey c.outcome.finalState
      ready.args.integritySecretHex c.outcome.lastError (some token) L = .ok (b, L')) :
    conclude p agent c ready token L = (L', .ok (c.outcome.result agent c.clock ready.request)) := by
  simp only [conclude, hx, afterFinalize, ledgerAfter]

/-- A call that ends with a completed result, and still holds the row, has completed the row. -/
theorem conclude_completed {agent : Agent} {c : Circumstances} {ready : Ready} {token : Str} {r : DelegationResult}
    (hk : ready.args.replayKey ≠ []) (hh : RowHeld token (L ready.args.replayKey))
    (hd : (conclude p agent c ready token L).2 = .ok r) (hr : r.status = .completed) :
    RowCompleted ((conclude p agent c ready token L).1 ready.args.replayKey) := by
  cases hx : finalizeDelegationRequest p c.dbFinalize c.finalize ready.args.replayKey c.outcome.finalState
      ready.args.integritySecretHex c.outcome.lastError (some token) L with
  | error e =>
    unfold conclude at hd
    simp only [hx] at hd
    cases ho : c.outcome with
    | returned v =>
      simp only [ho, afterFinalize] at hd
      -- the failure is reported in the success's place
      unfold afterFailing at hd
      split at hd
      · cases hd
        cases hr
      · cases hd
    | raised m =>
      simp only [ho, afterFinalize] at hd
      cases hd
  | ok y =>
    obtain ⟨b, L'⟩ := y
    rw [conclude_finalized hx] at hd ⊢
    cases ho : c.outcome with
    | returned v =>
      rw [ho] at hx
      exact finalize_held hk (finalizeDelegationRequest_step hx) hh
    | raised m =>
      rw [ho] at hd
      cases hd
      cases hr

theorem reply_completed {env : Env} {agent : Agent} {clock : ReplyClock} {d : Done}
    (h : (reply p env agent clock d).1.status = .completed) : ∃ r, d = .ok r ∧ r.status = .completed := by
  unfold reply at h
  cases d with
  | error e => cases h
  | ok r =>
    simp only at h
    split at h
    · exact ⟨r, rfl, h⟩
    · cases h

theorem started_elsewhere {d : Delivery} (hq : InTime k d L) (hk : requestKey p d.signed ≠ k) :
    d.started p L k = L k := by
  unfold Delivery.started
  cases hp : d.prepared p with
  | error x => rfl
  | ok ready =>
    obtain ⟨hkey, -⟩ := prepare_key (Prod.ext rfl hp)
    simp only
    cases hb : d.begun p ready L with
    | error e => rfl
    | ok y => exact begin_elsewhere (begin_step hb) (fun h => hk (hkey ▸ h.symm)) hq

/-- A delivery leaves a completed row as it is until its handler starts. -/
theorem started_completed {d : Delivery} (hq : InTime k d L) (hc : RowCompleted (L k)) : d.started p L k = L k := by
  by_cases hk : requestKey p d.signed = k
  · unfold Delivery.started
    cases hp : d.prepared p with
    | error x => rfl
    | ok ready =>
      obtain ⟨hkey, -⟩ := prepare_key (Prod.ext rfl hp)
      obtain rfl := hkey.trans hk
      simp only
      cases hb : d.begun p ready L with
      | error e => rfl
      | ok y => exact (begin_completed (begin_step hb) hq hc).2
  · exact started_elsewhere hq hk

/-- A delivery whose handler does not run ends where it started. -/
theorem processed_unhandled {d : Delivery}
    (h : ∀ ready, d.prepared p = .ok ready → ∃ x, afterBegin d.agent d.circumstances.clock ready (d.begun p ready L) = .error x) :
    (d.processed p L).ledger = d.started p L ∧ d.completes p L = false := by
  have hpolicy : ∀ {effects : List Effect} {x : Except Done Ready},
      prepare p d.env d.agent d.caller d.circumstances.clock d.signed = (effects, x) → effects.any Effect.isHandler = false := by
    intro effects x hp
    unfold prepare at hp
    split at hp <;> cases hp <;> rfl
  have hbegin : ∀ {key : Str} (x : Except PyErr (BeginReply × Ledger)), (beginEffects key x).any Effect.isHandler = false := by
    intro key x
    cases x <;> rfl
  unfold Delivery.completes Delivery.started Delivery.processed processDelegationRequest
  cases hp : prepare p d.env d.agent d.caller d.circumstances.clock d.signed with
  | mk effects x =>
    have hx : d.prepared p = x := by rw [Delivery.prepared, hp]
    rw [hx]
    cases x with
    | error e => exact ⟨rfl, by simp [hpolicy hp]⟩
    | ok ready =>
      obtain ⟨e, he⟩ := h ready hx
      have he' : afterBegin d.agent d.circumstances.clock ready (beginRequestExecution p d.circumstances.dbBegin
        d.circumstances.begin d.circumstances.token ready.args L) = .error e := he
      simp only [execute, he']
      exact ⟨rfl, by simp [hpolicy hp, hbegin]⟩

/-- A delivery whose handler runs. -/
theorem processed_handled {d : Delivery} {ready : Ready} {token : Str} (hp : d.prepared p = .ok ready)
    (hb : afterBegin d.agent d.circumstances.clock ready (d.begun p ready L) = .ok token) :
    (d.processed p L).ledger = (conclude p d.agent d.circumstances ready token
        (d.circumstances.during (d.started p L))).1 ∧
      (d.processed p L).reply = reply p d.env d.agent d.circumstances.reply (conclude p d.agent d.circumstances ready
        token (d.circumstances.during (d.started p L))).2 ∧
      (d.processed p L).effects.any Effect.isHandler = true := by
  have hb' : afterBegin d.agent d.circumstances.clock ready (beginRequestExecution p d.circumstances.dbBegin
    d.circumstances.begin d.circumstances.token ready.args L) = .ok token := hb
  unfold Delivery.started Delivery.processed processDelegationRequest
  rw [hp]
  cases hq : prepare p d.env d.agent d.caller d.circumstances.clock d.signed with
  | mk effects x =>
    have hx : d.prepared p = x := by rw [Delivery.prepared, hq]
    obtain rfl := hx.symm.trans hp
    simp only [execute, hb']
    exact ⟨rfl, rfl, by simp [Effect.isHandler]⟩

/-- One delivery keeps a completed row and completes it at most once. -/
theorem deliver_spec {d : Delivery} (hq : InTime k d L)
    (hd : ∃ es, Run (AsideStep p k) (d.started p L) es (d.circumstances.during (d.started p L))) :
    (RowCompleted (L k) → RowCompleted ((d.processed p L).ledger k) ∧
        (requestKey p d.signed = k → d.completes p L = false)) ∧
      (requestKey p d.signed = k → d.completes p L = true → RowCompleted ((d.processed p L).ledger k)) := by
  obtain ⟨es, hrun⟩ := hd
  by_cases hun : ∀ ready, d.prepared p = .ok ready →
      ∃ x, afterBegin d.agent d.circumstances.clock ready (d.begun p ready L) = .error x
  · obtain ⟨hl, hc⟩ := processed_unhandled hun
    rw [hl]
    refine ⟨fun h => ⟨?_, fun _ => hc⟩, fun _ h => ?_⟩
    · rwa [started_completed hq h]
    · rw [hc] at h
      cases h
  · push Not at hun
    obtain ⟨ready, hp, hx⟩ := hun
    obtain ⟨hkey, hne⟩ := prepare_key (Prod.ext rfl hp)
    cases hb : afterBegin d.agent d.circumstances.clock ready (d.begun p ready L) with
    | error x => exact absurd hb (hx x)
    | ok token =>
      obtain ⟨hl, hr, -⟩ := processed_handled hp hb
      obtain ⟨r, L₁, hbegun, hallowed, htoken⟩ := afterBegin_ok hb
      have hstarted : d.started p L = L₁ := by
        unfold Delivery.started
        rw [hp]
        simp only [hbegun, ledgerAfter]
      rw [hl]
      by_cases hk : requestKey p d.signed = k
      · subst hk
        constructor
        · -- a completed row refuses the `begin`
          intro hc
          rw [← hkey] at hc
          have := (begin_completed (begin_step hbegun) (hkey ▸ hq) hc).1
          rw [hallowed] at this
          cases this
        · intro _ hc
          have hheld : RowHeld token (d.started p L (requestKey p d.signed)) := by
            rw [hstarted, ← hkey]
            exact begin_held (begin_step hbegun) hallowed htoken
          have hheld' : RowHeld token (d.circumstances.during (d.started p L) (requestKey p d.signed)) :=
            Run.inv (I := fun M : Ledger => RowHeld token (M (requestKey p d.signed))) hheld
              (fun _ _ _ h hs => aside_held hs h) hrun
          obtain ⟨res, hd, hs⟩ : ∃ res, (conclude p d.agent d.circumstances ready token
              (d.circumstances.during (d.started p L))).2 = .ok res ∧ res.status = .completed := by
            refine @reply_completed p d.env d.agent d.circumstances.reply _ ?_
            rw [← hr]
            simpa [Delivery.completes] using (Bool.and_eq_true_iff.1 hc).2
          rw [← hkey] at hheld' ⊢
          exact conclude_completed (hkey ▸ hne) hheld' hd hs
      · refine ⟨fun hc => ⟨?_, fun h => absurd h hk⟩, fun h => absurd h hk⟩
        rw [conclude_elsewhere fun h => hk (hkey ▸ h.symm)]
        rw [← started_elsewhere hq hk] at hc
        exact Run.inv (I := fun M : Ledger => RowCompleted (M k)) hc (fun _ _ _ h hs => aside_completed hs h) hrun

/-! ## Every run -/

/-- At most one execution has completed, and after one the row says so. -/
def OnceInv (k : Str) (s : WorkerLog) : Prop :=
  s.completed.count k = 0 ∨ (s.completed.count k = 1 ∧ RowCompleted (s.ledger k))

theorem onceInv_step {s s' : WorkerLog} {e : WorkerEvent} (hI : OnceInv k s) (h : WorkerLogStep p s e s')
    (hq : Quiet p k s e) : OnceInv k s' := by
  cases h with
  | @deliver d =>
    obtain ⟨hkeep, hdone⟩ := deliver_spec hq.1 hq.2
    cases hc : d.completes p s.ledger with
    | false =>
      simp only [OnceInv, Bool.false_eq_true, if_false]
      exact hI.imp_right fun h => ⟨h.1, (hkeep h.2).1⟩
    | true =>
      by_cases hk : requestKey p d.signed = k
      · rcases hI with h0 | ⟨-, hrow⟩
        · refine .inr ⟨?_, hdone hk hc⟩
          simp [hk, h0]
        · rw [(hkeep hrow).2 hk] at hc
          cases hc
      · simp only [OnceInv, if_true, List.count_cons_of_ne hk]
        exact hI.imp_right fun h => ⟨h.1, (hkeep h.2).1⟩
  | @crash d =>
    refine hI.imp_right fun h => ⟨h.1, ?_⟩
    have hrow : d.started p s.ledger k = s.ledger k := started_completed hq h.2
    simp only [hrow]
    exact h.2
  | other h => exact hI.imp_right fun hc => ⟨hc.1, aside_completed ⟨h, hq⟩ hc.2⟩

/-- However its requests are signed again, and through crashes, a worker completes
at most one execution for each replay key until the key's row is past. -/
theorem completed_once (p : Platform) (k : Str) {L₀ : Ledger} {es : List WorkerEvent} {s : WorkerLog}
    (h : Run (Meeting (WorkerLogStep p) (Quiet p k)) ⟨L₀, []⟩ es s) : s.completed.count k ≤ 1 := by
  have hI : OnceInv k s :=
    h.inv (I := OnceInv k) (.inl List.count_nil) fun _ _ _ hI hs => onceInv_step hI hs.1 hs.2
  rcases hI with h0 | ⟨h1, -⟩ <;> omega

end

/-! ### One receipt around two requests -/

namespace Sample

/-- `gatedWorker`, with a key to sign its replies with. -/
def signingWorker : Agent := { gatedWorker with identity := ⟨some (signerOf 5), "worker", [], [], none⟩ }

theorem requestKey_pingTask (description : Str) (parameters : Json) :
    requestKey platform (pingTask description parameters) =
      platform.hashJson (.obj (Dict.ofList [("delegation_id", .str "d"),
        ("request_hash", .str (platform.hashJson
          (.obj (taskData description parameters (receiptFor "worker" signedParameters))))),
        ("gateway_receipt_fingerprint", .str (platform.hashJson
          (.obj (receiptBody (receiptFor "worker" signedParameters)))))])) := by
  have ht : (taskData description parameters (receiptFor "worker" signedParameters)).get "tee_authorization" =
      .obj (receiptFor "worker" signedParameters) := by
    simp [taskData, Dict.get, Dict.getD]
  have hd : (taskData description parameters (receiptFor "worker" signedParameters)).getD "delegation_id" (.str []) =
      .str "d" := by
    simp [taskData, Dict.getD]
  have hh : ((pingTask description parameters).get "data_hash").orElse (.str (platform.hashJson
      (.obj (taskData description parameters (receiptFor "worker" signedParameters))))) =
        .str (platform.hashJson (.obj (taskData description parameters (receiptFor "worker" signedParameters)))) := by
    have hne := platform.hashJson_ne (by simp [platform])
    simp [pingTask, task, Dict.get, Dict.getD, Dict.get?_append, Signer.get?_envelope, Signer.get?_payload, Json.orElse,
      Json.truthy, hne]
  rw [requestKey, pingTask, delegationData_task, ← pingTask, hh]
  simp only [ht, hd, orEmpty_obj]

/-- Another description has another replay key. -/
theorem requestKey_ne {d d' : Str} (parameters : Json) (h : d ≠ d') :
    requestKey platform (pingTask d parameters) ≠ requestKey platform (pingTask d' parameters) := by
  intro hk
  rw [requestKey_pingTask, requestKey_pingTask] at hk
  obtain ⟨w, hw, hs⟩ := (platform.hashJson_inj sha256_injective hk).field (k := "request_hash")
    (v := .str (platform.hashJson (.obj (taskData d parameters (receiptFor "worker" signedParameters)))))
    (by simp [Dict.ofList])
  obtain rfl : w = .str (platform.hashJson (.obj (taskData d' parameters (receiptFor "worker" signedParameters)))) := by
    simpa [Dict.ofList] using hw
  have hd : platform.hashJson (.obj (taskData d parameters (receiptFor "worker" signedParameters))) =
      platform.hashJson (.obj (taskData d' parameters (receiptFor "worker" signedParameters))) := by
    simpa [Json.Same, Json.normalize] using hs
  obtain ⟨w, hw, hs⟩ := (platform.hashJson_inj sha256_injective hd).field (k := "task_description") (v := .str d)
    (by simp [taskData, Dict.ofList])
  obtain rfl : w = .str d' := by simpa [taskData, Dict.ofList] using hw
  exact h (by simpa [Json.Same, Json.normalize] using hs)

/-- The row that a task's `begin` writes. -/
def taskRow (key : Str) (q : Json) (mac : Option Str) : Row where
  kind := requestKind
  state := stateRunning
  attemptCount := 1
  maxAttempts := maxRequestAttempts
  firstSeenAt := 1
  updatedAt := 1
  expiresAt := (300 : ℚ)
  ownerAgentId := some "worker"
  delegationId := some "d"
  payloadFingerprint := some (taskArgs key q).payloadFingerprint
  integrityMac := mac
  lastError := none
  executionToken := some "a"

def taskSecret : Str := Hex.hexLower (platform.hmacSha256 [0]
    (Text.utf8 (Str.ofString "adn.replay-ledger.integrity." ++ Str.ofString "request")))

/-- Its `begin` writes `taskRow`. -/
theorem task_row {key : Str} {q : Json} (hk : key ≠ []) {L : Ledger} (hL : L.purge 1 key = none) :
    ∃ mac, computeIntegrityMac platform key ((taskArgs key q).first 1 "a") (some taskSecret) = .ok mac ∧
      beginRequestExecution platform (.ok ()) 1 "a" (taskArgs key q) L =
        .ok (⟨true, [], some "a"⟩, Function.update (L.purge 1) key (some (taskRow key q mac))) := by
  obtain ⟨mac, hm⟩ := computeIntegrityMac_hex platform key ((taskArgs key q).first 1 "a") (platform.hmacSha256 [0]
    (Text.utf8 (Str.ofString "adn.replay-ledger.integrity." ++ Str.ofString "request")))
  have hw : encodable "worker" = true := by decide
  have hd : encodable "d" = true := by decide
  exact ⟨mac, hm, begin_first hk hL (writeRecord_eq hm rfl (bindText_str hw) (bindText_str hd)
    (bindText_str (encodable_ascii (Hex.plain_hexLower _).ascii)) rfl)⟩

theorem task_verified {key : Str} {mac : Option Str} {q : Json}
    (hm : computeIntegrityMac platform key ((taskArgs key q).first 1 "a") (some taskSecret) = .ok mac) :
    verifyIntegrity platform key (taskRow key q mac) (some taskSecret) = .ok () :=
  verifyIntegrity_own hm

/-- Its holder's `finalize` records `COMPLETED`. -/
theorem task_completes {key : Str} {mac : Option Str} {q : Json} (hk : key ≠ []) {L : Ledger}
    (hL : L key = some (taskRow key q mac))
    (hm : computeIntegrityMac platform key ((taskArgs key q).first 1 "a") (some taskSecret) = .ok mac) :
    ∃ L', finalizeDelegationRequest platform (.ok ()) 1 key stateCompleted (some taskSecret) none (some "a") L =
      .ok (true, L') ∧ ∀ k, k ≠ key → L' k = L k := by
  have ht : tokenMismatch (taskRow key q mac) (some "a") = false := by simp [tokenMismatch, taskRow]
  obtain ⟨mac', hm'⟩ := computeIntegrityMac_hex platform key ((taskRow key q mac).rewrite 1 stateCompleted none none)
    (platform.hmacSha256 [0] (Text.utf8 (Str.ofString "adn.replay-ledger.integrity." ++ Str.ofString "request")))
  have hw : encodable "worker" = true := by decide
  have hd : encodable "d" = true := by decide
  exact ⟨_, finalize_match hk hL (task_verified hm) ht (by simp [exhausted, stateCompleted, stateRetryableFailure])
    (writeRecord_eq hm' rfl (bindText_str hw) (bindText_str hd)
      (bindText_str (encodable_ascii (Hex.plain_hexLower _).ascii)) rfl), fun k hne => Function.update_of_ne hne _ _⟩

def taskDelivery (description : Str) : Delivery :=
  ⟨taskEnv none, signingWorker, gatedCaller, circumstances, pingTask description signedParameters, ⟨[], [], []⟩⟩

def taskKey (description : Str) : Str := requestKey platform (pingTask description signedParameters)

def taskReady (description : Str) : Ready :=
  ⟨taskRequest description signedParameters (receiptFor "worker" signedParameters),
    taskArgs (taskKey description) signedParameters⟩

theorem taskDelivery_prepared (description : Str) :
    (taskDelivery description).prepared platform = .ok (taskReady description) := by
  have h := @task_prepared signer signedParameters signedParameters description none
    (fun _ => keyPair 7) fun _ => rfl
  exact congrArg Prod.snd h

/-- Where its key has no row, a delivery completes, and it leaves the other rows that are not past. -/
theorem taskDelivery_completes (description : Str) {L : Ledger} (hL : L.purge 1 (taskKey description) = none) :
    (taskDelivery description).completes platform L = true ∧
      ∀ k, k ≠ taskKey description → ((taskDelivery description).processed platform L).ledger k = L.purge 1 k := by
  have hp := taskDelivery_prepared description
  obtain ⟨-, hk⟩ := prepare_key (Prod.ext rfl hp)
  obtain ⟨mac, hm, hbegun⟩ := task_row (q := signedParameters) hk hL
  have hbegun' : (taskDelivery description).begun platform (taskReady description) L = _ := hbegun
  have hb : afterBegin (taskDelivery description).agent (taskDelivery description).circumstances.clock
      (taskReady description) ((taskDelivery description).begun platform (taskReady description) L) = .ok "a" := by
    rw [hbegun']
    rfl
  have hs : (taskDelivery description).started platform L =
      Function.update (L.purge 1) (taskKey description) (some (taskRow (taskKey description) signedParameters mac)) := by
    rw [Delivery.started, hp]
    simp only [hbegun', ledgerAfter]
    rfl
  obtain ⟨L', hf, hne⟩ := task_completes (L := (taskDelivery description).started platform L) hk
    (by rw [hs]; exact Function.update_self ..) hm
  obtain ⟨hledger, hreply, hrun⟩ := processed_handled hp hb
  have hc := @conclude_finalized platform _ _ signingWorker circumstances (taskReady description) "a" true hf
  have hsigned : isMock (taskEnv none) = false := rfl
  obtain ⟨signed, hsg⟩ : ∃ signed, (circumstances.outcome.result signingWorker circumstances.clock
      (taskReady description).request).toActionRequest platform (taskEnv none) circumstances.reply.sign
        signingWorker.identity = .ok signed :=
    toActionRequest_signed hsigned rfl rfl
  have hl : ((taskDelivery description).processed platform L).ledger = L' := hledger.trans (congrArg Prod.fst hc)
  have hr : ((taskDelivery description).processed platform L).reply = reply platform (taskEnv none) signingWorker
      circumstances.reply (.ok (circumstances.outcome.result signingWorker circumstances.clock
        (taskReady description).request)) :=
    hreply.trans (congrArg (fun x : Ledger × Done => reply platform (taskEnv none) signingWorker circumstances.reply x.2) hc)
  constructor
  · rw [Delivery.completes, hrun, hr, reply]
    simp only [hsg]
    rfl
  · intro k hk
    rw [hl, hne k hk, hs, Function.update_of_ne hk]


theorem taskDelivery_deliver {s : WorkerLog} (description : Str) (h : s.ledger.purge 1 (taskKey description) = none) :
    ∃ L', WorkerLogStep platform s (.deliver (taskDelivery description)) ⟨L', taskKey description :: s.completed⟩ ∧
      ∀ k, k ≠ taskKey description → L' k = s.ledger.purge 1 k := by
  obtain ⟨hc, hl⟩ := taskDelivery_completes description h
  refine ⟨_, ?_, hl⟩
  have hs : WorkerLogStep platform s (.deliver (taskDelivery description)) _ := .deliver
  rwa [if_pos hc] at hs

theorem taskDelivery_during (description : Str) (L : Ledger) :
    (taskDelivery description).circumstances.during L = L := rfl

/-- A request completes once, and may be delivered again. -/
theorem used_once : ∃ es s, Run (Meeting (WorkerLogStep platform) (Quiet platform (taskKey "one")))
    ⟨Ledger.empty, []⟩ es s ∧ s.completed.count (taskKey "one") = 1 := by
  obtain ⟨L', hd, -⟩ := taskDelivery_deliver (s := ⟨Ledger.empty, []⟩) "one" rfl
  have hr : Run (Meeting (WorkerLogStep platform) (Quiet platform (taskKey "one"))) ⟨Ledger.empty, []⟩
      [.deliver (taskDelivery "one")] ⟨L', [taskKey "one"]⟩ := by
    refine .snoc .nil ⟨hd, fun row hrow => (nomatch hrow), [], ?_⟩
    rw [taskDelivery_during]
    exact .nil
  refine ⟨_, _, hr, Nat.le_antisymm (completed_once platform (taskKey "one") hr) ?_⟩
  simp

/-- One receipt, and two requests around it that both complete before it expires. -/
theorem receipt_used_twice : ∃ s, Run (WorkerLogStep platform) ⟨Ledger.empty, []⟩
      [.deliver (taskDelivery "one"), .deliver (taskDelivery "two")] s ∧
    s.completed = [taskKey "two", taskKey "one"] ∧
    delegated (taskDelivery "one").signed "tee_authorization" .null = .obj (receiptFor "worker" signedParameters) ∧
    delegated (taskDelivery "two").signed "tee_authorization" .null = .obj (receiptFor "worker" signedParameters) := by
  have hne : taskKey "two" ≠ taskKey "one" := requestKey_ne _ (by decide +kernel)
  obtain ⟨L₁, h₁, hrow⟩ := taskDelivery_deliver (s := ⟨Ledger.empty, []⟩) "one" rfl
  have htwo : L₁ (taskKey "two") = none := hrow _ hne
  obtain ⟨L₂, h₂, -⟩ := taskDelivery_deliver (s := ⟨L₁, [taskKey "one"]⟩) "two" (by simp [Ledger.purge, htwo])
  refine ⟨_, .snoc (.snoc .nil h₁) h₂, rfl, ?_, ?_⟩
  · exact (pingTask_accepted "one" (.inl rfl)).receipt_eq
  · exact (pingTask_accepted "two" (.inl rfl)).receipt_eq

end Sample

end Adn
