import Adn.CompletedOnce
/-!
# The records of one execution

A call that reaches its handler reports the outcome in four places: the signed reply, the
ledger's row, `_results` and the audit log. What `finalize` returns is not looked at, and
the reply is signed last, so that the four can differ. `records_agree_iff` says when they
do not.
-/

open Lib

namespace Adn

/-! ## What the records say -/

/-- A row is in a state of this outcome. -/
def Reports (status : DelegationStatus) (row : Option Row) : Prop :=
  ∃ r, row = some r ∧
    if status = .completed then r.state = stateCompleted else r.state = stateRetryableFailure ∨ r.state = stateFinalFailure

/-- A value is stored under a key. -/
def StoredAt {α : Type} (d : List (Json × α)) (key : Json) (v : α) : Prop := ∃ k, (k, v) ∈ d ∧ (k = key ∨ k.pyEq key = true)

/-- What the two log entries of an execution have in common. -/
structure Logged (request : DelegationRequest) (agent : Agent) (type status : Str) (entry : LogEntry) : Prop where
  type : entry.type = type
  delegationId : entry.delegationId = request.delegationId
  fromAgent : entry.fromAgent = request.fromAgentId
  toAgent : entry.toAgent = agent.identity.agentId
  action : entry.action = request.action
  status : entry.status = status

/-- The four records of an execution report one outcome, and the log has one entry for its start and one for its end. -/
def RecordsAgree (agent : Agent) (ready : Ready) (records : Records) (done : Processed) : Prop :=
  ∃ status : DelegationStatus,
    done.reply.1.status = status ∧ done.reply.1.delegationId = ready.request.delegationId ∧
    Reports status (done.ledger ready.args.replayKey) ∧
    (∃ r, StoredAt done.records.results ready.request.delegationId r ∧ r.status = status) ∧
    ∃ received completed, done.records.log = records.log ++ [received, completed] ∧
      Logged ready.request agent "delegation_received" "in_progress" received ∧
      Logged ready.request agent "delegation_completed" status.value completed

/-! ## When they agree -/

/-- A `finalize` did its work: it wrote the row, or it left one that is in a state of this outcome already. -/
def Wrote (status : DelegationStatus) (key : Str) (L : Ledger) : Except PyErr (Bool × Ledger) → Prop
  | .ok (true, _) => True
  | .ok (false, _) => Reports status (L key)
  | .error _ => False

/-- The first `finalize` of a call. -/
def firstFinalize (p : Platform) (c : Circumstances) (ready : Ready) (token : Str) (L : Ledger) :
    Except PyErr (Bool × Ledger) :=
  finalizeDelegationRequest p c.dbFinalize c.finalize ready.args.replayKey c.outcome.finalState
    ready.args.integritySecretHex c.outcome.lastError (some token) L

/-- The one that follows where it raises after a successful handler. -/
def secondFinalize (p : Platform) (c : Circumstances) (ready : Ready) (token : Str) (L : Ledger) (message : Str) :
    Except PyErr (Bool × Ledger) :=
  finalizeDelegationRequest p c.dbFailing c.failing ready.args.replayKey stateRetryableFailure
    ready.args.integritySecretHex (some message) (some token) L

/-- The handler's value can be written and `finalize` recorded it; or `finalize` raised, and the failure was recorded;
or the handler raised, and that was recorded. -/
def Settled (p : Platform) (c : Circumstances) (ready : Ready) (token : Str) (L : Ledger) : Prop :=
  match c.outcome with
  | .returned v =>
    (Wrote .completed ready.args.replayKey L (firstFinalize p c ready token L) ∧ ∃ j, v = .json j) ∨
      ∃ e, firstFinalize p c ready token L = .error e ∧
        Wrote .failed ready.args.replayKey L (secondFinalize p c ready token L (p.errStr e))
  | .raised _ => Wrote .failed ready.args.replayKey L (firstFinalize p c ready token L)

section
variable {p : Platform} {env : Env} {agent : Agent} {caller : CallerContext} {c : Circumstances} {signed : Dict}
  {L L' : Ledger} {records : Records} {ready : Ready} {token : Str}

theorem storedAt_setItem {α : Type} (d : List (Json × α)) (key : Json) (v : α) : StoredAt (setItem d key v) key v := by
  induction d with
  | nil => exact ⟨key, List.mem_cons_self, .inl rfl⟩
  | cons f d ih =>
    obtain ⟨k, w⟩ := f
    unfold setItem
    split
    · exact ⟨k, List.mem_cons_self, .inr ‹_›⟩
    · obtain ⟨k', hm, hk⟩ := ih
      exact ⟨k', List.mem_cons_of_mem _ hm, hk⟩

/-- The row after a `finalize` that did not raise. -/
theorem finalize_reports {db : Except PyErr Unit} {now : ℚ} {k state : Str} {secret error token : Option Str} {ok : Bool}
    (status : DelegationStatus) (hs : if status = .completed then state = stateCompleted else state = stateRetryableFailure)
    (h : finalizeDelegationRequest p db now k state secret error token L = .ok (ok, L')) :
    Reports status (L' k) ↔ Wrote status k L (.ok (ok, L')) := by
  cases finalizeDelegationRequest_step h with
  | refused _ => exact Iff.rfl
  | recorded row row' lastError hk ht hst =>
    refine ⟨fun _ => trivial, fun _ => ⟨row', Function.update_self .., ?_⟩⟩
    rw [hst.state]
    split at hs
    · rw [if_pos ‹_›, hs]
      have hx : exhausted row stateCompleted = false := by simp [exhausted, stateCompleted, stateRetryableFailure]
      simp only [Row.rewrite, finalStateOf, hx, Bool.false_eq_true, if_false]
    · rw [if_neg ‹_›, hs]
      unfold Row.rewrite finalStateOf
      simp only
      split
      · exact .inr rfl
      · exact .inl rfl

/-- Whether a signature can be made does not depend on what is signed. -/
theorem signActionRequest_any {now now' : ℚ} {signer : Option Signer} {action nonce action' nonce' : Json}
    {data data' : Option Json} {x : Dict} (h : signActionRequest p env now signer action nonce data = .ok x) :
    ∃ y, signActionRequest p env now' signer action' nonce' data' = .ok y := by
  unfold signActionRequest at h ⊢
  by_cases hm : isMock env = true
  · exact ⟨_, if_pos hm⟩
  · simp only [if_neg hm] at h ⊢
    cases signer with
    | some s => exact ⟨_, rfl⟩
    | none =>
      obtain ⟨s, hs, -⟩ := bind_ok.1 h
      exact ⟨_, bind_ok.2 ⟨s, hs, rfl⟩⟩

theorem toActionRequest_ok {now : ℚ} {identity : AgentIdentity} {r : DelegationResult} {x : Dict}
    (h : r.toActionRequest p env now identity = .ok x) {now' : ℚ} {r' : DelegationResult} {v : Json}
    (hr : r'.result = .json v) : ∃ y, r'.toActionRequest p env now' identity = .ok y := by
  unfold DelegationResult.toActionRequest at h ⊢
  rw [hr]
  cases hv : r.result with
  | unserializable => rw [hv] at h; cases h
  | json w =>
    rw [hv] at h
    obtain ⟨signed, hs, -⟩ := bind_ok.1 h
    obtain ⟨y, hy⟩ := signActionRequest_any hs
    exact ⟨_, bind_ok.2 ⟨y, hy, rfl⟩⟩

/-- A reply that is returned is the result, where that can be written, and reports an error where it cannot. -/
theorem reply_result {clock : ReplyClock} {r : DelegationResult} {x : Dict}
    (h : (reply p env agent clock (.ok r)).2 = .ok x) :
    ((∃ v, r.result = .json v) ∧ (reply p env agent clock (.ok r)).1 = r) ∨
      (r.result = .unserializable ∧ (reply p env agent clock (.ok r)).1.status = .failed) := by
  cases hv : r.result with
  | json v =>
    refine .inl ⟨⟨v, rfl⟩, ?_⟩
    simp only [reply] at h ⊢
    cases hr : r.toActionRequest p env clock.sign agent.identity with
    | ok signed => rfl
    | error e =>
      rw [hr] at h
      have herror : (errorResult p agent clock e).toActionRequest p env clock.errorSign agent.identity = .ok x := h
      obtain ⟨y, hy⟩ := @toActionRequest_ok p env _ _ _ _ herror clock.sign _ _ hv
      rw [hr] at hy
      cases hy
  | unserializable =>
    refine .inr ⟨rfl, ?_⟩
    have he : r.toActionRequest p env clock.sign agent.identity = .error .typeError := by
      unfold DelegationResult.toActionRequest
      rw [hv]
    simp only [reply, he]
    rfl

/-- How a call gets from its handler's outcome to its end. -/
theorem conclude_cases (p : Platform) (agent : Agent) (c : Circumstances) (ready : Ready) (token : Str) (L : Ledger) :
    (∃ ok L', firstFinalize p c ready token L = .ok (ok, L') ∧
      conclude p agent c ready token L = (L', .ok (c.outcome.result agent c.clock ready.request))) ∨
    (∃ e message, firstFinalize p c ready token L = .error e ∧ c.outcome = .raised message ∧
      conclude p agent c ready token L = (L, .error e)) ∨
    ∃ e v, firstFinalize p c ready token L = .error e ∧ c.outcome = .returned v ∧
      ((∃ ok L', secondFinalize p c ready token L (p.errStr e) = .ok (ok, L') ∧
        conclude p agent c ready token L = (L', .ok (failedResult agent c.clock ready.request (p.errStr e)))) ∨
      ∃ e', secondFinalize p c ready token L (p.errStr e) = .error e' ∧
        conclude p agent c ready token L = (L, .error e')) := by
  unfold conclude
  cases hfirst : firstFinalize p c ready token L with
  | ok x =>
    rw [firstFinalize] at hfirst
    exact .inl ⟨x.1, x.2, rfl, by simp only [hfirst, afterFinalize, ledgerAfter]⟩
  | error e =>
    rw [firstFinalize] at hfirst
    cases houtcome : c.outcome with
    | raised message =>
      rw [houtcome] at hfirst
      exact .inr (.inl ⟨e, message, rfl, rfl, by simp only [hfirst, afterFinalize, ledgerAfter]⟩)
    | returned v =>
      rw [houtcome] at hfirst
      refine .inr (.inr ⟨e, v, rfl, rfl, ?_⟩)
      cases hsecond : secondFinalize p c ready token L (p.errStr e) with
      | ok x =>
        rw [secondFinalize] at hsecond
        exact .inl ⟨x.1, x.2, rfl, by simp only [hfirst, hsecond, afterFinalize, ledgerAfter, afterFailing]⟩
      | error e' =>
        rw [secondFinalize] at hsecond
        exact .inr ⟨e', rfl, by simp only [hfirst, hsecond, afterFinalize, ledgerAfter, afterFailing]⟩

/-- What a call leaves after its handler, for the way it ends. -/
def concludedWith (p : Platform) (env : Env) (agent : Agent) (c : Circumstances) (ready : Ready) (records : Records)
    (effects : List Effect) (end' : Ledger × Done) : Processed where
  effects
  ledger := end'.1
  records := (records.received agent c.received ready.request).concluded agent c.concluded ready.request end'.2
  reply := reply p env agent c.reply end'.2

/-- A call that ends with an exception has no entry for its end. -/
theorem not_agree_error {effects : List Effect} {e : PyErr} :
    ¬RecordsAgree agent ready records (concludedWith p env agent c ready records effects (L', .error e)) := by
  rintro ⟨_, -, -, -, -, received, completed, hlog, -⟩
  have := congrArg List.length hlog
  simp [concludedWith, Records.concluded, Records.received] at this

/-- A call that ends with a result: the records agree where the row does and the result can be written. -/
theorem agree_result {effects : List Effect} {r : DelegationResult} {x : Dict}
    (hid : r.delegationId = ready.request.delegationId)
    (hstatus : r.status = .completed ∨ (r.status = .failed ∧ r.result = .json .null))
    (hret : (reply p env agent c.reply (.ok r)).2 = .ok x) :
    RecordsAgree agent ready records (concludedWith p env agent c ready records effects (L', .ok r)) ↔
      Reports r.status (L' ready.args.replayKey) ∧ ∃ v, r.result = .json v := by
  constructor
  · rintro ⟨status, hreply, -, hrow, -, received, completed, hlog, -, hcompleted⟩
    have hentry : r.status.value = status.value := by
      simp only [concludedWith, Records.concluded, Records.received, List.append_assoc, List.append_cancel_left_eq,
        List.cons_append, List.nil_append, List.cons.injEq, and_true] at hlog
      rw [← hcompleted.status, ← hlog.2]
    rcases reply_result hret with ⟨hv, hr⟩ | ⟨hun, hfailed⟩
    · have hsame : (reply p env agent c.reply (.ok r)).1.status = status := hreply
      rw [hr] at hsame
      rw [hsame]
      exact ⟨hrow, hv⟩
    · have hsame : (reply p env agent c.reply (.ok r)).1.status = status := hreply
      rw [hfailed] at hsame
      rcases hstatus with hc | ⟨-, hnull⟩
      · rw [hc, ← hsame] at hentry
        exact absurd hentry (by simp [DelegationStatus.value])
      · rw [hun] at hnull
        cases hnull
  · rintro ⟨hrow, hv⟩
    obtain ⟨v, hv⟩ := hv
    rcases reply_result hret with ⟨-, hr⟩ | ⟨hun, -⟩
    · have hreply : (concludedWith p env agent c ready records effects (L', .ok r)).reply.1 = r := hr
      refine ⟨r.status, by rw [hreply], by rw [hreply, hid], hrow, ⟨r, storedAt_setItem _ _ _, rfl⟩, ?_⟩
      exact ⟨_, _, List.append_assoc .., ⟨rfl, rfl, rfl, rfl, rfl, rfl⟩, ⟨rfl, rfl, rfl, rfl, rfl, rfl⟩⟩
    · rw [hun] at hv
      cases hv

/-- The ledger as the handler's outcome finds it. -/
def handledLedger (p : Platform) (c : Circumstances) (ready : Ready) (L : Ledger) : Ledger :=
  c.during (ledgerAfter L (beginRequestExecution p c.dbBegin c.begin c.token ready.args L))

theorem process_concluded (records : Records) (hp : (prepare p env agent caller c.clock signed).2 = .ok ready)
    (hb : afterBegin agent c.clock ready (beginRequestExecution p c.dbBegin c.begin c.token ready.args L) = .ok token) :
    ∃ effects, processDelegationRequest p env agent caller c signed L records =
      concludedWith p env agent c ready records effects (conclude p agent c ready token (handledLedger p c ready L)) := by
  unfold processDelegationRequest
  split
  · rename_i effects d hprepare
    rw [hprepare] at hp
    cases hp
  · rename_i effects r hprepare
    rw [hprepare] at hp
    obtain rfl := Except.ok.inj hp
    refine ⟨effects ++ (execute p env agent c r L records).effects, ?_⟩
    simp only [execute, hb]
    rfl

/-- The four records of a call that reached its handler and returned agree exactly where it was settled. -/
theorem records_agree_iff (hp : (prepare p env agent caller c.clock signed).2 = .ok ready)
    (hb : afterBegin agent c.clock ready (beginRequestExecution p c.dbBegin c.begin c.token ready.args L) = .ok token)
    {x : Dict} (hret : (processDelegationRequest p env agent caller c signed L records).reply.2 = .ok x) :
    RecordsAgree agent ready records (processDelegationRequest p env agent caller c signed L records) ↔
      Settled p c ready token (handledLedger p c ready L) := by
  obtain ⟨effects, hprocess⟩ := process_concluded records hp hb
  rw [hprocess] at hret ⊢
  generalize handledLedger p c ready L = L₁ at hret ⊢
  unfold Settled
  rcases conclude_cases p agent c ready token L₁ with ⟨ok, L', hfirst, hend⟩ | ⟨e, message, hfirst, houtcome, hend⟩ |
    ⟨e, v, hfirst, houtcome, ⟨ok, L', hsecond, hend⟩ | ⟨e', hsecond, hend⟩⟩
  · -- the first finalize returned
    rw [hend] at hret ⊢
    cases houtcome : c.outcome with
    | returned v =>
      rw [houtcome] at hret
      have hrow := finalize_reports .completed (by rw [if_pos rfl, houtcome]; rfl) hfirst
      rw [agree_result rfl (.inl rfl) hret, hfirst, ← hrow]
      constructor
      · rintro ⟨hr, hv⟩
        exact .inl ⟨hr, hv⟩
      · rintro (h | ⟨e, he, -⟩)
        · exact h
        · cases he
    | raised message =>
      rw [houtcome] at hret
      have hrow := finalize_reports .failed (by rw [if_neg (by decide), houtcome]; rfl) hfirst
      rw [agree_result rfl (.inr ⟨rfl, rfl⟩) hret, hfirst, ← hrow]
      exact ⟨fun h => h.1, fun h => ⟨h, .null, rfl⟩⟩
  · -- a failure that could not be recorded
    rw [hend, houtcome, hfirst]
    exact iff_of_false not_agree_error id
  · -- the success could not be recorded, the failure was
    rw [hend] at hret ⊢
    have hrow := finalize_reports .failed (by rw [if_neg (by decide)]) hsecond
    rw [agree_result rfl (.inr ⟨rfl, rfl⟩) hret, houtcome, hfirst]
    constructor
    · rintro ⟨hr, -⟩
      exact .inr ⟨e, rfl, hsecond ▸ hrow.mp hr⟩
    · rintro (⟨h, -⟩ | ⟨e', he', h⟩)
      · exact h.elim
      · cases he'
        exact ⟨hrow.mpr (hsecond ▸ h), .null, rfl⟩
  · -- neither was
    rw [hend, houtcome, hfirst]
    refine iff_of_false not_agree_error ?_
    rintro (⟨h, -⟩ | ⟨e'', he'', h⟩)
    · exact h.elim
    · cases he''
      rw [hsecond] at h
      exact h

end

/-! ## A value that cannot be written -/

namespace Sample

/-- Everything goes well until the reply is signed. -/
def executed (outcome : Outcome) : Circumstances := { circumstances with outcome }

def noRecords : Records := ⟨[], [], []⟩

def executedCall (outcome : Outcome) : Processed :=
  processDelegationRequest platform env sharedWorker.agent caller (executed outcome) shared Ledger.empty noRecords

theorem executed_prepared (outcome : Outcome) :
    (prepare platform env sharedWorker.agent caller (executed outcome).clock shared).2 = .ok sharedReady := by
  have h := shared_prepared.2
  exact congrArg Prod.snd h

/-- The row that the handler's outcome finds, and the token that `begin` gave. -/
theorem executed_begun (outcome : Outcome) :
    afterBegin sharedWorker.agent (executed outcome).clock sharedReady (beginRequestExecution platform
        (executed outcome).dbBegin (executed outcome).begin (executed outcome).token sharedReady.args Ledger.empty) = .ok "a" ∧
      handledLedger platform (executed outcome) sharedReady Ledger.empty sharedKey =
        some (sharedRow sharedFingerprint 1 1 "a") := by
  obtain ⟨L', hL', hrow⟩ := shared_first shared_prepared.1 sharedFingerprint_encodable
  have hbegin : beginRequestExecution platform (executed outcome).dbBegin (executed outcome).begin
      (executed outcome).token sharedReady.args Ledger.empty = .ok (⟨true, [], some "a"⟩, L') := hL'
  refine ⟨by rw [hbegin]; rfl, ?_⟩
  rw [handledLedger, hbegin]
  exact hrow

theorem executed_returned (v : Returned) : ∃ L', firstFinalize platform (executed (.returned v)) sharedReady "a"
    (handledLedger platform (executed (.returned v)) sharedReady Ledger.empty) = .ok (true, L') :=
  shared_completes 1 shared_prepared.1 sharedFingerprint_encodable (executed_begun (.returned v)).2

/-- A reply is always signed: the worker has a key. -/
theorem shared_signed (d : Done) : ∃ x, (reply platform env sharedWorker.agent circumstances.reply d).2 = .ok x := by
  have herror (e : PyErr) : ∃ x, (errorResult platform sharedWorker.agent circumstances.reply e).toActionRequest platform env
      circumstances.reply.errorSign sharedWorker.agent.identity = .ok x :=
    toActionRequest_signed rfl rfl rfl
  cases d with
  | error e => exact herror e
  | ok r =>
    simp only [reply]
    cases r.toActionRequest platform env circumstances.reply.sign sharedWorker.agent.identity with
    | ok x => exact ⟨x, rfl⟩
    | error e => exact herror e

theorem executed_reply (outcome : Outcome) : ∃ x, (executedCall outcome).reply.2 = .ok x := by
  obtain ⟨effects, h⟩ := process_concluded noRecords (executed_prepared outcome) (executed_begun outcome).1
  rw [executedCall, h]
  exact shared_signed _

/-- The row, the result and the log say `COMPLETED`, and the reply that is signed reports an error. -/
theorem unwritable_disagrees : (prepare platform env sharedWorker.agent caller circumstances.clock shared).2 = .ok sharedReady ∧
    (∃ x, (executedCall (.returned .unserializable)).reply.2 = .ok x) ∧
    ¬RecordsAgree sharedWorker.agent sharedReady noRecords (executedCall (.returned .unserializable)) := by
  refine ⟨executed_prepared (.returned .unserializable), executed_reply _, ?_⟩
  obtain ⟨L', hfirst⟩ := executed_returned .unserializable
  obtain ⟨effects, hcall⟩ := process_concluded noRecords (executed_prepared (.returned .unserializable))
    (executed_begun (.returned .unserializable)).1
  obtain ⟨x, hx⟩ := executed_reply (.returned .unserializable)
  rw [executedCall, hcall] at hx ⊢
  rcases conclude_cases platform sharedWorker.agent (executed (.returned .unserializable)) sharedReady "a"
    (handledLedger platform (executed (.returned .unserializable)) sharedReady Ledger.empty) with
    ⟨ok, L'', -, hend⟩ | ⟨e, -, he, -⟩ | ⟨e, -, he, -⟩
  · rw [hend] at hx ⊢
    rw [agree_result rfl (.inl rfl) hx]
    rintro ⟨-, v, hv⟩
    cases hv
  · rw [hfirst] at he
    cases he
  · rw [hfirst] at he
    cases he

theorem written_agrees : RecordsAgree sharedWorker.agent sharedReady noRecords (executedCall (.returned (.json .null))) := by
  obtain ⟨x, hx⟩ := executed_reply (.returned (.json .null))
  obtain ⟨L', hfirst⟩ := executed_returned (.json .null)
  refine (records_agree_iff (executed_prepared (.returned (.json .null))) (executed_begun (.returned (.json .null))).1 hx).mpr ?_
  exact .inl ⟨by rw [hfirst]; trivial, .null, rfl⟩

end Sample

end Adn
