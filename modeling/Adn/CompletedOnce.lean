import Adn.WorkerPool
import Adn.RequestAuthenticity
/-!
# At most one completed result

A call ignores what `finalize` returns, so one that has lost its lease still
returns a `COMPLETED` result (`two_completed`). As long as every call whose
handler returned finds its own token in the row when it finalizes, one request
completes at most once, in every interleaving (`at_most_one_completed`).
-/

open Lib

namespace Adn

/-! ## The pool -/

/-- The ledger and how far each call is. -/
structure Pool (ι : Type) where
  ledger : Ledger
  phase : ι → Phase

inductive PoolEvent (ι : Type) where
  | work (i : ι) (a : Action)
  | other (e : Event)

/-- An operation that no call makes in its own turn: a heartbeat, or one on another key. -/
def Aside (k : Str) : Event → Prop
  | .heartbeat .. => True
  | e => e.key ≠ some k

/-- One call moves on, or something else uses the ledger. -/
inductive PoolStep {ι : Type} [DecidableEq ι] (p : Platform) (workers : ι → Worker) (signed : Dict) : Pool ι → PoolEvent ι → Pool ι → Prop
  | work {s : Pool ι} {i : ι} {a : Action} {phase : Phase} {L' : Ledger} :
      (workers i).advance p signed (s.phase i) a s.ledger = (phase, L') →
      PoolStep p workers signed s (.work i a) ⟨L', Function.update s.phase i phase⟩
  | other {s : Pool ι} {e : Event} {L' : Ledger} : Aside (requestKey p signed) e → LedgerStep p s.ledger e L' →
      PoolStep p workers signed s (.other e) ⟨L', s.phase⟩

section
variable {ι : Type}

/-- No reading that purges reaches the expiry of the row under `k`. -/
def NotPast (k : Str) (s : Pool ι) : PoolEvent ι → Prop
  | .work _ (.begin _ now _) => ∀ row, s.ledger k = some row → (now : Time) < row.expiresAt
  | .work _ _ => True
  | .other e => Unpurged k s.ledger e

/-- A call whose handler returned still holds the row when it finalizes. -/
def Holds (k : Str) (s : Pool ι) : PoolEvent ι → Prop
  | .work i (.finalize (.ok _) _) => ∀ r token v, s.phase i = .finalizing r token (.returned v) →
      ∃ row, s.ledger k = some row ∧ row.executionToken = some token
  | _ => True

/-- The call has begun and not reported how it ended. -/
def Phase.live : Phase → Prop
  | .running .. => True
  | .finalizing .. => True
  | .failing .. => True
  | _ => False

/-- The call has returned a signed result with status `COMPLETED`. -/
def Phase.completed : Phase → Prop
  | .returned r (.ok _) => r.status = .completed
  | _ => False

/-! ## What holds of the row -/

variable {live live' completed completed' : ι → Prop}

/-- On its first attempt a row has one holder while it is running and none
afterwards. A call has completed only if the row's token is erased. -/
structure SharedRow (row : Row) (live completed : ι → Prop) : Prop where
  max : row.maxAttempts = maxRequestAttempts
  pos : 1 ≤ row.attemptCount
  once : ∀ i j, completed i → completed j → i = j
  erased : ∀ i, completed i → row.executionToken = none
  first : row.attemptCount = 1 → (∀ i j, live i → live j → i = j) ∧ (row.state ≠ stateRunning → ∀ i, ¬live i) ∧
    ∀ i, completed i → row.state = stateCompleted

def SharedInv (row : Option Row) (live completed : ι → Prop) : Prop :=
  match row with
  | none => (∀ i, ¬live i) ∧ ∀ i, ¬completed i
  | some row => SharedRow row live completed

theorem SharedInv.mono {row : Option Row} (h : SharedInv row live completed) (hl : ∀ i, live' i → live i)
    (hc : ∀ i, completed' i → completed i) : SharedInv row live' completed' := by
  cases row with
  | none => exact ⟨fun i hi => h.1 i (hl i hi), fun i hi => h.2 i (hc i hi)⟩
  | some row =>
    refine ⟨h.max, h.pos, fun i j hi hj => h.once i j (hc i hi) (hc j hj), fun i hi => h.erased i (hc i hi), fun h1 => ?_⟩
    obtain ⟨hone, hstop, hdone⟩ := h.first h1
    exact ⟨fun i j hi hj => hone i j (hl i hi) (hl j hj), fun hs i hi => hstop hs i (hl i hi),
      fun i hi => hdone i (hc i hi)⟩

theorem SharedInv.unique {row : Option Row} (h : SharedInv row live completed) {i j : ι} (hi : completed i)
    (hj : completed j) : i = j := by
  cases row with
  | none => exact absurd hi (h.2 i)
  | some row => exact h.once i j hi hj

variable {L L' : Ledger} {now : ℚ} {k : Str} {i : ι}

theorem sharedInv_begin {token : Str} {a : BeginArgs} {r : BeginReply} (h : BeginStep now token a L r L')
    (hu : ∀ row, L a.replayKey = some row → (now : Time) < row.expiresAt)
    (hl : ∀ j, live' j → live j ∨ (j = i ∧ r.allowed = true)) (hc : ∀ j, completed' j → completed j)
    (hI : SharedInv (L a.replayKey) live completed) : SharedInv (L' a.replayKey) live' completed' := by
  have hp := purge_of_current hu
  have hrefused : r.allowed = false → ∀ j, live' j → live j := fun hr j hj =>
    (hl j hj).resolve_right fun h => by rw [h.2] at hr; cases hr
  cases h with
  | keyMissing => exact hI.mono (hrefused rfl) hc
  | blocked =>
    rw [hp]
    exact hI.mono (hrefused rfl) hc
  | first row hn hs =>
    rw [hp] at hn
    rw [hn] at hI
    have hnone : ∀ j, live' j → j = i := fun j hj => ((hl j hj).resolve_left (hI.1 j)).1
    rw [Function.update_self]
    refine ⟨hs.maxAttempts, ?_, fun j _ hj => absurd (hc j hj) (hI.2 j), fun j hj => absurd (hc j hj) (hI.2 j), fun _ =>
      ⟨fun j j' hj hj' => (hnone j hj).trans (hnone j' hj').symm, fun hr => absurd hs.state hr,
        fun j hj => absurd (hc j hj) (hI.2 j)⟩⟩
    rw [hs.attemptCount]
    exact le_refl _
  | exhausted row row' _ _ hr _ hle hs =>
    rw [hp] at hr
    rw [hr] at hI
    rw [Function.update_self]
    have hn : row'.attemptCount = row.attemptCount := hs.attemptCount
    refine ⟨hs.maxAttempts.trans hI.max, hn ▸ hI.pos, fun i j hi hj => hI.once i j (hc i hi) (hc j hj),
      fun _ _ => hs.executionToken, fun h1 => ?_⟩
    have := hI.max
    rw [maxRequestAttempts] at this
    omega
  | again row row' hr hb hlt hs =>
    rw [hp] at hr
    rw [hr] at hI
    rw [Function.update_self]
    have hmax := hI.max
    have hpos := hI.pos
    rw [maxRequestAttempts] at hmax
    have hn : row'.attemptCount = row.attemptCount + 1 := hs.attemptCount
    have hnone : ∀ j, ¬completed' j := fun j hj =>
      hb (.inl ((hI.first (by omega)).2.2 j (hc j hj)))
    exact ⟨hs.maxAttempts.trans hI.max, by omega, fun j _ hj => absurd hj (hnone j), fun j hj => absurd hj (hnone j),
      fun h1 => by omega⟩

/-- The holder of the row completes. -/
theorem sharedInv_complete {token : Str} {ok : Bool} (h : FinalizeStep now k stateCompleted (some token) L ok L')
    (hk : k ≠ []) (held : ∃ row, L k = some row ∧ row.executionToken = some token) (hi : live i)
    (hl : ∀ j, live' j → live j ∧ j ≠ i) (hc : ∀ j, completed' j → completed j ∨ j = i)
    (hI : SharedInv (L k) live completed) : SharedInv (L' k) live' completed' := by
  obtain ⟨row₀, hr₀, ht⟩ := held
  cases h with
  | refused hn =>
    have := hn hk row₀ hr₀
    simp [tokenMismatch, ht] at this
  | recorded row row' _ hr _ hs =>
    obtain rfl := Option.some.inj (hr₀.symm.trans hr)
    rw [hr] at hI
    rw [Function.update_self]
    -- the row still has its token, so nobody has completed
    have hlast : ∀ j, completed' j → j = i := fun j hj => (hc j hj).resolve_left fun hj' => by
      rw [hI.erased j hj'] at ht
      cases ht
    have hst : row'.state = stateCompleted := by
      rw [hs.state, Row.rewrite, finalStateOf, if_neg (by simp [exhausted, stateCompleted, stateRetryableFailure])]
    have hn : row'.attemptCount = row₀.attemptCount := hs.attemptCount
    refine ⟨hs.maxAttempts.trans hI.max, hn ▸ hI.pos, fun j j' hj hj' => (hlast j hj).trans (hlast j' hj').symm,
      fun _ _ => hs.executionToken, fun h1 => ?_⟩
    have hgone : ∀ j, ¬live' j := fun j hj =>
      (hl j hj).2 ((hI.first (hn ▸ h1)).1 j i (hl j hj).1 hi)
    exact ⟨fun j _ hj => absurd hj (hgone j), fun _ => hgone, fun _ _ => hst⟩

/-- A live call reports a failure. -/
theorem sharedInv_fail {token state : Str} {ok : Bool} (h : FinalizeStep now k state (some token) L ok L') (hi : live i)
    (hl : ∀ j, live' j → live j ∧ j ≠ i) (hc : ∀ j, completed' j → completed j)
    (hI : SharedInv (L k) live completed) : SharedInv (L' k) live' completed' := by
  cases h with
  | refused => exact hI.mono (fun j hj => (hl j hj).1) hc
  | recorded row row' _ hr _ hs =>
    rw [hr] at hI
    rw [Function.update_self]
    have hn : row'.attemptCount = row.attemptCount := hs.attemptCount
    refine ⟨hs.maxAttempts.trans hI.max, hn ▸ hI.pos, fun i j hi hj => hI.once i j (hc i hi) (hc j hj),
      fun _ _ => hs.executionToken, fun h1 => ?_⟩
    obtain ⟨hone, hstop, hdone⟩ := hI.first (hn ▸ h1)
    have hgone : ∀ j, ¬live' j := fun j hj => (hl j hj).2 (hone j i (hl j hj).1 hi)
    -- a first attempt that has completed has no holder left
    have hnone : ∀ j, ¬completed' j := fun j hj =>
      hstop (by rw [hdone j (hc j hj)]; decide) i hi
    exact ⟨fun j _ hj => absurd hj (hgone j), fun _ => hgone, fun j hj => absurd hj (hnone j)⟩

theorem sharedInv_heartbeat {token : Option Str} {ok : Bool} (h : HeartbeatStep now k token L ok L')
    (hI : SharedInv (L k) live completed) : SharedInv (L' k) live completed := by
  cases h with
  | refused => exact hI
  | renewed row row' hr hrun _ hs =>
    rw [hr] at hI
    rw [Function.update_self]
    have hn : row'.attemptCount = row.attemptCount := hs.attemptCount
    refine ⟨hs.maxAttempts.trans hI.max, hn ▸ hI.pos, hI.once, fun i hi => hs.executionToken.trans (hI.erased i hi),
      fun h1 => ?_⟩
    obtain ⟨hone, -, hdone⟩ := hI.first (hn ▸ h1)
    refine ⟨hone, fun hne => absurd hs.state hne, fun i hi => ?_⟩
    have := hdone i hi
    rw [hrun] at this
    exact absurd this (by decide)

/-! ## One call moves on -/

/-- The ready request of a phase that has one. -/
def Phase.ready? : Phase → Option Ready
  | .ready r => some r
  | .running r _ => some r
  | .finalizing r _ _ => some r
  | .failing r _ _ => some r
  | _ => none

/-- A call that got to `begin` uses the key `k`. -/
def Phase.Keyed (k : Str) (phase : Phase) : Prop := ∀ r, phase.ready? = some r → r.args.replayKey = k ∧ k ≠ []

/-- What moving on does to the phase and to the ledger. -/
inductive Advance (k : Str) (a : Action) : Phase → Ledger → Phase → Ledger → Prop
  | idle {ph ph' : Phase} {L : Ledger} : (ph'.live → ph.live) → (ph'.completed → ph.completed) →
      Advance k a ph L ph' L
  | begun {ph ph' : Phase} {db : Except PyErr Unit} {now : ℚ} {token : Str} {args : BeginArgs} {reply : BeginReply}
      {L L' : Ledger} : a = .begin db now token → args.replayKey = k → BeginStep now token args L reply L' →
      (ph'.live → reply.allowed = true) → ¬ph'.completed → Advance k a ph L ph' L'
  | completes {r : Ready} {ph' : Phase} {now : ℚ} {token : Str} {v : Returned} {ok : Bool} {L L' : Ledger} :
      a = .finalize (.ok ()) now → k ≠ [] → FinalizeStep now k stateCompleted (some token) L ok L' →
      ¬ph'.live → Advance k a (.finalizing r token (.returned v)) L ph' L'
  | fails {ph ph' : Phase} {now : ℚ} {token state : Str} {ok : Bool} {L L' : Ledger} : ph.live →
      FinalizeStep now k state (some token) L ok L' → ¬ph'.live → ¬ph'.completed → Advance k a ph L ph' L'

theorem finish_not_live (p : Platform) (w : Worker) (d : Done) : ¬(w.finish p d).live := id

theorem returned_failed {r : DelegationResult} (h : r.status = .failed) (x : Except PyErr Dict) :
    ¬(Phase.returned r x).completed := by
  cases x with
  | error e => exact id
  | ok signed =>
    intro hc
    rw [Phase.completed, h] at hc
    cases hc

/-- A call that ends in a failure or an exception does not complete. -/
theorem finish_failed {p : Platform} {w : Worker} {d : Done} (h : ∀ r, d = .ok r → r.status = .failed) :
    ¬(w.finish p d).completed := by
  unfold Worker.finish reply
  cases d with
  | error e => exact returned_failed rfl _
  | ok r =>
    simp only
    cases r.toActionRequest p w.env w.replyClock.sign w.agent.identity with
    | error e => exact returned_failed rfl _
    | ok signed => exact returned_failed (h r rfl) _

theorem finish_error {p : Platform} {w : Worker} {e : PyErr} : ¬(w.finish p (.error e)).completed :=
  finish_failed fun r hr => by cases hr

theorem afterBegin_failed {agent : Agent} {clock : PrepareClock} {ready : Ready}
    {x : Except PyErr (BeginReply × Ledger)} {d : Done} (h : afterBegin agent clock ready x = .error d) :
    ∀ r, d = .ok r → r.status = .failed := by
  rintro r rfl
  unfold afterBegin at h
  split at h
  · cases h
  · split at h
    · cases h
    · cases h
      rfl

theorem finalizeDelegationRequest_step {p : Platform} {db : Except PyErr Unit} {now : ℚ} {k state : Str}
    {secret error token : Option Str} {L L' : Ledger} {ok : Bool}
    (h : finalizeDelegationRequest p db now k state secret error token L = .ok (ok, L')) :
    FinalizeStep now k state token L ok L' := by
  unfold finalizeDelegationRequest at h
  split at h
  · exact finalize_step h
  · cases h

theorem finalizeDelegationRequest_db {p : Platform} {db : Except PyErr Unit} {now : ℚ} {k state : Str}
    {secret error token : Option Str} {L : Ledger} {y : Bool × Ledger} (hk : k ≠ [])
    (h : finalizeDelegationRequest p db now k state secret error token L = .ok y) : db = .ok () := by
  unfold finalizeDelegationRequest finalizeRequestExecution at h
  rw [if_neg hk] at h
  split at h
  · obtain ⟨u, hu, -⟩ := bind_ok.1 h
    exact hu
  · cases h

theorem keyed_of_none {k : Str} {ph : Phase} (h : ph.ready? = none) : ph.Keyed k := fun r hr => by rw [h] at hr; cases hr

theorem advance_spec {p : Platform} {w : Worker} {signed : Dict} {a : Action} {ph ph' : Phase} {L L' : Ledger}
    (hk : ph.Keyed (requestKey p signed)) (h : w.advance p signed ph a L = (ph', L')) :
    Advance (requestKey p signed) a ph L ph' L' ∧ ph'.Keyed (requestKey p signed) := by
  have stay : (ph, L) = (ph', L') → Advance (requestKey p signed) a ph L ph' L' ∧ ph'.Keyed (requestKey p signed) := by
    intro he
    cases he
    exact ⟨.idle id id, hk⟩
  cases ph with
  | fresh =>
    cases a with
    | prepare =>
      simp only [Worker.advance] at h
      cases hp : prepare p w.env w.agent w.caller w.clock signed with
      | mk effects x =>
        rw [hp] at h
        cases x with
        | error d =>
          cases h
          exact ⟨.idle id fun hc => (finish_failed (fun r hr => prepare_failed (hr ▸ hp)) hc).elim, keyed_of_none rfl⟩
        | ok r =>
          cases h
          exact ⟨.idle id id, fun r' hr' => by cases hr'; exact prepare_key hp⟩
    | crash => cases h; exact ⟨.idle id id, keyed_of_none rfl⟩
    | _ => exact stay h
  | ready r =>
    cases a with
    | begin db now token =>
      obtain ⟨hkey, -⟩ := hk r rfl
      simp only [Worker.advance] at h
      cases hb : afterBegin w.agent w.clock r (beginRequestExecution p db now token r.args L) with
      | error d =>
        rw [hb] at h
        obtain ⟨rfl, rfl⟩ := Prod.mk.inj h
        have hfailed := finish_failed (p := p) (w := w) (afterBegin_failed hb)
        refine ⟨?_, keyed_of_none rfl⟩
        cases hx : beginRequestExecution p db now token r.args L with
        | error e => exact .idle (fun hl => (finish_not_live p w d hl).elim) fun hc => (hfailed hc).elim
        | ok y => exact .begun rfl hkey (begin_step hx) (fun hl => (finish_not_live p w d hl).elim) hfailed
      | ok token' =>
        rw [hb] at h
        obtain ⟨rfl, rfl⟩ := Prod.mk.inj h
        obtain ⟨reply, L₁, hx, hal, -⟩ := afterBegin_iff.1 hb
        rw [hx]
        exact ⟨.begun rfl hkey (begin_step hx) (fun _ => hal) id, hk⟩
    | crash => cases h; exact ⟨.idle id id, keyed_of_none rfl⟩
    | _ => exact stay h
  | running r token =>
    cases a with
    | handled outcome => cases h; exact ⟨.idle id id, hk⟩
    | crash => cases h; exact ⟨.idle (fun hl => hl.elim) id, keyed_of_none rfl⟩
    | _ => exact stay h
  | finalizing r token outcome =>
    cases a with
    | finalize db now =>
      obtain ⟨hkey, hne⟩ := hk r rfl
      simp only [Worker.advance, hkey] at h
      cases hx : finalizeDelegationRequest p db now (requestKey p signed) outcome.finalState r.args.integritySecretHex
          outcome.lastError (some token) L with
      | error e =>
        -- a success whose finalize raises is reported as a failure next
        rw [hx] at h
        cases outcome with
        | returned v => cases h; exact ⟨.idle id id, hk⟩
        | raised m =>
          cases h
          exact ⟨.idle (fun hl => hl.elim) fun hc => (finish_error hc).elim, keyed_of_none rfl⟩
      | ok y =>
        rw [hx] at h
        have hs := finalizeDelegationRequest_step hx
        cases outcome with
        | returned v =>
          cases h
          obtain rfl := finalizeDelegationRequest_db hne hx
          exact ⟨.completes rfl hne hs id, keyed_of_none rfl⟩
        | raised m =>
          cases h
          exact ⟨.fails trivial hs id (finish_failed fun r' hr' => by cases hr'; rfl), keyed_of_none rfl⟩
    | crash => cases h; exact ⟨.idle (fun hl => hl.elim) id, keyed_of_none rfl⟩
    | _ => exact stay h
  | failing r token message =>
    cases a with
    | fail db now =>
      obtain ⟨hkey, -⟩ := hk r rfl
      simp only [Worker.advance, hkey] at h
      cases hx : finalizeDelegationRequest p db now (requestKey p signed) stateRetryableFailure
          r.args.integritySecretHex (some message) (some token) L with
      | error e =>
        rw [hx] at h
        cases h
        exact ⟨.idle (fun hl => hl.elim) fun hc => (finish_error hc).elim, keyed_of_none rfl⟩
      | ok y =>
        rw [hx] at h
        cases h
        exact ⟨.fails trivial (finalizeDelegationRequest_step hx) id (finish_failed fun r' hr' => by cases hr'; rfl),
          keyed_of_none rfl⟩
    | crash => cases h; exact ⟨.idle (fun hl => hl.elim) id, keyed_of_none rfl⟩
    | _ => exact stay h
  | returned r signed => cases a <;> exact stay h
  | crashed => cases a <;> exact stay h

end

/-! ## Every run -/

section
variable {ι : Type} [DecidableEq ι] {p : Platform} {workers : ι → Worker} {signed : Dict}

def PoolInv (k : Str) (s : Pool ι) : Prop :=
  (∀ i, (s.phase i).Keyed k) ∧ SharedInv (s.ledger k) (fun i => (s.phase i).live) fun i => (s.phase i).completed

/-- What holds of the call that moved or held of the call before. -/
theorem of_update (P : Phase → Prop) {phase : ι → Phase} {i j : ι} {ph : Phase} (h : P (Function.update phase i ph j)) :
    (j = i ∧ P ph) ∨ (j ≠ i ∧ P (phase j)) := by
  by_cases hj : j = i
  · subst hj
    rw [Function.update_self] at h
    exact .inl ⟨rfl, h⟩
  · rw [Function.update_of_ne hj] at h
    exact .inr ⟨hj, h⟩

theorem poolInv_work {s : Pool ι} {i : ι} {a : Action} {ph : Phase} {L' : Ledger}
    (hI : PoolInv (requestKey p signed) s) (h : (workers i).advance p signed (s.phase i) a s.ledger = (ph, L'))
    (hu : NotPast (requestKey p signed) s (.work i a)) (held : Holds (requestKey p signed) s (.work i a)) :
    PoolInv (requestKey p signed) ⟨L', Function.update s.phase i ph⟩ := by
  obtain ⟨hkey, hrow⟩ := hI
  obtain ⟨had, hkey'⟩ := advance_spec (hkey i) h
  refine ⟨fun j => ?_, ?_⟩
  · by_cases hj : j = i
    · subst hj
      simpa only [Function.update_self] using hkey'
    · simpa only [Function.update_of_ne hj] using hkey j
  generalize hph : s.phase i = phi at had
  simp only
  cases had with
  | idle hl hc =>
    refine hrow.mono (fun j hj => ?_) (fun j hj => ?_)
    · rcases of_update Phase.live hj with ⟨rfl, hj'⟩ | ⟨-, hj'⟩
      · exact hph ▸ hl hj'
      · exact hj'
    · rcases of_update Phase.completed hj with ⟨rfl, hj'⟩ | ⟨-, hj'⟩
      · exact hph ▸ hc hj'
      · exact hj'
  | @begun _ _ db now token args reply _ _ ha hk hb hl hc =>
    subst ha
    rw [← hk] at hrow hu ⊢
    refine sharedInv_begin hb hu (i := i) (fun j hj => ?_) (fun j hj => ?_) hrow
    · rcases of_update Phase.live hj with ⟨rfl, hj'⟩ | ⟨-, hj'⟩
      · exact .inr ⟨rfl, hl hj'⟩
      · exact .inl hj'
    · rcases of_update Phase.completed hj with ⟨-, hj⟩ | ⟨-, hj⟩
      · exact (hc hj).elim
      · exact hj
  | @completes r _ now token v ok _ _ ha hk hf hl =>
    subst ha
    refine sharedInv_complete hf hk (held r token v hph) (i := i) (hph ▸ trivial) (fun j hj => ?_) (fun j hj => ?_) hrow
    · rcases of_update Phase.live hj with ⟨-, hj⟩ | ⟨hne, hj⟩
      · exact (hl hj).elim
      · exact ⟨hj, hne⟩
    · rcases of_update Phase.completed hj with ⟨rfl, -⟩ | ⟨-, hj⟩
      · exact .inr rfl
      · exact .inl hj
  | fails hi hf hl hc =>
    refine sharedInv_fail hf (i := i) (hph ▸ hi) (fun j hj => ?_) (fun j hj => ?_) hrow
    · rcases of_update Phase.live hj with ⟨-, hj⟩ | ⟨hne, hj⟩
      · exact (hl hj).elim
      · exact ⟨hj, hne⟩
    · rcases of_update Phase.completed hj with ⟨-, hj⟩ | ⟨-, hj⟩
      · exact (hc hj).elim
      · exact hj

omit [DecidableEq ι] in
theorem poolInv_other {s : Pool ι} {e : Event} {L' : Ledger} (hI : PoolInv (requestKey p signed) s)
    (ha : Aside (requestKey p signed) e) (h : LedgerStep p s.ledger e L') (hu : Unpurged (requestKey p signed) s.ledger e) :
    PoolInv (requestKey p signed) ⟨L', s.phase⟩ := by
  refine ⟨hI.1, ?_⟩
  by_cases hk : e.key = some (requestKey p signed)
  · cases h with
    | heartbeat hb =>
      cases hk
      exact sharedInv_heartbeat (heartbeat_step hb) hI.2
    | raised => cases hk
    | _ => exact absurd hk ha
  · simp only [row_elsewhere h hk hu]
    exact hI.2

theorem poolInv_step {s s' : Pool ι} {e : PoolEvent ι} (hI : PoolInv (requestKey p signed) s)
    (h : PoolStep p workers signed s e s') (hu : NotPast (requestKey p signed) s e)
    (held : Holds (requestKey p signed) s e) : PoolInv (requestKey p signed) s' := by
  cases h with
  | work h => exact poolInv_work hI h hu held
  | other ha h => exact poolInv_other hI ha h hu

/-- Any number of calls share a request that the ledger has not seen. If no
clock reading reaches the row's expiry, and a call whose handler returned finds
its own token in the row when it finalizes, then at most one call returns a
signed result with status `COMPLETED`. -/
theorem at_most_one_completed (p : Platform) (workers : ι → Worker) (signed : Dict) {L₀ : Ledger}
    (h0 : L₀ (requestKey p signed) = none) {es : List (PoolEvent ι)} {s : Pool ι}
    (h : Run (Meeting (PoolStep p workers signed) fun s e =>
      NotPast (requestKey p signed) s e ∧ Holds (requestKey p signed) s e) ⟨L₀, fun _ => .fresh⟩ es s) {i j : ι}
    (hi : (s.phase i).completed) (hj : (s.phase j).completed) : i = j := by
  have hI : PoolInv (requestKey p signed) s := by
    refine h.inv (I := PoolInv (requestKey p signed)) ⟨fun i => keyed_of_none rfl, ?_⟩ fun s e s' hI hs => ?_
    · simp only [h0]
      exact ⟨fun _ => id, fun _ => id⟩
    · exact poolInv_step hI hs.1 hs.2.1 hs.2.2
  exact hI.2.unique hi hj

end

/-! ### Two calls of one worker share a request -/

namespace Sample

/-- A request's arguments, without an integrity key. -/
def sharedArgs (key fingerprint : Str) : BeginArgs := ⟨key, .finite 1000, "worker", .str [], fingerprint, none⟩

/-- The row after a begin by the holder of `token`. -/
def sharedRow (fingerprint : Str) (attempt : ℤ) (now : ℚ) (token : Str) : Row where
  kind := requestKind
  state := stateRunning
  attemptCount := attempt
  maxAttempts := maxRequestAttempts
  firstSeenAt := 1
  updatedAt := now
  expiresAt := (1000 : ℚ)
  ownerAgentId := some "worker"
  delegationId := some []
  payloadFingerprint := some fingerprint
  integrityMac := none
  lastError := none
  executionToken := some token

variable {key fingerprint : Str}

theorem worker_encodable : encodable "worker" = true := by decide

theorem shared_before {now : ℚ} (h : now < 1000) (attempt : ℤ) (at' : ℚ) (token : Str) :
    (now : Time) < (sharedRow fingerprint attempt at' token).expiresAt :=
  WithBot.coe_lt_coe.2 (WithTop.coe_lt_coe.2 h)

theorem shared_first (hk : key ≠ []) (hf : encodable fingerprint = true) :
    ∃ L', beginRequestExecution platform (.ok ()) 1 "a" (sharedArgs key fingerprint) Ledger.empty =
      .ok (⟨true, [], some "a"⟩, L') ∧ L' key = some (sharedRow fingerprint 1 1 "a") :=
  ⟨_, begin_first hk rfl (writeRecord_eq rfl rfl (bindText_str worker_encodable) rfl (bindText_str hf) rfl),
    Function.update_self ..⟩

theorem shared_again (hk : key ≠ []) (hf : encodable fingerprint = true) {L : Ledger}
    (hL : L key = some (sharedRow fingerprint 1 1 "a")) :
    ∃ L', beginRequestExecution platform (.ok ()) 301 "b" (sharedArgs key fingerprint) L =
      .ok (⟨true, [], some "b"⟩, L') ∧ L' key = some (sharedRow fingerprint 2 301 "b") := by
  have hp : L.purge 301 key = some (sharedRow fingerprint 1 1 "a") :=
    purge_some.2 ⟨hL, shared_before (by decide +kernel) 1 1 "a"⟩
  have hlapsed : ¬(stateRunning = stateCompleted ∨ stateRunning = stateFinalFailure ∨
      (stateRunning = stateRunning ∧ (301 : ℚ) - 1 < runningLeaseSeconds)) := by decide +kernel
  exact ⟨_, begin_again hk hp rfl hlapsed (by decide : (1 : ℤ) < 2)
    (writeRecord_eq rfl rfl (bindText_str worker_encodable) rfl (bindText_str hf) rfl), Function.update_self ..⟩

/-- The first holder's finalize is refused. -/
theorem shared_late {L : Ledger} (hL : L key = some (sharedRow fingerprint 2 301 "b")) :
    finalizeDelegationRequest platform (.ok ()) 302 key stateCompleted none none (some "a") L = .ok (false, L) := by
  have ht : tokenMismatch (sharedRow [] 2 301 "b") (some "a") = true := by decide +kernel
  exact finalize_mismatch hL rfl ht

/-- The holder's finalize records `COMPLETED`. -/
theorem shared_completes (now : ℚ) (hk : key ≠ []) (hf : encodable fingerprint = true) {L : Ledger} {attempt : ℤ} {at' : ℚ}
    {token : Str} (hL : L key = some (sharedRow fingerprint attempt at' token)) :
    ∃ L', finalizeDelegationRequest platform (.ok ()) now key stateCompleted none none (some token) L =
      .ok (true, L') := by
  have ht : tokenMismatch (sharedRow fingerprint attempt at' token) (some token) = false := by
    simp [tokenMismatch, sharedRow]
  exact ⟨_, finalize_match hk hL rfl ht (by simp [exhausted, stateCompleted, stateRetryableFailure])
    (writeRecord_eq rfl rfl (bindText_str worker_encodable) rfl (bindText_str hf) rfl)⟩

def sharedWorker : Worker where
  env
  agent := {
    identity := ⟨some (signerOf 5), "worker", [], [], none⟩
    policy := ⟨[(signer.agentId, [.str "PING"]), ("worker", [.str "PING"])], [(signer.agentId, [.str "worker"])]⟩
    handlers := ["PING"]
    integrity := ⟨none, none, ⟨.ok (), .ok []⟩⟩ }
  caller
  clock := circumstances.clock
  replyClock := circumstances.reply

/-- The request the calls share. -/
def shared : Dict := bound signer.agentId

def sharedKey : Str := requestKey platform shared

def sharedFingerprint : Str := platform.hashJson (.obj (receiptBody []))

def sharedReady : Ready := ⟨pingRequest signer.agentId .null, sharedArgs sharedKey sharedFingerprint⟩

theorem shared_expires : replayExpiresAt platform circumstances.clock.replayExpires (pingRequest [] .null) =
    .ok (.finite 1000) := by
  decide +kernel

theorem shared_prepared : sharedKey ≠ [] ∧
    prepare platform env sharedWorker.agent caller circumstances.clock shared =
      ([.policyEvaluated (.str signer.agentId) "worker" (.str "PING")], .ok sharedReady) := by
  obtain ⟨key, hv⟩ := request_valid signer.agentId .null (some (.obj (pingData signer.agentId .null))) (.inr rfl)
  have hr : receive platform env sharedWorker.agent caller circumstances.clock shared =
      .ok (pingRequest signer.agentId .null, key) :=
    receive_ok.2 ⟨fromActionRequest_ping .., unexpired_ping .., rfl, _, _, rfl, hv⟩
  obtain ⟨-, _, k, rfl, hacc⟩ := validateDelegationRequest_ok.1 hv
  have hkey : k = sharedKey := hacc.requestKey
  have ha : Adn.beginArgs platform env sharedWorker.agent circumstances.clock (pingRequest signer.agentId .null)
      (some k) = .ok (sharedArgs sharedKey sharedFingerprint) := by
    have he : replayExpiresAt platform circumstances.clock.replayExpires (pingRequest signer.agentId .null) = _ :=
      shared_expires
    rw [Adn.beginArgs, he, hkey]
    rfl
  refine ⟨hkey ▸ hacc.key_ne, ?_⟩
  rw [prepare, hr]
  exact Prod.ext rfl (authorize_ok.2 ⟨⟨_, rfl⟩, rfl, _, ha, rfl⟩)

theorem sharedFingerprint_encodable : encodable sharedFingerprint = true :=
  encodable_ascii (Hex.plain_hexLower _).ascii


theorem shared_advance_prepare {L : Ledger} :
    sharedWorker.advance platform shared .fresh .prepare L = (.ready sharedReady, L) := by
  have h : prepare platform sharedWorker.env sharedWorker.agent sharedWorker.caller sharedWorker.clock shared = _ :=
    shared_prepared.2
  simp only [Worker.advance, h]

theorem shared_advance_begin {L L' : Ledger} {now : ℚ} {token : Str}
    (h : beginRequestExecution platform (.ok ()) now token (sharedArgs sharedKey sharedFingerprint) L =
      .ok (⟨true, [], some token⟩, L')) :
    sharedWorker.advance platform shared (.ready sharedReady) (.begin (.ok ()) now token) L =
      (.running sharedReady token, L') := by
  have h : beginRequestExecution platform (.ok ()) now token sharedReady.args L = _ := h
  simp only [Worker.advance, h, afterBegin, ledgerAfter]

/-- What a call returns whose handler returned. -/
def sharedDone : Phase :=
  sharedWorker.finish platform (.ok ((Outcome.returned (.json .null)).result sharedWorker.agent sharedWorker.clock
    sharedReady.request))

theorem sharedDone_completed : sharedDone.completed := by
  obtain ⟨signed, hs⟩ : ∃ signed, DelegationResult.toActionRequest platform sharedWorker.env
      sharedWorker.replyClock.sign sharedWorker.agent.identity ((Outcome.returned (.json .null)).result
        sharedWorker.agent sharedWorker.clock sharedReady.request) = .ok signed :=
    toActionRequest_signed rfl rfl rfl
  simp only [sharedDone, Worker.finish, reply, hs]
  rfl

/-- Whatever `finalize` returns, the call returns its result. -/
theorem shared_advance_finalize {L L' : Ledger} {now : ℚ} {token : Str} {ok : Bool}
    (h : finalizeDelegationRequest platform (.ok ()) now sharedKey stateCompleted none none (some token) L =
      .ok (ok, L')) :
    sharedWorker.advance platform shared (.finalizing sharedReady token (.returned (.json .null)))
      (.finalize (.ok ()) now) L = (sharedDone, L') := by
  have h : finalizeDelegationRequest platform (.ok ()) now sharedReady.args.replayKey
      (Outcome.returned (.json .null)).finalState sharedReady.args.integritySecretHex
      (Outcome.returned (.json .null)).lastError (some token) L = _ := h
  simp only [Worker.advance, h, afterFinalize, ledgerAfter, sharedDone]

abbrev SharedStep (s : Pool Bool) (e : PoolEvent Bool) (s' : Pool Bool) : Prop :=
  PoolStep platform (fun _ => sharedWorker) shared s e s'

theorem shared_work {C : Pool Bool → PoolEvent Bool → Prop} {es : List (PoolEvent Bool)} {s : Pool Bool}
    (h : Run (Meeting SharedStep C) ⟨Ledger.empty, fun _ => .fresh⟩ es s) {i : Bool} {a : Action} {phase : Phase}
    {L' : Ledger} (hc : C s (.work i a))
    (ha : sharedWorker.advance platform shared (s.phase i) a s.ledger = (phase, L')) :
    Run (Meeting SharedStep C) ⟨Ledger.empty, fun _ => .fresh⟩ (es ++ [.work i a])
      ⟨L', Function.update s.phase i phase⟩ :=
  h.snoc ⟨.work ha, hc⟩

/-- Two calls, the second one past the lease of the first, and both return `COMPLETED`. -/
theorem two_completed : ∃ es s, Run (Meeting SharedStep (NotPast (requestKey platform shared)))
    ⟨Ledger.empty, fun _ => .fresh⟩ es s ∧ (s.phase true).completed ∧ (s.phase false).completed := by
  obtain ⟨hk, -⟩ := shared_prepared
  have hf := sharedFingerprint_encodable
  obtain ⟨L₁, b₁, h₁⟩ := shared_first hk hf
  obtain ⟨L₂, b₂, h₂⟩ := shared_again hk hf h₁
  obtain ⟨L₃, h₃⟩ := shared_completes 303 hk hf h₂
  have r := shared_work (C := NotPast (requestKey platform shared)) (i := true) (a := .prepare) .nil trivial
    shared_advance_prepare
  have r := shared_work (i := true) (a := .begin (.ok ()) 1 "a") r (fun row hr => nomatch hr)
    (shared_advance_begin b₁)
  have r := shared_work (i := false) (a := .prepare) r trivial shared_advance_prepare
  -- the second call begins past the lease
  have r := shared_work (i := false) (a := .begin (.ok ()) 301 "b") r
    (fun row hr => by
      cases h₁.symm.trans hr
      exact shared_before (by decide +kernel) 1 1 "a")
    (shared_advance_begin b₂)
  have r := shared_work (i := true) (a := .handled (.returned (.json .null))) r trivial rfl
  have r := shared_work (i := true) (a := .finalize (.ok ()) 302) r trivial (shared_advance_finalize (shared_late h₂))
  have r := shared_work (i := false) (a := .handled (.returned (.json .null))) r trivial rfl
  have r := shared_work (i := false) (a := .finalize (.ok ()) 303) r trivial (shared_advance_finalize h₃)
  exact ⟨_, _, r, sharedDone_completed, sharedDone_completed⟩

/-- One of them finalizes within its lease, and nobody else has completed. -/
theorem one_completed : ∃ es s, Run (Meeting SharedStep fun s e =>
    NotPast (requestKey platform shared) s e ∧ Holds (requestKey platform shared) s e)
      ⟨Ledger.empty, fun _ => .fresh⟩ es s ∧ (s.phase true).completed ∧ ∀ i, (s.phase i).completed → i = true := by
  obtain ⟨hk, -⟩ := shared_prepared
  have hf := sharedFingerprint_encodable
  obtain ⟨L₁, b₁, h₁⟩ := shared_first hk hf
  obtain ⟨L₂, h₂⟩ := shared_completes 2 hk hf h₁
  have r := shared_work (C := fun s e => NotPast (requestKey platform shared) s e ∧
    Holds (requestKey platform shared) s e) (i := true) (a := .prepare) .nil ⟨trivial, trivial⟩ shared_advance_prepare
  have r := shared_work (i := true) (a := .begin (.ok ()) 1 "a") r ⟨(fun row hr => nomatch hr), trivial⟩
    (shared_advance_begin b₁)
  have r := shared_work (i := true) (a := .handled (.returned (.json .null))) r ⟨trivial, trivial⟩ rfl
  have held : Holds (requestKey platform shared) ⟨L₁, fun _ => .finalizing sharedReady "a" (.returned (.json .null))⟩
      (.work true (.finalize (.ok ()) 2)) := by
    intro r token v hr
    cases hr
    exact ⟨_, h₁, rfl⟩
  have r := shared_work (i := true) (a := .finalize (.ok ()) 2) r ⟨trivial, held⟩ (shared_advance_finalize h₂)
  exact ⟨_, _, r, sharedDone_completed, fun i hi => at_most_one_completed _ _ _ rfl r hi sharedDone_completed⟩

end Sample

end Adn
