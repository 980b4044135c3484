import Adn.LedgerRuns
import Adn.Sample
/-!
# Attempts on one replay key

Workers begin on a key and, when allowed, finalize at most once with their own
token; they may crash at any point, and other keys see any traffic. While no
clock reading reaches the row's expiry, at most `maxRequestAttempts` begins are
allowed, and none once a finalize has recorded `COMPLETED`
(`attempts_capped`). A late finalize can still rewrite a row, so the invariant
`AttemptInv` counts the finalizes that are outstanding.
-/

open Lib

namespace Adn

/-- The ledger and the tokens whose holders have not called finalize. -/
structure Workers where
  ledger : Ledger
  outstanding : List Str

/-- The states `finalize_delegation_request_execution` passes on. -/
def WorkerState (state : Str) : Prop := state = stateCompleted ∨ state = stateRetryableFailure

/-- One step of the workers on `k`, or of anyone on another key. -/
inductive WorkerStep (p : Platform) (k : Str) : Workers → Event → Workers → Prop
  | begin {s : Workers} {now : ℚ} {token : Str} {a : BeginArgs} {r : BeginReply} {L' : Ledger} : a.replayKey = k →
      LedgerStep p s.ledger (.begin now token a r) L' →
      WorkerStep p k s (.begin now token a r) ⟨L', if r.allowed then token :: s.outstanding else s.outstanding⟩
  | heartbeat {s : Workers} {now : ℚ} {token : Option Str} {ok : Bool} {L' : Ledger} :
      LedgerStep p s.ledger (.heartbeat now k token ok) L' →
      WorkerStep p k s (.heartbeat now k token ok) ⟨L', s.outstanding⟩
  | finalize {s : Workers} {now : ℚ} {token state : Str} {ok : Bool} {L' : Ledger} : token ∈ s.outstanding →
      WorkerState state → LedgerStep p s.ledger (.finalize now k state (some token) ok) L' →
      WorkerStep p k s (.finalize now k state (some token) ok) ⟨L', s.outstanding.erase token⟩
  | gone {s : Workers} (token : Str) :
      -- the holder crashes, or its finalize raises
      WorkerStep p k s .raised ⟨s.ledger, s.outstanding.erase token⟩
  | elsewhere {s : Workers} {e : Event} {L' : Ledger} : e.key ≠ some k → LedgerStep p s.ledger e L' →
      WorkerStep p k s e ⟨L', s.outstanding⟩

/-- A begin on `k` that was allowed. -/
def AllowedBegin (k : Str) : Event → Bool
  | .begin _ _ a r => a.replayKey = k && r.allowed
  | _ => false

/-- A finalize on `k` that recorded `COMPLETED`. -/
def CompletedFinalize (k : Str) : Event → Bool
  | .finalize _ k' state _ ok => k' = k && state = stateCompleted && ok
  | _ => false

def allowedBegins (k : Str) (es : List Event) : ℕ := es.countP (AllowedBegin k)

theorem allowedBegins_snoc (k : Str) (es : List Event) (e : Event) :
    allowedBegins k (es ++ [e]) = allowedBegins k es + if AllowedBegin k e then 1 else 0 := by
  rw [allowedBegins, List.countP_append, List.countP_singleton]
  rfl

/-! ## The invariant -/

/-- A first attempt: its holder alone is outstanding while the row is running,
and nobody is once it has finalized. -/
def FirstAttempt (completed : Prop) (row : Row) (outstanding : List Str) : Prop :=
  (row.state = stateRunning ∧ ¬completed ∧ ∃ t, row.executionToken = some t ∧ (outstanding = [] ∨ outstanding = [t])) ∨
    (outstanding = [] ∧ (row.state = stateCompleted ∨ (row.state = stateRetryableFailure ∧ ¬completed)))

/-- What holds of the row under `k` after `begins` allowed begins. -/
def RowInv (begins : ℕ) (completed : Prop) (outstanding : List Str) : Option Row → Prop
  | none => begins = 0 ∧ ¬completed ∧ outstanding = []
  | some row => row.maxAttempts = maxRequestAttempts ∧ row.attemptCount = begins ∧
      (begins = 2 ∨ (begins = 1 ∧ FirstAttempt completed row outstanding))

def AttemptInv (k : Str) (es : List Event) (s : Workers) : Prop :=
  RowInv (allowedBegins k es) (∃ e ∈ es, CompletedFinalize k e = true) s.outstanding (s.ledger k)

/-! ## One operation on the key -/

section
variable {n : ℕ} {c : Prop} {outstanding : List Str} {k : Str} {L L' : Ledger} {now : ℚ}

theorem FirstAttempt.erase {row : Row} (h : FirstAttempt c row outstanding) (token : Str) :
    FirstAttempt c row (outstanding.erase token) := by
  rcases h with ⟨hs, hc, t, ht, rfl | rfl⟩ | ⟨rfl, h⟩
  · exact .inl ⟨hs, hc, t, ht, .inl rfl⟩
  · refine .inl ⟨hs, hc, t, ht, ?_⟩
    by_cases he : t = token <;> simp [he]
  · exact .inr ⟨rfl, h⟩

theorem rowInv_erase {r : Option Row} (h : RowInv n c outstanding r) (token : Str) :
    RowInv n c (outstanding.erase token) r := by
  cases r with
  | none => exact ⟨h.1, h.2.1, by rw [h.2.2]; rfl⟩
  | some row => exact ⟨h.1, h.2.1, h.2.2.imp_right fun h1 => ⟨h1.1, h1.2.erase token⟩⟩

/-- Once `COMPLETED` is recorded, a first attempt's row is `COMPLETED`. -/
theorem FirstAttempt.completed {row : Row} (h : FirstAttempt c row outstanding) (hc : c) :
    row.state = stateCompleted := by
  rcases h with ⟨-, hn, -⟩ | ⟨-, h | ⟨-, hn⟩⟩
  · exact absurd hc hn
  · exact h
  · exact absurd hc hn

theorem rowInv_begin {token : Str} {a : BeginArgs} {r : BeginReply} (h : BeginStep now token a L r L')
    (hu : ∀ row, L a.replayKey = some row → (now : Time) < row.expiresAt)
    (hI : RowInv n c outstanding (L a.replayKey)) :
    RowInv (n + if r.allowed then 1 else 0) c (if r.allowed then token :: outstanding else outstanding)
      (L' a.replayKey) ∧ (c → r.allowed = false) := by
  have hp := purge_of_current hu
  cases h with
  | keyMissing => exact ⟨hI, fun _ => rfl⟩
  | blocked => exact ⟨by rw [hp]; exact hI, fun _ => rfl⟩
  | first row hn hs =>
    rw [hp] at hn
    rw [hn] at hI
    obtain ⟨rfl, hc, rfl⟩ := hI
    rw [Function.update_self]
    exact ⟨⟨hs.maxAttempts, hs.attemptCount, .inr ⟨rfl, .inl ⟨hs.state, hc, token, hs.executionToken, .inr rfl⟩⟩⟩,
      fun hc' => absurd hc' hc⟩
  | exhausted row row' _ _ hr _ hle hs =>
    rw [hp] at hr
    rw [hr] at hI
    obtain ⟨hm, hn, h2⟩ := hI
    rw [Function.update_self]
    refine ⟨⟨hs.maxAttempts.trans hm, hs.attemptCount.trans hn, .inl ?_⟩, fun _ => rfl⟩
    rw [hm, hn, maxRequestAttempts] at hle
    simp only [refused, Bool.false_eq_true, if_false]
    omega
  | again row row' hr hb hlt hs =>
    rw [hp] at hr
    rw [hr] at hI
    obtain ⟨hm, hn, h2⟩ := hI
    rw [hm, hn, maxRequestAttempts] at hlt
    rw [Function.update_self]
    refine ⟨⟨hs.maxAttempts.trans hm, ?_, .inl ?_⟩, fun hc => ?_⟩
    · rw [hs.attemptCount, BeginArgs.again, hn]
      push_cast
      rfl
    · simp only [if_true]
      omega
    · rcases h2 with h2 | ⟨-, h1⟩
      · omega
      · exact absurd (.inl (h1.completed hc)) hb

theorem rowInv_heartbeat {token : Option Str} {ok : Bool} (h : HeartbeatStep now k token L ok L')
    (hI : RowInv n c outstanding (L k)) : RowInv n c outstanding (L' k) := by
  cases h with
  | refused => exact hI
  | renewed row row' hr hrun _ hs =>
    rw [hr] at hI
    obtain ⟨hm, hn, h2⟩ := hI
    rw [Function.update_self]
    refine ⟨hs.maxAttempts.trans hm, hs.attemptCount.trans hn, h2.imp_right fun h1 => ⟨h1.1, ?_⟩⟩
    rcases h1.2 with ⟨-, hc, t, ht, ho⟩ | ⟨-, hst | ⟨hst, -⟩⟩
    · exact .inl ⟨hs.state, hc, t, hs.executionToken.trans ht, ho⟩
    · rw [hrun] at hst
      exact absurd hst (by decide)
    · rw [hrun] at hst
      exact absurd hst (by decide)

theorem rowInv_finalize {token state : Str} {ok : Bool} (h : FinalizeStep now k state (some token) L ok L')
    (ht : token ∈ outstanding) (hw : WorkerState state) (hI : RowInv n c outstanding (L k)) :
    RowInv n (c ∨ (state = stateCompleted ∧ ok = true)) (outstanding.erase token) (L' k) := by
  cases h with
  | refused => simpa using rowInv_erase hI token
  | recorded row row' _ hr hmatch hs =>
    rw [hr] at hI
    obtain ⟨hm, hn, h2⟩ := hI
    rw [Function.update_self]
    refine ⟨hs.maxAttempts.trans hm, hs.attemptCount.trans hn, h2.imp_right fun h1 => ⟨h1.1, .inr ?_⟩⟩
    obtain ⟨rfl, h1⟩ := h1
    have hx : exhausted row state = false := by
      simp only [exhausted, hm, hn, maxRequestAttempts]
      simp
    have hst : row'.state = state := by
      rw [hs.state, Row.rewrite, finalStateOf, hx]
      rfl
    rcases h1 with ⟨-, hc, t, -, rfl | rfl⟩ | ⟨rfl, -⟩
    · cases ht
    · rw [List.mem_singleton.1 ht, List.erase_cons_head, hst]
      refine ⟨rfl, hw.imp_right fun hr => ⟨hr, ?_⟩⟩
      rintro (hc' | ⟨hc', -⟩)
      · exact hc hc'
      · rw [hc'] at hr
        exact absurd hr (by decide)
    · cases ht

end

/-! ## Runs -/

variable {p : Platform} {k : Str} {es : List Event} {s s' : Workers} {e : Event}

theorem completed_snoc (k : Str) (es : List Event) (e : Event) :
    (∃ e' ∈ es ++ [e], CompletedFinalize k e' = true) ↔
      (∃ e' ∈ es, CompletedFinalize k e' = true) ∨ CompletedFinalize k e = true := by
  simp [List.mem_append, or_and_right, exists_or]

/-- A step that is neither an allowed begin nor a completing finalize. -/
theorem inv_quiet (h1 : AllowedBegin k e = false) (h2 : CompletedFinalize k e = false) {r : Option Row}
    {outstanding : List Str}
    (h : RowInv (allowedBegins k es) (∃ e ∈ es, CompletedFinalize k e = true) outstanding r) :
    RowInv (allowedBegins k (es ++ [e])) (∃ e' ∈ es ++ [e], CompletedFinalize k e' = true) outstanding r := by
  rw [allowedBegins_snoc, completed_snoc, h1, h2]
  simpa using h

theorem quiet_elsewhere (h : e.key ≠ some k) : AllowedBegin k e = false ∧ CompletedFinalize k e = false := by
  cases e with
  | begin now token a r =>
    have hk : a.replayKey ≠ k := fun he => h (by rw [Event.key, he])
    simp [AllowedBegin, CompletedFinalize, hk]
  | finalize now k' state token ok =>
    have hk : k' ≠ k := fun he => h (by rw [Event.key, he])
    simp [AllowedBegin, CompletedFinalize, hk]
  | _ => exact ⟨rfl, rfl⟩

theorem attemptInv_step (hI : AttemptInv k es s) (h : WorkerStep p k s e s') (hu : Unpurged k s.ledger e) :
    AttemptInv k (es ++ [e]) s' := by
  cases h with
  | @begin now token a r L' hk hs =>
    subst hk
    cases hs with
    | begin hb =>
      have h := (rowInv_begin (begin_step hb) (fun row hr => hu now rfl row hr) hI).1
      unfold AttemptInv
      rw [allowedBegins_snoc, completed_snoc]
      simpa [AllowedBegin, CompletedFinalize] using h
  | heartbeat hs =>
    cases hs with
    | heartbeat hb => exact inv_quiet rfl rfl (rowInv_heartbeat (heartbeat_step hb) hI)
  | @finalize now token state ok L' ht hw hs =>
    cases hs with
    | finalize hb =>
      have h := rowInv_finalize (finalize_step hb) ht hw hI
      unfold AttemptInv
      rw [allowedBegins_snoc, completed_snoc]
      simpa [AllowedBegin, CompletedFinalize] using h
  | gone token => exact inv_quiet rfl rfl (rowInv_erase hI token)
  | elsewhere hk hs =>
    obtain ⟨h1, h2⟩ := quiet_elsewhere hk
    refine inv_quiet h1 h2 ?_
    simp only [row_elsewhere hs hk hu]
    exact hI

/-- Over the lifetime of the row under `k`: at most `maxRequestAttempts` begins
are allowed, `attempt_count` counts them and stays within `max_attempts`, and
after a finalize has recorded `COMPLETED` no begin is allowed. -/
theorem attempts_capped (p : Platform) {L₀ : Ledger} (h0 : L₀ k = none)
    (h : Run (Meeting (WorkerStep p k) fun s e => Unpurged k s.ledger e) ⟨L₀, []⟩ es s) :
    (allowedBegins k es : ℤ) ≤ maxRequestAttempts ∧
      (∀ row, s.ledger k = some row → row.attemptCount = allowedBegins k es ∧ row.attemptCount ≤ row.maxAttempts) ∧
      ((∃ e ∈ es, CompletedFinalize k e = true) → ∀ e s', WorkerStep p k s e s' → Unpurged k s.ledger e →
        AllowedBegin k e = false) := by
  have hI : AttemptInv k es s :=
    h.hist (I := AttemptInv k) (by simp [AttemptInv, RowInv, allowedBegins, h0])
      fun _ _ _ _ hI hs => attemptInv_step hI hs.1 hs.2
  refine ⟨?_, fun row hr => ?_, fun hc e s' hs hu => ?_⟩
  · unfold AttemptInv at hI
    cases hr : s.ledger k with
    | none =>
      rw [hr] at hI
      rw [hI.1]
      decide
    | some row =>
      rw [hr] at hI
      rw [maxRequestAttempts]
      have := hI.2.2
      omega
  · unfold AttemptInv at hI
    rw [hr] at hI
    obtain ⟨hm, hn, h2⟩ := hI
    refine ⟨hn, ?_⟩
    rw [hm, hn, maxRequestAttempts]
    omega
  · cases hs with
    | @begin now token a r L' hk hs =>
      subst hk
      cases hs with
      | begin hb =>
        have := (rowInv_begin (begin_step hb) (fun row hr => hu now rfl row hr) hI).2 hc
        simp [AllowedBegin, this]
    | elsewhere hk hs => exact (quiet_elsewhere hk).1
    | _ => rfl

/-- One attempt that completes. -/
theorem attempt_completes : ∃ es s, Run (WorkerStep Sample.platform "k") ⟨Ledger.empty, []⟩ es s ∧
    (∃ e ∈ es, CompletedFinalize "k" e = true) ∧ allowedBegins "k" es = 1 ∧
    (allowedBegins "k" es : ℤ) ≤ maxRequestAttempts := by
  let L₁ := ((Call.begin 0 "a" Sample.beginArgs).exec Sample.platform Ledger.empty).2
  let L₂ := ((Call.finalize 1 "k" stateCompleted none none (some "a")).exec Sample.platform L₁).2
  have hbegin : beginRequestExecution Sample.platform (.ok ()) 0 "a" Sample.beginArgs Ledger.empty =
      .ok (⟨true, [], some "a"⟩, L₁) := rfl
  have hfinalize : finalizeRequestExecution Sample.platform (.ok ()) 1 "k" stateCompleted none none (some "a") L₁ =
      .ok (true, L₂) := rfl
  have hb : WorkerStep Sample.platform "k" ⟨Ledger.empty, []⟩ (.begin 0 "a" Sample.beginArgs ⟨true, [], some "a"⟩)
      ⟨L₁, ["a"]⟩ := .begin rfl (.begin hbegin)
  have hf : WorkerStep Sample.platform "k" ⟨L₁, ["a"]⟩ (.finalize 1 "k" stateCompleted (some "a") true) ⟨L₂, []⟩ :=
    .finalize List.mem_cons_self (.inl rfl) (.finalize hfinalize)
  have hrun : Run (Meeting (WorkerStep Sample.platform "k") fun s e => Unpurged "k" s.ledger e) ⟨Ledger.empty, []⟩
      _ ⟨L₂, []⟩ := .snoc (.snoc .nil ⟨hb, fun _ _ _ hr => by cases hr⟩) ⟨hf, fun _ hn => by cases hn⟩
  exact ⟨_, _, .snoc (.snoc .nil hb) hf, by decide, by decide, (attempts_capped Sample.platform rfl hrun).1⟩

end Adn
