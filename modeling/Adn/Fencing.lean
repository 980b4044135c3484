import Adn.LedgerRuns
import Adn.Sample
/-!
# Fencing by execution tokens

A begin gives its row a token, and only the holder of the latest token may renew
or finalize the row. `finalize` erases the token and checks it only while it is
there, so a late finalize rewrites a row that is already final
(`late_finalize_rewrites`). As long as every call finds the token still in place,
rows are fenced and final states are absorbing (`fenced_of_token_kept`).
-/

open Lib

namespace Adn

def HasToken (row : Row) : Prop := ∃ t ∈ row.executionToken, t ≠ []

instance (row : Row) : Decidable (HasToken row) := by unfold HasToken; infer_instance

/-- A state no operation should leave. -/
def Terminal (state : Str) : Prop := state = stateCompleted ∨ state = stateFinalFailure

/-- The row a heartbeat or a finalize is about still carries its token. -/
def TokenKept (L : Ledger) : Event → Prop
  | .heartbeat _ k _ _ => ∀ row ∈ L k, row.state = stateRunning → HasToken row
  | .finalize _ k _ _ _ => ∀ row ∈ L k, HasToken row
  | _ => True

instance (L : Ledger) : (e : Event) → Decidable (TokenKept L e)
  | .begin .. => inferInstanceAs (Decidable True)
  | .heartbeat _ k _ _ => inferInstanceAs (Decidable (∀ row ∈ L k, row.state = stateRunning → HasToken row))
  | .finalize _ k _ _ _ => inferInstanceAs (Decidable (∀ row ∈ L k, HasToken row))
  | .consume .. => inferInstanceAs (Decidable True)
  | .raised => inferInstanceAs (Decidable True)

/-- A heartbeat or a finalize with a token other than that of the latest allowed begin. -/
def Stale (es : List Event) : Event → Prop
  | .heartbeat _ k token _ => token ≠ latestToken es k
  | .finalize _ k _ token _ => token ≠ latestToken es k
  | _ => False

instance (es : List Event) : (e : Event) → Decidable (Stale es e)
  | .begin .. => inferInstanceAs (Decidable False)
  | .heartbeat _ k token _ => inferInstanceAs (Decidable (token ≠ latestToken es k))
  | .finalize _ k _ token _ => inferInstanceAs (Decidable (token ≠ latestToken es k))
  | .consume .. => inferInstanceAs (Decidable False)
  | .raised => inferInstanceAs (Decidable False)

/-- A heartbeat or a finalize that returned `True`, on key `k` with token `token`. -/
def Succeeded (k : Str) (token : Option Str) : Event → Prop
  | .heartbeat _ k' token' ok => k' = k ∧ token' = token ∧ ok = true
  | .finalize _ k' _ token' ok => k' = k ∧ token' = token ∧ ok = true
  | _ => False

instance (k : Str) (token : Option Str) : (e : Event) → Decidable (Succeeded k token e)
  | .begin .. => inferInstanceAs (Decidable False)
  | .heartbeat _ k' token' ok => inferInstanceAs (Decidable (k' = k ∧ token' = token ∧ ok = true))
  | .finalize _ k' _ token' ok => inferInstanceAs (Decidable (k' = k ∧ token' = token ∧ ok = true))
  | .consume .. => inferInstanceAs (Decidable False)
  | .raised => inferInstanceAs (Decidable False)

/-- What fencing promises of one step, after the operations `es`. -/
structure Fenced (es : List Event) (L : Ledger) (e : Event) (L' : Ledger) : Prop where
  holder : ∀ k token, Succeeded k token e →
    (∃ row, L k = some row ∧ row.state = stateRunning) ∧ token = latestToken es k
  absorbing : ∀ k row, L k = some row → Terminal row.state →
    L' k = some row ∨ ∃ now, e.purges = some now ∧ row.expiresAt ≤ now
  stale : Stale es e → L' = L

/-! ## The invariant -/

/-- A row with a token is running, and the token is the latest allowed begin's. -/
def TokenInv (es : List Event) (L : Ledger) : Prop :=
  ∀ k row, L k = some row → HasToken row → row.state = stateRunning ∧ row.executionToken = latestToken es k

variable {p : Platform} {es : List Event} {L L' : Ledger} {e : Event}

theorem not_terminal_running : ¬Terminal stateRunning := by
  unfold Terminal stateRunning stateCompleted stateFinalFailure
  simp

theorem TokenInv.of_purge (h : TokenInv es L) (now : ℚ) : TokenInv es (L.purge now) :=
  fun k row hr ht => h k row (purge_some.1 hr).1 ht

/-- Rewriting one row keeps the invariant if the new row meets it and no other
key has a new begin. -/
theorem TokenInv.update {es' : List Event} (h : TokenInv es L) {k : Str} {row : Row}
    (hk : ∀ k', k' ≠ k → latestToken es' k' = latestToken es k')
    (hr : HasToken row → row.state = stateRunning ∧ row.executionToken = latestToken es' k) :
    TokenInv es' (Function.update L k (some row)) := by
  intro k' row' hr' ht
  by_cases hkk : k' = k
  · subst hkk
    rw [Function.update_self] at hr'
    cases hr'
    exact hr ht
  · rw [Function.update_of_ne hkk] at hr'
    obtain ⟨h1, h2⟩ := h k' row' hr' ht
    exact ⟨h1, h2.trans (hk k' hkk).symm⟩

theorem TokenInv.congr {es' : List Event} (h : TokenInv es L) (hk : ∀ k, latestToken es' k = latestToken es k) :
    TokenInv es' L :=
  fun k row hr ht => ⟨(h k row hr ht).1, (h k row hr ht).2.trans (hk k).symm⟩

theorem tokenInv_empty : TokenInv [] Ledger.empty := by
  intro k row hr
  cases hr

theorem not_hasToken {row : Row} (h : row.executionToken = none) : ¬HasToken row := by
  rintro ⟨t, ht, -⟩
  rw [h] at ht
  cases ht

/-- Every operation keeps the invariant. -/
theorem tokenInv_step (hI : TokenInv es L) (h : LedgerStep p L e L') : TokenInv (es ++ [e]) L' := by
  cases h with
  | @begin db now token a _ _ r hb =>
    have hother : ∀ k', k' ≠ a.replayKey → latestToken (es ++ [.begin now token a r]) k' = latestToken es k' := by
      intro k' hk'
      rw [latestToken_snoc, noteBegin, if_neg fun hc => hk' hc.1.symm]
    have hsame : r.allowed = false → ∀ k', latestToken (es ++ [.begin now token a r]) k' = latestToken es k' := by
      intro hr k'
      rw [latestToken_snoc, noteBegin, if_neg fun hc => by rw [hr] at hc; exact absurd hc.2 (by decide)]
    cases begin_step hb with
    | keyMissing => exact hI.congr (hsame rfl)
    | blocked => exact (hI.of_purge now).congr (hsame rfl)
    | first row _ hs =>
      refine (hI.of_purge now).update hother fun _ => ⟨hs.state, ?_⟩
      rw [hs.executionToken, latestToken_snoc, noteBegin, if_pos ⟨rfl, rfl⟩]
      rfl
    | exhausted row row' _ _ _ _ _ hs =>
      exact (hI.of_purge now).update hother fun ht => absurd ht (not_hasToken hs.executionToken)
    | again row row' _ _ _ hs =>
      refine (hI.of_purge now).update hother fun _ => ⟨hs.state, ?_⟩
      rw [hs.executionToken, latestToken_snoc, noteBegin, if_pos ⟨rfl, rfl⟩]
      rfl
  | @heartbeat db now k secret token _ _ b hb =>
    have hsame : ∀ k', latestToken (es ++ [.heartbeat now k token b]) k' = latestToken es k' := fun k' => by
      rw [latestToken_snoc]
      rfl
    cases heartbeat_step hb with
    | refused => exact hI.congr hsame
    | renewed row row' hr hrun _ hs =>
      refine hI.update (fun k' _ => hsame k') fun ht => ⟨hs.state, ?_⟩
      have ht' : HasToken row := by
        obtain ⟨t, h1, h2⟩ := ht
        exact ⟨t, hs.executionToken.symm.trans h1, h2⟩
      rw [hs.executionToken, hsame]
      exact (hI k row hr ht').2
  | @finalize db now k finalState secret lastError token _ _ b hb =>
    have hsame : ∀ k', latestToken (es ++ [.finalize now k finalState token b]) k' = latestToken es k' := fun k' => by
      rw [latestToken_snoc]
      rfl
    cases finalize_step hb with
    | refused => exact hI.congr hsame
    | recorded row row' _ _ _ hs =>
      exact hI.update (fun k' _ => hsame k') fun ht => absurd ht (not_hasToken hs.executionToken)
  | @consume db now a _ _ r hb =>
    have hsame : ∀ k', latestToken (es ++ [.consume now a r]) k' = latestToken es k' := fun k' => by
      rw [latestToken_snoc]
      rfl
    cases consume_step hb with
    | unkeyed => exact hI.congr hsame
    | present => exact (hI.of_purge now).congr hsame
    | consumed row _ hs =>
      exact (hI.of_purge now).update (fun k' _ => hsame k') fun ht => absurd ht (not_hasToken hs.executionToken)
  | raised => exact hI.congr fun k' => by rw [latestToken_snoc]; rfl

/-! ## Fencing -/

/-- A token that passes the check on a row that carries one is the row's. -/
theorem token_of_match {row : Row} {token : Option Str} (ht : HasToken row) (hm : tokenMismatch row token = false) :
    token = row.executionToken := by
  obtain ⟨t, h1, h2⟩ := ht
  unfold tokenMismatch at hm
  rw [h1] at hm ⊢
  simp only [ne_eq, Bool.and_eq_false_imp, decide_eq_true_eq, decide_eq_false_iff_not, not_not] at hm
  exact (hm h2).symm

/-- A begin leaves a terminal row as it is, unless it is past. -/
theorem begin_terminal {p : Platform} {db : Except PyErr Unit} {now : ℚ} {token : Str} {a : BeginArgs} {r : BeginReply}
    (h : beginRequestExecution p db now token a L = .ok (r, L')) {row : Row} (hr : L a.replayKey = some row)
    (ht : Terminal row.state) : L' a.replayKey = some row ∨ row.expiresAt ≤ now := by
  by_cases hlt : (now : Time) < row.expiresAt
  · left
    have hp : L.purge now a.replayKey = some row := purge_some.2 ⟨hr, hlt⟩
    have hb : Blocks now row := ht.imp_right .inl
    cases begin_step h with
    | keyMissing => exact hr
    | blocked => exact hp
    | first row' hn => rw [hp] at hn; cases hn
    | exhausted row₁ _ _ _ h1 hnb => rw [hp] at h1; cases h1; exact absurd hb hnb
    | again row₁ _ h1 hnb => rw [hp] at h1; cases h1; exact absurd hb hnb
  · exact .inr (not_lt.1 hlt)

/-- While every call finds the row's token in place, each step is fenced. -/
theorem fenced_step (hI : TokenInv es L) (h : LedgerStep p L e L') (hc : TokenKept L e) : Fenced es L e L' := by
  have hother : ∀ k row, e.key ≠ some k → L k = some row →
      L' k = some row ∨ ∃ now, e.purges = some now ∧ row.expiresAt ≤ now := by
    intro k row hk hr
    exact (step_other_row h hk hr).imp_right fun ⟨now, hn, hle, _⟩ => ⟨now, hn, hle⟩
  cases h with
  | @begin db now token a _ _ r hb =>
    refine ⟨fun _ _ hs => hs.elim, fun k row hr ht => ?_, fun hs => hs.elim⟩
    by_cases hk : k = a.replayKey
    · subst hk
      exact (begin_terminal hb hr ht).imp_right fun hle => ⟨now, rfl, hle⟩
    · exact hother k row (fun he => hk (Option.some.inj he).symm) hr
  | @heartbeat db now k₀ secret token _ _ b hb =>
    cases heartbeat_step hb with
    | refused =>
      refine ⟨?_, fun k row hr _ => .inl hr, fun _ => rfl⟩
      rintro k token' ⟨-, -, hf⟩
      cases hf
    | renewed row row' hr hrun hm hs =>
      have htok := hc row hr hrun
      have hlatest : token = latestToken es k₀ := (token_of_match htok hm).trans (hI k₀ row hr htok).2
      refine ⟨?_, fun k row₁ hr₁ ht => ?_, fun hst => absurd hlatest hst⟩
      · rintro k token' ⟨rfl, rfl, -⟩
        exact ⟨⟨row, hr, hrun⟩, hlatest⟩
      · by_cases hk : k = k₀
        · subst hk
          rw [hr] at hr₁
          cases hr₁
          rw [hrun] at ht
          exact absurd ht not_terminal_running
        · exact hother k row₁ (fun he => hk (Option.some.inj he).symm) hr₁
  | @finalize db now k₀ finalState secret lastError token _ _ b hb =>
    cases finalize_step hb with
    | refused =>
      refine ⟨?_, fun k row hr _ => .inl hr, fun _ => rfl⟩
      rintro k token' ⟨-, -, hf⟩
      cases hf
    | recorded row row' le hr hm hs =>
      have htok := hc row hr
      obtain ⟨hrun, hl⟩ := hI k₀ row hr htok
      have hlatest : token = latestToken es k₀ := (token_of_match htok hm).trans hl
      refine ⟨?_, fun k row₁ hr₁ ht => ?_, fun hst => absurd hlatest hst⟩
      · rintro k token' ⟨rfl, rfl, -⟩
        exact ⟨⟨row, hr, hrun⟩, hlatest⟩
      · by_cases hk : k = k₀
        · subst hk
          rw [hr] at hr₁
          cases hr₁
          rw [hrun] at ht
          exact absurd ht not_terminal_running
        · exact hother k row₁ (fun he => hk (Option.some.inj he).symm) hr₁
  | @consume db now a _ _ r hb =>
    refine ⟨fun _ _ hs => hs.elim, fun k row hr _ => ?_, fun hs => hs.elim⟩
    by_cases hk : k = a.replayKey
    · subst hk
      by_cases hlt : (now : Time) < row.expiresAt
      · have hp : L.purge now a.replayKey = some row := purge_some.2 ⟨hr, hlt⟩
        left
        cases consume_step hb with
        | unkeyed => exact hr
        | present => exact hp
        | consumed _ hn => rw [hp] at hn; cases hn
      · exact .inr ⟨now, rfl, not_lt.1 hlt⟩
    · exact hother k row (fun he => hk (Option.some.inj he).symm) hr
  | raised => exact ⟨fun _ _ hs => hs.elim, fun k row hr _ => .inl hr, fun hs => hs.elim⟩

/-! ## Over runs -/

/-- The operations of a run in which every call finds its row's token in place. -/
abbrev KeptStep (p : Platform) : Ledger → Event → Ledger → Prop := Meeting (LedgerStep p) TokenKept

theorem tokenInv_run (h : Run (KeptStep p) Ledger.empty es L) : TokenInv es L :=
  h.hist tokenInv_empty fun _ _ _ _ hI hs => tokenInv_step hI hs.1

/-- No reading an operation purges with reaches `t`. -/
def Before (t : Time) (es : List Event) : Prop := ∀ e ∈ es, ∀ now, e.purges = some now → (now : Time) < t

/-- A terminal row stays as it is until a clock reading reaches its expiry. -/
theorem terminal_stays {es' : List Event} {k : Str} {row : Row} (h : Run (KeptStep p) Ledger.empty es L)
    (hr : L k = some row) (ht : Terminal row.state) (h' : Run (KeptStep p) L es' L') :
    Before row.expiresAt es' → L' k = some row ∧ TokenInv (es ++ es') L' := by
  induction h' with
  | nil => exact fun _ => ⟨hr, by simpa using tokenInv_run h⟩
  | @snoc ls s s' l hrun hst ih =>
    intro hb
    obtain ⟨hs, hI⟩ := ih fun e he => hb e (List.mem_append_left _ he)
    refine ⟨?_, by rw [← List.append_assoc]; exact tokenInv_step hI hst.1⟩
    rcases (fenced_step hI hst.1 hst.2).absorbing k row hs ht with hl | ⟨now, hn, hle⟩
    · exact hl
    · exact absurd hle (not_le.2 (hb l (by simp) now hn))

/-- In every run whose heartbeats and finalizes find their row's token in place,
each step is fenced, and a row that is `COMPLETED` or `FINAL_FAILURE` does not
change until a clock reading reaches its expiry. -/
theorem fenced_of_token_kept (p : Platform) {es : List Event} {L : Ledger}
    (h : Run (KeptStep p) Ledger.empty es L) :
    (∀ e L', KeptStep p L e L' → Fenced es L e L') ∧
      ∀ k row, L k = some row → Terminal row.state → ∀ es' L', Run (KeptStep p) L es' L' →
        Before row.expiresAt es' → L' k = some row :=
  ⟨fun _ _ hs => fenced_step (tokenInv_run h) hs.1 hs.2,
    fun _ _ hr ht _ _ h' hb => (terminal_stays h hr ht h' hb).1⟩

/-- A begin and its own finalize. -/
def Sample.completed : List Event × Ledger :=
  execAll Sample.platform Ledger.empty
    [.begin 0 "a" Sample.beginArgs, .finalize 1 "k" stateCompleted none none (some "a")]

/-- A second begin after that. -/
def Sample.secondBegin : Event × Ledger :=
  (Call.begin 2 "b" Sample.beginArgs).exec Sample.platform Sample.completed.2

theorem second_begin_fenced :
    Fenced Sample.completed.1 Sample.completed.2 Sample.secondBegin.1 Sample.secondBegin.2 ∧
      (Sample.completed.2 "k").map Row.state = some stateCompleted ∧
      Sample.secondBegin.2 "k" = Sample.completed.2 "k" := by
  have hrun : Run (KeptStep Sample.platform) Ledger.empty Sample.completed.1 Sample.completed.2 :=
    .cons ⟨exec_step _ _ _, by decide +kernel⟩ (.cons ⟨exec_step _ _ _, by decide +kernel⟩ .nil)
  exact ⟨(fenced_of_token_kept Sample.platform hrun).1 _ _ ⟨exec_step _ _ _, by decide +kernel⟩,
    by decide +kernel, by decide +kernel⟩

/-- `a` begins, `b` takes the lapsed lease over and completes. -/
def Sample.takeover : List Event × Ledger :=
  execAll Sample.platform Ledger.empty [.begin 0 "a" Sample.beginArgs, .begin 300 "b" Sample.beginArgs,
    .finalize 301 "k" stateCompleted none none (some "b")]

/-- `a` reports a failure after that. -/
def Sample.lateFinalize : Event × Ledger :=
  (Call.finalize 302 "k" stateRetryableFailure none none (some "a")).exec Sample.platform Sample.takeover.2

/-- The holder of a lapsed lease rewrites what its successor recorded. -/
theorem late_finalize_rewrites :
    Run (LedgerStep Sample.platform) Ledger.empty Sample.takeover.1 Sample.takeover.2 ∧
      LedgerStep Sample.platform Sample.takeover.2 Sample.lateFinalize.1 Sample.lateFinalize.2 ∧
      Stale Sample.takeover.1 Sample.lateFinalize.1 ∧ Succeeded "k" (some "a") Sample.lateFinalize.1 ∧
      (Sample.takeover.2 "k").map Row.state = some stateCompleted ∧
      (Sample.lateFinalize.2 "k").map Row.state = some stateFinalFailure ∧
      ¬Fenced Sample.takeover.1 Sample.takeover.2 Sample.lateFinalize.1 Sample.lateFinalize.2 := by
  have hstale : Stale Sample.takeover.1 Sample.lateFinalize.1 := by decide +kernel
  have hok : Succeeded "k" (some "a") Sample.lateFinalize.1 := by decide +kernel
  have hstate : (Sample.takeover.2 "k").map Row.state = some stateCompleted := by decide +kernel
  have hstate' : (Sample.lateFinalize.2 "k").map Row.state = some stateFinalFailure := by decide +kernel
  refine ⟨execAll_run _ _ _, exec_step _ _ _, hstale, hok, hstate, hstate', fun hf => ?_⟩
  have h := hf.stale hstale
  rw [h, hstate] at hstate'
  exact absurd hstate' (by decide)

end Adn
