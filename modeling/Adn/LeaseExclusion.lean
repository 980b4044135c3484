import Adn.Fencing
/-!
# Lease exclusion

A begin takes a running row over only once its lease has run out. Every call
reads its clock before it takes the database lock, so that the calls of
different holders commit in any order of their readings; what the row's
`updated_at` rests on is that the calls of one holder are made one after the
other (`Sequential`). Then it is no earlier than any reading that was accepted
for the row's token (`leaseInv_step`).
-/

open Lib

namespace Adn

/-! ## Holders -/

/-- The token a call is made with: the one a begin draws, or the one its caller holds. -/
def Event.holder : Event → Option Str
  | .begin _ token _ _ => some token
  | .heartbeat _ _ token _ => token
  | .finalize _ _ _ token _ => token
  | _ => none

def Event.reading : Event → Option ℚ
  | .begin now _ _ _ => some now
  | .heartbeat now _ _ _ => some now
  | .finalize now _ _ _ _ => some now
  | .consume now _ _ => some now
  | .raised => none

/-- Each holder's own calls have nondecreasing readings. -/
def Sequential (es : List Event) : Prop :=
  es.Pairwise fun e f => ∀ t, e.holder = some t → f.holder = some t →
    ∀ now ∈ e.reading, ∀ now' ∈ f.reading, now ≤ now'

/-- No begin draws the empty text: `secrets.token_hex(16)` has 32 digits. -/
def Drawn (es : List Event) : Prop := ∀ now token a r, Event.begin now token a r ∈ es → token ≠ []

/-- The reading of a begin or a heartbeat on `k` that was accepted for the token `t`. -/
def acceptedAt (k t : Str) : Event → Option ℚ
  | .begin now token a r => if a.replayKey = k ∧ token = t ∧ r.allowed = true then some now else none
  | .heartbeat now k' token ok => if k' = k ∧ token = some t ∧ ok = true then some now else none
  | _ => none

variable {p : Platform} {es : List Event} {L L' : Ledger} {e : Event} {k t : Str} {now reading : ℚ} {row : Row}

theorem acceptedAt_some (h : acceptedAt k t e = some now) :
    e.key = some k ∧ e.holder = some t ∧ e.reading = some now := by
  cases e with
  | begin now' token a r =>
    simp only [acceptedAt, Option.ite_none_right_eq_some, Option.some.injEq] at h
    obtain ⟨⟨rfl, rfl, -⟩, rfl⟩ := h
    exact ⟨rfl, rfl, rfl⟩
  | heartbeat now' k' token ok =>
    simp only [acceptedAt, Option.ite_none_right_eq_some, Option.some.injEq] at h
    obtain ⟨⟨rfl, rfl, -⟩, rfl⟩ := h
    exact ⟨rfl, rfl, rfl⟩
  | _ => cases h

/-! ## The invariant -/

/-- A begin issued the token, and no accepted reading is later than the row's last one. -/
structure Leased (es : List Event) (k t : Str) (row : Row) : Prop where
  token_ne : t ≠ []
  issued : ∃ now a r, Event.begin now t a r ∈ es ∧ a.replayKey = k ∧ r.allowed = true
  latest : ∀ e ∈ es, ∀ reading, acceptedAt k t e = some reading → reading ≤ row.updatedAt

/-- Every row that carries a token is leased to its holder. -/
def LeaseInv (es : List Event) (L : Ledger) : Prop :=
  ∀ k row t, L k = some row → row.executionToken = some t → Leased es k t row

/-- A call that is not accepted for the token leaves the lease as it is. -/
theorem Leased.keep (h : Leased es k t row) (hn : acceptedAt k t e = none) : Leased (es ++ [e]) k t row where
  token_ne := h.token_ne
  issued := by
    obtain ⟨now, a, r, hm, hkey⟩ := h.issued
    exact ⟨now, a, r, List.mem_append_left _ hm, hkey⟩
  latest := by
    intro f hf reading hr
    rcases List.mem_append.mp hf with hf | hf
    · exact h.latest f hf reading hr
    · rw [List.mem_singleton.mp hf, hn] at hr
      cases hr

/-- The holder's new call has the latest of its readings. -/
theorem accepted_le (hs : Sequential (es ++ [e])) (ht : e.holder = some t) (hnow : e.reading = some now) :
    ∀ f ∈ es ++ [e], ∀ reading, acceptedAt k t f = some reading → reading ≤ now := by
  intro f hf reading hr
  obtain ⟨-, hholder, hreading⟩ := acceptedAt_some hr
  rcases List.mem_append.mp hf with hf | hf
  · exact (List.pairwise_append.mp hs).2.2 f hf e (List.mem_singleton_self e) t hholder ht reading hreading now hnow
  · rw [List.mem_singleton.mp hf, hnow] at hreading
    exact le_of_eq (Option.some.inj hreading).symm

/-- An allowed begin leases the row it writes. -/
theorem leased_begin {token : Str} {a : BeginArgs} {r : BeginReply} (hd : Drawn (es ++ [.begin now token a r]))
    (hs : Sequential (es ++ [.begin now token a r])) (hr : r.allowed = true) (hu : row.updatedAt = now) :
    Leased (es ++ [.begin now token a r]) a.replayKey token row where
  token_ne := hd now token a r (by simp)
  issued := ⟨now, a, r, by simp, rfl, hr⟩
  latest := by
    rw [hu]
    exact accepted_le hs rfl rfl

theorem leaseInv_empty : LeaseInv [] Ledger.empty := by
  intro k row t hr
  cases hr

theorem leaseInv_step (hI : LeaseInv es L) (hd : Drawn (es ++ [e])) (hs : Sequential (es ++ [e]))
    (h : LedgerStep p L e L') : LeaseInv (es ++ [e]) L' := by
  intro k row t hr ht
  by_cases hk : e.key = some k
  · cases h with
    | begin hb =>
      obtain rfl := Option.some.inj hk
      cases begin_step hb with
      | keyMissing => exact (hI _ row t hr ht).keep (by simp [acceptedAt, refused])
      | blocked => exact (hI _ row t (purge_some.1 hr).1 ht).keep (by simp [acceptedAt, refused])
      | first row' _ hw =>
        rw [Function.update_self] at hr
        obtain rfl := Option.some.inj hr
        obtain rfl := Option.some.inj (hw.executionToken.symm.trans ht)
        exact leased_begin hd hs rfl hw.updatedAt
      | exhausted row₁ row' _ _ _ _ _ hw =>
        rw [Function.update_self] at hr
        obtain rfl := Option.some.inj hr
        cases hw.executionToken.symm.trans ht
      | again row₁ row' _ _ _ hw =>
        rw [Function.update_self] at hr
        obtain rfl := Option.some.inj hr
        obtain rfl := Option.some.inj (hw.executionToken.symm.trans ht)
        exact leased_begin hd hs rfl hw.updatedAt
    | heartbeat hb =>
      obtain rfl := Option.some.inj hk
      cases heartbeat_step hb with
      | refused => exact (hI _ row t hr ht).keep (by simp [acceptedAt])
      | renewed row₁ row' hr₁ _ hm hw =>
        rw [Function.update_self] at hr
        obtain rfl := Option.some.inj hr
        have hrow : row₁.executionToken = some t := hw.executionToken.symm.trans ht
        have hlease := hI _ row₁ t hr₁ hrow
        -- only the holder of the row's token renews it
        have htoken := (token_of_match ⟨t, hrow, hlease.token_ne⟩ hm).trans hrow
        obtain ⟨now₀, a, r, hmem, hkey⟩ := hlease.issued
        refine ⟨hlease.token_ne, ⟨now₀, a, r, List.mem_append_left _ hmem, hkey⟩, ?_⟩
        rw [hw.updatedAt]
        exact accepted_le hs htoken rfl
    | finalize hb =>
      obtain rfl := Option.some.inj hk
      cases finalize_step hb with
      | refused => exact (hI _ row t hr ht).keep rfl
      | recorded row₁ row' _ _ _ hw =>
        rw [Function.update_self] at hr
        obtain rfl := Option.some.inj hr
        cases hw.executionToken.symm.trans ht
    | consume hb =>
      obtain rfl := Option.some.inj hk
      cases consume_step hb with
      | unkeyed => exact (hI _ row t hr ht).keep rfl
      | present => exact (hI _ row t (purge_some.1 hr).1 ht).keep rfl
      | consumed row' _ hw =>
        rw [Function.update_self] at hr
        obtain rfl := Option.some.inj hr
        cases hw.executionToken.symm.trans ht
    | raised => cases hk
  · -- a row of another key is one that was there before
    have hr' : L k = some row := by
      rcases step_other h hk with heq | ⟨now, -, heq⟩
      · exact heq.symm.trans hr
      · exact (purge_some.1 (heq.symm.trans hr)).1
    refine (hI k row t hr' ht).keep ?_
    cases ha : acceptedAt k t e with
    | none => rfl
    | some now => exact absurd (acceptedAt_some ha).1 hk

theorem leaseInv_run (h : Run (LedgerStep p) Ledger.empty es L) (hd : Drawn es) (hs : Sequential es) : LeaseInv es L := by
  revert hd hs
  refine h.hist (I := fun es L => Drawn es → Sequential es → LeaseInv es L) (fun _ _ => leaseInv_empty) ?_
  intro es L e L' ih hst hd hs
  refine leaseInv_step (ih ?_ (List.pairwise_append.mp hs).1) hd hs hst
  intro now token a r hm
  exact hd now token a r (List.mem_append_left _ hm)

/-! ## Takeover -/

/-- A begin that takes a running row over reads its clock a lease or more after the begin that issued the row's token,
and after every heartbeat accepted for it. -/
theorem lease_exclusion (p : Platform) (hrun : Run (LedgerStep p) Ledger.empty es L) (hd : Drawn es) (hs : Sequential es)
    {token : Str} {a : BeginArgs} {r : BeginReply} (hb : LedgerStep p L (.begin now token a r) L') (hr : r.allowed = true)
    (hrow : L.purge now a.replayKey = some row) (hrunning : row.state = stateRunning) (ht : row.executionToken = some t) :
    (∃ issued b s, Event.begin issued t b s ∈ es ∧ b.replayKey = a.replayKey ∧ s.allowed = true ∧
        issued + runningLeaseSeconds ≤ now) ∧
      ∀ e ∈ es, ∀ reading, acceptedAt a.replayKey t e = some reading → reading + runningLeaseSeconds ≤ now := by
  have hlease := leaseInv_run hrun hd hs _ row t (purge_some.1 hrow).1 ht
  have hnot : ¬Blocks now row := by
    cases hb with
    | begin hb =>
      cases begin_step hb with
      | keyMissing => cases hr
      | blocked => cases hr
      | first _ hn =>
        rw [hn] at hrow
        cases hrow
      | exhausted => cases hr
      | again row₁ _ h₁ hn =>
        obtain rfl := Option.some.inj (h₁.symm.trans hrow)
        exact hn
  have hlapsed : row.updatedAt + runningLeaseSeconds ≤ now := by
    by_contra hlt
    exact hnot (.inr (.inr ⟨hrunning, by linarith⟩))
  have hall : ∀ e ∈ es, ∀ reading, acceptedAt a.replayKey t e = some reading → reading + runningLeaseSeconds ≤ now := by
    intro e he reading hreading
    have := hlease.latest e he reading hreading
    linarith
  obtain ⟨issued, b, s, hmem, hkey, hallowed⟩ := hlease.issued
  refine ⟨⟨issued, b, s, hmem, hkey, hallowed, hall _ hmem issued ?_⟩, hall⟩
  simp [acceptedAt, hkey, hallowed]

/-- `a` begins and renews its lease once. -/
def Sample.renewedLease : List Event × Ledger :=
  execAll Sample.platform Ledger.empty [.begin 0 "a" Sample.beginArgs, .heartbeat 100 "k" none (some "a")]

theorem Sample.renewedLease_events : Sample.renewedLease.1 =
    [.begin 0 "a" Sample.beginArgs ⟨true, [], some "a"⟩, .heartbeat 100 "k" (some "a") true] := by
  rfl

/-- `b` begins when that has lapsed. -/
theorem Sample.lapsed_begin : ∃ r L', r.allowed = true ∧
    LedgerStep Sample.platform Sample.renewedLease.2 (.begin 400 "b" Sample.beginArgs r) L' := by
  have hallowed : ((beginRequestExecution Sample.platform (.ok ()) 400 "b" Sample.beginArgs
      Sample.renewedLease.2).toOption.map fun x => x.1.allowed) = some true := by
    decide +kernel
  cases hb : beginRequestExecution Sample.platform (.ok ()) 400 "b" Sample.beginArgs Sample.renewedLease.2 with
  | error e =>
    rw [hb] at hallowed
    cases hallowed
  | ok x =>
    rw [hb] at hallowed
    exact ⟨x.1, x.2, Option.some.inj hallowed, .begin hb⟩

theorem lapsed_begin_late : (∃ r L', r.allowed = true ∧
      LedgerStep Sample.platform Sample.renewedLease.2 (.begin 400 "b" Sample.beginArgs r) L') ∧
    ∀ e ∈ Sample.renewedLease.1, ∀ reading, acceptedAt "k" "a" e = some reading → reading + runningLeaseSeconds ≤ 400 := by
  obtain ⟨r, L', hr, hstep⟩ := Sample.lapsed_begin
  obtain ⟨row, hrow⟩ : ∃ row, Sample.renewedLease.2.purge 400 "k" = some row := ⟨_, rfl⟩
  have hfields : row.state = stateRunning ∧ row.executionToken = some "a" := by
    obtain rfl := Option.some.inj (hrow.symm.trans rfl)
    exact ⟨rfl, rfl⟩
  refine ⟨⟨r, L', hr, hstep⟩,
    (lease_exclusion Sample.platform (execAll_run _ _ _) ?_ ?_ hstep hr hrow hfields.1 hfields.2).2⟩
  · rw [← Sample.renewedLease, Sample.renewedLease_events]
    intro now token a r hm
    simp only [List.mem_cons, Event.begin.injEq, List.not_mem_nil, or_false, reduceCtorEq] at hm
    obtain ⟨-, rfl, -⟩ := hm
    decide
  · rw [← Sample.renewedLease, Sample.renewedLease_events]
    simp [Sequential, Event.holder, Event.reading]

end Adn
