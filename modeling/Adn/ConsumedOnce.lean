import Adn.NonceAgreement
/-!
# A result is consumed once

Any number of verifier processes share one ledger, and each has a nonce cache of
its own. A restart empties the cache, and the row that records a consumption is
purged after `resultReplayTtlSeconds`. By then the gateway's receipt in the
result has expired, so no other call that is made in time can pass its checks
(`result_consumed_once`).
-/

open Lib

namespace Adn

/-! ## Verifier processes -/

/-- A call that has passed its checks. -/
structure CheckedCall (p : Platform) where
  call : VerifyCall
  resultData : Dict
  receipt : Dict
  checked : checkWorkerResult p call.env call.clock call.proof call.x = .ok (resultData, .obj receipt)

/-- What the call does to the cache of its process. -/
def CheckedCall.consumeNonce {p : Platform} (c : CheckedCall p) (cache : NonceCache) : Except PyErr Unit × NonceCache :=
  cache.consume c.call.clock.monotonic (c.resultData.get "nonce")

/-- What it then does to the ledger. -/
def CheckedCall.consumeReplay {p : Platform} (c : CheckedCall p) (L : Ledger) : Except PyErr Unit × Ledger :=
  Adn.consumeReplay p c.call.env c.call.cfg c.call.db c.call.clock.ledger c.call.proof c.resultData (.obj c.receipt)
    c.call.x L

/-- The caches, the calls between their two stores, the ledger and the wall clock. -/
structure Verifiers (p : Platform) (ι : Type) where
  cache : ι → NonceCache
  underWay : List (ι × CheckedCall p)
  ledger : Ledger
  wall : ℚ

inductive VerifiersEvent (ι : Type) where
  | rejected (i : ι) (c : VerifyCall) (e : PyErr)
  | admitted (i : ι) (c : VerifyCall)
  | settled (i : ι) (c : VerifyCall) (result : Except PyErr Dict)
  | restarted (i : ι)
  | traffic (e : Event)

/-- One step and the time after it. The checks read clocks only, so a call enters with the step on its nonce. -/
inductive VerifiersStep (p : Platform) {ι : Type} [DecidableEq ι] :
    Verifiers p ι → ℚ × VerifiersEvent ι → Verifiers p ι → Prop
  | unchecked {s : Verifiers p ι} {t : ℚ} {i : ι} {c : VerifyCall} {e : PyErr} :
      checkWorkerResult p c.env c.clock c.proof c.x = .error e →
      VerifiersStep p s (t, .rejected i c e) { s with wall := t }
  | refused {s : Verifiers p ι} {t : ℚ} {i : ι} {c : CheckedCall p} {e : PyErr} {cache : NonceCache} :
      c.consumeNonce (s.cache i) = (.error e, cache) →
      VerifiersStep p s (t, .rejected i c.call e) { s with cache := Function.update s.cache i cache, wall := t }
  | admitted {s : Verifiers p ι} {t : ℚ} {i : ι} {c : CheckedCall p} {cache : NonceCache} :
      c.consumeNonce (s.cache i) = (.ok (), cache) →
      VerifiersStep p s (t, .admitted i c.call)
        { s with cache := Function.update s.cache i cache, underWay := (i, c) :: s.underWay, wall := t }
  | settled {s : Verifiers p ι} {t : ℚ} {i : ι} {c : CheckedCall p} {before after : List (ι × CheckedCall p)}
      {out : Except PyErr Unit} {L : Ledger} : s.underWay = before ++ (i, c) :: after →
      c.consumeReplay s.ledger = (out, L) →
      VerifiersStep p s (t, .settled i c.call (out.map fun _ => c.resultData))
        { s with underWay := before ++ after, ledger := L, wall := t }
  | restarted {s : Verifiers p ι} {t : ℚ} {i : ι} :
      VerifiersStep p s (t, .restarted i)
        { s with cache := Function.update s.cache i .empty, underWay := s.underWay.filter (·.1 ≠ i), wall := t }
  | traffic {s : Verifiers p ι} {t : ℚ} {e : Event} {L : Ledger} : LedgerStep p s.ledger e L →
      VerifiersStep p s (t, .traffic e) { s with ledger := L, wall := t }

/-- A call that returned, with its result. -/
def VerifiersEvent.returned {ι : Type} : VerifiersEvent ι → Option (VerifyCall × Dict)
  | .settled _ c (.ok rd) => some (c, rd)
  | _ => none

/-! ## What is assumed of a step -/

/-- A call reads its clocks in order, and commits less than 600 seconds after the first reading. -/
structure VerifyCall.InTime (c : VerifyCall) (t : ℚ) : Prop where
  authorization : c.clock.proof ≤ c.clock.authorization
  gatewayProof : c.clock.authorization ≤ c.clock.gatewayProof
  ledger : c.clock.gatewayProof ≤ c.clock.ledger
  commits : c.clock.ledger ≤ t
  margin : t < c.clock.proof + 600

/-- The gateway's proof expires 300 seconds after its issue, and is not verified before. -/
def IssuedHonestly (p : Platform) (c : VerifyCall) : Prop :=
  ∀ (rd receipt gatewayProof : Dict) (text : Str) (expires : DateTime),
    checkWorkerResult p c.env c.clock c.proof c.x = .ok (rd, .obj receipt) →
    receipt.get "gateway_proof" = .obj gatewayProof → gatewayProof.get "expires_at" = .str text →
    p.fromisoformat text = some expires →
      ∃ issuedAt, expires.timestamp = issuedAt + proofTtlSeconds ∧ issuedAt ≤ c.clock.gatewayProof

/-- An operation on the row of a request. -/
def RequestTraffic (p : Platform) (e : Event) : Prop := ∀ k, e.key = some k →
  ∃ (signed : Dict) (request : DelegationRequest), replayKey p signed request = .ok k

/-- The wall clock does not go back, and no reading is ahead of it. -/
def OnTime (p : Platform) {ι : Type} (s : Verifiers p ι) : ℚ × VerifiersEvent ι → Prop
  | (t, .settled _ c _) => s.wall ≤ t ∧ c.InTime t ∧ IssuedHonestly p c
  | (t, .traffic e) => s.wall ≤ t ∧ RequestTraffic p e ∧ ∀ now, e.purges = some now → now ≤ t
  | (t, _) => s.wall ≤ t

/-- The same result, for the same coordinator and worker key. -/
structure SameResult (c : VerifyCall) (rd : Dict) (c' : VerifyCall) (rd' : Dict) : Prop where
  resultData : Json.Same (.obj rd) (.obj rd')
  coordinatorId : c.x.coordinatorId = c'.x.coordinatorId
  workerPubkeyHex : c.x.workerPubkeyHex = c'.x.workerPubkeyHex

/-- Not one result returned by two calls. -/
def NotTwice {ι : Type} (e e' : ℚ × VerifiersEvent ι) : Prop :=
  ∀ c rd c' rd', e.2.returned = some (c, rd) → e'.2.returned = some (c', rd') → ¬SameResult c rd c' rd'

/-! ## The row of a consumption -/

section
variable {p : Platform} {ι : Type} {s s' : Verifiers p ι} {t : ℚ}

/-- No request has the key of a result. -/
theorem requestKey_ne_resultKey (hsha : Function.Injective p.sha256) {signed : Dict} {request : DelegationRequest}
    {k : Str} (h : replayKey p signed request = .ok k) (rd receipt : Dict) (x : ExpectedResult) :
    k ≠ replayKeyOf p rd receipt x := by
  obtain ⟨r, -, rfl⟩ := replayKey_ok.1 h
  intro he
  obtain ⟨w, hw, -⟩ := (p.hashJson_inj hsha he).field (k := "request_hash") (List.mem_cons_of_mem _ List.mem_cons_self)
  simp [Dict.ofList, Text.ofString_inj] at hw

variable {L L' : Ledger} {k : Str} {row : Row} {now : ℚ}

/-- An operation on another key leaves a row in place until it is past. -/
theorem row_kept {e : Event} (h : LedgerStep p L e L') (hk : e.key ≠ some k) (hr : L k = some row)
    (hnow : ∀ now, e.purges = some now → now ≤ t) : L' k = some row ∨ row.expiresAt ≤ (t : Time) := by
  rcases step_other_row h hk hr with hr' | ⟨now, hn, hle, -⟩
  · exact .inl hr'
  · exact .inr (hle.trans (WithBot.coe_le_coe.2 (WithTop.coe_le_coe.2 (hnow now hn))))

/-- So does a consumption, on the row's own key too. -/
theorem consumeReplay_kept {env : Env} {cfg : IntegrityConfig} {db : Except PyErr Unit} {proof rd : Dict}
    {receipt : Json} {x : ExpectedResult} {out : Except PyErr Unit}
    (h : consumeReplay p env cfg db now proof rd receipt x L = (out, L')) (hr : L k = some row) (hnow : now ≤ t) :
    L' k = some row ∨ row.expiresAt ≤ (t : Time) := by
  have hpast : ¬(now : Time) < row.expiresAt → row.expiresAt ≤ (t : Time) := fun hlt =>
    (not_lt.1 hlt).trans (WithBot.coe_le_coe.2 (WithTop.coe_le_coe.2 hnow))
  have hcall : ∀ {args reply}, consumeResultReplay p db now args L = .ok (reply, L') →
      L' k = some row ∨ row.expiresAt ≤ (t : Time) := by
    intro args reply hc
    by_cases hk : args.replayKey = k
    · by_cases hlt : (now : Time) < row.expiresAt
      · cases consume_step hc with
        | unkeyed => exact .inl hr
        | present => exact .inl (purge_some.2 ⟨hr, hlt⟩)
        | consumed _ hn =>
          rw [hk, purge_some.2 ⟨hr, hlt⟩] at hn
          cases hn
      · exact .inr (hpast hlt)
    · refine row_kept (LedgerStep.consume hc) (fun he => hk (Option.some.inj he)) hr ?_
      rintro _ ⟨⟩
      exact hnow
  unfold consumeReplay at h
  split at h
  · cases h
    exact .inl hr
  split at h
  · cases h
    exact .inl hr
  · rename_i hc
    cases h
    exact hcall hc
  · rename_i hc
    cases h
    exact hcall hc

/-- The row of a consumption is there until it expires. -/
def Spent (k : Str) (expiresAt : ℚ) (s : Verifiers p ι) : Prop :=
  (∃ row, s.ledger k = some row ∧ row.expiresAt = (expiresAt : Time)) ∨ expiresAt ≤ s.wall

theorem OnTime.wall {e : VerifiersEvent ι} (h : OnTime p s (t, e)) : s.wall ≤ t := by
  cases e with
  | settled => exact h.1
  | traffic => exact h.1
  | _ => exact h

theorem OnTime.settled {e : VerifiersEvent ι} {c : VerifyCall} {rd : Dict} (hr : e.returned = some (c, rd))
    (h : OnTime p s (t, e)) : c.InTime t ∧ IssuedHonestly p c := by
  cases e with
  | settled i c' result =>
    cases result with
    | error e => cases hr
    | ok rd' =>
      obtain ⟨rfl, rfl⟩ := Prod.mk.inj (Option.some.inj hr)
      exact h.2
  | _ => cases hr

/-- A call returned this result and its row is there until it expires. -/
structure Consumed (p : Platform) (s : Verifiers p ι) (c : VerifyCall) (rd receipt : Dict) : Prop where
  checked : checkWorkerResult p c.env c.clock c.proof c.x = .ok (rd, .obj receipt)
  ordered : c.clock.gatewayProof ≤ c.clock.ledger
  honest : IssuedHonestly p c
  spent : Spent (replayKeyOf p rd receipt c.x) (c.clock.ledger + resultReplayTtlSeconds) s

/-! ## The receipt in the result -/

/-- The receipts of the same result are the same. -/
theorem same_receipt {c c' : VerifyCall} {rd rd' receipt receipt' : Dict} (h : Json.Same (.obj rd) (.obj rd'))
    (hc : checkWorkerResult p c.env c.clock c.proof c.x = .ok (rd, .obj receipt))
    (hc' : checkWorkerResult p c'.env c'.clock c'.proof c'.x = .ok (rd', .obj receipt')) :
    Json.Same (.obj receipt) (.obj receipt') := by
  obtain ⟨_, _, _, hr, -, hb⟩ := checkWorkerResult_ok.1 hc
  obtain ⟨_, _, _, hr', -, hb'⟩ := checkWorkerResult_ok.1 hc'
  have hs := h.get "tee_authorization"
  rwa [hb.present, hb'.present, ← hr, ← hr'] at hs

/-- The same result has the same key. -/
theorem same_key {c c' : VerifyCall} {rd rd' receipt receipt' : Dict} (h : SameResult c rd c' rd')
    (hr : Json.Same (.obj receipt) (.obj receipt')) :
    replayKeyOf p rd receipt c.x = replayKeyOf p rd' receipt' c'.x := by
  have hbody : p.hashJson (.obj (receiptBody receipt)) = p.hashJson (.obj (receiptBody receipt')) :=
    p.hashJson_congr (.of_fields
      (List.forall₂_map_left_iff.2 (List.forall₂_map_right_iff.2 (List.forall₂_same.2 fun k _ => ⟨rfl, hr.get k⟩))))
  rw [replayKeyOf, replayKeyOf, resultReplayKey, resultReplayKey, hbody, h.coordinatorId, h.workerPubkeyHex]
  refine p.hashJson_congr (.of_fields ?_)
  exact .cons ⟨rfl, rfl⟩ (.cons ⟨rfl, rfl⟩ (.cons ⟨rfl, h.resultData.get _⟩ (.cons ⟨rfl, h.resultData.get _⟩
    (.cons ⟨rfl, rfl⟩ .nil))))

/-- A call that verifies the same result and commits in time does so before the row expires: the gateway's proof in
the result expires first. -/
theorem expired_together {c c' : VerifyCall} {rd rd' receipt receipt' : Dict} (hc : Consumed p s c rd receipt)
    (hsame : Json.Same (.obj rd) (.obj rd'))
    (hcheck : checkWorkerResult p c'.env c'.clock c'.proof c'.x = .ok (rd', .obj receipt')) (hin : c'.InTime t) :
    t < c.clock.ledger + resultReplayTtlSeconds := by
  obtain ⟨_, _, gp, hr, -, hb⟩ := checkWorkerResult_ok.1 hc.checked
  obtain ⟨_, _, gp', hr', -, hb'⟩ := checkWorkerResult_ok.1 hcheck
  obtain rfl := Json.obj.inj hr
  obtain rfl := Json.obj.inj hr'
  -- both calls verified one gateway proof, with one expiry
  have hproof := (same_receipt hsame hc.checked hcheck).get "gateway_proof"
  rw [hb.proven.present, hb'.proven.present] at hproof
  have hexpiry := hproof.get "expires_at"
  obtain ⟨_, hv⟩ := hb.proven.verified
  obtain ⟨_, hv'⟩ := hb'.proven.verified
  obtain ⟨text, d, htext, hd, -⟩ := (verifyActionRequest_ok.1 hv).1.unexpired
  obtain ⟨text', d', htext', hd', hle⟩ := (verifyActionRequest_ok.1 hv').1.unexpired
  rw [htext, htext'] at hexpiry
  obtain rfl : text = text' := Json.str.inj hexpiry
  obtain rfl : d = d' := Option.some.inj (hd.symm.trans hd')
  obtain ⟨issuedAt, hissued, hbefore⟩ := hc.honest rd receipt gp text d hc.checked hb.proven.present htext hd
  have := hc.ordered
  have := hin.authorization
  have := hin.gatewayProof
  have := hin.margin
  rw [hissued] at hle
  simp only [proofTtlSeconds, resultReplayTtlSeconds] at *
  linarith

/-! ## A call by itself -/

variable [DecidableEq ι]

theorem CheckedCall.run_refused {c : CheckedCall p} {cache cache' : NonceCache} {L : Ledger} {e : PyErr}
    (hn : c.consumeNonce cache = (.error e, cache')) : c.call.run p ⟨cache, L⟩ = (.error e, ⟨cache', L⟩) :=
  Adn.run_refused c.checked hn

theorem CheckedCall.run_admitted {c : CheckedCall p} {cache cache' : NonceCache} {L L' : Ledger}
    {out : Except PyErr Unit} (hn : c.consumeNonce cache = (.ok (), cache')) (hl : c.consumeReplay L = (out, L')) :
    c.call.run p ⟨cache, L⟩ = (out.map fun _ => c.resultData, ⟨cache', L'⟩) := by
  rw [consumeNonce] at hn
  rw [consumeReplay] at hl
  simp only [VerifyCall.run, verifyWorkerResult, c.checked, hn, hl]
  cases out <;> rfl

/-- Undisturbed, the steps of a call do what `verify_worker_result` does. -/
theorem call_run (s : Verifiers p ι) (i : ι) (c : VerifyCall) (t : ℚ) : ∃ es s' result,
    Run (VerifiersStep p) s es s' ∧ c.run p ⟨s.cache i, s.ledger⟩ = (result, ⟨s'.cache i, s'.ledger⟩) ∧
    ∀ rd, (∃ e ∈ es, e.2.returned = some (c, rd)) ↔ result = .ok rd := by
  cases hcheck : checkWorkerResult p c.env c.clock c.proof c.x with
  | error e =>
    refine ⟨[(t, .rejected i c e)], _, .error e, .snoc .nil (.unchecked hcheck), ?_, fun rd => ?_⟩
    · simp only [VerifyCall.run, verifyWorkerResult, hcheck]
    · simp [VerifiersEvent.returned]
  | ok checked =>
    obtain ⟨rd, receipt⟩ := checked
    obtain ⟨receipt, -, -, rfl, -⟩ := checkWorkerResult_ok.1 hcheck
    obtain ⟨c, rfl, rfl⟩ : ∃ c' : CheckedCall p, c'.call = c ∧ c'.resultData = rd :=
      ⟨⟨c, rd, receipt, hcheck⟩, rfl, rfl⟩
    rcases hn : c.consumeNonce (s.cache i) with ⟨e | _, cache⟩
    · refine ⟨[(t, .rejected i c.call e)], _, .error e, .snoc .nil (.refused hn), ?_, fun rd => ?_⟩
      · rw [CheckedCall.run_refused hn]
        simp only [Function.update_self]
      · simp [VerifiersEvent.returned]
    · rcases hl : c.consumeReplay s.ledger with ⟨out, L⟩
      have hfirst := VerifiersStep.admitted (t := t) hn
      have hsecond := VerifiersStep.settled (s := { s with
        cache := Function.update s.cache i cache, underWay := (i, c) :: s.underWay, wall := t }) (t := t)
        (List.nil_append ((i, c) :: s.underWay)).symm hl
      refine ⟨_, _, out.map fun _ => c.resultData, .snoc (.snoc .nil hfirst) hsecond, ?_, fun rd => ?_⟩
      · rw [CheckedCall.run_admitted hn hl]
        simp only [Function.update_self]
      · cases out <;> simp [VerifiersEvent.returned, Except.map]

/-! ## No second consumption -/

/-- A call that returned committed to the ledger. -/
theorem returned_step {e : VerifiersEvent ι} (h : VerifiersStep p s (t, e) s') {c : VerifyCall} {rd : Dict}
    (hr : e.returned = some (c, rd)) : ∃ receipt,
      checkWorkerResult p c.env c.clock c.proof c.x = .ok (rd, .obj receipt) ∧
      consumeReplay p c.env c.cfg c.db c.clock.ledger c.proof rd (.obj receipt) c.x s.ledger = (.ok (), s'.ledger) := by
  cases h with
  | @settled _ _ c' _ _ out _ _ hl =>
    cases out with
    | error e => cases hr
    | ok u =>
      obtain ⟨rfl, rfl⟩ := Prod.mk.inj (Option.some.inj hr)
      exact ⟨c'.receipt, c'.checked, hl⟩
  | _ => cases hr

theorem step_wall {e : VerifiersEvent ι} (h : VerifiersStep p s (t, e) s') : s'.wall = t := by
  cases h <;> rfl

theorem spent_step (hsha : Function.Injective p.sha256) {rd receipt : Dict} {x : ExpectedResult} {expiresAt : ℚ}
    {e : VerifiersEvent ι} (h : VerifiersStep p s (t, e) s') (ht : OnTime p s (t, e))
    (hs : Spent (replayKeyOf p rd receipt x) expiresAt s) : Spent (replayKeyOf p rd receipt x) expiresAt s' := by
  rcases hs with ⟨row, hr, hexpires⟩ | hpast
  · have hkept : s'.ledger (replayKeyOf p rd receipt x) = some row ∨ row.expiresAt ≤ (t : Time) := by
      cases h with
      | settled _ hl => exact consumeReplay_kept hl hr ht.2.1.commits
      | traffic hl =>
        refine row_kept hl (fun hkey => ?_) hr ht.2.2
        obtain ⟨signed, request, hreq⟩ := ht.2.1 _ hkey
        exact requestKey_ne_resultKey hsha hreq rd receipt x rfl
      | _ => exact .inl hr
    rcases hkept with hr' | hle
    · exact .inl ⟨row, hr', hexpires⟩
    · rw [hexpires] at hle
      exact .inr (step_wall h ▸ WithTop.coe_le_coe.1 (WithBot.coe_le_coe.1 hle))
  · exact .inr (hpast.trans (step_wall h ▸ ht.wall))

theorem consumed_step (hsha : Function.Injective p.sha256) {e : VerifiersEvent ι} (h : VerifiersStep p s (t, e) s')
    (ht : OnTime p s (t, e)) {c : VerifyCall} {rd receipt : Dict} (hc : Consumed p s c rd receipt) :
    Consumed p s' c rd receipt :=
  ⟨hc.checked, hc.ordered, hc.honest, spent_step hsha h ht hc.spent⟩

/-- A call that returns writes its row. -/
theorem consumed_new {e : VerifiersEvent ι} (h : VerifiersStep p s (t, e) s') (ht : OnTime p s (t, e)) {c : VerifyCall}
    {rd : Dict} (hr : e.returned = some (c, rd)) : ∃ receipt, Consumed p s' c rd receipt := by
  obtain ⟨receipt, hcheck, hl⟩ := returned_step h hr
  obtain ⟨hin, hhonest⟩ := ht.settled hr
  obtain ⟨row, hL, hexpires⟩ := consumeReplay_result hl
  refine ⟨receipt, hcheck, hin.ledger, hhonest, .inl ⟨row, ?_, hexpires⟩⟩
  rw [hL, Function.update_self]

/-- No call returns what another has returned. -/
theorem not_returned_again {e : VerifiersEvent ι} (h : VerifiersStep p s (t, e) s') (ht : OnTime p s (t, e))
    {c c' : VerifyCall} {rd rd' receipt : Dict} (hc : Consumed p s c rd receipt) (hr : e.returned = some (c', rd')) :
    ¬SameResult c rd c' rd' := by
  intro hsame
  obtain ⟨receipt', hcheck, hl⟩ := returned_step h hr
  obtain ⟨hin, -⟩ := ht.settled hr
  have hlt := expired_together hc hsame.resultData hcheck hin
  rcases hc.spent with ⟨row, hrow, hexpires⟩ | hpast
  · -- the row is still there and would have refused the call
    have hunseen := (consumeReplay_iff.1 ⟨_, hl⟩).unseen
    have hcurrent : (c'.clock.ledger : Time) < row.expiresAt := by
      rw [hexpires]
      exact WithBot.coe_lt_coe.2 (WithTop.coe_lt_coe.2 (hin.commits.trans_lt hlt))
    rw [← replayKeyOf, ← same_key hsame (same_receipt hsame.resultData hc.checked hcheck),
      purge_some.2 ⟨hrow, hcurrent⟩] at hunseen
    cases hunseen
  · exact absurd (hpast.trans ht.wall) (not_le.2 hlt)

/-- What has been returned so far, each result once. -/
structure ConsumedInv (p : Platform) (es : List (ℚ × VerifiersEvent ι)) (s : Verifiers p ι) : Prop where
  consumed : ∀ e ∈ es, ∀ c rd, e.2.returned = some (c, rd) → ∃ receipt, Consumed p s c rd receipt
  once : es.Pairwise NotTwice

theorem consumedInv_step (hsha : Function.Injective p.sha256) {es : List (ℚ × VerifiersEvent ι)}
    {e : ℚ × VerifiersEvent ι} (hI : ConsumedInv p es s) (h : VerifiersStep p s e s') (ht : OnTime p s e) :
    ConsumedInv p (es ++ [e]) s' := by
  refine ⟨fun e' he' c rd hr => ?_, List.pairwise_append.2 ⟨hI.once, List.pairwise_singleton _ _, ?_⟩⟩
  · rcases List.mem_append.1 he' with he' | he'
    · obtain ⟨receipt, hc⟩ := hI.consumed e' he' c rd hr
      exact ⟨receipt, consumed_step hsha h ht hc⟩
    · obtain rfl := List.mem_singleton.1 he'
      exact consumed_new h ht hr
  · intro e' he' e'' he'' c rd c' rd' hr hr'
    obtain rfl := List.mem_singleton.1 he''
    obtain ⟨receipt, hc⟩ := hI.consumed e' he' c rd hr
    exact not_returned_again h ht hc hr'

/-- In every run of any number of verifier processes that share a ledger, at most one call returns a result for a
coordinator and a worker key. -/
theorem result_consumed_once (hsha : Function.Injective p.sha256) {s₀ : Verifiers p ι}
    {es : List (ℚ × VerifiersEvent ι)} (h : Run (Meeting (VerifiersStep p) (OnTime p)) s₀ es s) :
    es.Pairwise NotTwice := by
  have hI : ConsumedInv p es s := by
    refine h.hist ⟨by simp, .nil⟩ ?_
    rintro es s e s' hI ⟨hst, ht⟩
    exact consumedInv_step hsha hI hst ht
  exact hI.once

end

/-! ### A result verified again after a restart -/

namespace Sample

/-- The call that verifies the ping's result, past its checks. -/
def pingCall : CheckedCall platform := ⟨keyedCall, resultData, answerReceipt, result_checked⟩

/-- Verifier processes that have just started, with an empty ledger. -/
def freshVerifiers : Verifiers platform ℕ := ⟨fun _ => .empty, [], .empty, 0⟩

theorem ping_in_time : keyedCall.InTime 1 := by
  constructor <;> norm_num [keyedCall, keylessCall, resultClock]

theorem ping_honest : IssuedHonestly platform keyedCall := by
  intro rd receipt gatewayProof text expires hcheck hproof htext hexpires
  obtain ⟨-, hreceipt⟩ := Prod.mk.inj (Except.ok.inj (result_checked.symm.trans hcheck))
  obtain rfl := Json.obj.inj hreceipt
  rw [answerReceipt, receiptFor, Signer.get_receipt_rest (by simp [receiptKeys])] at hproof
  obtain rfl := Json.obj.inj (show Json.obj _ = Json.obj gatewayProof by simpa [Dict.get, Dict.getD] using hproof)
  obtain rfl : platform.isoformat (0 + proofTtlSeconds) = text := by
    simpa [Dict.get, Dict.getD, Signer.get?_envelope, Signer.get?_payload] using htext
  obtain rfl := Option.some.inj (expires_late.symm.trans hexpires)
  exact ⟨0, by norm_num [DateTime.timestamp, proofTtlSeconds], by norm_num [keyedCall, keylessCall, resultClock]⟩

/-- One process verifies the result, restarts, and verifies it again. -/
theorem restarted_run : ∃ out s, Run (Meeting (VerifiersStep platform) (OnTime platform)) freshVerifiers
    [(1, .admitted 0 keyedCall), (1, .settled 0 keyedCall (.ok resultData)), (1, .restarted 0),
      (1, .admitted 0 keyedCall), (1, .settled 0 keyedCall out)] s := by
  obtain ⟨cache, hn⟩ := nonce_consumed
  obtain ⟨ledger, hl⟩ := result_consumed
  rcases hl' : pingCall.consumeReplay ledger with ⟨out, ledger'⟩
  let used := Function.update freshVerifiers.cache 0 cache
  let emptied := Function.update used 0 .empty
  let reused := Function.update emptied 0 cache
  have hempty : pingCall.consumeNonce (emptied 0) = (.ok (), cache) := by
    rw [show emptied 0 = .empty from Function.update_self _ _ _]
    exact hn
  have h1 : VerifiersStep platform freshVerifiers (1, .admitted 0 keyedCall) ⟨used, [(0, pingCall)], .empty, 1⟩ :=
    .admitted (c := pingCall) hn
  have hfirst : pingCall.consumeReplay Ledger.empty = (.ok (), ledger) := hl
  have h2 := VerifiersStep.settled (s := ⟨used, [(0, pingCall)], .empty, 1⟩) (t := 1)
    (List.nil_append [(0, pingCall)]).symm hfirst
  have h3 : VerifiersStep platform ⟨used, [], ledger, 1⟩ (1, .restarted 0) ⟨emptied, [], ledger, 1⟩ := .restarted
  have h4 : VerifiersStep platform ⟨emptied, [], ledger, 1⟩ (1, .admitted 0 keyedCall)
      ⟨reused, [(0, pingCall)], ledger, 1⟩ := .admitted (c := pingCall) hempty
  have h5 := VerifiersStep.settled (s := ⟨reused, [(0, pingCall)], ledger, 1⟩) (t := 1)
    (List.nil_append [(0, pingCall)]).symm hl'
  refine ⟨out.map fun _ => resultData, _,
    .cons ⟨h1, ?_⟩ (.cons ⟨h2, ?_⟩ (.cons ⟨h3, ?_⟩ (.cons ⟨h4, ?_⟩ (.cons ⟨h5, ?_⟩ .nil))))⟩
  · exact (zero_le_one : (0 : ℚ) ≤ 1)
  · exact ⟨le_refl _, ping_in_time, ping_honest⟩
  · exact le_refl (1 : ℚ)
  · exact le_refl (1 : ℚ)
  · exact ⟨le_refl _, ping_in_time, ping_honest⟩

/-- The second time it is not returned. -/
theorem not_returned_after_restart : ∃ out s, Run (Meeting (VerifiersStep platform) (OnTime platform)) freshVerifiers
    [(1, .admitted 0 keyedCall), (1, .settled 0 keyedCall (.ok resultData)), (1, .restarted 0),
      (1, .admitted 0 keyedCall), (1, .settled 0 keyedCall out)] s ∧ out ≠ .ok resultData := by
  obtain ⟨out, s, h⟩ := restarted_run
  refine ⟨out, s, h, ?_⟩
  rintro rfl
  have hpair := result_consumed_once sha256_injective h
  simp only [List.pairwise_cons, List.mem_cons, List.not_mem_nil, or_false, forall_eq_or_imp, forall_eq] at hpair
  exact hpair.2.1.2.2 _ _ _ _ rfl rfl ⟨.refl _, rfl, rfl⟩

end Sample

end Adn
