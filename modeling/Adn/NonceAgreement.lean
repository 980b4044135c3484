import Adn.ResultAtomicity
import Adn.LedgerTransactions
/-!
# The nonce cache in front of the ledger

The cache is keyed by the nonce, which the worker chooses; the ledger by worker
key, coordinator, delegation, nonce and receipt. A worker that reuses another's
nonce has its valid result refused by the cache (`shared_nonce_refused`). The
two stores agree as long as each nonce the cache holds was consumed for the key
it is offered for again, and every nonce that is consumed gets its row
(`cache_agrees_with_ledger`).
-/

open Lib

namespace Adn

/-! ## Runs of one process -/

/-- The key of a result that has passed its checks. -/
def replayKeyOf (p : Platform) (rd receipt : Dict) (x : ExpectedResult) : Str :=
  resultReplayKey p rd (p.hashJson (.obj (receiptBody receipt))) x

/-- A verifier process and the ledger, with the key each nonce was last consumed for and the latest reading. -/
structure Verifier where
  state : VerifierState
  consumer : Element → Option Str
  reading : ℚ

/-- The consumers after one more call. -/
def Verifier.note (p : Platform) (v : Verifier) (c : VerifyCall) : Element → Option Str :=
  match checkWorkerResult p c.env c.clock c.proof c.x with
  | .ok (rd, .obj receipt) =>
    match (v.state.cache.consume c.clock.monotonic (rd.get "nonce")).1 with
    | .ok () => Function.update v.consumer (element (rd.get "nonce")) (some (replayKeyOf p rd receipt c.x))
    | .error _ => v.consumer
  | _ => v.consumer

inductive VerifierEvent where
  | verify (c : VerifyCall) (result : Except PyErr Dict)
  | elsewhere (e : Event)

/-- A call in this process, or what any process does to the ledger. -/
inductive VerifierStep (p : Platform) : Verifier → VerifierEvent → Verifier → Prop
  | verify {v : Verifier} {c : VerifyCall} {result : Except PyErr Dict} {s : VerifierState} :
      c.run p v.state = (result, s) → VerifierStep p v (.verify c result) ⟨s, v.note p c, c.clock.monotonic⟩
  | elsewhere {v : Verifier} {e : Event} {L : Ledger} : LedgerStep p v.state.ledger e L →
      VerifierStep p v (.elsewhere e) { v with state := ⟨v.state.cache, L⟩ }

/-- No row has expired at a reading. -/
def NothingExpired (L : Ledger) (now : ℚ) : Prop := ∀ k row, L k = some row → (now : Time) < row.expiresAt

/-- The clock does not go back, and no row expires. -/
def Undisturbed (v : Verifier) : VerifierEvent → Prop
  | .verify c _ => v.reading ≤ c.clock.monotonic ∧ NothingExpired v.state.ledger c.clock.ledger
  | .elsewhere e => ∀ now, e.purges = some now → NothingExpired v.state.ledger now

/-- A result that passes the checks has a nonce; if the cache holds it, it was consumed for the same key, and if not, the
ledger takes the result or has it already. -/
structure Keyed (p : Platform) (v : Verifier) (c : VerifyCall) (rd receipt : Dict) : Prop where
  truthy : (rd.get "nonce").truthy = true
  hashable : hashable (rd.get "nonce") = true
  consumer : (v.state.cache.prune c.clock.monotonic).contains (rd.get "nonce") = true →
    v.consumer (element (rd.get "nonce")) = some (replayKeyOf p rd receipt c.x)
  ledger : (v.state.cache.prune c.clock.monotonic).contains (rd.get "nonce") = false →
    LedgerAdmits p c.env c.cfg c.db c.clock.ledger c.proof rd receipt c.x v.state.ledger ∨
      ∃ row, v.state.ledger (replayKeyOf p rd receipt c.x) = some row

/-- A step of a run with a steady clock, no expiry, and every checked result keyed. -/
def SoundStep (p : Platform) (v : Verifier) (e : VerifierEvent) : Prop :=
  Undisturbed v e ∧ ∀ c result, e = .verify c result → ∀ rd receipt,
    checkWorkerResult p c.env c.clock c.proof c.x = .ok (rd, .obj receipt) → Keyed p v c rd receipt

/-- A result that passes the checks is refused by the cache only if the ledger has its row, and would refuse it too. -/
def Agrees (p : Platform) (v : Verifier) (c : VerifyCall) : Prop :=
  ∀ rd receipt, checkWorkerResult p c.env c.clock c.proof c.x = .ok (rd, .obj receipt) →
    ∀ e cache, v.state.cache.consume c.clock.monotonic (rd.get "nonce") = (.error e, cache) →
      (∃ row, v.state.ledger (replayKeyOf p rd receipt c.x) = some row) ∧
        ∀ L', consumeReplay p c.env c.cfg c.db c.clock.ledger c.proof rd (.obj receipt) c.x v.state.ledger ≠ (.ok (), L')

/-! ## The invariant -/

/-- Every nonce in the cache was consumed for a key whose row is in the ledger. -/
structure Covered (v : Verifier) : Prop where
  reached : v.state.cache.Reached v.reading
  owned : ∀ e ∈ v.state.cache.order, ∃ key row, v.consumer (element e.1) = some key ∧ v.state.ledger key = some row

section
variable {p : Platform} {v v' : Verifier} {c : VerifyCall} {rd receipt : Dict} {now : ℚ} {L L' : Ledger}

theorem purge_nothing (h : NothingExpired L now) : L.purge now = L := by
  funext k
  exact purge_of_current fun row hr => h k row hr

/-- The ledger step keeps every row, as nothing has expired. -/
theorem consumeReplay_keeps {env : Env} {cfg : IntegrityConfig} {db : Except PyErr Unit} {proof : Dict} {receipt : Json}
    {x : ExpectedResult} {out : Except PyErr Unit} (hn : NothingExpired L now)
    (h : consumeReplay p env cfg db now proof rd receipt x L = (out, L')) {k : Str} {row : Row} (hr : L k = some row) :
    ∃ row', L' k = some row' := by
  unfold consumeReplay at h
  split at h
  · cases h
    exact ⟨row, hr⟩
  rename_i args _
  have hu : ∀ {r : Bool × Str}, Unpurged k L (.consume now args r) := by
    rintro r now' hnow row hr
    cases hnow
    exact hn k row hr
  split at h
  · cases h
    exact ⟨row, hr⟩
  · rename_i hc
    cases h
    obtain ⟨row', hr', -⟩ := step_continues (LedgerStep.consume hc) hu hr
    exact ⟨row', hr'⟩
  · rename_i hc
    cases h
    obtain ⟨row', hr', -⟩ := step_continues (LedgerStep.consume hc) hu hr
    exact ⟨row', hr'⟩

/-- What the ledger is after it took a result. -/
theorem consumeReplay_result {env : Env} {cfg : IntegrityConfig} {db : Except PyErr Unit} {proof : Dict}
    {x : ExpectedResult} (h : consumeReplay p env cfg db now proof rd (.obj receipt) x L = (.ok (), L')) :
    ∃ row, L' = Function.update (L.purge now) (replayKeyOf p rd receipt x) (some row) ∧
      row.expiresAt = ((now + resultReplayTtlSeconds : ℚ) : Time) := by
  obtain ⟨args, reason, hargs, hc⟩ := consumeReplay_ok.1 h
  obtain ⟨fp, hfp, hargs⟩ := bind_ok.1 hargs
  obtain ⟨secret, -, hargs⟩ := bind_ok.1 hargs
  obtain rfl := pure_ok.1 hargs
  obtain ⟨fs, hfs, rfl⟩ := receiptFingerprint_ok.1 hfp
  obtain rfl := Json.obj.inj hfs
  cases consume_step hc with
  | consumed row _ hs =>
    exact ⟨row, rfl, (Option.some.inj hs.expiresAt).symm⟩

theorem note_error {e : PyErr} (h : checkWorkerResult p c.env c.clock c.proof c.x = .error e) :
    v.note p c = v.consumer := by
  simp only [Verifier.note, h]

theorem note_checked (h : checkWorkerResult p c.env c.clock c.proof c.x = .ok (rd, .obj receipt)) :
    v.note p c = match (v.state.cache.consume c.clock.monotonic (rd.get "nonce")).1 with
      | .ok () => Function.update v.consumer (element (rd.get "nonce")) (some (replayKeyOf p rd receipt c.x))
      | .error _ => v.consumer := by
  simp only [Verifier.note, h]

/-- A call whose nonce is refused leaves the ledger alone. -/
theorem run_refused {e : PyErr} {cache : NonceCache} {s : VerifierState}
    (h : checkWorkerResult p c.env c.clock c.proof c.x = .ok (rd, .obj receipt))
    (hc : s.cache.consume c.clock.monotonic (rd.get "nonce") = (.error e, cache)) :
    c.run p s = (.error e, ⟨cache, s.ledger⟩) := by
  simp only [VerifyCall.run, verifyWorkerResult, h, hc]

theorem covered_verify (hI : Covered v) (hu : v.reading ≤ c.clock.monotonic)
    (hn : NothingExpired v.state.ledger c.clock.ledger)
    (hk : ∀ rd receipt, checkWorkerResult p c.env c.clock c.proof c.x = .ok (rd, .obj receipt) → Keyed p v c rd receipt)
    {result : Except PyErr Dict} {s : VerifierState} (h : c.run p v.state = (result, s)) :
    Covered ⟨s, v.note p c, c.clock.monotonic⟩ := by
  unfold VerifyCall.run verifyWorkerResult at h
  split at h
  · rename_i hcheck
    cases h
    rw [note_error hcheck]
    exact ⟨hI.reached.mono hu, hI.owned⟩
  rename_i rd receipt hcheck
  obtain ⟨receipt, -, -, rfl, -⟩ := checkWorkerResult_ok.1 hcheck
  have hreached := hI.reached.consume hu (rd.get "nonce")
  rw [note_checked hcheck]
  split at h
  · rename_i e cache hc
    cases h
    rw [hc] at hreached ⊢
    refine ⟨hreached, fun e he => ?_⟩
    rw [NonceCache.consume_error hc] at he
    exact hI.owned e ((NonceCache.prune_suffix _ _).subset he)
  rename_i cache hc
  rw [hc] at hreached ⊢
  have hadmits := NonceCache.consume_ok_iff.1 ⟨cache, hc⟩
  -- whatever the ledger answers, it has the result's row afterwards
  have hcovers : ∀ {out : Except PyErr Unit} {L' : Ledger}, consumeReplay p c.env c.cfg c.db c.clock.ledger c.proof rd
      (.obj receipt) c.x v.state.ledger = (out, L') → Covered ⟨⟨cache, L'⟩, Function.update v.consumer
        (element (rd.get "nonce")) (some (replayKeyOf p rd receipt c.x)), c.clock.monotonic⟩ := by
    intro out L' hl
    have hrow : ∃ row, L' (replayKeyOf p rd receipt c.x) = some row := by
      rcases (hk rd receipt hcheck).ledger hadmits.unseen with hl' | ⟨row, hr⟩
      · obtain ⟨L₁, hok⟩ := consumeReplay_iff.2 hl'
        obtain ⟨rfl, rfl⟩ := Prod.mk.inj (hl.symm.trans hok)
        obtain ⟨row, rfl, -⟩ := consumeReplay_result hl
        exact ⟨row, Function.update_self _ _ _⟩
      · exact consumeReplay_keeps hn hl hr
    refine ⟨hreached, fun e he => ?_⟩
    dsimp only at he ⊢
    by_cases hk' : element e.1 = element (rd.get "nonce")
    · obtain ⟨row, hr⟩ := hrow
      exact ⟨_, row, by rw [hk', Function.update_self], hr⟩
    · rcases NonceCache.consume_order hc e he with he | rfl
      · obtain ⟨key, row, hkey, hr⟩ := hI.owned e he
        obtain ⟨row', hr'⟩ := consumeReplay_keeps hn hl hr
        exact ⟨key, row', by rw [Function.update_of_ne hk', hkey], hr'⟩
      · exact absurd rfl hk'
  split at h
  · rename_i hl
    cases h
    exact hcovers hl
  · rename_i hl
    cases h
    exact hcovers hl

theorem covered_step {e : VerifierEvent} (hI : Covered v) (h : VerifierStep p v e v') (hs : SoundStep p v e) :
    Covered v' := by
  cases h with
  | verify hrun => exact covered_verify hI hs.1.1 hs.1.2 (fun rd receipt => hs.2 _ _ rfl rd receipt) hrun
  | elsewhere hst =>
    refine ⟨hI.reached, fun e he => ?_⟩
    obtain ⟨key, row, hkey, hr⟩ := hI.owned e he
    obtain ⟨row', hr', -⟩ := step_continues hst (fun now hnow row hr => hs.1 now hnow key row hr) hr
    exact ⟨key, row', hkey, hr'⟩

/-- A refused nonce is in the cache, so that its row is in the ledger. -/
theorem agrees_of_covered (hI : Covered v) (hu : v.reading ≤ c.clock.monotonic)
    (hn : NothingExpired v.state.ledger c.clock.ledger)
    (hk : ∀ rd receipt, checkWorkerResult p c.env c.clock c.proof c.x = .ok (rd, .obj receipt) → Keyed p v c rd receipt) :
    Agrees p v c := by
  intro rd receipt hcheck e cache hc
  have hkeyed := hk rd receipt hcheck
  have hcontains : (v.state.cache.prune c.clock.monotonic).contains (rd.get "nonce") = true := by
    rw [← Bool.not_eq_false]
    intro hf
    obtain ⟨c', hok⟩ := NonceCache.consume_ok_iff.2 ⟨hkeyed.truthy, hkeyed.hashable, hf⟩
    rw [hc] at hok
    cases hok
  have hrow : ∃ row, v.state.ledger (replayKeyOf p rd receipt c.x) = some row := by
    obtain ⟨accepted, last, hlast, hr⟩ := hI.reached.remembers
    have hmem := hcontains
    rw [NonceCache.contains_iff (hr.prune (hlast.trans hu)).1.seen, NonceCache.log_map_fst] at hmem
    obtain ⟨e, he, hel⟩ := List.mem_map.1 hmem
    obtain ⟨key, row, hkey, hr⟩ := hI.owned e ((NonceCache.prune_suffix _ _).subset he)
    rw [hel, hkeyed.consumer hcontains] at hkey
    obtain rfl := Option.some.inj hkey
    exact ⟨row, hr⟩
  refine ⟨hrow, fun L' hok => ?_⟩
  obtain ⟨row, hr⟩ := hrow
  have hunseen := (consumeReplay_iff.1 ⟨L', hok⟩).unseen
  rw [purge_nothing hn] at hunseen
  rw [replayKeyOf, hunseen] at hr
  cases hr

/-- In every run of a process whose steps are sound, a result that passes the checks is refused by the cache only if the
ledger would refuse it too. -/
theorem cache_agrees_with_ledger (p : Platform) (L : Ledger) (now : ℚ) {es : List VerifierEvent}
    (h : Run (Meeting (VerifierStep p) (SoundStep p)) ⟨⟨.empty, L⟩, fun _ => none, now⟩ es v) :
    ∀ c result, SoundStep p v (.verify c result) → Agrees p v c := by
  have hI : Covered v := by
    refine h.inv ⟨NonceCache.reached_empty now, by simp [NonceCache.empty]⟩ ?_
    rintro v e v' hI ⟨hst, hs⟩
    exact covered_step hI hst hs
  intro c result hs
  exact agrees_of_covered hI hs.1.1 hs.1.2 fun rd receipt => hs.2 c result rfl rd receipt

end

/-! ### Two workers with one nonce -/

namespace Sample

/-- The verification of a worker's answer, whose nonce is `"n"` whoever the worker is. -/
def answerCall (worker : Signer) : VerifyCall :=
  ⟨liveEnv, resultKey, .ok (), resultClock, resultOf worker, expectedResultOf worker⟩

def answerKey (worker : Signer) : Str :=
  replayKeyOf platform (resultDataOf worker) (answerReceiptOf worker) (expectedResultOf worker)

theorem answerCall_checked (b : UInt8) : checkWorkerResult platform (answerCall (signerOf b)).env
    (answerCall (signerOf b)).clock (answerCall (signerOf b)).proof (answerCall (signerOf b)).x =
      .ok (resultDataOf (signerOf b), .obj (answerReceiptOf (signerOf b))) :=
  resultOf_checked (keyPair b)

/-- The ledger takes an answer whose row it does not have. -/
theorem answerCall_admitted (worker : Signer) (L : Ledger) (h : L.purge 1 (answerKey worker) = none) :
    LedgerAdmits platform liveEnv resultKey (.ok ()) 1 (resultOf worker) (resultDataOf worker) (answerReceiptOf worker)
      (expectedResultOf worker) L where
  keyed := ⟨_, result_key, by
    rw [← List.length_pos_iff, Hex.length_hexLower]
    simp [resultSecret, platform]⟩
  opens := rfl
  replayKey := platform.hashJson_ne (by simp [platform]) _
  unseen := h
  ownerAgentId := (by decide : encodable "c" = true)
  delegationId := by
    have hd : ((resultDataOf worker).get "delegation_id").orElse (.str []) = .str "d" := by
      simp [resultDataOf, Dict.get, Dict.getD, Json.orElse, Json.truthy]
    rw [hd]
    exact ⟨_, bindText_str (by decide : encodable "d" = true)⟩
  payloadFingerprint := by
    have h : (resultOf worker).get "data_hash" = .str (platform.hashJson (.obj (resultDataOf worker))) := by
      simp [get_resultOf, Signer.get?_envelope, Signer.get?_payload]
    rw [h, Json.orElse, if_pos (truthy_str.2 (platform.hashJson_ne (by simp [platform]) _))]
    exact ⟨_, bindText_str (hashJson_encodable _)⟩

theorem answerKey_ne : answerKey (signerOf 6) ≠ answerKey (signerOf 5) := by
  intro h
  have hsame := platform.hashJson_inj sha256_injective h
  have hm : (Str.ofString "worker_public_key_hex", Json.str (signerOf 6).publicKeyHex) ∈
      Dict.ofList [("worker_public_key_hex", .str (expectedResultOf (signerOf 6)).workerPubkeyHex),
        ("coordinator_id", .str (expectedResultOf (signerOf 6)).coordinatorId),
        ("delegation_id", (resultDataOf (signerOf 6)).get "delegation_id"),
        ("result_nonce", (resultDataOf (signerOf 6)).get "nonce"),
        ("receipt_fingerprint", .str (platform.hashJson (.obj (receiptBody (answerReceiptOf (signerOf 6))))))] := by
    simp [Dict.ofList, expectedResultOf]
  obtain ⟨w, hw, hs⟩ := hsame.field hm
  obtain rfl : w = .str (signerOf 5).publicKeyHex := by simpa [Dict.ofList, expectedResultOf] using hw
  have hkeys : (signerOf 6).publicKeyHex = (signerOf 5).publicKeyHex := Json.str.inj hs
  exact absurd (Hex.hexLower_inj hkeys) (by decide)

/-- A verifier process that has just started, with an empty ledger. -/
def freshProcess : Verifier := ⟨⟨.empty, .empty⟩, fun _ => none, 0⟩

theorem answer_nonce (worker : Signer) : (resultDataOf worker).get "nonce" = .str "n" := by
  simp [resultDataOf, Dict.get, Dict.getD]

theorem answer_keyed {v : Verifier} {b : UInt8}
    (hc : (v.state.cache.prune 1).contains (.str "n") = true → v.consumer (.text "n") = some (answerKey (signerOf b)))
    (hl : (v.state.cache.prune 1).contains (.str "n") = false → v.state.ledger.purge 1 (answerKey (signerOf b)) = none) :
    ∀ rd receipt, checkWorkerResult platform (answerCall (signerOf b)).env (answerCall (signerOf b)).clock
      (answerCall (signerOf b)).proof (answerCall (signerOf b)).x = .ok (rd, .obj receipt) →
        Keyed platform v (answerCall (signerOf b)) rd receipt := by
  intro rd receipt h
  obtain ⟨rfl, hr⟩ := Prod.mk.inj (Except.ok.inj (h.symm.trans (answerCall_checked b)))
  obtain rfl := Json.obj.inj hr
  refine ⟨?_, ?_, ?_, ?_⟩
  · rw [answer_nonce]
    rfl
  · rw [answer_nonce]
    rfl
  · rw [answer_nonce]
    exact hc
  · rw [answer_nonce]
    intro hcontains
    exact .inl (answerCall_admitted _ _ (hl hcontains))

/-- The process after it has accepted the answer of the fifth signer. -/
theorem first_answer : ∃ v, VerifierStep platform freshProcess (.verify (answerCall (signerOf 5)) (.ok (resultDataOf (signerOf 5)))) v ∧
    ¬v.state.cache.Admits 1 (.str "n") ∧ v.consumer (.text "n") = some (answerKey (signerOf 5)) ∧ v.reading = 1 ∧
    NothingExpired v.state.ledger 1 ∧ v.state.ledger (answerKey (signerOf 6)) = none := by
  have hadmits : NonceCache.empty.Admits 1 (.str "n") := ⟨rfl, rfl, rfl⟩
  obtain ⟨cache, hcache⟩ := NonceCache.consume_ok_iff.2 hadmits
  obtain ⟨ledger, hl⟩ := consumeReplay_iff.2 (answerCall_admitted (signerOf 5) Ledger.empty rfl)
  obtain ⟨row, hrow, hexpires⟩ := consumeReplay_result hl
  rw [← answerKey] at hrow
  have hrun : (answerCall (signerOf 5)).run platform freshProcess.state = (.ok (resultDataOf (signerOf 5)), ⟨cache, ledger⟩) := by
    refine verifyWorkerResult_ok.2 ⟨_, cache, answerCall_checked 5, ?_, ledger, hl, rfl⟩
    rw [answer_nonce]
    exact hcache
  refine ⟨_, .verify hrun, ?_, ?_, rfl, ?_, ?_⟩
  · exact NonceCache.consumed_refused (NonceCache.reached_empty 1) hcache (le_refl 1) (by norm_num [seenNonceTtlSeconds])
  · dsimp only
    rw [note_checked (answerCall_checked 5), answer_nonce]
    have hok : (freshProcess.state.cache.consume (answerCall (signerOf 5)).clock.monotonic (.str "n")).1 = .ok () :=
      congrArg Prod.fst hcache
    rw [hok]
    exact Function.update_self _ _ _
  · intro k r hk
    dsimp only at hk
    rw [hrow] at hk
    by_cases hkey : k = answerKey (signerOf 5)
    · rw [hkey, Function.update_self] at hk
      rw [← Option.some.inj hk, hexpires]
      exact WithBot.coe_lt_coe.2 (WithTop.coe_lt_coe.2 (by norm_num [resultReplayTtlSeconds]))
    · rw [Function.update_of_ne hkey] at hk
      cases hk
  · dsimp only
    rw [hrow, Function.update_of_ne answerKey_ne]
    rfl

theorem first_answer_undisturbed :
    Undisturbed freshProcess (.verify (answerCall (signerOf 5)) (.ok (resultDataOf (signerOf 5)))) := by
  refine ⟨by norm_num [freshProcess, answerCall, resultClock], ?_⟩
  intro k row hr
  cases hr

/-- The sixth signer's answer passes its checks and the ledger would take it, but the cache refuses it. -/
theorem shared_nonce_refused : ∃ v, Run (Meeting (VerifierStep platform) Undisturbed) freshProcess
      [.verify (answerCall (signerOf 5)) (.ok (resultDataOf (signerOf 5)))] v ∧
    (∃ e s, (answerCall (signerOf 6)).run platform v.state = (.error e, s) ∧
      Undisturbed v (.verify (answerCall (signerOf 6)) (.error e))) ∧
    LedgerAdmits platform liveEnv resultKey (.ok ()) 1 (resultOf (signerOf 6)) (resultDataOf (signerOf 6))
      (answerReceiptOf (signerOf 6)) (expectedResultOf (signerOf 6)) v.state.ledger ∧
    ¬Agrees platform v (answerCall (signerOf 6)) := by
  obtain ⟨v, hst, hnot, -, hreading, hn, hnone⟩ := first_answer
  have hledger := answerCall_admitted (signerOf 6) v.state.ledger (by rw [purge_nothing hn]; exact hnone)
  have hrefused : ∃ e cache, v.state.cache.consume 1 (.str "n") = (.error e, cache) := by
    cases hc : v.state.cache.consume 1 (.str "n") with
    | mk out cache =>
      cases out with
      | error e => exact ⟨e, cache, rfl⟩
      | ok _ => exact absurd (NonceCache.consume_ok_iff.1 ⟨cache, hc⟩) hnot
  obtain ⟨e, cache, hc⟩ := hrefused
  rw [← answer_nonce (signerOf 6)] at hc
  refine ⟨v, .snoc .nil ⟨hst, first_answer_undisturbed⟩, ⟨e, ⟨cache, v.state.ledger⟩, ?_, ?_, hn⟩, hledger, fun hagrees => ?_⟩
  · exact run_refused (answerCall_checked 6) hc
  · rw [hreading]
    exact le_refl _
  · obtain ⟨L', hok⟩ := consumeReplay_iff.2 hledger
    exact (hagrees _ _ (answerCall_checked 6) e cache hc).2 L' hok

/-- The same answer again is refused by both. -/
theorem repeated_answer_agrees : ∃ v, Run (Meeting (VerifierStep platform) (SoundStep platform)) freshProcess
      [.verify (answerCall (signerOf 5)) (.ok (resultDataOf (signerOf 5)))] v ∧
    ¬v.state.cache.Admits 1 (.str "n") ∧ Agrees platform v (answerCall (signerOf 5)) := by
  obtain ⟨v, hst, hnot, hconsumer, hreading, hn, -⟩ := first_answer
  have hrun : Run (Meeting (VerifierStep platform) (SoundStep platform)) freshProcess
      [.verify (answerCall (signerOf 5)) (.ok (resultDataOf (signerOf 5)))] v := by
    refine .snoc .nil ⟨hst, first_answer_undisturbed, ?_⟩
    rintro c result heq
    cases heq
    refine answer_keyed (fun h => ?_) fun _ => rfl
    cases h
  refine ⟨v, hrun, hnot, cache_agrees_with_ledger platform .empty 0 hrun _ (.error .typeError) ⟨⟨?_, hn⟩, ?_⟩⟩
  · rw [hreading]
    exact le_refl _
  · rintro c result heq
    cases heq
    refine answer_keyed (fun _ => hconsumer) fun h => ?_
    exact absurd ⟨rfl, rfl, h⟩ hnot

end Sample

end Adn
