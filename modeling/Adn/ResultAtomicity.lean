import Adn.NonceCache
import Adn.ResultBinding
/-!
# Failing without a trace

`verify_worker_result` consumes a result's nonce in memory before it consumes
the result in the ledger, and nothing gives the nonce back when the ledger
cannot take the result. Every other failure leaves both stores as they were,
up to what has expired in them, and a later call goes as if it had not been
made (`error_atomic_iff`).
-/

open Lib

namespace Adn

/-! ## When the ledger takes a result -/

/-- What it takes for the ledger to record a result that has passed its checks. -/
structure LedgerAdmits (p : Platform) (env : Env) (cfg : IntegrityConfig) (db : Except PyErr Unit) (now : ℚ)
    (proof rd receipt : Dict) (x : ExpectedResult) (L : Ledger) : Prop where
  keyed : ∃ secret, configuredIntegrityKey p env cfg "result" = .ok (some secret) ∧ secret ≠ []
  opens : db = .ok ()
  replayKey : resultReplayKey p rd (p.hashJson (.obj (receiptBody receipt))) x ≠ []
  unseen : L.purge now (resultReplayKey p rd (p.hashJson (.obj (receiptBody receipt))) x) = none
  ownerAgentId : encodable x.coordinatorId = true
  delegationId : ∃ t, bindText p ((rd.get "delegation_id").orElse (.str [])) = .ok t
  payloadFingerprint : ∃ t, bindText p ((proof.get "data_hash").orElse (.str [])) = .ok t

section
variable {p : Platform} {env : Env} {cfg : IntegrityConfig} {db : Except PyErr Unit} {now now' : ℚ}
  {proof rd receipt : Dict} {x : ExpectedResult} {L : Ledger}

theorem configuredIntegrityKey_hex {domain s : Str} (h : configuredIntegrityKey p env cfg domain = .ok (some s)) :
    ∃ secret, s = Hex.hexLower secret := by
  obtain ⟨secretHex, -, h⟩ := bind_ok.1 h
  unfold deriveIntegrityKey at h
  split at h
  · cases h
  · cases h
  · split at h
    · cases h
    · cases h
      exact ⟨_, rfl⟩

theorem writeRecord_iff {k : Str} {r : Record} {secret : Option Str} {mac : Option Str} {t : Time}
    (hm : computeIntegrityMac p k r secret = .ok mac) (ht : bindReal r.expiresAt = .ok t) (he : r.lastError = none) :
    (∃ L', writeRecord p k r secret L = .ok L') ↔ (∃ o, bindText p r.ownerAgentId = .ok o) ∧
      (∃ d, bindText p r.delegationId = .ok d) ∧ ∃ f, bindText p r.payloadFingerprint = .ok f := by
  constructor
  · rintro ⟨L', h⟩
    simp only [writeRecord, bind_ok] at h
    obtain ⟨-, -, o, ho, d, hd, f, hf, -⟩ := h
    exact ⟨⟨o, ho⟩, ⟨d, hd⟩, ⟨f, hf⟩⟩
  · rintro ⟨⟨o, ho⟩, ⟨d, hd⟩, ⟨f, hf⟩⟩
    exact ⟨_, writeRecord_eq hm ht ho hd hf (by rw [he]; rfl)⟩

theorem bindText_str_iff {s : Str} : (∃ t, bindText p (.str s) = .ok t) ↔ encodable s = true := by
  rw [bindText]
  split_ifs with h
  · simp [h]
  · simp [h]

theorem consume_true_iff {a : ConsumeArgs} :
    (∃ reason L', consumeResultReplay p db now a L = .ok ((true, reason), L')) ↔ a.replayKey ≠ [] ∧
      isSet a.integritySecretHex = true ∧ db = .ok () ∧ L.purge now a.replayKey = none ∧
      ∃ L', writeRecord p a.replayKey (a.record now) a.integritySecretHex (L.purge now) = .ok L' := by
  constructor
  · rintro ⟨reason, L', h⟩
    unfold consumeResultReplay at h
    split_ifs at h with hk hs
    · cases h
    · cases h
    · obtain ⟨u, hdb, h⟩ := bind_ok.1 h
      cases hn : L.purge now a.replayKey with
      | some row =>
        simp only [hn] at h
        obtain ⟨_, -, h⟩ := bind_ok.1 h
        cases h
      | none =>
        simp only [hn] at h
        obtain ⟨L₁, hw, -⟩ := bind_ok.1 h
        exact ⟨hk, by simpa using hs, hdb, rfl, L₁, hw⟩
  · rintro ⟨hk, hs, rfl, hn, L', hw⟩
    exact ⟨[], L', consume_first hk hs hn hw⟩

/-- The ledger's step succeeds exactly then. -/
theorem consumeReplay_iff : (∃ L', consumeReplay p env cfg db now proof rd (.obj receipt) x L = (.ok (), L')) ↔
    LedgerAdmits p env cfg db now proof rd receipt x L := by
  simp only [consumeReplay_ok]
  constructor
  · rintro ⟨L', args, reason, hargs, hc⟩
    obtain ⟨fp, hfp, hargs⟩ := bind_ok.1 hargs
    obtain ⟨secret, hsecret, hargs⟩ := bind_ok.1 hargs
    obtain rfl := pure_ok.1 hargs
    obtain ⟨fs, hfs, rfl⟩ := receiptFingerprint_ok.1 hfp
    obtain rfl := Json.obj.inj hfs
    obtain ⟨hk, hs, hdb, hn, L₁, hw⟩ := consume_true_iff.1 ⟨reason, L', hc⟩
    cases secret with
    | none => cases hs
    | some s =>
      obtain ⟨key, rfl⟩ := configuredIntegrityKey_hex hsecret
      obtain ⟨mac, hm⟩ := computeIntegrityMac_hex p _ _ key
      obtain ⟨ho, hd, hf⟩ := (writeRecord_iff hm rfl rfl).1 ⟨L₁, hw⟩
      exact ⟨⟨_, hsecret, isSet_iff.1 hs⟩, hdb, hk, hn, bindText_str_iff.1 ho, hd, hf⟩
  · intro h
    obtain ⟨s, hsecret, hne⟩ := h.keyed
    obtain ⟨key, rfl⟩ := configuredIntegrityKey_hex hsecret
    let args : ConsumeArgs := ⟨resultReplayKey p rd (p.hashJson (.obj (receiptBody receipt))) x, x.coordinatorId,
      (rd.get "delegation_id").orElse (.str []), (proof.get "data_hash").orElse (.str []), none, some (Hex.hexLower key)⟩
    obtain ⟨mac, hm⟩ := computeIntegrityMac_hex p args.replayKey (args.record now) key
    have hset : isSet args.integritySecretHex = true := isSet_iff.2 hne
    have hw := (writeRecord_iff (L := L.purge now) (r := args.record now) hm rfl rfl).2
      ⟨bindText_str_iff.2 h.ownerAgentId, h.delegationId, h.payloadFingerprint⟩
    obtain ⟨reason, L', hc⟩ := consume_true_iff.2 ⟨h.replayKey, hset, h.opens, h.unseen, hw⟩
    refine ⟨L', args, reason, ?_, hc⟩
    exact bind_ok.2 ⟨_, receiptFingerprint_ok.2 ⟨receipt, rfl, rfl⟩, bind_ok.2 ⟨_, hsecret, rfl⟩⟩

theorem purge_purge (h : now ≤ now') : (L.purge now).purge now' = L.purge now' := by
  funext k
  cases hr : L.purge now' k with
  | none =>
    cases hp : (L.purge now).purge now' k with
    | none => rfl
    | some row =>
      obtain ⟨hrow, hlt⟩ := purge_some.1 hp
      rw [purge_some.2 ⟨(purge_some.1 hrow).1, hlt⟩] at hr
      cases hr
  | some row =>
    obtain ⟨hrow, hlt⟩ := purge_some.1 hr
    refine purge_some.2 ⟨purge_some.2 ⟨hrow, lt_of_le_of_lt ?_ hlt⟩, hlt⟩
    exact WithBot.coe_le_coe.2 (WithTop.coe_le_coe.2 h)

/-- What has been purged makes no difference to a later call. -/
theorem LedgerAdmits.of_purge (hnow : now ≤ now') (h : LedgerAdmits p env cfg db now' proof rd receipt x L) :
    LedgerAdmits p env cfg db now' proof rd receipt x (L.purge now) :=
  { h with unseen := by rw [purge_purge hnow]; exact h.unseen }

end

/-! ## Atomicity -/

/-- One call of `verify_worker_result`, with the environment and the clocks it meets. -/
structure VerifyCall where
  env : Env
  cfg : IntegrityConfig
  db : Except PyErr Unit
  clock : ResultClock
  proof : Dict
  x : ExpectedResult

def VerifyCall.run (p : Platform) (c : VerifyCall) (s : VerifierState) : Except PyErr Dict × VerifierState :=
  verifyWorkerResult p c.env c.cfg c.db c.clock c.proof c.x s

/-- The same result verified again later, whatever the environment is then. -/
structure Retries (c c' : VerifyCall) : Prop where
  proof : c'.proof = c.proof
  x : c'.x = c.x
  monotonic : c.clock.monotonic ≤ c'.clock.monotonic
  ledger : c.clock.ledger ≤ c'.clock.ledger

/-- A call that raises leaves both stores as they were up to what has expired, and a
retry that would be accepted if it had not been made is accepted. -/
structure ErrorAtomic (p : Platform) (c : VerifyCall) (s : VerifierState) : Prop where
  cache : ∀ e s', c.run p s = (.error e, s') → s'.cache = s.cache ∨ s'.cache = s.cache.prune c.clock.monotonic
  ledger : ∀ e s', c.run p s = (.error e, s') → s'.ledger = s.ledger ∨ s'.ledger = s.ledger.purge c.clock.ledger
  retry : ∀ e s', c.run p s = (.error e, s') → ∀ c', Retries c c' → ∀ rd s₁, c'.run p s = (.ok rd, s₁) →
    ∃ s₂, c'.run p s' = (.ok rd, s₂)

/-- The result passes its checks and its nonce is new, and the ledger cannot take it. -/
def Stranded (p : Platform) (c : VerifyCall) (s : VerifierState) : Prop :=
  ∃ rd receipt, checkWorkerResult p c.env c.clock c.proof c.x = .ok (rd, .obj receipt) ∧
    s.cache.Admits c.clock.monotonic (rd.get "nonce") ∧
    ¬LedgerAdmits p c.env c.cfg c.db c.clock.ledger c.proof rd receipt c.x s.ledger

section
variable {p : Platform} {c c' : VerifyCall} {s s' : VerifierState} {rd : Dict}

theorem run_ok : (∃ s', c.run p s = (.ok rd, s')) ↔ ∃ receipt,
    checkWorkerResult p c.env c.clock c.proof c.x = .ok (rd, .obj receipt) ∧
      s.cache.Admits c.clock.monotonic (rd.get "nonce") ∧
      LedgerAdmits p c.env c.cfg c.db c.clock.ledger c.proof rd receipt c.x s.ledger := by
  constructor
  · rintro ⟨s', h⟩
    obtain ⟨receipt, cache, hc, hn, ledger, hl, -⟩ := verifyWorkerResult_ok.1 h
    obtain ⟨r, -, -, rfl, -⟩ := checkWorkerResult_ok.1 hc
    exact ⟨r, hc, NonceCache.consume_ok_iff.1 ⟨cache, hn⟩, consumeReplay_iff.1 ⟨ledger, hl⟩⟩
  · rintro ⟨receipt, hc, hn, hl⟩
    obtain ⟨cache, hn⟩ := NonceCache.consume_ok_iff.2 hn
    obtain ⟨ledger, hl⟩ := consumeReplay_iff.2 hl
    exact ⟨_, verifyWorkerResult_ok.2 ⟨_, cache, hc, hn, ledger, hl, rfl⟩⟩

/-- The checks return the signed `result_data`. -/
theorem checked_data {env env' : Env} {clock clock' : ResultClock} {proof rd rd' : Dict} {x : ExpectedResult}
    {receipt receipt' : Json} (h : checkWorkerResult p env clock proof x = .ok (rd, receipt))
    (h' : checkWorkerResult p env' clock' proof x = .ok (rd', receipt')) : rd = rd' := by
  obtain ⟨_, _, _, -, -, hb⟩ := checkWorkerResult_ok.1 h
  obtain ⟨_, _, _, -, -, hb'⟩ := checkWorkerResult_ok.1 h'
  exact Json.obj.inj (hb.resultData.symm.trans hb'.resultData)

/-- A call that raises and does not strand its nonce only prunes the cache. -/
theorem run_error (hs : ¬Stranded p c s) {e : PyErr} (h : c.run p s = (.error e, s')) :
    s' = s ∨ s' = ⟨s.cache.prune c.clock.monotonic, s.ledger⟩ := by
  unfold VerifyCall.run verifyWorkerResult at h
  split at h
  · cases h
    exact .inl rfl
  rename_i rd receipt hc
  split at h
  · rename_i hn
    cases h
    rw [NonceCache.consume_error hn]
    exact .inr rfl
  rename_i cache hn
  split at h
  · rename_i e' ledger hl
    obtain ⟨r, -, -, rfl, -⟩ := checkWorkerResult_ok.1 hc
    refine absurd ⟨rd, r, hc, NonceCache.consume_ok_iff.1 ⟨cache, hn⟩, fun hadmits => ?_⟩ hs
    obtain ⟨L', hok⟩ := consumeReplay_iff.2 hadmits
    rw [hl] at hok
    cases hok
  · cases h

/-- A stranded nonce stays consumed, and the result is refused for as long as it is remembered. -/
theorem Stranded.run_error (hs : Stranded p c s) (hr : s.cache.Reached c.clock.monotonic) :
    ∃ e s', c.run p s = (.error e, s') ∧ s'.cache ≠ s.cache ∧ s'.cache ≠ s.cache.prune c.clock.monotonic ∧
      ∀ c', Retries c c' → c'.clock.monotonic - c.clock.monotonic < seenNonceTtlSeconds →
        ∀ rd s₂, c'.run p s' ≠ (.ok rd, s₂) := by
  obtain ⟨rd, receipt, hc, hn, hl⟩ := hs
  obtain ⟨cache, hn⟩ := NonceCache.consume_ok_iff.2 hn
  have hne := NonceCache.consumed_ne hr hn
  cases hcons : consumeReplay p c.env c.cfg c.db c.clock.ledger c.proof rd (.obj receipt) c.x s.ledger with
  | mk outcome ledger =>
    cases outcome with
    | ok _ => exact absurd (consumeReplay_iff.1 ⟨ledger, hcons⟩) hl
    | error e =>
      refine ⟨e, ⟨cache, ledger⟩, ?_, hne.1, hne.2, fun c' hc' hlt rd' s₂ hok => ?_⟩
      · simp only [VerifyCall.run, verifyWorkerResult, hc, hn, hcons]
      · obtain ⟨receipt', hcheck, hadmits, -⟩ := run_ok.1 ⟨s₂, hok⟩
        rw [hc'.proof, hc'.x] at hcheck
        rw [checked_data hcheck hc] at hadmits
        exact NonceCache.consumed_refused hr hn hc'.monotonic hlt hadmits

/-- A call fails without a trace unless it consumes the nonce of a result that the ledger cannot take. -/
theorem error_atomic_iff (p : Platform) (c : VerifyCall) (s : VerifierState)
    (hr : s.cache.Reached c.clock.monotonic) : ErrorAtomic p c s ↔ ¬Stranded p c s := by
  constructor
  · intro h hs
    obtain ⟨e, s', hrun, hne, hne', -⟩ := hs.run_error hr
    rcases h.cache e s' hrun with heq | heq
    · exact hne heq
    · exact hne' heq
  · intro hs
    refine ⟨fun e s' h => ?_, fun e s' h => ?_, fun e s' h c' hc' rd s₁ hok => ?_⟩
    · rcases run_error hs h with rfl | rfl
      · exact .inl rfl
      · exact .inr rfl
    · rcases run_error hs h with rfl | rfl
      · exact .inl rfl
      · exact .inl rfl
    · rcases run_error hs h with rfl | rfl
      · exact ⟨s₁, hok⟩
      · -- the retry looks at a cache that has been pruned before
        obtain ⟨receipt, hc, hn, hl⟩ := run_ok.1 ⟨s₁, hok⟩
        exact run_ok.2 ⟨receipt, hc, hn.of_prune hr hc'.monotonic, hl⟩

end

/-! ### A missing integrity key -/

namespace Sample

/-- The result of the ping, verified before there is an integrity key. -/
def keylessCall : VerifyCall := ⟨liveEnv, ⟨none, none, ⟨.ok (), .ok "00"⟩⟩, .ok (), resultClock, result, expectedResult⟩

/-- The same with the key. -/
def keyedCall : VerifyCall := { keylessCall with cfg := resultKey }

theorem keyless_stranded : Stranded platform keylessCall freshVerifier := by
  refine ⟨resultData, answerReceipt, result_checked, NonceCache.consume_ok_iff.1 nonce_consumed, fun h => ?_⟩
  obtain ⟨secret, hkey, -⟩ := h.keyed
  cases hkey

/-- The result is refused when it is verified again with the key, which accepts it the first time. -/
theorem keyless_call_strands : ¬ErrorAtomic platform keylessCall freshVerifier ∧
    (∃ s₁, keyedCall.run platform freshVerifier = (.ok resultData, s₁)) ∧
    ∃ e s', keylessCall.run platform freshVerifier = (.error e, s') ∧ ∀ rd s₂, keyedCall.run platform s' ≠ (.ok rd, s₂) := by
  have hr : freshVerifier.cache.Reached keylessCall.clock.monotonic := NonceCache.reached_empty _
  obtain ⟨e, s', hrun, hne, hne', hrefused⟩ := keyless_stranded.run_error hr
  refine ⟨fun h => ?_, result_returned, e, s', hrun, hrefused keyedCall ⟨rfl, rfl, le_refl _, le_refl _⟩ ?_⟩
  · rcases h.cache e s' hrun with heq | heq
    · exact hne heq
    · exact hne' heq
  · norm_num [keyedCall, keylessCall, seenNonceTtlSeconds]

/-- Verified once more, when the nonce's acceptance has lapsed. -/
def laterCall : VerifyCall := { keyedCall with clock := { resultClock with monotonic := 901 } }

/-- The cache that the stranded nonce is in. -/
def nonceSeen : NonceCache := (NonceCache.empty.consume 1 (resultData.get "nonce")).2

theorem nonceSeen_consumed : NonceCache.empty.consume 1 (resultData.get "nonce") = (.ok (), nonceSeen) := by
  obtain ⟨cache, h⟩ := nonce_consumed
  rw [nonceSeen, h]

theorem nonceSeen_refuses : ¬nonceSeen.Admits 1 (resultData.get "nonce") :=
  NonceCache.consumed_refused (NonceCache.reached_empty 1) nonceSeen_consumed (le_refl 1) (by norm_num [seenNonceTtlSeconds])

theorem later_accepted : ∃ s₁, laterCall.run platform ⟨nonceSeen, freshVerifier.ledger⟩ = (.ok resultData, s₁) := by
  obtain ⟨s, h⟩ := result_returned
  obtain ⟨receipt, hc, -, hl⟩ := run_ok.1 (⟨s, h⟩ : ∃ s', keyedCall.run platform freshVerifier = (.ok resultData, s'))
  have hadmits : nonceSeen.Admits 901 (resultData.get "nonce") := ⟨rfl, rfl, by decide +kernel⟩
  exact run_ok.2 ⟨receipt, hc, hadmits, hl⟩

/-- While the nonce is remembered the result is refused without a trace, and a retry that finds it lapsed is accepted. -/
theorem keyed_call_atomic : ∃ s e s', s.cache.contains (resultData.get "nonce") = true ∧ ErrorAtomic platform keyedCall s ∧
    keyedCall.run platform s = (.error e, s') ∧ ∃ s₂, laterCall.run platform s' = (.ok resultData, s₂) := by
  have hr : nonceSeen.Reached 1 := by
    have h := (NonceCache.reached_empty 1).consume (le_refl 1) (resultData.get "nonce")
    rwa [nonceSeen_consumed] at h
  have hstranded : ¬Stranded platform keyedCall ⟨nonceSeen, freshVerifier.ledger⟩ := by
    rintro ⟨rd, receipt, hc, hadmits, -⟩
    rw [checked_data hc result_checked] at hadmits
    exact nonceSeen_refuses hadmits
  have hatomic := (error_atomic_iff platform keyedCall ⟨nonceSeen, freshVerifier.ledger⟩ hr).2 hstranded
  obtain ⟨s₁, hlater⟩ := later_accepted
  cases hrun : keyedCall.run platform ⟨nonceSeen, freshVerifier.ledger⟩ with
  | mk outcome s' =>
    cases outcome with
    | ok rd =>
      obtain ⟨receipt, hc, hadmits, -⟩ := run_ok.1 ⟨s', hrun⟩
      rw [checked_data hc result_checked] at hadmits
      exact absurd hadmits nonceSeen_refuses
    | error e =>
      have hretries : Retries keyedCall laterCall :=
        ⟨rfl, rfl, by norm_num [laterCall, keyedCall, keylessCall, resultClock], le_refl _⟩
      exact ⟨_, e, s', by decide +kernel, hatomic, hrun, hatomic.retry e s' hrun laterCall hretries resultData s₁ hlater⟩

end Sample

end Adn
