import Adn.DeliveredResult
/-!
# What a delegation leaves alone

A delegation that is delivered has put rows under two keys, that of its request and that
of its result, and one nonce into the coordinator's cache. What is new to the ledger and
to the cache before, and is neither of these, is new to them afterwards
(`delivered_none`, `delivered_admits`): the next delegation finds nothing of this one.
-/

open Lib

namespace Adn

/-! ## The worker -/

section
variable {p : Platform} {env : Env} {agent : Agent} {caller : CallerContext} {c : Circumstances} {ready : Ready} {signed : Dict}
  {L : Ledger} {records : Records} {calls : List Call} {k : Str}

/-- A transaction on another key leaves nothing under this one. -/
theorem ledgerAfter_none {α : Type} {x : Except PyErr (α × Ledger)} (event : α → Event)
    (hx : ∀ r L', x = .ok (r, L') → LedgerStep p L (event r) L') (hk : ∀ r, (event r).key ≠ some k) (hL : L k = none) :
    ledgerAfter L x k = none := by
  cases x with
  | error e => exact hL
  | ok y => exact step_other_none (hx y.1 y.2 rfl) (hk y.1) hL

theorem finalized_none {db : Except PyErr Unit} {now : ℚ} {key state : Str} {secret error token : Option Str} (hk : key ≠ k)
    (hL : L k = none) :
    ledgerAfter L (finalizeDelegationRequest p db now key state secret error token L) k = none := by
  refine ledgerAfter_none (p := p) (fun b => .finalize now key state token b) (fun b L' h => ?_) ?_ hL
  · unfold finalizeDelegationRequest at h
    split at h
    · exact .finalize h
    · cases h
  · intro b h
    exact hk (Option.some.inj h)

theorem concluded_none {token : Str} (hk : ready.args.replayKey ≠ k) (hL : L k = none) :
    (conclude p agent c ready token L).1 k = none := by
  have hfirst : ledgerAfter L (finalizeDelegationRequest p c.dbFinalize c.finalize ready.args.replayKey c.outcome.finalState
      ready.args.integritySecretHex c.outcome.lastError (some token) L) k = none := finalized_none hk hL
  unfold conclude
  simp only
  split
  · exact hfirst
  · exact finalized_none hk hfirst

theorem executed_none (hk : ready.args.replayKey ≠ k) (hL : L k = none)
    (hduring : ∀ L, c.during L = (execAll p L calls).2) (hcalls : ∀ c ∈ calls, c.key ≠ k) :
    (execute p env agent c ready L records).ledger k = none := by
  have hbegun : ledgerAfter L (beginRequestExecution p c.dbBegin c.begin c.token ready.args L) k = none :=
    ledgerAfter_none (fun r => .begin c.begin c.token ready.args r) (fun r L' h => .begin h)
      (fun r h => hk (Option.some.inj h)) hL
  unfold execute
  simp only
  split
  · exact hbegun
  · refine concluded_none hk ?_
    rw [hduring]
    exact execAll_none hbegun hcalls

/-- The worker puts nothing under keys other than the request's. -/
theorem processed_none (hk : requestKey p signed ≠ k) (hL : L k = none)
    (hduring : ∀ L, c.during L = (execAll p L calls).2) (hcalls : ∀ c ∈ calls, c.key ≠ k) :
    (processDelegationRequest p env agent caller c signed L records).ledger k = none := by
  unfold processDelegationRequest
  split
  · exact hL
  · rename_i ready hprepare
    refine executed_none ?_ hL hduring hcalls
    rw [(prepare_key hprepare).1]
    exact hk

end

/-! ## The coordinator -/

section
variable {p : Platform} {d : Delegation} {receipt : Dict} {s : VerifierState} {x : Delivered} {calls : List Call} {k : Str}

/-- The result is consumed under its own key, and its nonce in the cache. -/
theorem delivered_consumed {v : Json} (h : d.deliver p receipt s = .ok x) (hv : d.Sound p receipt v x) :
    s.cache.consume d.resultClock.monotonic (.str d.circumstances.clock.resultNonce) = (.ok (), x.verifier.cache) ∧
      ∃ a r, a.replayKey = d.resultKey p receipt (d.name p receipt) ∧
        consumeResultReplay p d.dbResult d.resultClock.ledger a (execAll p x.processed.ledger d.between).2 =
          .ok ((true, r), x.verifier.ledger) := by
  obtain ⟨signed, proof, -, -, -, hverified⟩ := deliver_ok h
  obtain ⟨receipt', cache, hcheck, hcache, ledger, hledger, hverifier⟩ := verifyWorkerResult_ok.1 hverified
  obtain ⟨r, expected, gatewayProof, rfl, -, hb⟩ := checkWorkerResult_ok.1 hcheck
  obtain rfl : receipt = r := Json.obj.inj (hv.teeAuthorization.symm.trans hb.present)
  rw [hverifier]
  rw [hv.nonce] at hcache
  refine ⟨hcache, ?_⟩
  unfold consumeReplay at hledger
  split at hledger
  · cases hledger
  · rename_i a ha
    have hkey : a.replayKey = d.resultKey p receipt (d.name p receipt) := by
      obtain ⟨fingerprint, hfingerprint, ha⟩ := bind_ok.1 ha
      obtain ⟨secret, -, ha⟩ := bind_ok.1 ha
      obtain rfl := pure_ok.1 ha
      cases hfingerprint
      simp only [resultReplayKey, hv.nonce, hv.delegationId]
      rfl
    split at hledger
    · cases hledger
    · rename_i reason L' hconsume
      cases hledger
      exact ⟨a, reason, hkey, hconsume⟩
    · cases hledger

/-- What is new under another key stays new. -/
theorem delivered_none (h : d.deliver p receipt s = .ok x) (hL : s.ledger k = none)
    (hrequest : ∀ name signed, d.send p receipt = .ok (name, signed) → requestKey p signed ≠ k)
    (hresult : d.resultKey p receipt (d.name p receipt) ≠ k) (hduring : ∀ L, d.circumstances.during L = (execAll p L calls).2)
    (hcalls : ∀ c ∈ calls, c.key ≠ k) (hbetween : ∀ c ∈ d.between, c.key ≠ k) : x.verifier.ledger k = none := by
  obtain ⟨v, hv⟩ := delivered_sound h
  obtain ⟨signed, proof, hsend, hx, -, -⟩ := deliver_ok h
  obtain ⟨-, a, r, ha, hconsume⟩ := delivered_consumed h hv
  have hprocessed : x.processed.ledger k = none := by
    rw [hx]
    exact processed_none (hrequest _ _ hsend) hL hduring hcalls
  refine step_other_none (.consume hconsume) ?_ (execAll_none (p := p) hprocessed hbetween)
  intro hkey
  exact hresult (ha ▸ Option.some.inj hkey)

end

/-! ## Keys -/

section
variable {p : Platform} {d d' : Delegation} {receipt receipt' signed signed' : Dict} {name name' : Json} {id id' : Str}

/-- The key of a request that is sent names its delegation. -/
theorem send_requestKey (h : d.send p receipt = .ok (name, signed)) : ∃ v w, requestKey p signed =
    p.hashJson (.obj (Dict.ofList [("delegation_id", .str (d.name p receipt)), ("request_hash", v),
      ("gateway_receipt_fingerprint", w)])) := by
  obtain ⟨-, -, hdata⟩ := send_ok h
  have hid : ((d.task receipt).request p d.create d.coordinator.identity.agentId).payload.getD "delegation_id" (.str []) =
      .str (d.name p receipt) := by
    simp [Dict.getD, payload_get?, Task.request, Delegation.name]
  have hreceipt : ((d.task receipt).request p d.create d.coordinator.identity.agentId).payload.get "tee_authorization" =
      .obj receipt := by
    simp [Dict.get, Dict.getD, payload_get?, Task.request, Delegation.task, optJson, isNull]
  rw [requestKey, hdata]
  simp only [hid, hreceipt, orEmpty_obj]
  exact ⟨_, _, rfl⟩

variable (hsha : Function.Injective p.sha256)
include hsha

theorem hash_field {fs gs : Dict} {k : String} {s t : Str} (h : p.hashJson (.obj fs) = p.hashJson (.obj gs))
    (hf : fs.get k = .str s) (hg : gs.get k = .str t) : s = t := by
  have hsame := (p.hashJson_inj hsha h).get k
  rw [hf, hg] at hsame
  exact Json.str.inj hsame

theorem requestKey_ne (h : d.send p receipt = .ok (name, signed)) (h' : d'.send p receipt' = .ok (name', signed'))
    (hid : d.name p receipt ≠ d'.name p receipt') :
    requestKey p signed ≠ requestKey p signed' := by
  obtain ⟨v, w, hkey⟩ := send_requestKey h
  obtain ⟨v', w', hkey'⟩ := send_requestKey h'
  intro he
  rw [hkey, hkey'] at he
  exact hid (hash_field hsha (k := "delegation_id") he (by simp [Dict.get, Dict.getD]) (by simp [Dict.get, Dict.getD]))

theorem resultKey_ne (hid : id ≠ id') : d.resultKey p receipt id ≠ d'.resultKey p receipt' id' := fun he =>
  hid (hash_field hsha (k := "delegation_id") he (by simp [Dict.get, Dict.getD]) (by simp [Dict.get, Dict.getD]))

theorem request_ne_result (h : d.send p receipt = .ok (name, signed)) :
    requestKey p signed ≠ d'.resultKey p receipt' id' := by
  obtain ⟨v, w, hkey⟩ := send_requestKey h
  intro he
  rw [hkey] at he
  obtain ⟨x, hx, -⟩ := (p.hashJson_inj hsha he).field (k := "request_hash") (List.mem_cons_of_mem _ List.mem_cons_self)
  simp [Dict.ofList, Text.ofString_inj] at hx

end

/-! ## The cache -/

namespace NonceCache

/-- Accepting one nonce leaves the others acceptable. -/
theorem Admits.of_consume {c c' : NonceCache} {now now' : ℚ} {nonce other : Json} (hr : Reached c now)
    (h : c.consume now other = (.ok (), c')) (hnow : now ≤ now') (hne : element nonce ≠ element other)
    (hadmits : Admits c now' nonce) : Admits c' now' nonce where
  truthy := hadmits.truthy
  hashable := hadmits.hashable
  unseen := by
    obtain ⟨accepted, last, hlast, hc⟩ := hr.remembers
    have hc' : Remembers (accepted ++ [(element other, now)]) c' now := by
      rcases consume_cases hc hlast other with ⟨heq, -⟩ | ⟨heq, -⟩ | ⟨c₁, heq, -, -, -, hc₁⟩
      · rw [heq] at h
        cases h
      · rw [heq] at h
        cases h
      · rw [heq] at h
        cases h
        exact hc₁
    obtain ⟨hp, hfresh⟩ := hc.prune (hlast.trans hnow)
    obtain ⟨hp', hfresh'⟩ := hc'.prune hnow
    have hunseen := hadmits.unseen
    rw [← Bool.not_eq_true, hp.contains_iff hfresh] at hunseen
    rw [← Bool.not_eq_true, hp'.contains_iff hfresh']
    rintro ⟨pre, t, post, heq, hlt, hnotMem, hcount⟩
    apply hunseen
    -- the entry of this nonce is not the new one
    rcases Log.append_eq_cases heq with ⟨post', hpre, rfl⟩ | ⟨pre', -, hlast⟩
    · rw [List.map_append, List.mem_append, not_or] at hnotMem
      refine ⟨pre, t, post', hpre, hlt, hnotMem.1, lt_of_le_of_lt (Log.distinct_mono fun k hk => ?_) hcount⟩
      rw [List.map_append]
      exact List.mem_append_left _ hk
    · cases pre' with
      | nil =>
        rw [List.nil_append, List.cons.injEq, Prod.mk.injEq] at hlast
        exact absurd hlast.1.1.symm hne
      | cons e pre' => simp at hlast

end NonceCache

/-! ## One delegation after another -/

theorem purge_new {L : Ledger} {now : ℚ} {k : Str} (h : L k = none) : L.purge now k = none := by
  rw [Ledger.purge, h, Option.filter_none]

/-- The verifier's state after other calls on the ledger. -/
def VerifierState.after (p : Platform) (s : VerifierState) (calls : List Call) : VerifierState :=
  { s with ledger := (execAll p s.ledger calls).2 }

/-- The keys and the nonce of a delegation are new. The calls of other processes, `earlier` than the delegation or `during` its
handler, leave its keys alone; a heartbeat of its own may be among the latter. -/
structure Delegation.Alone (p : Platform) (d : Delegation) (receipt : Dict) (id : Str) (earlier during : List Call)
    (s : VerifierState) : Prop where
  request : ∀ name signed, d.send p receipt = .ok (name, signed) → s.ledger (requestKey p signed) = none ∧
    (∀ c ∈ earlier, c.key ≠ requestKey p signed) ∧
    ∀ secret, requestReplayIntegrityKey p d.workerEnv d.worker.integrity d.worker.identity = .ok secret →
      ∀ c ∈ during, c.Harmless (requestKey p signed) secret
  result : s.ledger (d.resultKey p receipt id) = none
  earlier : ∀ c ∈ earlier, c.key ≠ d.resultKey p receipt id
  during : ∀ c ∈ during, c.key ≠ d.resultKey p receipt id
  between : ∀ c ∈ d.between, c.key ≠ d.resultKey p receipt id
  nonce : s.cache.Admits d.resultClock.monotonic (.str d.circumstances.clock.resultNonce)

section
variable {p : Platform} {d d' : Delegation} {receipt receipt' : Dict} {id : Str} {before before' during during' : List Call}
  {s : VerifierState} {x : Delivered}

theorem Delegation.Alone.first (h : d.Alone p receipt id before during s)
    (hduring : ∀ L, d.circumstances.during L = (execAll p L during).2) : d.Undisturbed p receipt id (s.after p before) where
  unseen name signed hsend := by
    obtain ⟨hnone, hbefore, -⟩ := h.request name signed hsend
    exact purge_new (execAll_none hnone hbefore)
  unconsumed := execAll_none h.result h.earlier
  during := ⟨during, hduring, h.during, fun name signed secret hsend => (h.request name signed hsend).2.2 secret⟩
  between := h.between
  nonce := h.nonce

/-- After a delegation under another id, the next one is undisturbed by it, with whatever cache its coordinator has by then. -/
theorem Delegation.Alone.after (hsha : Function.Injective p.sha256)
    (h : d'.Alone p receipt' id (before ++ during ++ d.between ++ before') during' s)
    (hduring' : ∀ L, d'.circumstances.during L = (execAll p L during').2)
    (hx : d.deliver p receipt (s.after p before) = .ok x) (hduring : ∀ L, d.circumstances.during L = (execAll p L during).2)
    (hid : d.name p receipt ≠ d'.name p receipt') (hname : d'.name p receipt' = id) {cache : NonceCache}
    (hnonce : cache.Admits d'.resultClock.monotonic (.str d'.circumstances.clock.resultNonce)) :
    d'.Undisturbed p receipt' id (VerifierState.after p ⟨cache, x.verifier.ledger⟩ before') := by
  -- what is under a key that neither the delegation nor the calls are about
  have hnone : ∀ {k}, s.ledger k = none → (∀ c ∈ before ++ during ++ d.between ++ before', c.key ≠ k) →
      (∀ name signed, d.send p receipt = .ok (name, signed) → requestKey p signed ≠ k) →
      d.resultKey p receipt (d.name p receipt) ≠ k → (execAll p x.verifier.ledger before').2 k = none := by
    intro k hk hcalls hrequest hresult
    have hbefore : (execAll p s.ledger before).2 k = none := execAll_none hk fun c hc => hcalls c (by simp [hc])
    refine execAll_none ?_ fun c hc => hcalls c (by simp [hc])
    exact delivered_none hx hbefore hrequest hresult hduring (fun c hc => hcalls c (by simp [hc]))
      fun c hc => hcalls c (by simp [hc])
  exact {
    unseen := by
      intro name signed hsend
      obtain ⟨hk, hcalls, -⟩ := h.request name signed hsend
      exact purge_new (hnone hk hcalls (fun _ _ hsend' => requestKey_ne hsha hsend' hsend hid)
        (request_ne_result hsha hsend).symm)
    unconsumed := hnone h.result h.earlier (fun _ _ hsend' => request_ne_result hsha hsend')
      (resultKey_ne hsha (hname ▸ hid))
    during := ⟨during', hduring', h.during, fun name signed secret hsend => (h.request name signed hsend).2.2 secret⟩
    between := h.between
    nonce := hnonce }

/-- In the same process, the cache has the nonce of the first one. -/
theorem Delegation.Alone.next (hsha : Function.Injective p.sha256)
    (h : d'.Alone p receipt' id (before ++ during ++ d.between ++ before') during' s)
    (hduring' : ∀ L, d'.circumstances.during L = (execAll p L during').2)
    (hx : d.deliver p receipt (s.after p before) = .ok x) (hduring : ∀ L, d.circumstances.during L = (execAll p L during).2)
    (hid : d.name p receipt ≠ d'.name p receipt') (hname : d'.name p receipt' = id)
    (hcache : s.cache.Reached d.resultClock.monotonic) (hclock : d.resultClock.monotonic ≤ d'.resultClock.monotonic)
    (hnonce : d'.circumstances.clock.resultNonce ≠ d.circumstances.clock.resultNonce) :
    d'.Undisturbed p receipt' id (x.verifier.after p before') := by
  obtain ⟨v, hv⟩ := delivered_sound hx
  refine h.after hsha hduring' hx hduring hid hname (h.nonce.of_consume hcache (delivered_consumed hx hv).1 hclock ?_)
  simpa [element] using hnonce

end

end Adn
