import Adn.CompletedOnce
import Adn.ParameterBinding
/-!
# How long a row is kept

A `begin` keeps its row for the shortest window the request has, so that the
same request cannot come back as new while it is valid. But `purge` deletes a
row at its expiry, where the request still passes (`expires_at` is compared with
`<=` there and with `<` in the validation), a `begin` may come after the expiry
its validation read, and a request without times gets new ones at each reading.
Where none of these happens the row outlives the request (`retention_covers`).
-/

open Lib

namespace Adn

/-! ## When a request is valid -/

section
variable (p : Platform) (signed : Dict)

/-- `validate_delegation_request` accepts the request somewhere, at one reading of the clock. -/
def ValidAt (now : ℚ) : Prop :=
  ∃ env ctx message key, validateDelegationRequest p env ⟨now, now, now, now, now⟩ ctx signed = .ok (true, message, key)

/-- The request has an expiry of its own, the same at each reading and not zero. -/
def Dated : Prop :=
  ∃ v : Json, v.truthy = true ∧ ∀ now request, DelegationRequest.fromActionRequest now signed = .ok request →
    request.expiresAt = v

/-- A timestamp that is past. -/
def Lapsed (now : ℚ) (v : Json) : Prop :=
  ∃ t d, v = .str t ∧ p.fromisoformat t = some d ∧ d.timestamp < now

/-- The envelope, the receipt around the request or the gateway's proof in it has expired. -/
def Closed (now : ℚ) : Prop :=
  Lapsed p now (signed.get "expires_at") ∨
    ∃ receipt : Dict, delegated signed "tee_authorization" .null = .obj receipt ∧
      (Lapsed p now (receipt.get "authorization_expires_at") ∨
        ∃ proof : Dict, receipt.get "gateway_proof" = .obj proof ∧ Lapsed p now (proof.get "expires_at"))

/-- The request is valid at no reading past `t`. -/
def CoveredBy (t : Time) : Prop := ∀ now, ValidAt p signed now → (now : Time) ≤ t

end

section
variable {p : Platform} {signed : Dict} {now : ℚ}

theorem Unexpired.not_lapsed {v : Json} (h : Unexpired p now v) : ¬Lapsed p now v := by
  obtain ⟨t, d, rfl, hd, hle⟩ := h
  rintro ⟨t', d', ht, hd', hlt⟩
  cases ht
  rw [hd] at hd'
  cases hd'
  exact absurd hlt (not_lt.2 hle)

theorem verified_unexpired {env : Env} {proof : Dict} {action : Str}
    (h : ∃ err, verifyActionRequest p env now proof action = .ok (true, err)) : Unexpired p now (proof.get "expires_at") := by
  obtain ⟨err, hv⟩ := h
  exact (verifyActionRequest_ok.1 hv).1.unexpired

/-- What is valid at a reading is reconstructed there, and what it comes with has not expired. -/
theorem ValidAt.spec (h : ValidAt p signed now) : Unexpired p now (signed.get "expires_at") ∧
    ∃ request, DelegationRequest.fromActionRequest now signed = .ok request ∧ request.isExpired now = .ok false ∧
      ∀ receipt : Dict, request.teeAuthorization = .obj receipt → receipt ≠ [] →
        Unexpired p now (receipt.get "authorization_expires_at") ∧
          ∃ proof : Dict, receipt.get "gateway_proof" = .obj proof ∧ Unexpired p now (proof.get "expires_at") := by
  obtain ⟨env, ctx, message, key, hv⟩ := h
  obtain ⟨-, request, k, -, hacc⟩ := validateDelegationRequest_ok.1 hv
  refine ⟨verified_unexpired hacc.proof, request, hacc.reconstructed, hacc.unexpired, fun receipt hr hne => ?_⟩
  obtain ⟨receipt', proof, htee⟩ := hacc.authorized (by rw [hr]; simpa [Json.truthy] using hne)
  obtain rfl : receipt' = receipt := Json.obj.inj (htee.present.symm.trans hr)
  exact ⟨htee.authorizes.unexpired, proof, htee.proven.present, verified_unexpired htee.proven.verified⟩

theorem get_ne_nil {receipt : Dict} {k : Str} (h : receipt.get k ≠ .null) : receipt ≠ [] := by
  rintro rfl
  exact h rfl

/-- A request that is closed is not valid. -/
theorem Closed.not_validAt (h : Closed p signed now) : ¬ValidAt p signed now := by
  intro hv
  obtain ⟨henv, request, hreq, -, htee⟩ := hv.spec
  rcases h with h | ⟨receipt, hr, h⟩
  · exact henv.not_lapsed h
  obtain ⟨data, hd, -, -, -, -, -, ht⟩ := fromActionRequest_ok hreq
  have hreceipt : request.teeAuthorization = .obj receipt := by
    rw [ht, ← hr, delegated_of hd]
    rfl
  rcases h with h | ⟨proof, hp, h⟩
  · obtain ⟨t, -, ht, -⟩ := id h
    have hne : receipt ≠ [] := get_ne_nil (k := "authorization_expires_at") (by simp [ht])
    exact (htee receipt hreceipt hne).1.not_lapsed h
  · have hne : receipt ≠ [] := get_ne_nil (k := "gateway_proof") (by simp [hp])
    obtain ⟨-, proof', hp', hu⟩ := htee receipt hreceipt hne
    obtain rfl : proof' = proof := Json.obj.inj (hp'.symm.trans hp)
    exact hu.not_lapsed h

/-! ## What a `begin` keeps its row for -/

theorem time?_toFloat_of {v : Json} {x : PyFloat} {t : Time} (hx : toFloat v = .ok x) (ht : time? x = some t)
    (h : isPast now v = .ok false) : (now : Time) ≤ t := by
  have hn : ∃ y, v.number? = some y ∧ time? y = some t := by
    cases v with
    | float y =>
      cases hx
      cases x with
      | negZero => exact ⟨_, rfl, ht⟩
      | _ => exact ⟨_, rfl, ht⟩
    | int n =>
      simp only [toFloat] at hx
      split at hx <;> cases hx
      exact ⟨_, rfl, ht⟩
    | bool b => cases hx; exact ⟨_, rfl, ht⟩
    | _ => cases hx
  obtain ⟨y, hy, hyt⟩ := hn
  simp only [isPast, hy, hyt, Except.ok.injEq, decide_eq_false_iff_not] at h
  exact not_lt.1 h

theorem time?_pyMin {x y : PyFloat} {t : Time} (h : time? (pyMin x y) = some t) : time? x = some t ∨ time? y = some t := by
  unfold pyMin at h
  split at h
  · split at h
    · exact .inr h
    · exact .inl h
  · exact .inl h

/-- No reading of the clock at which a dated request is valid is past its row's expiry. -/
theorem replayExpiresAt_covers (hd : Dated signed) {postInit t' : ℚ} {request : DelegationRequest} {x : PyFloat} {t : Time}
    (hr : DelegationRequest.fromActionRequest postInit signed = .ok request)
    (hx : replayExpiresAt p t' request = .ok x) (ht : time? x = some t) : CoveredBy p signed t := by
  intro now hv
  obtain ⟨v, htruthy, hdate⟩ := hd
  obtain ⟨-, request', hr', hlive, htee⟩ := hv.spec
  obtain ⟨f, hf, hx⟩ := bind_ok.1 hx
  obtain ⟨receipt, hreceipt, hx⟩ := bind_ok.1 hx
  obtain rfl := pure_ok.1 hx
  rw [hdate _ _ hr, Json.orElse, if_pos htruthy] at hf
  rw [DelegationRequest.isExpired, hdate _ _ hr'] at hlive
  have hwindow : time? f = some t → (now : Time) ≤ t := fun h => time?_toFloat_of hf h hlive
  split at ht
  · rename_i hauth
    split at ht
    · rename_i d hparse
      rcases time?_pyMin ht with h | h
      · exact hwindow h
      -- the receipt expires first
      cases h
      rw [asDict_ok] at hreceipt
      have hne : receipt ≠ [] := get_ne_nil (k := "authorization_expires_at") fun hn => by simp [hn, Json.truthy] at hauth
      have hsame : request'.teeAuthorization = .obj receipt := by
        obtain ⟨data, hd, -, -, -, -, -, ht⟩ := fromActionRequest_ok hr
        obtain ⟨data', hd', -, -, -, -, -, ht'⟩ := fromActionRequest_ok hr'
        obtain rfl : data' = data := Json.obj.inj (hd'.symm.trans hd)
        rw [ht', ← ht]
        rw [orEmpty, Json.orElse] at hreceipt
        split at hreceipt
        · exact hreceipt
        · cases hreceipt
          exact absurd rfl hne
      obtain ⟨⟨text, d', htext, hd', hle⟩, -⟩ := htee receipt hsame hne
      rw [htext, Platform.str] at hparse
      rw [hparse] at hd'
      cases hd'
      exact WithBot.coe_le_coe.2 (WithTop.coe_le_coe.2 hle)
    · exact hwindow ht
  · exact hwindow ht

theorem prepare_covers {env : Env} {agent : Agent} {caller : CallerContext} {clock : PrepareClock} {effects : List Effect}
    {ready : Ready} (hd : Dated signed) (h : prepare p env agent caller clock signed = (effects, .ok ready)) {t : Time}
    (ht : time? ready.args.replayExpiresAt = some t) : CoveredBy p signed t := by
  unfold prepare at h
  split at h
  · cases h
  · rename_i request key hr
    obtain ⟨hreq, -⟩ := receive_ok.1 hr
    obtain ⟨-, -, args, ha, rfl⟩ := authorize_ok.1 (Prod.mk.inj h).2
    obtain ⟨_, -, ha⟩ := bind_ok.1 ha
    obtain ⟨x, hx, ha⟩ := bind_ok.1 ha
    obtain ⟨_, -, ha⟩ := bind_ok.1 ha
    obtain rfl := pure_ok.1 ha
    exact replayExpiresAt_covers hd hreq hx ht

end

/-! ## The pool and its clock -/

section
variable {ι : Type}

/-- The reading a step purges with: a `begin` in its turn, or what others do. -/
def Pool.purges (s : Pool ι) : PoolEvent ι → Option ℚ
  | .work i (.begin (.ok ()) now _) =>
    match s.phase i with
    | .ready _ => some now
    | _ => none
  | .work _ _ => none
  | .other e => e.purges

/-- A pool, the expiry that the row of its request had last, if it has been
written, and the latest reading of a purge since. -/
structure Timed (ι : Type) where
  pool : Pool ι
  retention : Option Time
  clock : Time

def Timed.start (L : Ledger) : Timed ι := ⟨⟨L, fun _ => .fresh⟩, none, ⊥⟩

/-- What a step leaves of the retention under `k`, and of the clock. -/
def Timed.after (k : Str) (s : Timed ι) (e : PoolEvent ι) (pool : Pool ι) : Timed ι :=
  let retention := ((pool.ledger k).map Row.expiresAt).or s.retention
  ⟨pool, retention, if retention.isNone then ⊥ else max s.clock ((s.pool.purges e).elim ⊥ Time.ofRat)⟩

theorem Timed.after_unwritten {k : Str} {s : Timed ι} {e : PoolEvent ι} {pool : Pool ι} (h : pool.ledger k = none)
    (hs : s.retention = none) : s.after k e pool = ⟨pool, none, ⊥⟩ := by
  rw [Timed.after, h, hs]
  rfl

theorem Timed.after_written {k : Str} {s : Timed ι} {e : PoolEvent ι} {pool : Pool ι} (row : Row) {now : ℚ}
    (h : pool.ledger k = some row) (hp : s.pool.purges e = some now) :
    s.after k e pool = ⟨pool, some row.expiresAt, max s.clock now⟩ := by
  rw [Timed.after, h, hp]
  rfl

def TimedStep [DecidableEq ι] (p : Platform) (workers : ι → Worker) (signed : Dict) (s : Timed ι) (e : PoolEvent ι) (s' : Timed ι) :
    Prop :=
  ∃ pool, PoolStep p workers signed s.pool e pool ∧ s' = s.after (requestKey p signed) e pool

/-- A call begins the request as a new one. -/
def AdmitsFirst (k : Str) (s : Pool ι) : PoolEvent ι → Pool ι → Prop
  | .work i (.begin _ now _), s' => (∃ r, s.phase i = .ready r) ∧ (∃ r token, s'.phase i = .running r token) ∧
      s.ledger.purge now k = none
  | _, _ => False

/-- What the retention of a row is for. A purge that deletes it reads the clock
where the request is not valid, and a request whose row has been written is not
new to a later `begin`. -/
structure Covers (p : Platform) (signed : Dict) (s : Timed ι) (e : PoolEvent ι) (s' : Timed ι) : Prop where
  deleted : ∀ row now, s.pool.ledger (requestKey p signed) = some row → s.pool.purges e = some now →
    s.pool.ledger.purge now (requestKey p signed) = none → ¬ValidAt p signed now
  lost : ∀ row, s.pool.ledger (requestKey p signed) = some row → s'.pool.ledger (requestKey p signed) = none →
    ∃ now, s.pool.purges e = some now ∧ s.pool.ledger.purge now (requestKey p signed) = none
  followed : ∀ i now token r, e = .work i (.begin (.ok ()) now token) → s.pool.phase i = .ready r →
    s.retention ≠ none → ∃ row, s.pool.ledger.purge now (requestKey p signed) = some row
  first : AdmitsFirst (requestKey p signed) s.pool e s'.pool → s.retention = none

/-- A `begin` of a request whose row has been written comes before the row's
expiry. What others purge the row with reads past the expiry of a dated request,
not exactly at it, or where the request has expired otherwise. -/
def Timely (p : Platform) (signed : Dict) (s : Timed ι) : PoolEvent ι → Prop
  | .work i (.begin (.ok ()) now _) => ∀ r t, s.pool.phase i = .ready r → s.retention = some t → max s.clock now < t
  | .work _ _ => True
  | .other e => ∀ row now, s.pool.ledger (requestKey p signed) = some row → e.purges = some now → row.expiresAt ≤ now →
      (Dated signed ∧ row.expiresAt ≠ now) ∨ Closed p signed now

end

/-! ## What a step does to the row -/

section
variable {p : Platform} {signed : Dict} {k : Str} {L L' : Ledger}

/-- The ready request of a call is the one it has prepared. -/
theorem advance_ready {w : Worker} {a : Action} {ph ph' : Phase} {r : Ready}
    (h : w.advance p signed ph a L = (ph', L')) (hr : ph'.ready? = some r) :
    ph.ready? = some r ∨ ∃ effects, prepare p w.env w.agent w.caller w.clock signed = (effects, .ok r) := by
  have finished : ∀ {d : Done}, (w.finish p d).ready? = none := rfl
  have stay : (ph, L) = (ph', L') → ph.ready? = some r := fun he => by rw [(Prod.mk.inj he).1]; exact hr
  cases ph with
  | fresh =>
    cases a with
    | prepare =>
      simp only [Worker.advance] at h
      cases hp : prepare p w.env w.agent w.caller w.clock signed with
      | mk effects x =>
        rw [hp] at h
        cases x <;> cases h
        · cases hr
        · cases hr
          exact .inr ⟨effects, rfl⟩
    | crash => cases h; cases hr
    | _ => exact .inl (stay h)
  | ready r' =>
    cases a with
    | begin db now token =>
      simp only [Worker.advance] at h
      split at h <;> cases h
      · cases hr
      · exact .inl hr
    | crash => cases h; cases hr
    | _ => exact .inl (stay h)
  | running r' token =>
    cases a with
    | handled outcome => cases h; exact .inl hr
    | crash => cases h; cases hr
    | _ => exact .inl (stay h)
  | finalizing r' token outcome =>
    cases a with
    | finalize db now =>
      simp only [Worker.advance] at h
      split at h <;> cases h
      · cases hr
      · exact .inl hr
    | crash => cases h; cases hr
    | _ => exact .inl (stay h)
  | failing r' token message =>
    cases a with
    | fail db now => cases h; cases hr
    | crash => cases h; cases hr
    | _ => exact .inl (stay h)
  | returned => cases a <;> exact .inl (stay h)
  | crashed => cases a <;> exact .inl (stay h)

theorem begin_db {db : Except PyErr Unit} {now : ℚ} {token : Str} {a : BeginArgs} (hk : a.replayKey ≠ []) {y : BeginReply × Ledger}
    (h : beginRequestExecution p db now token a L = .ok y) : db = .ok () := by
  rw [beginRequestExecution, if_neg hk] at h
  obtain ⟨_, hdb, -⟩ := bind_ok.1 h
  exact hdb

/-- A `begin` in its turn raises, and nothing changes, or it is a step of the ledger. -/
theorem advance_begin {w : Worker} {db : Except PyErr Unit} {now : ℚ} {token : Str} {r : Ready} {ph' : Phase}
    (hk : r.args.replayKey ≠ []) (h : w.advance p signed (.ready r) (.begin db now token) L = (ph', L')) :
    (L' = L ∧ ∀ r' t, ph' ≠ .running r' t) ∨
      (db = .ok () ∧ ∃ reply, BeginStep now token r.args L reply L') := by
  simp only [Worker.advance] at h
  cases hx : beginRequestExecution p db now token r.args L with
  | error e =>
    rw [hx] at h
    cases h
    refine .inl ⟨rfl, ?_⟩
    intro r' t hf
    cases hf
  | ok y =>
    refine .inr ⟨begin_db hk hx, y.1, ?_⟩
    rw [hx] at h
    have hL : L' = y.2 := by
      cases hb : afterBegin w.agent w.clock r (.ok y) with
      | error d =>
        rw [hb] at h
        cases h
        rfl
      | ok t =>
        rw [hb] at h
        cases h
        rfl
    rw [hL]
    exact begin_step hx

/-- A finalize keeps the row's expiry. -/
theorem finalize_expiry {now : ℚ} {k' state : Str} {token : Option Str} {ok : Bool}
    (h : FinalizeStep now k' state token L ok L') : L' k = L k ∨
      ∃ row row', L k = some row ∧ L' k = some row' ∧ row'.expiresAt = row.expiresAt := by
  cases h with
  | refused => exact .inl rfl
  | recorded row row' _ hr _ hs =>
    by_cases hk : k = k'
    · subst hk
      exact .inr ⟨row, row', hr, Function.update_self .., hs.expiresAt_eq rfl⟩
    · exact .inl (Function.update_of_ne hk _ _)

theorem heartbeat_expiry {now : ℚ} {k' : Str} {token : Option Str} {ok : Bool} (h : HeartbeatStep now k' token L ok L') :
    L' k = L k ∨ ∃ row row', L k = some row ∧ L' k = some row' ∧ row'.expiresAt = row.expiresAt := by
  cases h with
  | refused => exact .inl rfl
  | renewed row row' hr _ _ hs =>
    by_cases hk : k = k'
    · subst hk
      exact .inr ⟨row, row', hr, Function.update_self .., hs.expiresAt_eq rfl⟩
    · exact .inl (Function.update_of_ne hk _ _)

/-- A `begin` leaves a row: the one that was there, maybe with an earlier expiry
of its own request, or a new one with that expiry. -/
theorem begin_expiry {now : ℚ} {token : Str} {a : BeginArgs} {reply : BeginReply} (hk : a.replayKey ≠ [])
    (h : BeginStep now token a L reply L') : ∃ row', L' a.replayKey = some row' ∧
      ((∃ row, L.purge now a.replayKey = some row ∧ (row'.expiresAt = row.expiresAt ∨
          time? (pyMin row.expiresAt.toFloat a.replayExpiresAt) = some row'.expiresAt)) ∨
        (L.purge now a.replayKey = none ∧ time? a.replayExpiresAt = some row'.expiresAt)) := by
  cases h with
  | keyMissing _ h => exact absurd h hk
  | blocked row _ hr => exact ⟨row, hr, .inl ⟨row, hr, .inl rfl⟩⟩
  | first row hn hs => exact ⟨row, Function.update_self .., .inr ⟨hn, hs.expiresAt⟩⟩
  | exhausted row row' _ _ hr _ _ hs => exact ⟨row', Function.update_self .., .inl ⟨row, hr, .inr hs.expiresAt⟩⟩
  | again row row' hr _ _ hs => exact ⟨row', Function.update_self .., .inl ⟨row, hr, .inr hs.expiresAt⟩⟩

end

section
variable {ι : Type} [DecidableEq ι] {p : Platform} {workers : ι → Worker} {signed : Dict} {k : Str}

/-- What a step leaves under the key. -/
inductive RowStep (k : Str) (s : Pool ι) (e : PoolEvent ι) : Option Row → Prop
  | kept : RowStep k s e (s.ledger k)
  | rewritten {row row' : Row} : s.ledger k = some row → row'.expiresAt = row.expiresAt → RowStep k s e (some row')
  | purged {now : ℚ} {e' : Event} : e = .other e' → e'.purges = some now → RowStep k s e (s.ledger.purge now k)
  | begun {i : ι} {now : ℚ} {token : Str} {r : Ready} {reply : BeginReply} {L' : Ledger} :
      e = .work i (.begin (.ok ()) now token) → s.phase i = .ready r → r.args.replayKey = k → k ≠ [] →
      BeginStep now token r.args s.ledger reply L' → RowStep k s e (L' k)

omit [DecidableEq ι] in
theorem work_row {s : Pool ι} {i : ι} {a : Action} {ph : Phase} {L' : Ledger} (hk : (s.phase i).Keyed (requestKey p signed))
    (h : (workers i).advance p signed (s.phase i) a s.ledger = (ph, L')) :
    RowStep (requestKey p signed) s (.work i a) (L' (requestKey p signed)) := by
  have kept : L' = s.ledger → RowStep (requestKey p signed) s (.work i a) (L' (requestKey p signed)) := by
    rintro rfl
    exact .kept
  have written : (L' (requestKey p signed) = s.ledger (requestKey p signed) ∨ ∃ row row',
      s.ledger (requestKey p signed) = some row ∧ L' (requestKey p signed) = some row' ∧ row'.expiresAt = row.expiresAt) →
      RowStep (requestKey p signed) s (.work i a) (L' (requestKey p signed)) := by
    rintro (he | ⟨row, row', hr, hr', he⟩)
    · rw [he]
      exact .kept
    · rw [hr']
      exact .rewritten hr he
  cases ha : a with
  | begin db now token =>
    subst ha
    cases hph : s.phase i with
    | ready r =>
      obtain ⟨hkey, hne⟩ := hk r (by rw [hph]; rfl)
      rw [hph] at h
      rcases advance_begin (hkey ▸ hne) h with ⟨rfl, -⟩ | ⟨rfl, reply, hb⟩
      · exact .kept
      · exact .begun rfl hph hkey hne hb
    | _ => rw [hph] at h; exact kept (Prod.mk.inj h).2.symm
  | _ =>
    subst ha
    have hadv := (advance_spec hk h).1
    generalize s.phase i = phase at hadv
    cases hadv with
    | idle => exact .kept
    | begun he => cases he
    | completes _ _ hf => exact written (finalize_expiry hf)
    | fails _ hf => exact written (finalize_expiry hf)

theorem pool_row {s s' : Pool ι} {e : PoolEvent ι} (hk : ∀ i, (s.phase i).Keyed (requestKey p signed))
    (h : PoolStep p workers signed s e s') : RowStep (requestKey p signed) s e (s'.ledger (requestKey p signed)) := by
  cases h with
  | work h => exact work_row (hk _) h
  | @other e L' ha h =>
    by_cases hkey : e.key = some (requestKey p signed)
    · cases h with
      | heartbeat h =>
        rcases heartbeat_expiry (k := requestKey p signed) (heartbeat_step h) with he | ⟨row, row', hr, hr', he⟩
        · simp only [he]
          exact .kept
        · simp only [hr']
          exact .rewritten hr he
      | raised => exact .kept
      | _ => exact absurd hkey ha
    · rcases step_other h hkey with he | ⟨now, hn, he⟩
      · simp only [he]
        exact .kept
      · simp only [he]
        exact .purged rfl hn

/-! ## Every run -/

/-- What holds in every state: the retention is the expiry of the row, as long as
it is there, and for a dated request the row and those to come outlive it. -/
structure Kept (p : Platform) (signed : Dict) (s : Timed ι) : Prop where
  keyed : ∀ i, (s.pool.phase i).Keyed (requestKey p signed)
  ready : Dated signed → ∀ i r t, (s.pool.phase i).ready? = some r → time? r.args.replayExpiresAt = some t →
    CoveredBy p signed t
  retained : ∀ row, s.pool.ledger (requestKey p signed) = some row → s.retention = some row.expiresAt
  covered : Dated signed → ∀ row, s.pool.ledger (requestKey p signed) = some row → CoveredBy p signed row.expiresAt
  gone : s.pool.ledger (requestKey p signed) = none → ∀ t, s.retention = some t → t ≤ s.clock

theorem purge_none {L : Ledger} {now : ℚ} {row : Row} (hr : L k = some row) (h : L.purge now k = none) :
    row.expiresAt ≤ now := by
  rw [← not_lt]
  intro hlt
  rw [purge_some.2 ⟨hr, hlt⟩] at h
  cases h

omit [DecidableEq ι] in
/-- A later `begin` in time finds the row. -/
theorem Kept.finds {s : Timed ι} (hI : Kept p signed s) {i : ι} {now : ℚ} {token : Str} {r : Ready}
    (ht : Timely p signed s (.work i (.begin (.ok ()) now token))) (hp : s.pool.phase i = .ready r) {t : Time}
    (hr : s.retention = some t) : ∃ row, s.pool.ledger.purge now (requestKey p signed) = some row := by
  have hlt := ht r t hp hr
  cases hrow : s.pool.ledger (requestKey p signed) with
  | none => exact absurd (hI.gone hrow t hr) (not_le.2 ((le_max_left _ _).trans_lt hlt))
  | some row =>
    have he := (hI.retained row hrow).symm.trans hr
    cases he
    exact ⟨row, purge_some.2 ⟨hrow, (le_max_right _ _).trans_lt hlt⟩⟩

omit [DecidableEq ι] in
/-- What one step leaves under the key, when it is timely. -/
theorem Kept.row_after {s : Timed ι} (hI : Kept p signed s) {e : PoolEvent ι} (ht : Timely p signed s e)
    {o : Option Row} (h : RowStep (requestKey p signed) s.pool e o) :
    (∀ row', o = some row' → Dated signed → CoveredBy p signed row'.expiresAt) ∧
      (o = none → ∀ row, s.pool.ledger (requestKey p signed) = some row →
        ∃ now, s.pool.purges e = some now ∧ s.pool.ledger.purge now (requestKey p signed) = none) := by
  cases h with
  | kept =>
    exact ⟨fun row' hr hd => hI.covered hd row' hr, fun hn row hr => by rw [hn] at hr; cases hr⟩
  | rewritten hr he =>
    refine ⟨fun row' hr' hd => ?_, nofun⟩
    cases hr'
    rw [he]
    exact hI.covered hd _ hr
  | @purged now e' he hn =>
    subst he
    exact ⟨fun row' hr hd => hI.covered hd row' (purge_some.1 hr).1, fun hnone row _ => ⟨now, hn, hnone⟩⟩
  | @begun i now token r reply L' he hp hkey hne hb =>
    subst he
    obtain ⟨row', hr', hrow⟩ := begin_expiry (hkey ▸ hne) hb
    rw [hkey] at hr' hrow
    refine ⟨fun row'' hr'' hd => ?_, fun hn => by rw [hn] at hr'; cases hr'⟩
    rw [hr'] at hr''
    cases hr''
    have hargs : ∀ t, time? r.args.replayExpiresAt = some t → CoveredBy p signed t := fun t =>
      hI.ready hd i r t (by rw [hp]; rfl)
    rcases hrow with ⟨row, hr, he | he⟩ | ⟨-, he⟩
    · rw [he]
      exact hI.covered hd row (purge_some.1 hr).1
    · rcases time?_pyMin he with h | h
      · rw [time?_toFloat] at h
        rw [← Option.some.inj h]
        exact hI.covered hd row (purge_some.1 hr).1
      · exact hargs _ h
    · exact hargs _ he

theorem kept_step {s s' : Timed ι} {e : PoolEvent ι} (hI : Kept p signed s) (h : TimedStep p workers signed s e s')
    (ht : Timely p signed s e) : Kept p signed s' := by
  obtain ⟨pool, hs, rfl⟩ := h
  obtain ⟨hcovered, hgone⟩ := hI.row_after ht (pool_row hI.keyed hs)
  have hphase : ∀ i, (pool.phase i).Keyed (requestKey p signed) ∧ (Dated signed → ∀ r t,
      (pool.phase i).ready? = some r → time? r.args.replayExpiresAt = some t → CoveredBy p signed t) := by
    intro j
    cases hs with
    | other => exact ⟨hI.keyed j, fun hd => hI.ready hd j⟩
    | @work i _ phase _ h =>
      by_cases hj : j = i
      · subst hj
        simp only [Function.update_self]
        refine ⟨(advance_spec (hI.keyed j) h).2, fun hd r t hr ht => ?_⟩
        rcases advance_ready h hr with hr | ⟨effects, hp⟩
        · exact hI.ready hd j r t hr ht
        · exact prepare_covers hd hp ht
      · simp only [Function.update_of_ne hj]
        exact ⟨hI.keyed j, fun hd => hI.ready hd j⟩
  refine ⟨fun i => (hphase i).1, fun hd i => (hphase i).2 hd, fun row hr => ?_,
    fun hd row hr => hcovered row hr hd, fun hn t hr => ?_⟩
  · simp only [Timed.after] at hr ⊢
    rw [hr]
    rfl
  · simp only [Timed.after] at hn hr ⊢
    rw [hn, Option.map_none, Option.none_or] at hr
    rw [hn, Option.map_none, Option.none_or, hr]
    simp only [Option.isNone_some, Bool.false_eq_true, if_false]
    cases hrow : s.pool.ledger (requestKey p signed) with
    | none => exact (hI.gone hrow t hr).trans (le_max_left _ _)
    | some row =>
      obtain ⟨now, hpurge, hnone⟩ := hgone hn row hrow
      obtain rfl : row.expiresAt = t := Option.some.inj ((hI.retained row hrow).symm.trans hr)
      rw [hpurge]
      exact (purge_none hrow hnone).trans (le_max_right _ _)

omit [DecidableEq ι] in
theorem kept_start {L₀ : Ledger} (h0 : L₀ (requestKey p signed) = none) : Kept p signed (Timed.start (ι := ι) L₀) where
  keyed i := keyed_of_none rfl
  ready _ i r t hr := by cases hr
  retained row hr := by
    simp only [Timed.start, h0] at hr
    cases hr
  covered _ row hr := by
    simp only [Timed.start, h0] at hr
    cases hr
  gone _ t ht := by cases ht

/-- A timely step from a state with the invariant. -/
theorem Kept.covers {s s' : Timed ι} {e : PoolEvent ι} (hI : Kept p signed s) (h : TimedStep p workers signed s e s')
    (ht : Timely p signed s e) : Covers p signed s e s' := by
  obtain ⟨pool, hs, rfl⟩ := h
  have followed : ∀ i now token r, e = .work i (.begin (.ok ()) now token) → s.pool.phase i = .ready r →
      s.retention ≠ none → ∃ row, s.pool.ledger.purge now (requestKey p signed) = some row := by
    rintro i now token r rfl hp hne
    obtain ⟨t, hr⟩ := Option.ne_none_iff_exists'.1 hne
    exact hI.finds ht hp hr
  refine ⟨fun row now hr hp hn => ?_, fun row hr hn => (hI.row_after ht (pool_row hI.keyed hs)).2 hn row hr, followed,
    fun hf => ?_⟩
  · cases e with
    | work i a =>
      -- a `begin` finds the row
      cases a with
      | begin db at' token =>
        cases db with
        | error e => cases hp
        | ok u =>
          cases hphase : s.pool.phase i with
          | ready r =>
            simp only [Pool.purges, hphase] at hp
            cases hp
            obtain ⟨row', hr'⟩ := hI.finds ht hphase (hI.retained row hr)
            rw [hn] at hr'
            cases hr'
          | _ => simp [Pool.purges, hphase] at hp
      | _ => cases hp
    | other e' =>
      rcases ht row now hr hp (purge_none hr hn) with ⟨hd, hne⟩ | hclosed
      · intro hv
        exact hne (le_antisymm (purge_none hr hn) (hI.covered hd row hr now hv))
      · exact hclosed.not_validAt
  · cases e with
    | work i a =>
      cases a with
      | begin db now token =>
        obtain ⟨⟨r, hp⟩, ⟨r', token', hp'⟩, hn⟩ := hf
        cases hs with
        | @work _ _ phase _ h =>
          obtain ⟨hkey, hne⟩ := hI.keyed i r (by rw [hp]; rfl)
          rw [hp] at h
          have hp' : Function.update s.pool.phase i phase i = .running r' token' := hp'
          rw [Function.update_self] at hp'
          rcases advance_begin (hkey ▸ hne) h with ⟨-, hnot⟩ | ⟨rfl, -⟩
          · exact absurd hp' (hnot r' token')
          · by_contra hr
            obtain ⟨row, hrow⟩ := followed i now token r rfl hp hr
            rw [hn] at hrow
            cases hrow
      | _ => exact hf.elim
    | other => exact hf.elim

/-- Any number of calls share a request that the ledger has not seen. In every
run whose steps are `Timely` the row outlives the request. -/
theorem retention_covers (p : Platform) (workers : ι → Worker) (signed : Dict) {L₀ : Ledger}
    (h0 : L₀ (requestKey p signed) = none) {es : List (PoolEvent ι)} {s : Timed ι}
    (h : Run (Meeting (TimedStep p workers signed) (Timely p signed)) (Timed.start L₀) es s) {e : PoolEvent ι} {s' : Timed ι}
    (hs : TimedStep p workers signed s e s') (ht : Timely p signed s e) : Covers p signed s e s' := by
  have hI : Kept p signed s :=
    h.inv (I := Kept p signed) (kept_start h0) fun s e s' hI hs => kept_step hI hs.1 hs.2
  exact hI.covers hs ht

end

/-! ### A request at its expiry -/

namespace Sample

/-- A request to `PING` that expires with its envelope. -/
def endingData : Dict :=
  Dict.ofList [("from_agent_id", .str signer.agentId), ("to_agent_id", .str "worker"), ("action", .str "PING"),
    ("parameters", .null), ("expires_at", .int 300)]

def ending : Dict := request (some (.obj endingData)) endingData

def endingRequest (t : ℚ) : DelegationRequest :=
  { pingRequest signer.agentId .null with issuedAt := .float (.finite t), expiresAt := .int 300 }

theorem fromActionRequest_ending {t : ℚ} : DelegationRequest.fromActionRequest t ending = .ok (endingRequest t) := by
  have hn : ending.getD "nonce" (.str []) = .str "n" := by
    simp [ending, request, Dict.getD, Dict.get?_append, Signer.get?_envelope, Signer.get?_payload]
  rw [DelegationRequest.fromActionRequest, ending, delegationData_request, asDict, ← ending, hn]
  simp [endingData, endingRequest, pingRequest, Dict.get, Dict.getD, zeroTime, issuedAtOr, expiresAtOr, capabilitiesOr,
    isNull, Json.pyEq, Json.number?, Json.numberEq, bind, Except.bind, pure, Except.pure]

theorem unexpired_ending {t : ℚ} (ht : t ≤ 300) : (endingRequest t).isExpired t = .ok false := by
  rw [DelegationRequest.isExpired, endingRequest, isPast_int]
  simpa using ht

theorem ending_valid {t : ℚ} (ht : t ≤ 300) : ∃ key, validateDelegationRequest platform env ⟨t, t, t, t, t⟩ ctx ending =
    .ok (true, "Delegation request is valid", key) := by
  have hk : replayKey platform ending (endingRequest t) = .ok _ := replayKey_ok.2 ⟨[], rfl, rfl⟩
  refine ⟨_, validateDelegationRequest_ok.2 ⟨rfl, endingRequest t, _, rfl, {
    proof := ⟨[], verifyActionRequest_envelope (fun _ => keyPair 7) expires_late (by simpa [DateTime.timestamp] using ht)
      (by simp [Dict.has])⟩
    dataHash := ?_
    reconstructed := fromActionRequest_ending
    unexpired := unexpired_ending ht
    target := rfl
    required := nofun
    authorized := by simp [endingRequest, pingRequest, Json.truthy]
    key_eq := hk
    key_ne := platform.hashJson_ne (by simp [platform]) _ }⟩⟩
  rw [ending, delegationData_request]
  simp [request, Dict.has, Dict.get, Dict.getD, Dict.get?_append, Signer.get?_envelope, Signer.get?_payload]

theorem expires_ending {t t' : ℚ} : replayExpiresAt platform t' (endingRequest t) = .ok (.finite 300) := by
  have hf : toFloat (.int 300) = .ok (.finite 300) := by decide +kernel
  have ht : (Json.int 300).truthy = true := by decide
  rw [replayExpiresAt, endingRequest, Json.orElse, if_pos ht, hf]
  rfl

/-- A call that reads the clock at `t` until it begins. -/
def endingWorker (t : ℚ) : Worker :=
  { sharedWorker with clock := ⟨t, t, ⟨t, t, t, t, t⟩, t, t, "r"⟩ }

def endingKey : Str := requestKey platform ending

def endingArgs : BeginArgs := ⟨endingKey, .finite 300, "worker", .str [], sharedFingerprint, none⟩

theorem ending_prepared {t : ℚ} (ht : t ≤ 300) : endingKey ≠ [] ∧
    prepare platform env (endingWorker t).agent caller (endingWorker t).clock ending =
      ([.policyEvaluated (.str signer.agentId) "worker" (.str "PING")], .ok ⟨endingRequest t, endingArgs⟩) := by
  obtain ⟨key, hv⟩ := ending_valid ht
  have hr : receive platform env (endingWorker t).agent caller (endingWorker t).clock ending =
      .ok (endingRequest t, key) :=
    receive_ok.2 ⟨fromActionRequest_ending, unexpired_ending ht, rfl, _, _, rfl, hv⟩
  obtain ⟨-, _, k, rfl, hacc⟩ := validateDelegationRequest_ok.1 hv
  have hkey : k = endingKey := hacc.requestKey
  have ha : Adn.beginArgs platform env (endingWorker t).agent (endingWorker t).clock (endingRequest t) (some k) =
      .ok endingArgs := by
    rw [Adn.beginArgs, expires_ending, hkey]
    rfl
  refine ⟨hkey ▸ hacc.key_ne, ?_⟩
  rw [prepare, hr]
  exact Prod.ext rfl (authorize_ok.2 ⟨⟨_, rfl⟩, rfl, _, ha, rfl⟩)

/-- The row that a first `begin` at `now` writes. -/
def endingRow (now : ℚ) (token : Str) : Row where
  kind := requestKind
  state := stateRunning
  attemptCount := 1
  maxAttempts := maxRequestAttempts
  firstSeenAt := now
  updatedAt := now
  expiresAt := (300 : ℚ)
  ownerAgentId := some "worker"
  delegationId := some []
  payloadFingerprint := some sharedFingerprint
  integrityMac := none
  lastError := none
  executionToken := some token

theorem ending_first (now : ℚ) (token : Str) {L : Ledger} (hk : endingKey ≠ []) (hn : L.purge now endingKey = none) :
    beginRequestExecution platform (.ok ()) now token endingArgs L =
      .ok (⟨true, [], some token⟩, Function.update (L.purge now) endingKey (some (endingRow now token))) :=
  begin_first hk hn (writeRecord_eq rfl rfl (bindText_str worker_encodable) rfl
    (bindText_str sharedFingerprint_encodable) rfl)

theorem ending_advance_prepare {t : ℚ} (ht : t ≤ 300) {L : Ledger} : (endingWorker t).advance platform ending .fresh .prepare L =
    (.ready ⟨endingRequest t, endingArgs⟩, L) := by
  have h : prepare platform (endingWorker t).env (endingWorker t).agent (endingWorker t).caller (endingWorker t).clock ending =
    _ := (ending_prepared ht).2
  simp only [Worker.advance, h]

theorem ending_advance_begin (t t' : ℚ) {now : ℚ} {token : Str} {L L' : Ledger}
    (h : beginRequestExecution platform (.ok ()) now token endingArgs L = .ok (⟨true, [], some token⟩, L')) :
    (endingWorker t).advance platform ending (.ready ⟨endingRequest t', endingArgs⟩) (.begin (.ok ()) now token) L =
      (.running ⟨endingRequest t', endingArgs⟩ token, L') := by
  have h : beginRequestExecution platform (.ok ()) now token (Ready.mk (endingRequest t') endingArgs).args L = _ := h
  simp only [Worker.advance, h, afterBegin, ledgerAfter]

/-- One call at time 1, and one at the expiry of the request. -/
def endingWorkers : Bool → Worker
  | true => endingWorker 1
  | false => endingWorker 300

theorem ending_prepare_step {s : Timed Bool} {i : Bool} {t : ℚ} (ht : t ≤ 300) (hw : endingWorkers i = endingWorker t)
    (hp : s.pool.phase i = .fresh) (hn : s.pool.ledger (requestKey platform ending) = none) (hr : s.retention = none) :
    TimedStep platform endingWorkers ending s (.work i .prepare)
      ⟨⟨s.pool.ledger, Function.update s.pool.phase i (.ready ⟨endingRequest t, endingArgs⟩)⟩, none, ⊥⟩ := by
  have ha := ending_advance_prepare ht (L := s.pool.ledger)
  rw [← hw, ← hp] at ha
  refine ⟨_, .work ha, ?_⟩
  rw [Timed.after_unwritten _ hr]
  exact hn

theorem update_ending (L : Ledger) (row : Option Row) :
    Function.update L endingKey row (requestKey platform ending) = row := by
  rw [← endingKey, Function.update_self]

theorem ending_begin_step {s : Timed Bool} (i : Bool) {t t' : ℚ} (now : ℚ) (token : Str) (hw : endingWorkers i = endingWorker t)
    (hp : s.pool.phase i = .ready ⟨endingRequest t', endingArgs⟩) (hk : endingKey ≠ [])
    (hn : s.pool.ledger.purge now endingKey = none) :
    TimedStep platform endingWorkers ending s (.work i (.begin (.ok ()) now token))
      ⟨⟨Function.update (s.pool.ledger.purge now) endingKey (some (endingRow now token)),
        Function.update s.pool.phase i (.running ⟨endingRequest t', endingArgs⟩ token)⟩,
        some (300 : ℚ), max s.clock now⟩ := by
  have hpurges : s.pool.purges (.work i (.begin (.ok ()) now token)) = some now := by simp only [Pool.purges, hp]
  have ha := ending_advance_begin t t' (ending_first now token hk hn)
  rw [← hw, ← hp] at ha
  refine ⟨_, .work ha, ?_⟩
  rw [Timed.after_written (endingRow now token) _ hpurges]
  · rfl
  · simp only [update_ending]

theorem ending_begun (C : Timed Bool → PoolEvent Bool → Prop) (hC : ∀ s i, C s (.work i .prepare))
    (hC' : ∀ s now token, s.retention = none → C s (.work true (.begin (.ok ()) now token))) : ∃ es s,
    Run (Meeting (TimedStep platform endingWorkers ending) C) (Timed.start Ledger.empty) es s ∧
      s.pool.phase false = .ready ⟨endingRequest 300, endingArgs⟩ ∧
      s.pool.ledger (requestKey platform ending) = some (endingRow 1 "a") ∧ s.retention = some (300 : ℚ) ∧
      s.clock = (1 : ℚ) := by
  obtain ⟨hk, -⟩ := ending_prepared (t := 1) (by decide +kernel)
  have r : Run (Meeting (TimedStep platform endingWorkers ending) C) (Timed.start Ledger.empty) [] _ := .nil
  have r := r.snoc ⟨ending_prepare_step (i := true) (by decide +kernel) rfl rfl rfl rfl, hC _ _⟩
  have r := r.snoc ⟨ending_prepare_step (i := false) (le_refl _) rfl rfl rfl rfl, hC _ _⟩
  have r := r.snoc ⟨ending_begin_step true 1 "a" rfl rfl hk rfl, hC' _ _ _ rfl⟩
  refine ⟨_, _, r, rfl, ?_, rfl, rfl⟩
  simp only [update_ending]

/-- The second call begins in time. -/
theorem ending_covered : ∃ es s s', Run (Meeting (TimedStep platform endingWorkers ending) (Timely platform ending))
    (Timed.start Ledger.empty) es s ∧
      TimedStep platform endingWorkers ending s (.work false (.begin (.ok ()) 299 "b")) s' ∧ s.retention = some (300 : ℚ) ∧
      Covers platform ending s (.work false (.begin (.ok ()) 299 "b")) s' := by
  obtain ⟨es, s, hr, -, -, hret, hclock⟩ := ending_begun (Timely platform ending) (fun _ _ => trivial)
    fun s now token hn r t _ ht => by rw [hn] at ht; cases ht
  have hs : TimedStep platform endingWorkers ending s (.work false (.begin (.ok ()) 299 "b")) _ := ⟨_, .work rfl, rfl⟩
  refine ⟨es, s, _, hr, hs, hret, retention_covers platform endingWorkers ending rfl hr hs fun r t _ ht => ?_⟩
  cases hret.symm.trans ht
  rw [hclock]
  decide +kernel

/-- At the exact expiry the row is deleted while the request is valid, and a request that was begun is begun as a new one. -/
theorem begun_again_at_expiry : ∃ es s e s', Run (TimedStep platform endingWorkers ending) (Timed.start Ledger.empty) es s ∧
    TimedStep platform endingWorkers ending s e s' ∧
    (∃ row now, s.pool.ledger (requestKey platform ending) = some row ∧ s.pool.purges e = some now ∧
      s.pool.ledger.purge now (requestKey platform ending) = none ∧ ValidAt platform ending now) ∧
    AdmitsFirst (requestKey platform ending) s.pool e s'.pool ∧ s.retention ≠ none := by
  obtain ⟨hk, -⟩ := ending_prepared (t := 1) (by decide +kernel)
  obtain ⟨es, s, hr, hready, hrow, hret, -⟩ := ending_begun (fun _ _ => True) (fun _ _ => trivial) fun _ _ _ _ => trivial
  have hn : s.pool.ledger.purge 300 endingKey = none := by
    rw [Ledger.purge, endingKey, hrow]
    decide +kernel
  have hs := ending_begin_step (s := s) false 300 "b" rfl hready hk hn
  obtain ⟨key, hv⟩ := ending_valid (t := 300) (le_refl _)
  refine ⟨es, s, .work false (.begin (.ok ()) 300 "b"), _, hr.mono fun _ _ _ h => h.1, hs,
    ⟨_, 300, hrow, by simp only [Pool.purges, hready], hn, _, _, _, _, hv⟩,
    ⟨⟨_, hready⟩, ⟨⟨endingRequest 300, endingArgs⟩, "b", ?_⟩, hn⟩, by simp [hret]⟩
  simp only [Function.update_self]

end Sample

end Adn
