import Adn.WrittenTable
/-!
# Tampering with the ledger

Every row carries a MAC over its values, and every operation checks it before it
looks at the row. `DELETE` comes first though, and goes by the stored
`expires_at` alone: a row whose expiry is moved into the past is gone before it
is checked, and its key is new again (`expired_row_consumed_again`). A change
that leaves the row unexpired is refused by every operation on its key, with the
integrity error where the row can be read and compared (`tamper_evident_iff`).
-/

open Lib

namespace Adn

/-! ## Keys and what they seal -/

/-- The two keys that are derived from the configured secret. -/
structure IntegrityKeys where
  request : List UInt8
  result : List UInt8

/-- The call uses the key of its domain, as its caller has it from `configured_integrity_key`. -/
def Call.KeyedBy (ks : IntegrityKeys) : Call → Prop
  | .begin _ _ a => a.integritySecretHex = some (Hex.hexLower ks.request)
  | .heartbeat _ _ secret _ => secret = some (Hex.hexLower ks.request)
  | .finalize _ _ _ secret _ _ => secret = some (Hex.hexLower ks.request)
  | .consume _ a => a.integritySecretHex = some (Hex.hexLower ks.result)

def Call.secret : Call → Option Str
  | .begin _ _ a => a.integritySecretHex
  | .heartbeat _ _ secret _ => secret
  | .finalize _ _ _ secret _ _ => secret
  | .consume _ a => a.integritySecretHex

/-- One of the two keys. -/
def IntegrityKeys.Has (ks : IntegrityKeys) (key : List UInt8) : Prop := key = ks.request ∨ key = ks.result

/-- Both keys are there, digests are not empty, and neither key MACs two messages alike, nor one as the other. -/
structure Unforgeable (p : Platform) (ks : IntegrityKeys) : Prop where
  request_ne : ks.request ≠ []
  result_ne : ks.result ≠ []
  digest_ne : ∀ key m, ks.Has key → p.hmacSha256 key m ≠ []
  collision_free : ∀ key key' m m', ks.Has key → ks.Has key' → p.hmacSha256 key m = p.hmacSha256 key' m' → m = m'

theorem Call.keyed_secret {p : Platform} {ks : IntegrityKeys} {c : Call} (hks : Unforgeable p ks) (hc : c.KeyedBy ks) :
    ∃ key, ks.Has key ∧ key ≠ [] ∧ c.secret = some (Hex.hexLower key) := by
  cases c with
  | consume => exact ⟨ks.result, .inr rfl, hks.result_ne, hc⟩
  | _ => exact ⟨ks.request, .inl rfl, hks.request_ne, hc⟩

namespace Table

/-- `hmac.new(key, payload, sha256).hexdigest()` -/
def macOf (p : Platform) (key : List UInt8) (k : Str) (v : Values) : Str :=
  Hex.hexLower (p.hmacSha256 key (Text.utf8 (payloadText k v)))

/-- The cell is what a `TEXT` column keeps of the value, which is not bytes. -/
def KeepsText (p : Platform) (v : Value) (c : Column .text) : Prop := ∃ d, v = .json d ∧ storeText p (.json d) = .ok c

/-- The row holds the record, and the record's MAC under one of the keys. -/
structure SealedAs (p : Platform) (ks : IntegrityKeys) (k : Str) (r : Record) (row : Row) : Prop where
  kind : KeepsText p (.json (.str r.kind)) row.kind
  state : KeepsText p (.json (.str r.state)) row.state
  attemptCount : storeInt r.attemptCount = .ok row.attemptCount
  maxAttempts : storeInt r.maxAttempts = .ok row.maxAttempts
  firstSeenAt : storeReal r.firstSeenAt = .ok row.firstSeenAt
  updatedAt : storeReal r.updatedAt = .ok row.updatedAt
  expiresAt : storeReal r.expiresAt = .ok row.expiresAt
  ownerAgentId : KeepsText p r.ownerAgentId row.ownerAgentId
  delegationId : KeepsText p r.delegationId row.delegationId
  payloadFingerprint : KeepsText p r.payloadFingerprint row.payloadFingerprint
  lastError : KeepsText p r.lastError row.lastError
  executionToken : KeepsText p r.executionToken row.executionToken
  mac : ∃ key, ks.Has key ∧ row.integrityMac = textColumn (some (macOf p key k r.values))

/-- Every row was sealed by the program, under a key that is not empty and that SQLite can bind. -/
def Sealed (p : Platform) (ks : IntegrityKeys) (L : Ledger) : Prop :=
  ∀ k row, L k = some row → k ≠ [] ∧ encodable k = true ∧ ∃ r, SealedAs p ks k r row

/-! ## The check -/

/-- `SELECT` and `_verify_integrity` -/
def Row.check (row : Row) (p : Platform) (k : Str) (secret : Option Str) : Except PyErr Values := do
  let existing ← row.fetch
  verifyIntegrity p k existing secret
  return existing

/-- `hmac.compare_digest` does not raise: nothing is there to compare, or an ASCII text. -/
def Cell.isComparable : Cell → Bool
  | .null => true
  | .text s => s.all fun u => u.toNat < 0x80
  | .blob bytes => bytes = []
  | _ => false

/-- The row can be read, written as JSON and compared. -/
structure Row.Comparable (row : Row) : Prop where
  readable : row.cells.any Cell.isUndecodable = false
  covered : row.covered.any Cell.isBlob = false
  mac : row.integrityMac.1.isComparable = true

/-- A row that can be compared and whose MAC is right for its values, for one of the operations. -/
structure ValidMac (p : Platform) (ks : IntegrityKeys) (k : Str) (row : Row) : Prop where
  comparable : row.Comparable
  mac : ∃ key, ks.Has key ∧ row.integrityMac.1 = .text (macOf p key k row.values)

section
variable {p : Platform} {ks : IntegrityKeys} {key : List UInt8} {k : Str} {r : Record} {row row' : Row} {v : Values}

theorem computeIntegrityMac_key (h : key ≠ []) (k : Str) (v : Values) :
    computeIntegrityMac p k v (some (Hex.hexLower key)) =
      if v.covered.any (·.2.isBytes) then .error .typeError else .ok (some (macOf p key k v)) := by
  unfold computeIntegrityMac
  split
  · rename_i heq
    cases heq
  · rename_i heq
    exact absurd (Option.some.inj heq) (Hex.hexLower_ne h)
  · rename_i s _ heq
    obtain rfl := Option.some.inj heq
    rw [Hex.fromHex_hexLower]
    dsimp only
    rw [stableRecordPayload]
    split
    · rfl
    · rfl

theorem isBytes_value (c : Cell) : c.value.isBytes = (c.isUndecodable || c.isBlob) := by
  cases c <;> rfl

theorem readable_cell {c : Cell} (h : row.cells.any Cell.isUndecodable = false) (hc : c ∈ row.cells) :
    c.isUndecodable = false := by
  simpa using List.any_eq_false.1 h c hc

/-- The values of a readable row are bytes where its cells are BLOBs. -/
theorem bytes_covered (h : row.cells.any Cell.isUndecodable = false) :
    row.values.covered.any (·.2.isBytes) = row.covered.any Cell.isBlob := by
  have hbytes : row.values.covered.any (·.2.isBytes) = row.covered.any fun c => c.value.isBytes := by
    simp only [Values.covered, Row.values, Row.covered, List.any_cons, List.any_nil]
  rw [hbytes, Bool.eq_iff_iff, List.any_eq_true, List.any_eq_true]
  refine exists_congr fun c => and_congr_right fun hc => ?_
  rw [isBytes_value, readable_cell h (List.mem_cons_of_mem _ hc), Bool.false_or]

/-- A digest is compared with a text that is not empty. -/
theorem compareMac_value {c : Column .text} {expected : Str} (hread : c.1.isUndecodable = false) (hne : expected ≠ []) :
    compareMac c.1.value expected = if c.1.isComparable then if c.1 = .text expected then .ok () else .error tampered
      else .error .typeError := by
  obtain ⟨c, hc⟩ := c
  cases c with
  | null => rfl
  | integer n => exact absurd hc id
  | real x => exact absurd hc id
  | undecodable bytes => cases hread
  | blob bytes => cases bytes <;> rfl
  | text s =>
    cases s with
    | nil =>
      have hother : (Cell.text [] = .text expected) ↔ False := by simp [hne.symm]
      simp only [hother, if_false]
      rfl
    | cons u us => simp only [compareMac, Cell.value, Cell.isComparable, Value.truthy, Json.truthy, Cell.text.injEq]; rfl

/-- What the check comes to under one of the keys. -/
theorem check_key (hks : Unforgeable p ks) (hkey : ks.Has key) :
    row.check p k (some (Hex.hexLower key)) =
      if row.cells.any Cell.isUndecodable then .error .sqliteError
      else if row.covered.any Cell.isBlob then .error .typeError
      else if row.integrityMac.1.isComparable then
        if row.integrityMac.1 = .text (macOf p key k row.values) then .ok row.values else .error tampered
      else .error .typeError := by
  have hne : key ≠ [] := by
    rcases hkey with rfl | rfl
    · exact hks.request_ne
    · exact hks.result_ne
  have hmacNe : macOf p key k row.values ≠ [] := Hex.hexLower_ne (hks.digest_ne _ _ hkey)
  unfold Row.check Row.fetch
  split_ifs with hread hblob hcomparable hmac
  · rfl
  -- `json.dumps` raises before anything is compared
  · rw [Bool.not_eq_true] at hread
    rw [ok_bind, verifyIntegrity, computeIntegrityMac_key hne, if_pos ((bytes_covered hread).trans hblob)]
    rfl
  all_goals
    rw [Bool.not_eq_true] at hread hblob
    have hmacRead : row.integrityMac.1.isUndecodable = false := readable_cell hread (List.mem_cons_self ..)
    rw [ok_bind, verifyIntegrity, computeIntegrityMac_key hne, bytes_covered hread, hblob, if_neg Bool.false_ne_true, ok_bind]
    dsimp only
    change (compareMac row.integrityMac.1.value (macOf p key k row.values) >>= fun _ => pure row.values) = _
    rw [compareMac_value hmacRead hmacNe]
  · rw [if_pos hcomparable, if_pos hmac]
    rfl
  · rw [if_pos hcomparable, if_neg hmac]
    rfl
  · rw [if_neg hcomparable]
    rfl

/-- A row of the program can be compared, where its MAC is plain. -/
theorem comparable_of {row : Adn.Row} (h : ∀ mac, row.integrityMac = some mac → Text.Plain mac) : (Row.of row).Comparable where
  readable := (plain_of row).1
  covered := (plain_of row).2
  mac := by
    change (textColumn row.integrityMac).1.isComparable = true
    cases hmac : row.integrityMac with
    | none => rfl
    | some mac => exact List.all_eq_true.2 fun u hu => decide_eq_true ((h mac hmac).ascii u hu)

/-- A comparable row passes with its MAC under the key, and fails with the integrity error without. -/
theorem check_comparable (hks : Unforgeable p ks) (hkey : ks.Has key) (hc : row.Comparable) :
    row.check p k (some (Hex.hexLower key)) =
      if row.integrityMac.1 = .text (macOf p key k row.values) then .ok row.values else .error tampered := by
  rw [check_key hks hkey, hc.readable, hc.covered, hc.mac, if_neg Bool.false_ne_true, if_neg Bool.false_ne_true,
    if_pos rfl]

/-- A row that is not comparable fails with another error. -/
theorem check_incomparable (hks : Unforgeable p ks) (hkey : ks.Has key) (hc : ¬row.Comparable) :
    ∃ e, row.check p k (some (Hex.hexLower key)) = .error e ∧ e ≠ tampered := by
  rw [check_key hks hkey]
  split_ifs with hread hblob hcomparable
  · exact ⟨_, rfl, by simp [tampered]⟩
  · exact ⟨_, rfl, by simp [tampered]⟩
  · exact absurd ⟨by simpa using hread, by simpa using hblob, hcomparable⟩ hc
  · exact absurd ⟨by simpa using hread, by simpa using hblob, hcomparable⟩ hc
  · exact ⟨_, rfl, by simp [tampered]⟩

end

/-! ## What an operation writes -/

/-- The ledger after a call: as it was, purged, or with one row written. -/
inductive Leaves (p : Platform) (c : Call) (L : Ledger) : Ledger → Prop
  | kept : Leaves p c L L
  | purged : Leaves p c L (L.purge c.reading)
  | wrote {L₀ L' : Ledger} (r : Record) : L₀ = L ∨ L₀ = L.purge c.reading → c.key ≠ [] → encodable c.key = true →
      writeRecord p c.key r c.secret L₀ = .ok L' → Leaves p c L L'

section
variable {p : Platform} {conv : Conversions} {ks : IntegrityKeys} {key : List UInt8} {k : Str} {row row' : Row}
  {L L' : Ledger} {c : Call} {now : ℚ}

theorem select_ok {found : Option Row} (h : L.select k = .ok found) : encodable k = true ∧ L k = found := by
  unfold Ledger.select at h
  split_ifs at h with hk
  exact ⟨hk, Except.ok.inj h⟩

theorem begin_leaves {token : Str} {a : BeginArgs} {r : BeginReply}
    (h : beginRequestExecution p conv now token a L = .ok (r, L')) : Leaves p (.begin now token a) L L' := by
  unfold beginRequestExecution at h
  split_ifs at h with hk
  · cases h
    exact .kept
  obtain ⟨found, hfound, h⟩ := bind_ok.1 h
  obtain ⟨hencodable, -⟩ := select_ok hfound
  cases found with
  | none =>
    obtain ⟨L₁, hw, h⟩ := bind_ok.1 h
    cases h
    exact .wrote _ (.inr rfl) hk hencodable hw
  | some row =>
    obtain ⟨existing, -, h⟩ := bind_ok.1 h
    obtain ⟨_, -, h⟩ := bind_ok.1 h
    simp only [beginAgain, bind_ok] at h
    obtain ⟨_, -, _, -, _, -, _, -, _, -, h⟩ := h
    split_ifs at h
    · cases h
      exact .purged
    · cases h
      exact .purged
    · cases h
      exact .purged
    · obtain ⟨L₁, hw, h⟩ := bind_ok.1 h
      cases h
      exact .wrote _ (.inr rfl) hk hencodable hw
    · obtain ⟨L₁, hw, h⟩ := bind_ok.1 h
      cases h
      exact .wrote _ (.inr rfl) hk hencodable hw

theorem heartbeat_leaves {secret token : Option Str} {b : Bool}
    (h : heartbeatRequestExecution p conv now k secret token L = .ok (b, L')) : Leaves p (.heartbeat now k secret token) L L' := by
  unfold heartbeatRequestExecution at h
  split_ifs at h with hk
  · cases h
    exact .kept
  obtain ⟨found, hfound, h⟩ := bind_ok.1 h
  obtain ⟨hencodable, -⟩ := select_ok hfound
  cases found with
  | none =>
    cases h
    exact .kept
  | some row =>
    obtain ⟨existing, -, h⟩ := bind_ok.1 h
    obtain ⟨_, -, h⟩ := bind_ok.1 h
    split_ifs at h
    · cases h
      exact .kept
    · cases h
      exact .kept
    · obtain ⟨r, -, h⟩ := bind_ok.1 h
      obtain ⟨L₁, hw, h⟩ := bind_ok.1 h
      cases h
      exact .wrote _ (.inl rfl) hk hencodable hw

theorem finalize_leaves {state : Str} {secret error token : Option Str} {b : Bool}
    (h : finalizeRequestExecution p conv now k state secret error token L = .ok (b, L')) :
    Leaves p (.finalize now k state secret error token) L L' := by
  unfold finalizeRequestExecution at h
  split_ifs at h with hk
  · cases h
    exact .kept
  obtain ⟨found, hfound, h⟩ := bind_ok.1 h
  obtain ⟨hencodable, -⟩ := select_ok hfound
  cases found with
  | none =>
    cases h
    exact .kept
  | some row =>
    obtain ⟨existing, -, h⟩ := bind_ok.1 h
    obtain ⟨_, -, h⟩ := bind_ok.1 h
    by_cases hm : tokenMismatch existing.executionToken token = true
    · rw [if_pos hm] at h
      cases h
      exact .kept
    · rw [if_neg hm] at h
      obtain ⟨final, -, h⟩ := bind_ok.1 h
      obtain ⟨r, -, h⟩ := bind_ok.1 h
      obtain ⟨L₁, hw, h⟩ := bind_ok.1 h
      cases h
      exact .wrote _ (.inl rfl) hk hencodable hw

theorem consume_leaves {a : ConsumeArgs} {r : Bool × Str} (h : consumeResultReplay p now a L = .ok (r, L')) :
    Leaves p (.consume now a) L L' := by
  unfold consumeResultReplay at h
  split_ifs at h with hk hs
  · cases h
    exact .kept
  · cases h
    exact .kept
  obtain ⟨found, hfound, h⟩ := bind_ok.1 h
  obtain ⟨hencodable, -⟩ := select_ok hfound
  cases found with
  | none =>
    obtain ⟨L₁, hw, h⟩ := bind_ok.1 h
    cases h
    exact .wrote _ (.inr rfl) hk hencodable hw
  | some row =>
    obtain ⟨existing, -, h⟩ := bind_ok.1 h
    obtain ⟨_, -, h⟩ := bind_ok.1 h
    cases h
    exact .purged

theorem exec_leaves (p : Platform) (conv : Conversions) (L : Ledger) (c : Call) : Leaves p c L (exec p conv L c).2 := by
  have settled : ∀ {α : Type} {reply : α → Event} {x : Except PyErr (α × Ledger)},
      outcome p conv L c = x.map (fun z => (reply z.1, z.2)) → (∀ r L', x = .ok (r, L') → Leaves p c L L') →
      Leaves p c L (exec p conv L c).2 := by
    intro α reply x hx h
    rw [exec, hx]
    cases x with
    | error e => exact .kept
    | ok y => exact h y.1 y.2 rfl
  cases c with
  | begin => exact settled rfl fun _ _ h => begin_leaves h
  | heartbeat => exact settled rfl fun _ _ h => heartbeat_leaves h
  | finalize => exact settled rfl fun _ _ h => finalize_leaves h
  | consume => exact settled rfl fun _ _ h => consume_leaves h

theorem purge_some {row : Row} : L.purge now k = some row ↔ L k = some row ∧ row.expired now = false := by
  simp only [Ledger.purge, Option.filter_eq_some_iff, Bool.not_eq_true']

theorem keepsText_of {v : Value} {col : Column .text} (hv : v.isBytes = false) (hs : storeText p v = .ok col) :
    KeepsText p v col := by
  cases v with
  | json d => exact ⟨d, rfl, hs⟩
  | bytes bs => cases hv

/-- What is written holds the record, and its MAC. -/
theorem writeRecord_sealed {r : Record} (hks : Unforgeable p ks) (hc : c.KeyedBy ks)
    (h : writeRecord p c.key r c.secret L = .ok L') :
    ∃ row, SealedAs p ks c.key r row ∧ L' = Function.update L c.key (some row) := by
  obtain ⟨key, hkey, hne, hsecret⟩ := Call.keyed_secret hks hc
  rw [hsecret] at h
  simp only [writeRecord, bind_ok, pure_ok, computeIntegrityMac_key hne] at h
  obtain ⟨mac, hmac, kind, hkind, state, hstate, n, hn, m, hm, o, ho, d, hd, f, hf, e, he, t, ht, x, hx, y, hy, z, hz, rfl⟩ := h
  split_ifs at hmac with hbytes
  cases hmac
  simp only [Values.covered, Record.values, List.any_cons, List.any_nil, Value.isBytes, Bool.or_false, Bool.false_or,
    Bool.or_eq_true, not_or, Bool.not_eq_true] at hbytes
  obtain ⟨ho', hd', hf', he', ht'⟩ := hbytes
  have htexts : ∀ {s : Str} {c : Column .text}, storeText p (.json (.str s)) = .ok c → KeepsText p (.json (.str s)) c :=
    fun hs => ⟨_, rfl, hs⟩
  refine ⟨_, ⟨htexts hkind, htexts hstate, hn, hm, hx, hy, hz, ?_, ?_, ?_, ?_, ?_, key, hkey, rfl⟩, rfl⟩
  · exact keepsText_of ho' ho
  · exact keepsText_of hd' hd
  · exact keepsText_of hf' hf
  · exact keepsText_of he' he
  · exact keepsText_of ht' ht

theorem Sealed.purge (h : Sealed p ks L) (now : ℚ) : Sealed p ks (L.purge now) :=
  fun k row hr => h k row (purge_some.1 hr).1

/-- Every call seals what it writes. -/
theorem sealed_exec (hks : Unforgeable p ks) (h : Sealed p ks L) (hc : c.KeyedBy ks) :
    Sealed p ks (exec p conv L c).2 := by
  have hleaves := exec_leaves p conv L c
  generalize (exec p conv L c).2 = L' at hleaves ⊢
  cases hleaves with
  | kept => exact h
  | purged => exact h.purge _
  | wrote r hL₀ hk hencodable hw =>
    obtain ⟨row, hs, heq⟩ := writeRecord_sealed hks hc hw
    rw [heq]
    intro k' row' hr
    by_cases hkk : k' = c.key
    · rw [hkk, Function.update_self] at hr
      obtain rfl := Option.some.inj hr
      exact ⟨hkk ▸ hk, hkk ▸ hencodable, r, hkk ▸ hs⟩
    · rw [Function.update_of_ne hkk] at hr
      rcases hL₀ with rfl | rfl
      · exact h k' row' hr
      · exact h k' row' (purge_some.1 hr).1

/-- A call leaves alone the unexpired row of another key. -/
theorem exec_other (hkey : c.key ≠ k) (hr : L k = some row) (hlt : row.expired c.reading = false) :
    (exec p conv L c).2 k = some row := by
  have hp : L.purge c.reading k = some row := purge_some.2 ⟨hr, hlt⟩
  have hleaves := exec_leaves p conv L c
  generalize (exec p conv L c).2 = L' at hleaves ⊢
  cases hleaves with
  | kept => exact hr
  | purged => exact hp
  | wrote r hL₀ _ _ hw =>
    simp only [writeRecord, bind_ok, pure_ok] at hw
    obtain ⟨mac, -, kind, -, state, -, n, -, m, -, o, -, d, -, f, -, e, -, t, -, x, -, y, -, z, -, rfl⟩ := hw
    rw [Function.update_of_ne hkey.symm]
    rcases hL₀ with rfl | rfl
    · exact hr
    · exact hp

end

/-! ## What a MAC covers -/

section
variable {p : Platform} {ks : IntegrityKeys} {k : Str} {row row' : Row} {L : Ledger}

/-- Two objects with the same keys, none of them twice, agree field by field. -/
theorem same_fields {fs gs : Dict} (h : Json.Same (.obj fs) (.obj gs)) (hk : fs.map (·.1) = gs.map (·.1))
    (hn : (gs.map (·.1)).Nodup) : List.Forall₂ (fun f g => Json.Same f.2 g.2) fs gs := by
  rw [List.forall₂_iff_zip]
  refine ⟨by simpa using congrArg List.length hk, ?_⟩
  rintro ⟨name, v⟩ ⟨name', w⟩ hz
  have hname : name = name' := by
    obtain ⟨i, hi⟩ := List.mem_iff_getElem?.1 hz
    obtain ⟨hf, hg⟩ := List.getElem?_zip_eq_some.1 hi
    have hi := congrArg (fun ks : List Str => ks[i]?) hk
    simpa [List.getElem?_map, hf, hg] using hi
  subst hname
  obtain ⟨w', hw', hs⟩ := h.field (List.of_mem_zip hz).1
  obtain rfl : w = w' := by
    have := List.inj_on_of_nodup_map hn (List.of_mem_zip hz).2 hw' rfl
    exact (Prod.mk.inj this).2
  exact hs

/-- One payload, one document in each column. -/
theorem payload_inj {v w : Values} (h : payloadText k v = payloadText k w) :
    List.Forall₂ (fun f g => Json.Same f.2.document g.2.document) v.covered w.covered := by
  have hfields := same_fields (Json.dumps_inj h) rfl (by simp [Values.covered])
  rw [List.forall₂_cons] at hfields
  simpa only [List.forall₂_map_left_iff, List.forall₂_map_right_iff] using hfields.2

/-- A `TEXT` column that was written from a value is the only one that reads as it. -/
theorem text_unique {v : Value} {c c' : Column .text} (h : KeepsText p v c) (hread : c'.1.isUndecodable = false)
    (hblob : c'.1.isBlob = false) (hs : Json.Same c'.1.value.document v.document) : c' = c := by
  obtain ⟨d, rfl, hstore⟩ := h
  obtain ⟨c', hc'⟩ := c'
  cases c' with
  | null =>
    obtain rfl : d = .null := Json.Same.eq_null hs.symm
    exact Except.ok.inj hstore
  | integer n => exact absurd hc' id
  | real x => exact absurd hc' id
  | undecodable bytes => cases hread
  | blob bytes => cases hblob
  | text s =>
    obtain rfl : d = .str s := by
      cases d with
      | str t => exact hs.symm
      | _ => cases hs
    rw [storeText, bindText] at hstore
    split_ifs at hstore
    · exact Except.ok.inj hstore
    · cases hstore

theorem int_unique {n : ℤ} {c c' : Column .integer} (h : storeInt n = .ok c) (hread : c'.1.isUndecodable = false)
    (hblob : c'.1.isBlob = false) (hs : Json.Same c'.1.value.document (.int n)) : c' = c := by
  obtain ⟨c', hc'⟩ := c'
  unfold storeInt at h
  split_ifs at h
  cases c' with
  | integer m =>
    obtain rfl := Json.int.inj hs
    exact Except.ok.inj h
  | undecodable bytes => cases hread
  | blob bytes => cases hblob
  | _ => cases hs

theorem real_unique {x : PyFloat} {c c' : Column .real} (h : storeReal x = .ok c) (hread : c'.1.isUndecodable = false)
    (hblob : c'.1.isBlob = false) (hs : Json.Same c'.1.value.document (.float x)) : c' = c := by
  obtain ⟨c', hc'⟩ := c'
  cases c' with
  | real t =>
    obtain rfl : t.toFloat = x := Json.float.inj hs
    have hbind : bindReal t.toFloat = .ok t := bindReal_ok.2 (time?_toFloat t)
    rw [storeReal, hbind] at h
    exact Except.ok.inj h
  | integer n => exact absurd hc' id
  | undecodable bytes => cases hread
  | blob bytes => cases hblob
  | _ => cases hs

/-- A change to columns that the MAC is over. -/
def Changed (row row' : Row) : Prop := row'.covered ≠ row.covered

/-- A comparable row whose payload is the one that was sealed has not been changed. -/
theorem SealedAs.not_changed {r : Record} (h : SealedAs p ks k r row) (hc : row'.Comparable)
    (hpayload : payloadText k row'.values = payloadText k r.values) : ¬Changed row row' := by
  have hsame := payload_inj hpayload
  have hread : ∀ c ∈ row'.covered, c.isUndecodable = false ∧ c.isBlob = false := fun c hmem =>
    ⟨readable_cell hc.readable (List.mem_cons_of_mem _ hmem), by simpa using List.any_eq_false.1 hc.covered c hmem⟩
  simp only [Row.covered, List.forall_mem_cons] at hread
  simp only [Values.covered, List.forall₂_cons, Row.values, Record.values] at hsame
  obtain ⟨hkind, hstate, hcount, hmax, hfirst, hupdated, hexpires, howner, hdelegation, hfingerprint, herror, htoken, -⟩ :=
    hsame
  obtain ⟨rkind, rstate, rcount, rmax, rfirst, rupdated, rexpires, rowner, rdelegation, rfingerprint, rerror, rtoken, -⟩ :=
    hread
  unfold Changed
  rw [not_not, Row.covered, Row.covered, text_unique h.kind rkind.1 rkind.2 hkind,
    text_unique h.state rstate.1 rstate.2 hstate, int_unique h.attemptCount rcount.1 rcount.2 hcount,
    int_unique h.maxAttempts rmax.1 rmax.2 hmax, real_unique h.firstSeenAt rfirst.1 rfirst.2 hfirst,
    real_unique h.updatedAt rupdated.1 rupdated.2 hupdated, real_unique h.expiresAt rexpires.1 rexpires.2 hexpires,
    text_unique h.ownerAgentId rowner.1 rowner.2 howner,
    text_unique h.delegationId rdelegation.1 rdelegation.2 hdelegation,
    text_unique h.payloadFingerprint rfingerprint.1 rfingerprint.2 hfingerprint,
    text_unique h.lastError rerror.1 rerror.2 herror, text_unique h.executionToken rtoken.1 rtoken.2 htoken]

theorem plain_payload (k : Str) (v : Values) : Text.IsAscii (payloadText k v) := (Json.plain_dumps _).ascii

/-- A changed row does not go with the MAC it had. -/
theorem changed_invalid (hks : Unforgeable p ks) (hs : Sealed p ks L) (hr : L k = some row) (hc : Changed row row')
    (hmac : row'.integrityMac = row.integrityMac) : ¬ValidMac p ks k row' := by
  rintro ⟨hcomparable, key', hkey', hvalid⟩
  obtain ⟨-, -, r, hsealed⟩ := hs k row hr
  obtain ⟨key, hkey, heq⟩ := hsealed.mac
  rw [hmac, heq] at hvalid
  have hdigest := hks.collision_free key' key _ _ hkey' hkey (Hex.hexLower_inj (Cell.text.inj hvalid).symm)
  exact hsealed.not_changed hcomparable (Text.utf8_eq_ascii (plain_payload _ _) hdigest) hc

end

/-! ## Tamper evidence -/

/-- At a reading of the clock every operation on the row's key raises the integrity error, and every other operation leaves
the row alone. -/
structure Evident (p : Platform) (conv : Conversions) (ks : IntegrityKeys) (now : ℚ) (k : Str) (row : Row) (L : Ledger) :
    Prop where
  detected : ∀ c : Call, c.KeyedBy ks → c.reading = now → c.key = k → outcome p conv L c = .error tampered
  untouched : ∀ c : Call, c.reading = now → c.key ≠ k → (exec p conv L c).2 k = some row

section
variable {p : Platform} {conv : Conversions} {ks : IntegrityKeys} {key : List UInt8} {k : Str} {row : Row} {L : Ledger}
  {c : Call} {now : ℚ}

/-- What the check raises, the operation raises. -/
theorem check_error {α : Type} {secret : Option Str} {e : PyErr} (h : row.check p k secret = .error e)
    (next : Values → Except PyErr α) :
    (do let existing ← row.fetch; verifyIntegrity p k existing secret; next existing) = .error e := by
  unfold Row.check at h
  cases hf : row.fetch with
  | error e' =>
    rw [hf] at h
    obtain rfl := Except.error.inj h
    rfl
  | ok existing =>
    rw [hf, ok_bind] at h
    rw [ok_bind]
    cases hv : verifyIntegrity p k existing secret with
    | error e' =>
      rw [hv] at h
      obtain rfl := Except.error.inj h
      rfl
    | ok u =>
      rw [hv] at h
      cases h

/-- What passes the check is gone on with. -/
theorem check_ok {α : Type} {secret : Option Str} {existing : Values} (h : row.check p k secret = .ok existing)
    (next : Values → Except PyErr α) :
    (do let existing ← row.fetch; verifyIntegrity p k existing secret; next existing) = next existing := by
  unfold Row.check at h
  obtain ⟨existing', hf, h⟩ := bind_ok.1 h
  obtain ⟨u, hv, h⟩ := bind_ok.1 h
  obtain rfl := pure_ok.1 h
  rw [hf, ok_bind, hv, ok_bind]

/-- An operation raises what the check of its unexpired row raises. -/
theorem outcome_checked {e : PyErr} (hk : k ≠ []) (hencodable : encodable k = true) (hr : L k = some row)
    (hkey : c.key = k) (hlt : row.expired c.reading = false) (hset : isSet c.secret = true)
    (h : row.check p k c.secret = .error e) : outcome p conv L c = .error e := by
  have hp : (L.purge c.reading).select k = .ok (some row) := by
    rw [Ledger.select, if_pos hencodable, purge_some.2 ⟨hr, hlt⟩]
  have hs : L.select k = .ok (some row) := by rw [Ledger.select, if_pos hencodable, hr]
  cases c with
  | begin now token a =>
    obtain rfl : a.replayKey = k := hkey
    have hop : beginRequestExecution p conv now token a L = .error e := by
      rw [beginRequestExecution, if_neg hk]
      exact (congrArg (· >>= _) hp).trans (check_error h _)
    rw [outcome, hop]
    rfl
  | heartbeat now k' secret token =>
    obtain rfl : k' = k := hkey
    have hop : heartbeatRequestExecution p conv now k' secret token L = .error e := by
      rw [heartbeatRequestExecution, if_neg hk]
      exact (congrArg (· >>= _) hs).trans (check_error h _)
    rw [outcome, hop]
    rfl
  | finalize now k' state secret error token =>
    obtain rfl : k' = k := hkey
    have hop : finalizeRequestExecution p conv now k' state secret error token L = .error e := by
      rw [finalizeRequestExecution, if_neg hk]
      exact (congrArg (· >>= _) hs).trans (check_error h _)
    rw [outcome, hop]
    rfl
  | consume now a =>
    obtain rfl : a.replayKey = k := hkey
    have hop : consumeResultReplay p now a L = .error e := by
      have hset' : isSet a.integritySecretHex = true := hset
      rw [consumeResultReplay, if_neg hk, hset', if_neg (by simp)]
      exact (congrArg (· >>= _) hp).trans (check_error h _)
    rw [outcome, hop]
    rfl

/-- A step that does not find a row tampered with. -/
def Untampered {α : Type} (x : Except PyErr α) : Prop := x ≠ .error tampered

theorem untampered_bind {α β : Type} {x : Except PyErr α} {f : α → Except PyErr β} (hx : Untampered x)
    (hf : ∀ a, Untampered (f a)) : Untampered (x >>= f) := by
  cases x with
  | error e =>
    intro h
    obtain rfl := Except.error.inj h
    exact hx rfl
  | ok a => exact hf a

theorem untampered_ok {α : Type} (a : α) : Untampered (.ok a : Except PyErr α) := fun h => by cases h

theorem untampered_map {α β : Type} {x : Except PyErr α} {f : α → β} (hx : Untampered x) : Untampered (x.map f) := by
  cases x with
  | error e =>
    intro h
    obtain rfl := Except.error.inj h
    exact hx rfl
  | ok a => exact untampered_ok _

theorem untampered_storeText (v : Value) : Untampered (storeText p v) := by
  cases v with
  | bytes bs => exact untampered_ok _
  | json v =>
    refine untampered_map ?_
    unfold bindText Untampered tampered
    split
    · simp
    · simp
    · split_ifs <;> simp
    · simp
    · simp
    · split_ifs <;> simp
    · simp
    · simp

theorem untampered_storeInt (n : ℤ) : Untampered (storeInt n) := by
  unfold storeInt Untampered tampered
  split_ifs <;> simp

theorem untampered_storeReal (x : PyFloat) : Untampered (storeReal x) := by
  refine untampered_map ?_
  unfold bindReal Untampered tampered
  split <;> simp

theorem untampered_toInt (v : Value) : Untampered (conv.toInt v) := by
  unfold Conversions.toInt Untampered tampered
  split
  · simp
  · simp
  · unfold truncate
    split <;> simp
  · simp
  · simp
  · simp
  · cases conv.int (.json (.str _)) <;> simp [Except.mapError]
  · cases conv.int (.bytes _) <;> simp [Except.mapError]

theorem untampered_toFloat (v : Value) : Untampered (conv.toFloat v) := by
  unfold Conversions.toFloat Untampered tampered
  split
  · cases conv.float (.json (.str _)) <;> simp [Except.mapError]
  · cases conv.float (.bytes _) <;> simp [Except.mapError]
  · unfold Adn.toFloat
    split
    · simp
    · split_ifs <;> simp
    · simp
    · simp

/-- Storing a row fails for other reasons. -/
theorem untampered_writeRecord (h : key ≠ []) (r : Record) : Untampered (writeRecord p k r (some (Hex.hexLower key)) L) := by
  have hmac : Untampered (computeIntegrityMac p k r.values (some (Hex.hexLower key))) := by
    rw [computeIntegrityMac_key h]
    unfold Untampered tampered
    split_ifs <;> simp
  refine untampered_bind hmac fun _ => ?_
  iterate 2 refine untampered_bind (untampered_storeText _) fun _ => ?_
  iterate 2 refine untampered_bind (untampered_storeInt _) fun _ => ?_
  iterate 5 refine untampered_bind (untampered_storeText _) fun _ => ?_
  iterate 3 refine untampered_bind (untampered_storeReal _) fun _ => ?_
  exact untampered_ok _

theorem untampered_rewriteRecord (existing : Values) (state : Str) (error token : Value) :
    Untampered (rewriteRecord conv existing now state error token) := by
  iterate 2 refine untampered_bind (untampered_toInt _) fun _ => ?_
  iterate 2 refine untampered_bind (untampered_toFloat _) fun _ => ?_
  exact untampered_ok _

/-- A valid row is looked at: a heartbeat does not find it tampered with, or a consume does not. -/
theorem valid_not_detected (conv : Conversions) (hks : Unforgeable p ks) (hk : k ≠ []) (hencodable : encodable k = true)
    (hr : L k = some row) (hlt : row.expired now = false) (hv : ValidMac p ks k row) :
    ∃ c : Call, c.KeyedBy ks ∧ c.reading = now ∧ c.key = k ∧ Untampered (outcome p conv L c) := by
  obtain ⟨hcomparable, key, hkey, hmac⟩ := hv
  have hcheck : row.check p k (some (Hex.hexLower key)) = .ok row.values := by
    rw [check_comparable hks hkey hcomparable, if_pos hmac]
  rcases hkey with rfl | rfl
  -- a heartbeat passes the check, and what its write may raise is something else
  · refine ⟨.heartbeat now k (some (Hex.hexLower ks.request)) none, rfl, rfl, rfl, untampered_map ?_⟩
    have hs : L.select k = .ok (some row) := by rw [Ledger.select, if_pos hencodable, hr]
    rw [heartbeatRequestExecution, if_neg hk, hs, ok_bind]
    dsimp only
    rw [check_ok hcheck]
    split_ifs
    · exact untampered_ok _
    · exact untampered_ok _
    · refine untampered_bind (untampered_rewriteRecord _ _ _ _) fun r => ?_
      exact untampered_bind (untampered_writeRecord hks.request_ne r) fun _ => untampered_ok _
  -- a consume passes it and says that the result was consumed
  · refine ⟨.consume now ⟨k, [], .null, .null, none, some (Hex.hexLower ks.result)⟩, rfl, rfl, rfl, untampered_map ?_⟩
    have hp : (L.purge now).select k = .ok (some row) := by
      rw [Ledger.select, if_pos hencodable, purge_some.2 ⟨hr, hlt⟩]
    have hset : isSet (some (Hex.hexLower ks.result)) = true := by simp [isSet, Hex.hexLower_ne hks.result_ne]
    rw [consumeResultReplay, if_neg hk, hset, if_neg (by simp), hp, ok_bind]
    dsimp only
    rw [check_ok hcheck]
    exact untampered_ok _

/-- A begin that any row gives way to once it has expired. -/
def probe (ks : IntegrityKeys) (k : Str) : BeginArgs := ⟨k, .finite 0, [], .str [], [], some (Hex.hexLower ks.request)⟩

theorem probe_allowed (conv : Conversions) (hks : Unforgeable p ks) (hk : k ≠ []) (hencodable : encodable k = true)
    (hn : L.purge now k = none) :
    ∃ L', beginRequestExecution p conv now [] (probe ks k) L = .ok (⟨true, [], some []⟩, L') := by
  have hs : (L.purge now).select k = .ok none := by rw [Ledger.select, if_pos hencodable, hn]
  have hw : ∃ L', writeRecord p k (.of ((probe ks k).first now [])) (some (Hex.hexLower ks.request)) (L.purge now) = .ok L' := by
    rw [writeRecord, computeIntegrityMac_key hks.request_ne]
    exact ⟨_, rfl⟩
  obtain ⟨L', hw⟩ := hw
  refine ⟨L', ?_⟩
  have hne : (probe ks k).replayKey ≠ [] := hk
  rw [beginRequestExecution, if_neg hne]
  exact bind_ok.2 ⟨none, hs, bind_ok.2 ⟨L', hw, rfl⟩⟩

/-- An unexpired row without a valid MAC is refused by every operation on its key, with the integrity error if it can be
compared. -/
theorem invalid_refused (conv : Conversions) (hks : Unforgeable p ks) (hk : k ≠ []) (hencodable : encodable k = true)
    (hr : L k = some row) (hv : ¬ValidMac p ks k row) (hlt : row.expired c.reading = false) (hc : c.KeyedBy ks)
    (hkey : c.key = k) :
    ∃ e, outcome p conv L c = .error e ∧ (e = tampered ↔ row.Comparable) := by
  obtain ⟨key, hhas, hne, hsecret⟩ := Call.keyed_secret hks hc
  have hset : isSet c.secret = true := by
    rw [hsecret]
    simp [isSet, Hex.hexLower_ne hne]
  by_cases hcomparable : row.Comparable
  · have hcheck : row.check p k c.secret = .error tampered := by
      rw [hsecret, check_comparable hks hhas hcomparable, if_neg fun hmac => hv ⟨hcomparable, key, hhas, hmac⟩]
    exact ⟨tampered, outcome_checked hk hencodable hr hkey hlt hset hcheck, iff_of_true rfl hcomparable⟩
  · obtain ⟨e, hcheck, hother⟩ := check_incomparable (k := k) hks hhas hcomparable
    rw [← hsecret] at hcheck
    exact ⟨e, outcome_checked hk hencodable hr hkey hlt hset hcheck, iff_of_false hother hcomparable⟩

/-- A row is tamper evident at a reading exactly if it has not expired by then, can be compared, and its MAC is wrong. -/
theorem evident_iff (hks : Unforgeable p ks) (hk : k ≠ []) (hencodable : encodable k = true) (hr : L k = some row) :
    Evident p conv ks now k row L ↔ row.expired now = false ∧ row.Comparable ∧ ¬ValidMac p ks k row := by
  constructor
  · intro h
    have hlt : row.expired now = false := by
      -- otherwise `begin` deletes the row and is allowed
      by_contra hpast
      have hnone : L.purge now k = none := by simpa [Ledger.purge, hr] using hpast
      obtain ⟨L', hok⟩ := probe_allowed conv hks hk hencodable hnone
      have hf := h.detected (.begin now [] (probe ks k)) rfl rfl rfl
      rw [outcome, hok] at hf
      cases hf
    have hv : ¬ValidMac p ks k row := by
      intro hv
      obtain ⟨c, hc, hnow, hkey, hnot⟩ := valid_not_detected conv hks hk hencodable hr hlt hv
      exact hnot (h.detected c hc hnow hkey)
    let c : Call := .heartbeat now k (some (Hex.hexLower ks.request)) none
    have hexact : ∃ e, outcome p conv L c = .error e ∧ (e = tampered ↔ row.Comparable) :=
      invalid_refused conv hks hk hencodable hr hv hlt rfl rfl
    obtain ⟨e, he, hcomparable⟩ := hexact
    rw [h.detected c rfl rfl rfl] at he
    exact ⟨hlt, hcomparable.1 (Except.error.inj he).symm, hv⟩
  · rintro ⟨hlt, hcomparable, hv⟩
    refine ⟨fun c hc hnow hkey => ?_, fun c hnow hkey => exec_other hkey hr (hnow ▸ hlt)⟩
    obtain ⟨e, he, htampered⟩ := invalid_refused conv hks hk hencodable hr hv (hnow ▸ hlt) hc hkey
    rw [he, htampered.2 hcomparable]

end

/-! ## Runs -/

/-- A call with the key of its domain. -/
def KeyedStep (p : Platform) (conv : Conversions) (ks : IntegrityKeys) (L : Ledger) (c : Call) (L' : Ledger) : Prop :=
  c.KeyedBy ks ∧ (exec p conv L c).2 = L'

section
variable {p : Platform} {conv : Conversions} {ks : IntegrityKeys} {L L' : Ledger} {cs : List Call} {k : Str} {row row' : Row}

theorem sealed_run (hks : Unforgeable p ks) (h : Run (KeyedStep p conv ks) Ledger.empty cs L) : Sealed p ks L := by
  refine h.inv ?_ ?_
  · intro k row hr
    cases hr
  · rintro s c s' hs ⟨hc, rfl⟩
    exact sealed_exec hks hs hc

theorem outcome_error {c : Call} {e : PyErr} (h : outcome p conv L c = .error e) : (exec p conv L c).2 = L := by
  rw [exec, h]

/-- An unexpired row without a valid MAC stays, whatever is called. -/
theorem invalid_stays {c : Call} (hks : Unforgeable p ks) (hk : k ≠ []) (hencodable : encodable k = true)
    (hr : L k = some row) (hv : ¬ValidMac p ks k row) (hlt : row.expired c.reading = false) (hc : c.KeyedBy ks) :
    (exec p conv L c).2 k = some row := by
  by_cases hkey : c.key = k
  · obtain ⟨e, he, -⟩ := invalid_refused conv hks hk hencodable hr hv hlt hc hkey
    rw [outcome_error he]
    exact hr
  · exact exec_other hkey hr hlt

/-- A changed row of a reachable table is tamper evident at a reading exactly if it has not expired by then, can be read and
compared, and its MAC is not valid, which it never is if the MAC was left alone. Without a valid MAC it stays as it is through
every run of calls at whose readings it has not expired, every operation on its key raises, and it is tamper evident as before. -/
theorem tamper_evident_iff (p : Platform) (conv : Conversions) (ks : IntegrityKeys) (hks : Unforgeable p ks)
    (h : Run (KeyedStep p conv ks) Ledger.empty cs L) (hr : L k = some row) (hc : Changed row row') :
    (∀ now, Evident p conv ks now k row' (Function.update L k (some row')) ↔
        row'.expired now = false ∧ row'.Comparable ∧ ¬ValidMac p ks k row') ∧
      (row'.integrityMac = row.integrityMac → ¬ValidMac p ks k row') ∧
      (¬ValidMac p ks k row' → ∀ cs' L', Run (Meeting (KeyedStep p conv ks) fun _ c => row'.expired c.reading = false)
        (Function.update L k (some row')) cs' L' →
        L' k = some row' ∧
          (∀ c, c.KeyedBy ks → c.key = k → row'.expired c.reading = false → ∃ e, outcome p conv L' c = .error e) ∧
          ∀ now, Evident p conv ks now k row' L' ↔ row'.expired now = false ∧ row'.Comparable) := by
  have hsealed := sealed_run hks h
  obtain ⟨hk, hencodable, -⟩ := hsealed k row hr
  refine ⟨fun now => evident_iff hks hk hencodable (Function.update_self _ _ _), changed_invalid hks hsealed hr hc,
    fun hv cs' L' h' => ?_⟩
  -- no call replaces the row, so it is as at the start wherever the run ends
  have hstays : L' k = some row' := by
    refine h'.inv (I := fun L => L k = some row') (Function.update_self _ _ _) ?_
    rintro s c s' hs ⟨⟨hkeyed, rfl⟩, hlt⟩
    exact invalid_stays hks hk hencodable hs hv hlt hkeyed
  refine ⟨hstays, fun c hkeyed hkey hlt => ?_, fun now => ?_⟩
  · obtain ⟨e, he, -⟩ := invalid_refused conv hks hk hencodable hstays hv hlt hkeyed hkey
    exact ⟨e, he⟩
  · rw [evident_iff hks hk hencodable hstays]
    exact and_congr_right fun _ => and_iff_left hv

end

/-! ### An expiry moved into the past -/

namespace Sample

open Adn.Sample

def integrityKeys : IntegrityKeys := ⟨[1], [2]⟩

theorem integrityKeys_unforgeable : Unforgeable platform integrityKeys where
  request_ne := by simp [integrityKeys]
  result_ne := by simp [integrityKeys]
  digest_ne := by
    rintro key m (rfl | rfl)
    · simp [platform, integrityKeys]
    · simp [platform, integrityKeys]
  collision_free := by
    rintro key key' m m' hkey hkey' h
    have hlength : key.length = key'.length := by
      rcases hkey with rfl | rfl <;> rcases hkey' with rfl | rfl <;> rfl
    exact (List.append_inj h hlength).2

/-- No text of the sample is a number. -/
def conversions : Conversions where
  int _ := .error "invalid literal for int()"
  float _ := .error "could not convert string to float"

def consumeArgsK : ConsumeArgs := ⟨"k", "c", .str "d", .str "f", none, some (Hex.hexLower integrityKeys.result)⟩

def consumedRecord (now : ℚ) : Record := .of (consumeArgsK.record now)

/-- A row with the values and the MAC of the consumed result, the state and the expiry apart. -/
def rowK (now : ℚ) (state : Str) (expiresAt : ℚ) : Row :=
  .of ⟨resultKind, state, 1, 1, now, now, expiresAt, some "c", some "d", some "f",
    some (macOf platform integrityKeys.result "k" (consumedRecord now).values), none, none⟩

theorem consumeK_written (now : ℚ) (L : Ledger) :
    writeRecord platform "k" (consumedRecord now) consumeArgsK.integritySecretHex L =
      .ok (Function.update L "k" (some (rowK now stateConsumed (now + resultReplayTtlSeconds)))) := by
  have hmac : computeIntegrityMac platform "k" (consumedRecord now).values consumeArgsK.integritySecretHex =
      .ok (some (macOf platform integrityKeys.result "k" (consumedRecord now).values)) := by
    rw [consumeArgsK, computeIntegrityMac_key integrityKeys_unforgeable.result_ne]
    rfl
  rw [writeRecord, hmac]
  rfl

/-- A result is consumed under a key that has no row. -/
theorem consumeK_accepted {now : ℚ} {L : Ledger} (hn : L.purge now "k" = none) :
    exec platform conversions L (.consume now consumeArgsK) = (.consume now consumeArgsK (true, []),
      Function.update (L.purge now) "k" (some (rowK now stateConsumed (now + resultReplayTtlSeconds)))) := by
  have hk : consumeArgsK.replayKey ≠ [] := by simp [consumeArgsK]
  have hset : isSet consumeArgsK.integritySecretHex = true := by
    simp [consumeArgsK, isSet, Hex.hexLower_ne integrityKeys_unforgeable.result_ne]
  have hs : (L.purge now).select "k" = .ok none := by rw [Ledger.select, if_pos (by decide), hn]
  have hc : consumeResultReplay platform now consumeArgsK L = .ok ((true, []),
      Function.update (L.purge now) "k" (some (rowK now stateConsumed (now + resultReplayTtlSeconds)))) := by
    rw [consumeResultReplay, if_neg hk, hset, if_neg (by simp)]
    exact bind_ok.2 ⟨none, hs, bind_ok.2 ⟨_, consumeK_written now _, rfl⟩⟩
  rw [exec, outcome, hc]
  rfl

/-- A ledger with one row. -/
def onlyRow (row : Row) : Ledger := Function.update Ledger.empty "k" (some row)

theorem onlyRow_self (row : Row) : onlyRow row "k" = some row := Function.update_self ..

def rowConsumed : Row := rowK 0 stateConsumed (0 + resultReplayTtlSeconds)

theorem consumeK_run :
    Run (KeyedStep platform conversions integrityKeys) Ledger.empty [.consume 0 consumeArgsK] (onlyRow rowConsumed) :=
  .snoc .nil ⟨rfl, congrArg Prod.snd (consumeK_accepted (L := Ledger.empty) (rfl : Ledger.empty.purge 0 "k" = none))⟩

theorem onlyRow_update (row row' : Row) : Function.update (onlyRow row) "k" (some row') = onlyRow row' :=
  Function.update_idem ..

/-- The expiry is moved into the past. -/
def rowPast : Row := rowK 0 stateConsumed 1

/-- The owner's bytes are kept, but as a BLOB. -/
def rowBlob : Row := { rowConsumed with ownerAgentId := ⟨.blob [0x63], trivial⟩ }

/-- A consumed row whose expiry is moved back is deleted unseen, and the result is consumed again; one whose owner is made a
BLOB is found, but with another error. -/
theorem expired_row_consumed_again :
    Run (KeyedStep platform conversions integrityKeys) Ledger.empty [.consume 0 consumeArgsK] (onlyRow rowConsumed) ∧
    (Changed rowConsumed rowPast ∧ rowPast.integrityMac = rowConsumed.integrityMac ∧
      ¬Evident platform conversions integrityKeys 2 "k" rowPast (onlyRow rowPast) ∧
      (exec platform conversions (onlyRow rowPast) (.consume 2 consumeArgsK)).1 = .consume 2 consumeArgsK (true, [])) ∧
    Changed rowConsumed rowBlob ∧ rowBlob.integrityMac = rowConsumed.integrityMac ∧
      ¬Evident platform conversions integrityKeys 2 "k" rowBlob (onlyRow rowBlob) := by
  have hk : Str.ofString "k" ≠ [] := by simp
  have hencodable : encodable "k" = true := by decide
  have hpast : rowPast.expired 2 = true :=
    decide_eq_true (WithBot.coe_le_coe.2 (WithTop.coe_le_coe.2 (by norm_num)) : ((1 : ℚ) : Time) ≤ ((2 : ℚ) : Time))
  refine ⟨consumeK_run, ⟨?_, rfl, ?_, ?_⟩, ?_, rfl, ?_⟩
  · intro heq
    have h : Cell.real ((1 : ℚ) : Time) = .real ((0 + resultReplayTtlSeconds : ℚ) : Time) := by
      simp only [Row.covered, List.cons.injEq] at heq
      exact heq.2.2.2.2.2.2.1
    have h' := WithTop.coe_inj.1 (WithBot.coe_inj.1 (Cell.real.inj h))
    norm_num [resultReplayTtlSeconds] at h'
  · rw [evident_iff integrityKeys_unforgeable hk hencodable (onlyRow_self _), hpast]
    rintro ⟨h, -⟩
    cases h
  · have hn : (onlyRow rowPast).purge 2 "k" = none := by
      rw [Ledger.purge, onlyRow_self, Option.filter_some, hpast]
      rfl
    rw [consumeK_accepted hn]
  · intro heq
    simp only [Row.covered, List.cons.injEq] at heq
    have h : Cell.blob [0x63] = .text "c" := heq.2.2.2.2.2.2.2.1
    cases h
  · rw [evident_iff integrityKeys_unforgeable hk hencodable (onlyRow_self _)]
    rintro ⟨-, ⟨-, hcovered, -⟩, -⟩
    simp [Row.covered, rowBlob, Cell.isBlob] at hcovered

/-- The state is changed, and the expiry left alone. -/
def rowRetryable : Row := rowK 0 stateRetryableFailure (0 + resultReplayTtlSeconds)

/-- This is found. -/
theorem state_change_evident : Changed rowConsumed rowRetryable ∧
    Evident platform conversions integrityKeys 2 "k" rowRetryable (onlyRow rowRetryable) := by
  have hchanged : Changed rowConsumed rowRetryable := by
    intro heq
    have h : Cell.text stateRetryableFailure = .text stateConsumed := by
      simp only [Row.covered, List.cons.injEq] at heq
      exact heq.2.1
    exact absurd (Cell.text.inj h) (by simp [stateRetryableFailure, stateConsumed])
  have hcurrent : rowRetryable.expired 2 = false :=
    decide_eq_false (not_le.2 (WithBot.coe_lt_coe.2 (WithTop.coe_lt_coe.2 (by norm_num [resultReplayTtlSeconds]))) :
      ¬((0 + resultReplayTtlSeconds : ℚ) : Time) ≤ ((2 : ℚ) : Time))
  have hcomparable : rowRetryable.Comparable := comparable_of fun mac hmac => by
    obtain rfl := Option.some.inj hmac
    exact Hex.plain_hexLower _
  obtain ⟨hiff, hvalid, -⟩ := tamper_evident_iff platform conversions integrityKeys integrityKeys_unforgeable consumeK_run
    (onlyRow_self _) hchanged
  rw [← onlyRow_update rowConsumed]
  exact ⟨hchanged, (hiff 2).2 ⟨hcurrent, hcomparable, hvalid rfl⟩⟩

end Sample

end Table

end Adn
