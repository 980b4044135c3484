import Adn.ResultVerifier
import Adn.Lib.Recency
/-!
# What the nonce cache remembers

`_consume_result_nonce` keeps a set and a queue, and prunes both by age and by
count. `Represents` ties the two together and `Remembers` ties them to the log
of all acceptances: the queue is the `Window` of that log. An unhashable nonce
makes the lookup in the set fail, so that it is never accepted.
-/

open Lib

namespace Adn

/-! ## Elements of a set -/

/-- What tells the elements of a `set` apart: `True`, `1` and `1.0` are one. -/
inductive Element where
  | none
  | text (s : Str)
  | number (x : PyFloat)
  | unhashable
deriving DecidableEq

def element : Json → Element
  | .null => .none
  | .str s => .text s
  | .bool b => .number (.finite (if b then 1 else 0))
  | .int n => .number (.finite n)
  | .float .negZero => .number (.finite 0)
  | .float x => .number x
  | .arr _ => .unhashable
  | .obj _ => .unhashable

theorem element_ne {v : Json} (h : hashable v = true) : element v ≠ .unhashable := by
  cases v with
  | float x => cases x <;> simp [element]
  | arr xs => cases h
  | obj fs => cases h
  | _ => simp [element]

theorem element_unhashable {v : Json} (h : hashable v = false) : element v = .unhashable := by
  cases v with
  | arr xs => rfl
  | obj fs => rfl
  | _ => cases h

theorem isOrEq_iff {v w : Json} (h : hashable v = true) : isOrEq v w = true ↔ element v = element w := by
  cases v with
  | arr xs => cases h
  | obj fs => cases h
  | null => cases w with
    | float y => cases y <;> simp [isOrEq, element, Json.pyEq]
    | _ => simp [isOrEq, element, Json.pyEq]
  | str s => cases w with
    | float y => cases y <;> simp [isOrEq, element, Json.pyEq]
    | _ => simp [isOrEq, element, Json.pyEq]
  | bool b => cases w with
    | float y => cases y <;> simp [isOrEq, element, Json.pyEq, Json.number?, Json.numberEq]
    | _ => simp [isOrEq, element, Json.pyEq, Json.number?, Json.numberEq]
  | int n => cases w with
    | float y => cases y <;> simp [isOrEq, element, Json.pyEq, Json.number?, Json.numberEq]
    | _ => simp [isOrEq, element, Json.pyEq, Json.number?, Json.numberEq]
  | float x => cases w with
    | float y => cases x <;> cases y <;> simp [isOrEq, element, Json.pyEq, Json.number?, Json.numberEq]
    | _ => cases x <;> simp [isOrEq, element, Json.pyEq, Json.number?, Json.numberEq]

namespace NonceCache

/-! ## Representation -/

/-- The nonces in the order of `_seen_order`, as elements, with their times. -/
def log (order : List (Json × ℚ)) : Log Element := order.map fun e => (element e.1, e.2)

theorem log_map_fst (order : List (Json × ℚ)) : (log order).map (·.1) = order.map fun e => element e.1 := by
  simp [log]

/-- `_seen` is the set of the nonces in `_seen_order`. -/
structure Matches (seen : List Json) (order : List (Json × ℚ)) : Prop where
  hashable : (∀ v ∈ seen, hashable v = true) ∧ ∀ e ∈ order, Adn.hashable e.1 = true
  seen : ∀ k, k ∈ seen.map element ↔ k ∈ order.map fun e => element e.1

/-- What the two structures are after every call. -/
structure Represents (c : NonceCache) : Prop where
  seen : Matches c.seen c.order
  nodup : (c.order.map fun e => element e.1).Nodup
  sorted : c.order.Pairwise fun e f => e.2 ≤ f.2
  bounded : c.order.length ≤ maxSeenNonces

variable {seen : List Json} {order : List (Json × ℚ)} {c : NonceCache} {nonce : Json} {now now' : ℚ}

theorem mem_discard (h : ∀ v ∈ seen, hashable v = true) {v : Json} :
    v ∈ discard seen nonce ↔ v ∈ seen ∧ element v ≠ element nonce := by
  rw [discard, List.mem_filter]
  constructor
  · rintro ⟨hv, hne⟩
    refine ⟨hv, fun he => ?_⟩
    rw [(isOrEq_iff (h v hv)).mpr he] at hne
    cases hne
  · rintro ⟨hv, hne⟩
    refine ⟨hv, ?_⟩
    cases he : isOrEq v nonce with
    | false => rfl
    | true => exact absurd ((isOrEq_iff (h v hv)).mp he) hne

theorem contains_iff (h : Matches c.seen c.order) :
    c.contains nonce = true ↔ element nonce ∈ (log c.order).map (·.1) := by
  rw [log_map_fst, ← h.seen, contains, List.any_eq_true, List.mem_map]
  constructor
  · rintro ⟨v, hv, he⟩
    exact ⟨v, hv, (isOrEq_iff (h.hashable.1 v hv)).mp he⟩
  · rintro ⟨v, hv, he⟩
    exact ⟨v, hv, (isOrEq_iff (h.hashable.1 v hv)).mpr he⟩

/-- `popleft` and `discard` go together. -/
theorem Matches.pop {t : ℚ} (h : Matches seen ((nonce, t) :: order))
    (hn : (((nonce, t) :: order).map fun e => element e.1).Nodup) : Matches (discard seen nonce) order where
  hashable := by
    refine ⟨fun v hv => ?_, fun e he => h.hashable.2 e (List.mem_cons_of_mem _ he)⟩
    exact h.hashable.1 v ((mem_discard h.hashable.1).mp hv).1
  seen := by
    intro k
    rw [List.map_cons, List.nodup_cons] at hn
    have hk := h.seen k
    rw [List.map_cons, List.mem_cons] at hk
    rw [List.mem_map]
    constructor
    · rintro ⟨v, hv, rfl⟩
      obtain ⟨hv, hne⟩ := (mem_discard h.hashable.1).mp hv
      exact (hk.mp (List.mem_map_of_mem hv)).resolve_left hne
    · intro hmem
      obtain ⟨v, hv, rfl⟩ := List.mem_map.mp (hk.mpr (.inr hmem))
      refine ⟨v, (mem_discard h.hashable.1).mpr ⟨hv, fun he => hn.1 ?_⟩, rfl⟩
      rwa [← he]

theorem Matches.push {t : ℚ} (h : Matches seen order) (hh : Adn.hashable nonce = true) :
    Matches (nonce :: seen) (order ++ [(nonce, t)]) where
  hashable := by
    refine ⟨List.forall_mem_cons.mpr ⟨hh, h.hashable.1⟩, fun e he => ?_⟩
    rcases List.mem_append.mp he with he | he
    · exact h.hashable.2 e he
    · obtain rfl := List.mem_singleton.mp he
      exact hh
  seen := by
    intro k
    rw [List.map_cons, List.mem_cons, h.seen, List.map_append, List.mem_append, or_comm]
    simp

theorem pruneOld_eq (cutoff : ℚ) (h : Matches seen order) (hn : (order.map fun e => element e.1).Nodup) :
    ∃ seen', pruneOld cutoff order seen = ⟨seen', order.dropWhile fun e => e.2 ≤ cutoff⟩ ∧
      Matches seen' (order.dropWhile fun e => e.2 ≤ cutoff) := by
  induction order generalizing seen with
  | nil => exact ⟨seen, rfl, h⟩
  | cons e order ih =>
    obtain ⟨nonce, t⟩ := e
    rw [pruneOld, List.dropWhile_cons]
    by_cases ht : t ≤ cutoff
    · rw [if_pos ht, if_pos (decide_eq_true ht)]
      rw [List.map_cons] at hn
      exact ih (h.pop hn) (List.nodup_cons.mp hn).2
    · rw [if_neg ht, if_neg (by simpa using ht)]
      exact ⟨seen, rfl, h⟩

theorem pruneExcess_eq (h : Matches seen order) (hn : (order.map fun e => element e.1).Nodup) :
    ∃ seen', pruneExcess order seen = ⟨seen', order.drop (order.length - maxSeenNonces)⟩ ∧
      Matches seen' (order.drop (order.length - maxSeenNonces)) := by
  induction order generalizing seen with
  | nil => exact ⟨seen, rfl, h⟩
  | cons e order ih =>
    obtain ⟨nonce, t⟩ := e
    rw [pruneExcess, List.length_cons]
    by_cases hlen : maxSeenNonces < order.length + 1
    · rw [if_pos hlen, show order.length + 1 - maxSeenNonces = order.length - maxSeenNonces + 1 by omega, List.drop_succ_cons]
      rw [List.map_cons] at hn
      exact ih (h.pop hn) (List.nodup_cons.mp hn).2
    · rw [if_neg hlen, Nat.sub_eq_zero_of_le (not_lt.mp hlen)]
      exact ⟨seen, rfl, h⟩

/-! ## What a cache remembers -/

/-- A cache after the acceptances `accepted`, as they stand at `now`. -/
structure Remembers (accepted : Log Element) (c : NonceCache) (now : ℚ) : Prop where
  seen : Matches c.seen c.order
  window : Log.Window seenNonceTtlSeconds maxSeenNonces accepted (log c.order) now

/-- Nothing that is remembered has lapsed. -/
def Fresh (c : NonceCache) (now : ℚ) : Prop := ∀ e ∈ log c.order, now - e.2 < seenNonceTtlSeconds

variable {accepted : Log Element}

theorem remembers_empty (now : ℚ) : Remembers [] empty now where
  seen := ⟨⟨by simp [empty], by simp [empty]⟩, by simp [empty]⟩
  window := Log.window_nil ..

theorem Remembers.represents (h : Remembers accepted c now) : Represents c where
  seen := h.seen
  nodup := log_map_fst c.order ▸ h.window.nodup
  sorted := by
    have := h.window.sorted_kept
    rw [log, List.pairwise_map] at this
    exact this
  bounded := by simpa [log] using h.window.size

theorem log_dropWhile (order : List (Json × ℚ)) (cutoff : ℚ) :
    log (order.dropWhile fun e => e.2 ≤ cutoff) = (log order).dropWhile fun e => e.2 ≤ cutoff := by
  rw [log, log, List.dropWhile_map]
  rfl

theorem log_drop (order : List (Json × ℚ)) (n : ℕ) : log (order.drop n) = (log order).drop n := by
  rw [log, log, List.map_drop]

/-- Pruning forgets what has lapsed, and there is no excess between calls. -/
theorem Remembers.prune (h : Remembers accepted c now) (hnow : now ≤ now') :
    Remembers accepted (c.prune now') now' ∧ (c.prune now').Fresh now' := by
  obtain ⟨seen, hold, hseen⟩ := pruneOld_eq (now' - seenNonceTtlSeconds) h.seen h.represents.nodup
  obtain ⟨hwindow, hfresh⟩ := h.window.forget hnow
  rw [← log_dropWhile] at hwindow hfresh
  have hn := hwindow.nodup
  rw [log_map_fst] at hn
  obtain ⟨seen', hexcess, hseen'⟩ := pruneExcess_eq hseen hn
  have hsize := hwindow.size
  rw [log, List.length_map] at hsize
  have heq : c.prune now' = ⟨seen', c.order.dropWhile fun e => e.2 ≤ now' - seenNonceTtlSeconds⟩ := by
    rw [NonceCache.prune, hold, hexcess, Nat.sub_eq_zero_of_le hsize, List.drop_zero]
  rw [Nat.sub_eq_zero_of_le hsize, List.drop_zero] at hseen'
  rw [heq]
  exact ⟨⟨hseen', hwindow⟩, hfresh⟩

theorem Remembers.contains_iff (h : Remembers accepted c now) (hfresh : c.Fresh now) :
    c.contains nonce = true ↔ Log.Recent seenNonceTtlSeconds maxSeenNonces accepted now (element nonce) := by
  rw [NonceCache.contains_iff h.seen]
  exact h.window.mem_iff hfresh

/-- An accepted nonce is remembered, at the cost of the oldest one where there is no room. -/
theorem Remembers.accept (h : Remembers accepted c now) (hfresh : c.Fresh now) (hh : hashable nonce = true)
    (hc : c.contains nonce = false) :
    Remembers (accepted ++ [(element nonce, now)]) (NonceCache.prune now ⟨nonce :: c.seen, c.order ++ [(nonce, now)]⟩) now := by
  have hk : element nonce ∉ (log c.order).map (·.1) := by
    rw [← NonceCache.contains_iff h.seen, hc]
    simp
  have hpush := h.window.push hk
  have hlog : log c.order ++ [(element nonce, now)] = log (c.order ++ [(nonce, now)]) := by simp [log]
  have hlen : (log c.order).length + 1 = (c.order ++ [(nonce, now)]).length := by simp [log]
  rw [hlog, hlen, ← log_drop] at hpush
  have hmatches := h.seen.push (t := now) hh
  have hn : ((c.order ++ [(nonce, now)]).map fun e => element e.1).Nodup := by
    rw [← log_map_fst, ← hlog, List.map_append, List.nodup_append]
    refine ⟨h.window.nodup, by simp, ?_⟩
    rintro a ha b hb rfl
    simp only [List.map_cons, List.map_nil, List.mem_singleton] at hb
    exact hk (hb ▸ ha)
  -- nothing has lapsed, the new entry included
  have hstay : (c.order ++ [(nonce, now)]).dropWhile (fun e => e.2 ≤ now - seenNonceTtlSeconds) = c.order ++ [(nonce, now)] := by
    refine List.dropWhile_eq_self_iff.mpr fun hpos => ?_
    have hall : ∀ e ∈ c.order ++ [(nonce, now)], ¬e.2 ≤ now - seenNonceTtlSeconds := by
      intro e he
      rcases List.mem_append.mp he with he | he
      · have := hfresh (element e.1, e.2) (List.mem_map.mpr ⟨e, he, rfl⟩)
        simp only at this
        linarith
      · obtain rfl := List.mem_singleton.mp he
        norm_num [seenNonceTtlSeconds]
    simpa using hall _ (List.getElem_mem hpos)
  obtain ⟨seen, hold, hseen⟩ := pruneOld_eq (now - seenNonceTtlSeconds) hmatches hn
  rw [hstay] at hold hseen
  obtain ⟨seen', hexcess, hseen'⟩ := pruneExcess_eq hseen hn
  have heq : NonceCache.prune now ⟨nonce :: c.seen, c.order ++ [(nonce, now)]⟩ =
      ⟨seen', (c.order ++ [(nonce, now)]).drop ((c.order ++ [(nonce, now)]).length - maxSeenNonces)⟩ := by
    simp only [NonceCache.prune, hold, hexcess]
  rw [heq]
  generalize (c.order ++ [(nonce, now)]).drop ((c.order ++ [(nonce, now)]).length - maxSeenNonces) = kept at hseen' hpush ⊢
  exact ⟨hseen', hpush⟩

/-! ## Calls -/

/-- One call of `_consume_result_nonce`. -/
structure Offer where
  now : ℚ
  nonce : Json

/-- `RuntimeError('result nonce missing or already consumed')` -/
def rejection : PyErr := .runtimeError "result nonce missing or already consumed"

/-- The acceptances after one more call, and the cache. -/
def offer (s : Log Element × NonceCache) (o : Offer) : Log Element × NonceCache :=
  match s.2.consume o.now o.nonce with
  | (.ok (), c) => (s.1 ++ [(element o.nonce, o.now)], c)
  | (.error _, c) => (s.1, c)

def offerAll (os : List Offer) : Log Element × NonceCache := os.foldl offer ([], empty)

/-- The three ways a call can go. -/
theorem consume_cases (h : Remembers accepted c now) (hnow : now ≤ now') (nonce : Json) :
    (c.consume now' nonce = (.error rejection, c.prune now') ∧ (nonce.truthy = false ∨
        Log.Recent seenNonceTtlSeconds maxSeenNonces accepted now' (element nonce))) ∨
      (c.consume now' nonce = (.error .typeError, c.prune now') ∧ nonce.truthy = true ∧ hashable nonce = false) ∨
      ∃ c', c.consume now' nonce = (.ok (), c') ∧ nonce.truthy = true ∧ hashable nonce = true ∧
        ¬Log.Recent seenNonceTtlSeconds maxSeenNonces accepted now' (element nonce) ∧
        Remembers (accepted ++ [(element nonce, now')]) c' now' := by
  obtain ⟨hp, hfresh⟩ := h.prune hnow
  unfold consume
  cases ht : nonce.truthy with
  | false => exact .inl ⟨rfl, .inl rfl⟩
  | true =>
    cases hh : hashable nonce with
    | false => exact .inr (.inl ⟨rfl, rfl, rfl⟩)
    | true =>
      cases hc : (c.prune now').contains nonce with
      | true =>
        refine .inl ⟨?_, .inr ((hp.contains_iff hfresh).mp hc)⟩
        simp only [hc]
        rfl
      | false =>
        refine .inr (.inr ⟨_, by simp only [hc]; rfl, rfl, rfl, ?_, hp.accept hfresh hh hc⟩)
        rw [← hp.contains_iff hfresh, hc]
        simp

theorem offer_remembers (o : Offer) {s : Log Element × NonceCache} (h : Remembers s.1 s.2 now) (hnow : now ≤ o.now) :
    Remembers (offer s o).1 (offer s o).2 o.now := by
  unfold offer
  rcases consume_cases h hnow o.nonce with ⟨heq, -⟩ | ⟨heq, -⟩ | ⟨c', heq, -, -, -, hc'⟩
  · rw [heq]
    exact (h.prune hnow).1
  · rw [heq]
    exact (h.prune hnow).1
  · rw [heq]
    exact hc'

/-- After any calls the cache stands as at the latest reading, or at any reading where there are none. -/
theorem offerAll_remembers (os : List Offer) (hs : os.Pairwise fun o p => o.now ≤ p.now) (hle : ∀ o ∈ os, o.now ≤ now) :
    ∃ last, last ≤ now ∧ Remembers (offerAll os).1 (offerAll os).2 last := by
  induction os using List.reverseRecOn generalizing now with
  | nil => exact ⟨now, le_refl _, remembers_empty now⟩
  | append_singleton os o ih =>
    rw [List.pairwise_append] at hs
    obtain ⟨last, hlast, h⟩ := ih hs.1 fun p hp => hs.2.2 p hp o (List.mem_singleton_self o)
    refine ⟨o.now, hle o (by simp), ?_⟩
    rw [offerAll, List.foldl_append, ← offerAll]
    exact offer_remembers o h hlast

/-- The readings of some calls have a bound. -/
theorem readings_bounded (os : List Offer) : ∃ now, ∀ o ∈ os, o.now ≤ now := by
  induction os with
  | nil => exact ⟨0, by simp⟩
  | cons o os ih =>
    obtain ⟨now, h⟩ := ih
    refine ⟨max o.now now, List.forall_mem_cons.mpr ⟨le_max_left _ _, fun p hp => ?_⟩⟩
    exact (h p hp).trans (le_max_right _ _)

/-- Only hashable nonces are accepted. -/
theorem offerAll_hashable (os : List Offer) : Element.unhashable ∉ (offerAll os).1.map (·.1) := by
  induction os using List.reverseRecOn with
  | nil => simp [offerAll]
  | append_singleton os o ih =>
    rw [offerAll, List.foldl_append, ← offerAll, List.foldl_cons, List.foldl_nil, offer]
    split
    · rename_i c hc
      rw [List.map_append, List.mem_append, not_or]
      refine ⟨ih, fun h => ?_⟩
      have hh : hashable o.nonce = true := by
        unfold consume at hc
        split at hc
        · cases hc
        · split at hc
          · cases hc
          · rename_i hh
            simpa using hh
      exact element_ne hh (by simpa [eq_comm] using h)
    · exact ih

/-- After any calls with nondecreasing readings the two structures fit together, and a further call is rejected exactly
if its nonce is falsy or was accepted recently; any other hashable nonce is accepted. -/
theorem nonce_cache_meaning (os : List Offer) (hs : os.Pairwise fun o p => o.now ≤ p.now) :
    Represents (offerAll os).2 ∧ ∀ o : Offer, (∀ p ∈ os, p.now ≤ o.now) →
      (((offerAll os).2.consume o.now o.nonce).1 = .error rejection ↔ o.nonce.truthy = false ∨
        Log.Recent seenNonceTtlSeconds maxSeenNonces (offerAll os).1 o.now (element o.nonce)) ∧
      (((offerAll os).2.consume o.now o.nonce).1 = .ok () ↔ hashable o.nonce = true ∧
        ¬(o.nonce.truthy = false ∨
          Log.Recent seenNonceTtlSeconds maxSeenNonces (offerAll os).1 o.now (element o.nonce))) := by
  constructor
  · obtain ⟨now, hnow⟩ := readings_bounded os
    obtain ⟨last, -, h⟩ := offerAll_remembers os hs hnow
    exact h.represents
  · intro o ho
    obtain ⟨last, hlast, h⟩ := offerAll_remembers os hs ho
    rcases consume_cases h hlast o.nonce with ⟨heq, hwhy⟩ | ⟨heq, ht, hh⟩ | ⟨c', heq, ht, hh, hnot, -⟩
    · rw [heq]
      exact ⟨iff_of_true rfl hwhy, iff_of_false (by simp) fun h => h.2 hwhy⟩
    · -- an unhashable nonce is no element of the log
      rw [heq]
      refine ⟨iff_of_false (by simp [rejection]) ?_, iff_of_false (by simp) fun h => by simp [hh] at h⟩
      rintro (hf | hr)
      · simp [ht] at hf
      · obtain ⟨pre, t, post, hlog, -⟩ := hr
        refine offerAll_hashable os ?_
        rw [hlog, ← element_unhashable hh]
        simp
    · rw [heq]
      have hno : ¬(o.nonce.truthy = false ∨
          Log.Recent seenNonceTtlSeconds maxSeenNonces (offerAll os).1 o.now (element o.nonce)) := by
        rintro (hf | hr)
        · simp [ht] at hf
        · exact hnot hr
      exact ⟨iff_of_false (by simp) hno, iff_of_true rfl ⟨hh, hno⟩⟩

/-- A nonce is refused while its acceptance is recent, though another was accepted since, and accepted again after that. -/
theorem nonce_cache_meaning_two : Represents (offerAll [⟨0, .str "n"⟩, ⟨1, .str "m"⟩]).2 ∧
    ((offerAll [⟨0, .str "n"⟩, ⟨1, .str "m"⟩]).2.consume 2 (.str "n")).1 = .error rejection ∧
    ((offerAll [⟨0, .str "n"⟩, ⟨1, .str "m"⟩]).2.consume 900 (.str "n")).1 = .ok () := by
  have hlog : (offerAll [⟨0, .str "n"⟩, ⟨1, .str "m"⟩]).1 = [(.text "n", 0), (.text "m", 1)] := by decide +kernel
  obtain ⟨hr, hcall⟩ := nonce_cache_meaning [⟨0, .str "n"⟩, ⟨1, .str "m"⟩] (by simp)
  refine ⟨hr, (hcall ⟨2, .str "n"⟩ (by norm_num)).1.mpr (.inr ?_), (hcall ⟨900, .str "n"⟩ (by norm_num)).2.mpr ⟨rfl, ?_⟩⟩
  · rw [hlog]
    exact ⟨[], 0, [(.text "m", 1)], rfl, by norm_num [seenNonceTtlSeconds], by simp [element], by decide⟩
  · rintro (hfalsy | ⟨pre, t, post, heq, hage, -⟩)
    · cases hfalsy
    · rw [hlog] at heq
      have hmem : (element (.str "n"), t) ∈ [(Element.text "n", (0 : ℚ)), (.text "m", 1)] := by
        rw [heq]
        simp
      have ht : t = 0 := by simpa [element] using hmem
      norm_num [ht, seenNonceTtlSeconds] at hage

/-! ## A cache that was reached -/

/-- What a process can have in its cache at a reading of `now`. -/
def Reached (c : NonceCache) (now : ℚ) : Prop :=
  ∃ os : List Offer, (os.Pairwise fun o p => o.now ≤ p.now) ∧ (∀ o ∈ os, o.now ≤ now) ∧ c = (offerAll os).2

theorem Reached.remembers (h : Reached c now) : ∃ accepted last, last ≤ now ∧ Remembers accepted c last := by
  obtain ⟨os, hs, hle, rfl⟩ := h
  obtain ⟨last, hlast, h⟩ := offerAll_remembers os hs hle
  exact ⟨_, last, hlast, h⟩

theorem reached_empty (now : ℚ) : Reached empty now := ⟨[], .nil, by simp, rfl⟩

/-- The nonce is one a call accepts. -/
structure Admits (c : NonceCache) (now : ℚ) (nonce : Json) : Prop where
  truthy : nonce.truthy = true
  hashable : Adn.hashable nonce = true
  unseen : (c.prune now).contains nonce = false

theorem consume_ok_iff : (∃ c', c.consume now nonce = (.ok (), c')) ↔ Admits c now nonce := by
  unfold consume
  constructor
  · rintro ⟨c', h⟩
    cases ht : nonce.truthy with
    | false =>
      simp only [ht] at h
      cases h
    | true =>
      cases hh : Adn.hashable nonce with
      | false =>
        simp only [ht, hh] at h
        cases h
      | true =>
        cases hc : (c.prune now).contains nonce with
        | true =>
          simp only [ht, hh, hc] at h
          cases h
        | false => exact ⟨ht, hh, hc⟩
  · rintro ⟨ht, hh, hc⟩
    simp only [ht, hh, hc]
    exact ⟨_, rfl⟩

/-- A call that is not accepted only prunes. -/
theorem consume_error {e : PyErr} {c' : NonceCache} (h : c.consume now nonce = (.error e, c')) : c' = c.prune now := by
  unfold consume at h
  dsimp only at h
  split_ifs at h <;> cases h <;> rfl

/-- What has been pruned makes no difference to a later call. -/
theorem Admits.of_prune (hr : Reached c now) (hnow : now ≤ now') (h : Admits c now' nonce) :
    Admits (c.prune now) now' nonce where
  truthy := h.truthy
  hashable := h.hashable
  unseen := by
    obtain ⟨accepted, last, hlast, hc⟩ := hr.remembers
    obtain ⟨hp, hfresh⟩ := hc.prune (hlast.trans hnow)
    obtain ⟨hpp, hfreshp⟩ := (hc.prune hlast).1.prune hnow
    have hunseen := h.unseen
    rw [← Bool.not_eq_true, hp.contains_iff hfresh] at hunseen
    rwa [← Bool.not_eq_true, hpp.contains_iff hfreshp]

/-- A nonce is refused for as long as its acceptance is remembered. -/
theorem consumed_refused {c' : NonceCache} (hr : Reached c now) (h : c.consume now nonce = (.ok (), c'))
    (hnow : now ≤ now') (hlt : now' - now < seenNonceTtlSeconds) : ¬Admits c' now' nonce := by
  obtain ⟨accepted, last, hlast, hc⟩ := hr.remembers
  have hc' : Remembers (accepted ++ [(element nonce, now)]) c' now := by
    rcases consume_cases hc hlast nonce with ⟨heq, -⟩ | ⟨heq, -⟩ | ⟨c₁, heq, -, -, -, hc₁⟩
    · rw [heq] at h
      cases h
    · rw [heq] at h
      cases h
    · rw [heq] at h
      cases h
      exact hc₁
  obtain ⟨hp, hfresh⟩ := hc'.prune hnow
  have hseen : (c'.prune now').contains nonce = true := by
    rw [hp.contains_iff hfresh]
    refine ⟨accepted, now, [], rfl, hlt, by simp, ?_⟩
    simp [Log.distinct, maxSeenNonces]
  intro hadmits
  rw [hadmits.unseen] at hseen
  cases hseen

/-- After an acceptance the cache holds the nonce, which it did not before. -/
theorem consumed_ne {c' : NonceCache} (hr : Reached c now) (h : c.consume now nonce = (.ok (), c')) :
    c' ≠ c ∧ c' ≠ c.prune now := by
  have hadmits := consume_ok_iff.mp ⟨c', h⟩
  have hrefused := consumed_refused hr h (le_refl now) (by norm_num [seenNonceTtlSeconds])
  constructor
  · rintro rfl
    exact hrefused hadmits
  · rintro rfl
    exact hrefused (hadmits.of_prune hr (le_refl now))

theorem Reached.mono (hr : Reached c now) (hnow : now ≤ now') : Reached c now' := by
  obtain ⟨os, hs, hle, rfl⟩ := hr
  exact ⟨os, hs, fun o ho => (hle o ho).trans hnow, rfl⟩

theorem Reached.consume (hr : Reached c now) (hnow : now ≤ now') (nonce : Json) :
    Reached (c.consume now' nonce).2 now' := by
  obtain ⟨os, hs, hle, rfl⟩ := hr
  refine ⟨os ++ [⟨now', nonce⟩], ?_, ?_, ?_⟩
  · rw [List.pairwise_append]
    refine ⟨hs, by simp, fun o ho p hp => ?_⟩
    rw [List.mem_singleton.mp hp]
    exact (hle o ho).trans hnow
  · intro o ho
    rcases List.mem_append.mp ho with ho | ho
    · exact (hle o ho).trans hnow
    · rw [List.mem_singleton.mp ho]
  · have hsnoc : offerAll (os ++ [⟨now', nonce⟩]) = offer (offerAll os) ⟨now', nonce⟩ := by
      rw [offerAll, List.foldl_append]
      rfl
    rw [hsnoc, offer]
    split
    · rename_i c' hc
      rw [hc]
    · rename_i e c' hc
      rw [hc]

theorem pruneOld_suffix (cutoff : ℚ) (order : List (Json × ℚ)) (seen : List Json) :
    (pruneOld cutoff order seen).order <:+ order := by
  induction order generalizing seen with
  | nil => exact List.suffix_refl _
  | cons e order ih =>
    rw [pruneOld]
    split
    · exact (ih _).trans (List.suffix_cons _ _)
    · exact List.suffix_refl _

theorem pruneExcess_suffix (order : List (Json × ℚ)) (seen : List Json) : (pruneExcess order seen).order <:+ order := by
  induction order generalizing seen with
  | nil => exact List.suffix_refl _
  | cons e order ih =>
    rw [pruneExcess]
    split
    · exact (ih _).trans (List.suffix_cons _ _)
    · exact List.suffix_refl _

theorem prune_suffix (now : ℚ) (c : NonceCache) : (c.prune now).order <:+ c.order :=
  (pruneExcess_suffix _ _).trans (pruneOld_suffix _ _ _)

/-- After a call the cache holds nothing but what it held before, and the nonce it accepted. -/
theorem consume_order {c' : NonceCache} (h : c.consume now nonce = (.ok (), c')) :
    ∀ e ∈ c'.order, e ∈ c.order ∨ e = (nonce, now) := by
  have hc' : c' = prune now ⟨nonce :: (c.prune now).seen, (c.prune now).order ++ [(nonce, now)]⟩ := by
    unfold consume at h
    dsimp only at h
    split_ifs at h
    · cases h
    · cases h
    · cases h
    · exact (Prod.mk.inj h).2.symm
  intro e he
  rw [hc'] at he
  rcases List.mem_append.mp ((prune_suffix now _).subset he) with he | he
  · exact .inl ((prune_suffix now c).subset he)
  · exact .inr (List.mem_singleton.mp he)

end NonceCache

end Adn
