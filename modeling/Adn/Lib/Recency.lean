import Mathlib.Data.List.Dedup
import Mathlib.Data.List.Pairwise
import Mathlib.Data.List.TakeWhile
import Mathlib.Algebra.Order.Ring.Rat
import Mathlib.Tactic.Linarith
/-!
# What a bounded window keeps of a log

A cache that forgets by age and by count keeps an end of the log of all its
entries. `Window` says which end: what is gone has lapsed, or has enough
different keys after it. `Window.mem_iff` says what it means for a key to be
kept, and `Window.forget` and `Window.push` how the window moves.
-/

namespace Lib

/-- Entries with their times, oldest first. -/
abbrev Log (κ : Type) := List (κ × ℚ)

namespace Log

variable {κ : Type} [DecidableEq κ]

/-- How many different keys a log has. -/
def distinct (es : Log κ) : ℕ := (es.map (·.1)).dedup.length

theorem distinct_mono {es fs : Log κ} (h : ∀ k ∈ es.map (·.1), k ∈ fs.map (·.1)) : es.distinct ≤ fs.distinct := by
  refine (List.nodup_dedup _).length_le_of_subset ?_
  intro k hk
  exact List.mem_dedup.mpr (h k (List.mem_dedup.mp hk))

theorem distinct_of_nodup {es : Log κ} (h : (es.map (·.1)).Nodup) : es.distinct = es.length := by
  rw [distinct, h.dedup, List.length_map]

/-- The latest entry of `k` is less than `ttl` old, with fewer than `n` other keys after it. -/
def Recent (ttl : ℚ) (n : ℕ) (log : Log κ) (now : ℚ) (k : κ) : Prop :=
  ∃ pre t post, log = pre ++ (k, t) :: post ∧ now - t < ttl ∧ k ∉ post.map (·.1) ∧ distinct post < n

/-- The end of a log that a window of age `ttl` and size `n` keeps. -/
structure Window (ttl : ℚ) (n : ℕ) (log kept : Log κ) (now : ℚ) : Prop where
  gone : ∃ gone, log = gone ++ kept ∧
    ∀ pre k t post, gone = pre ++ (k, t) :: post → ttl ≤ now - t ∨ n ≤ distinct (post ++ kept)
  nodup : (kept.map (·.1)).Nodup
  sorted : log.Pairwise fun e f => e.2 ≤ f.2
  past : ∀ e ∈ log, e.2 ≤ now
  size : kept.length ≤ n

variable {ttl : ℚ} {n : ℕ} {log kept : Log κ} {now now' : ℚ} {k : κ}

theorem window_nil (ttl : ℚ) (n : ℕ) (now : ℚ) : Window ttl n ([] : Log κ) [] now where
  gone := ⟨[], rfl, fun _ _ _ _ h => by simp at h⟩
  nodup := List.nodup_nil
  sorted := .nil
  past := by simp
  size := Nat.zero_le _

/-- An entry of two lists put together is in one of them. -/
theorem append_eq_cases {α : Type} {as bs pre post : List α} {x : α} (h : as ++ bs = pre ++ x :: post) :
    (∃ cs, as = pre ++ x :: cs ∧ post = cs ++ bs) ∨ ∃ cs, pre = as ++ cs ∧ bs = cs ++ x :: post := by
  rcases List.append_eq_append_iff.mp h with ⟨cs, hpre, hbs⟩ | ⟨cs, has, hpost⟩
  · exact .inr ⟨cs, hpre, hbs⟩
  · cases cs with
    | nil => exact .inr ⟨[], by simpa using has.symm, by simpa using hpost.symm⟩
    | cons c cs =>
      obtain ⟨rfl, rfl⟩ := List.cons.inj hpost
      exact .inl ⟨cs, has, rfl⟩

namespace Window

theorem sorted_kept (h : Window ttl n log kept now) : kept.Pairwise fun e f => e.2 ≤ f.2 := by
  obtain ⟨gone, rfl, -⟩ := h.gone
  exact (List.pairwise_append.mp h.sorted).2.1

/-- A key is kept exactly if it is recent. -/
theorem mem_iff (h : Window ttl n log kept now) (hfresh : ∀ e ∈ kept, now - e.2 < ttl) :
    k ∈ kept.map (·.1) ↔ Recent ttl n log now k := by
  obtain ⟨gone, rfl, hgone⟩ := h.gone
  constructor
  · intro hk
    obtain ⟨⟨k', t⟩, he, rfl⟩ := List.mem_map.mp hk
    obtain ⟨pre, post, rfl⟩ := List.append_of_mem he
    have hnodup := h.nodup
    have hsize := h.size
    rw [List.map_append, List.map_cons] at hnodup
    rw [List.length_append, List.length_cons] at hsize
    have hpost := List.nodup_cons.mp (List.nodup_append.mp hnodup).2.1
    refine ⟨gone ++ pre, t, post, (List.append_assoc ..).symm, hfresh _ he, hpost.1, ?_⟩
    rw [distinct_of_nodup hpost.2]
    omega
  · rintro ⟨pre, t, post, heq, ht, -, hcount⟩
    rcases append_eq_cases heq with ⟨rest, hrest, rfl⟩ | ⟨older, -, rfl⟩
    · -- an entry that is gone has lapsed or is crowded out
      rcases hgone pre k t rest hrest with hold | hold
      · exact absurd ht (not_lt.mpr hold)
      · exact absurd hcount (not_lt.mpr hold)
    · simp

/-- Later, what has lapsed by then is forgotten, and the rest has not lapsed. -/
theorem forget (h : Window ttl n log kept now) (hnow : now ≤ now') :
    Window ttl n log (kept.dropWhile fun e => e.2 ≤ now' - ttl) now' ∧
      ∀ e ∈ kept.dropWhile fun e => e.2 ≤ now' - ttl, now' - e.2 < ttl := by
  obtain ⟨gone, rfl, hgone⟩ := h.gone
  have hsplit := List.takeWhile_append_dropWhile (p := fun e : κ × ℚ => decide (e.2 ≤ now' - ttl)) (l := kept)
  have hsub := List.dropWhile_suffix (l := kept) fun e : κ × ℚ => decide (e.2 ≤ now' - ttl)
  constructor
  · refine ⟨⟨gone ++ kept.takeWhile fun e => e.2 ≤ now' - ttl, ?_, ?_⟩, ?_, h.sorted, fun e he => (h.past e he).trans hnow,
      hsub.length_le.trans h.size⟩
    · rw [List.append_assoc, hsplit]
    · intro pre k t post heq
      rcases append_eq_cases heq with ⟨rest, hrest, rfl⟩ | ⟨older, -, hold⟩
      · rcases hgone pre k t rest hrest with hold | hold
        · left
          linarith
        · right
          rwa [List.append_assoc, hsplit]
      · have hmem : (k, t) ∈ kept.takeWhile fun e => e.2 ≤ now' - ttl := by
          rw [hold]
          simp
        have := List.mem_takeWhile_imp hmem
        simp only [decide_eq_true_eq] at this
        left
        linarith
    · exact h.nodup.sublist (hsub.sublist.map _)
  · intro e he
    -- the first entry that is kept has not lapsed, and the others are later
    cases hd : kept.dropWhile fun e => e.2 ≤ now' - ttl with
    | nil =>
      rw [hd] at he
      cases he
    | cons f fs =>
      have hf : ¬f.2 ≤ now' - ttl := by
        have hne : kept.dropWhile (fun e => decide (e.2 ≤ now' - ttl)) ≠ [] := by simp [hd]
        have := List.head_dropWhile_not (fun e : κ × ℚ => decide (e.2 ≤ now' - ttl)) hne
        simpa [hd] using this
      have hs : (f :: fs).Pairwise fun e f => e.2 ≤ f.2 := by
        rw [← hd]
        exact h.sorted_kept.sublist hsub.sublist
      rw [hd] at he
      have hle : f.2 ≤ e.2 := by
        rcases List.mem_cons.mp he with rfl | he
        · exact le_refl _
        · exact (List.pairwise_cons.mp hs).1 e he
      linarith

/-- A new key is kept, at the cost of the oldest ones where there is no room. -/
theorem push (h : Window ttl n log kept now) (hk : k ∉ kept.map (·.1)) :
    Window ttl n (log ++ [(k, now)]) ((kept ++ [(k, now)]).drop (kept.length + 1 - n)) now := by
  obtain ⟨gone, rfl, hgone⟩ := h.gone
  have hnodup : ((kept ++ [(k, now)]).map (·.1)).Nodup := by
    rw [List.map_append, List.nodup_append]
    refine ⟨h.nodup, by simp, ?_⟩
    rintro a ha b hb rfl
    simp only [List.map_cons, List.map_nil, List.mem_singleton] at hb
    exact hk (hb ▸ ha)
  have hsplit := List.take_append_drop (kept.length + 1 - n) (kept ++ [(k, now)])
  have hdrop := hnodup.sublist ((List.drop_sublist (kept.length + 1 - n) (kept ++ [(k, now)])).map _)
  have hlen : ((kept ++ [(k, now)]).drop (kept.length + 1 - n)).length = kept.length + 1 - (kept.length + 1 - n) := by
    rw [List.length_drop, List.length_append, List.length_singleton]
  refine ⟨⟨gone ++ (kept ++ [(k, now)]).take (kept.length + 1 - n), ?_, ?_⟩, hdrop, ?_, ?_, ?_⟩
  · rw [List.append_assoc, List.append_assoc, hsplit]
  · intro pre k' t post heq
    rcases append_eq_cases heq with ⟨rest, hrest, rfl⟩ | ⟨older, -, hold⟩
    · rcases hgone pre k' t rest hrest with hold | hold
      · exact .inl hold
      · refine .inr (hold.trans (distinct_mono fun x hx => ?_))
        rw [List.append_assoc, hsplit, ← List.append_assoc, List.map_append]
        exact List.mem_append_left _ hx
    · -- an entry made room, so that those kept are as many as there is room for
      right
      have hpos : 0 < ((kept ++ [(k, now)]).take (kept.length + 1 - n)).length := by
        rw [hold]
        simp
      rw [List.length_take] at hpos
      have hfull : n ≤ distinct ((kept ++ [(k, now)]).drop (kept.length + 1 - n)) := by
        rw [distinct_of_nodup hdrop]
        omega
      refine hfull.trans (distinct_mono fun x hx => ?_)
      rw [List.map_append]
      exact List.mem_append_right _ hx
  · rw [List.pairwise_append]
    refine ⟨h.sorted, by simp, ?_⟩
    intro e he f hf
    obtain rfl := List.mem_singleton.mp hf
    exact h.past e he
  · intro e he
    rcases List.mem_append.mp he with he | he
    · exact h.past e he
    · obtain rfl := List.mem_singleton.mp he
      exact le_refl _
  · omega

end Window

end Log

end Lib
