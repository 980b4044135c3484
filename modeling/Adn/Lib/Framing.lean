import Mathlib.Data.List.Induction
/-!
# Lines out of a buffer

A reader keeps a buffer, adds each chunk to it, and handles the lines it then has
whole, one after the other; a line may stop it for good. However a text is cut into
chunks, the reader handles the lines of the text (`feedAll_lines`).
-/

namespace Lib.Framing

variable {α σ : Type} [DecidableEq α] (d : α)

/-- The text before the first `d`, and the text after it. -/
def cut : List α → Option (List α × List α)
  | [] => none
  | a :: s => if a = d then some ([], s) else (cut s).map fun c => (a :: c.1, c.2)

theorem cut_length {s l r : List α} (h : cut d s = some (l, r)) : r.length < s.length := by
  induction s generalizing l r with
  | nil => cases h
  | cons a s ih =>
    unfold cut at h
    split at h
    · cases h
      exact Nat.lt_succ_self _
    · obtain ⟨⟨l', r'⟩, hc, he⟩ := Option.map_eq_some_iff.1 h
      cases he
      exact Nat.lt_succ_of_lt (ih hc)

/-- The whole lines of a text, and what is left after the last of them. -/
def split : List α → List (List α) × List α
  | [] => ([], [])
  | a :: s =>
    if a = d then ([] :: (split s).1, (split s).2)
    else match (split s).1 with
      | [] => ([], a :: (split s).2)
      | l :: ls => ((a :: l) :: ls, (split s).2)

def lines (s : List α) : List (List α) := (split d s).1

def rest (s : List α) : List α := (split d s).2

theorem cut_none {s : List α} (h : cut d s = none) : split d s = ([], s) := by
  induction s with
  | nil => rfl
  | cons a s ih =>
    unfold cut at h
    split at h
    · cases h
    · rename_i hne
      have hs := ih (Option.map_eq_none_iff.1 h)
      rw [split, if_neg hne, hs]

theorem cut_some {s l r : List α} (h : cut d s = some (l, r)) : split d s = (l :: lines d r, rest d r) := by
  induction s generalizing l r with
  | nil => cases h
  | cons a s ih =>
    unfold cut at h
    split at h
    · rename_i ha
      cases h
      rw [split, if_pos ha]
      rfl
    · rename_i hne
      obtain ⟨⟨l', r'⟩, hc, he⟩ := Option.map_eq_some_iff.1 h
      cases he
      rw [split, if_neg hne, ih hc]

/-- The text is its lines, each with its end, and the rest. -/
theorem split_append (s t : List α) :
    split d (s ++ t) = (lines d s ++ lines d (rest d s ++ t), rest d (rest d s ++ t)) := by
  induction s with
  | nil => rfl
  | cons a s ih =>
    rw [List.cons_append, split, ih]
    simp only [lines, rest, split]
    by_cases ha : a = d
    · simp [ha]
    · simp only [ha, if_false]
      cases hs : (split d s).1 with
      | nil => simp [split, ha]
      | cons l ls => simp

theorem lines_append (s t : List α) : lines d (s ++ t) = lines d s ++ lines d (rest d s ++ t) := by
  rw [lines, split_append]

theorem rest_append (s t : List α) : rest d (s ++ t) = rest d (rest d s ++ t) := by
  rw [rest, split_append]

/-- What a text has of a symbol other than the end of a line, its lines and the rest have. -/
theorem count_lines {a : α} (ha : a ≠ d) (s : List α) : (lines d s).flatten.count a + (rest d s).count a = s.count a := by
  unfold lines rest
  induction s with
  | nil => rfl
  | cons b s ih =>
    unfold split
    by_cases hb : b = d
    · subst hb
      rw [if_pos rfl, List.flatten_cons, List.nil_append, List.count_cons_of_ne (Ne.symm ha)]
      exact ih
    · rw [if_neg hb]
      cases hs : (split d s).1 with
      | nil =>
        rw [hs] at ih
        simp only [List.flatten_nil, List.count_nil, List.count_cons] at ih ⊢
        omega
      | cons l ls =>
        rw [hs] at ih
        simp only [List.flatten_cons, List.cons_append, List.count_cons] at ih ⊢
        omega

/-- Nothing is left of a text that ends a line. -/
theorem rest_snoc (s : List α) : rest d (s ++ [d]) = [] := by
  have h : lines d (s ++ [d]) ≠ [] ∧ rest d (s ++ [d]) = [] := by
    unfold lines rest
    induction s with
    | nil => simp [split]
    | cons a s ih =>
      rw [List.cons_append, split]
      by_cases ha : a = d
      · simp [ha, ih.2]
      · rw [if_neg ha]
        cases hs : (split d (s ++ [d])).1 with
        | nil => exact absurd hs ih.1
        | cons l ls => exact ⟨List.cons_ne_nil _ _, ih.2⟩
  exact h.2

/-! ## The lines up to one -/

section UpTo

variable {β : Type} (p : β → Bool)

/-- The lines up to the first that `p` holds of, with it. -/
def upTo : List β → List β
  | [] => []
  | l :: ls => if p l then [l] else l :: upTo ls

theorem upTo_append (ls ls' : List β) : upTo p (ls ++ ls') = if ls.any p then upTo p ls else ls ++ upTo p ls' := by
  induction ls with
  | nil => simp
  | cons l ls ih =>
    rw [List.cons_append, upTo, upTo, List.any_cons, ih]
    cases p l with
    | true => simp
    | false =>
      cases ls.any p with
      | true => simp
      | false => simp

theorem upTo_eq_self {ls : List β} (h : ls.any p = false) : upTo p ls = ls := by
  have := upTo_append p ls []
  rwa [List.append_nil, h, if_neg Bool.false_ne_true, upTo, List.append_nil] at this

theorem upTo_append_prefix (ls ls' : List β) : upTo p ls <+: upTo p (ls ++ ls') := by
  rw [upTo_append]
  split
  · exact List.prefix_refl _
  · rename_i h
    rw [upTo_eq_self p (by simpa using h)]
    exact List.prefix_append _ _

theorem upTo_subset (ls : List β) : upTo p ls ⊆ ls := by
  induction ls with
  | nil => exact List.Subset.refl _
  | cons l ls ih =>
    unfold upTo
    split
    · exact List.cons_subset_cons l (List.nil_subset ls)
    · exact List.cons_subset_cons l ih

/-- Stopping for more reasons is stopping earlier. -/
theorem upTo_mono {q : β → Bool} (h : ∀ l, q l = true → p l = true) (ls : List β) : upTo p ls <+: upTo q ls := by
  induction ls with
  | nil => exact List.prefix_refl _
  | cons l ls ih =>
    unfold upTo
    cases hp : p l with
    | true =>
      rw [if_pos rfl]
      split
      · exact List.prefix_refl _
      · exact ⟨upTo q ls, rfl⟩
    | false =>
      rw [if_neg Bool.false_ne_true, if_neg (fun hq => by rw [h l hq] at hp; cases hp)]
      exact List.cons_prefix_cons.mpr ⟨rfl, ih⟩

/-- The other reasons to stop play no part where none of them comes up. -/
theorem upTo_or {q : β → Bool} {ls : List β} (h : ∀ l ∈ upTo (fun l => p l || q l) ls, q l = false) :
    upTo (fun l => p l || q l) ls = upTo p ls ∧ ls.any (fun l => p l || q l) = ls.any p := by
  induction ls with
  | nil => exact ⟨rfl, rfl⟩
  | cons l ls ih =>
    unfold upTo at h ⊢
    rw [List.any_cons, List.any_cons]
    by_cases hp : p l = true
    · simp [hp]
    · by_cases hq : q l = true
      · rw [if_pos (by simp [hq])] at h
        have := h l (List.mem_singleton_self l)
        rw [hq] at this
        cases this
      · rw [if_neg (by simp [hp, hq])] at h
        obtain ⟨h1, h2⟩ := ih fun l' hl' => h l' (List.mem_cons_of_mem l hl')
        rw [if_neg (by simp [hp, hq]), if_neg hp, h1, h2]
        exact ⟨rfl, by simp [hq]⟩

/-- Nothing follows the line that stops. -/
theorem upTo_stops {ls a b : List β} {l : β} (h : a ++ l :: b <+: upTo p ls) (hl : p l = true) : b = [] := by
  induction ls generalizing a with
  | nil =>
    have := List.prefix_nil.mp h
    simp at this
  | cons l' ls ih =>
    unfold upTo at h
    cases a with
    | nil =>
      rw [List.nil_append] at h
      split at h
      · exact List.prefix_nil.mp (List.cons_prefix_cons.mp h).2
      · rename_i hl'
        rw [(List.cons_prefix_cons.mp h).1] at hl
        exact absurd hl hl'
    | cons x a =>
      rw [List.cons_append] at h
      split at h
      · have := List.prefix_nil.mp (List.cons_prefix_cons.mp h).2
        simp at this
      · exact ih (List.cons_prefix_cons.mp h).2

end UpTo

/-! ## Readers -/

/-- A line's handler: the state after the line, and whether the reader stops. -/
abbrev OnLine (σ α : Type) := σ → List α → σ × Bool

/-- The lines are handled until one stops the reader. -/
def runLines (f : OnLine σ α) : σ → List (List α) → σ × Bool
  | s, [] => (s, false)
  | s, l :: ls => if (f s l).2 then ((f s l).1, true) else runLines f (f s l).1 ls

omit [DecidableEq α] in
theorem runLines_append (f : OnLine σ α) (s : σ) (ls ls' : List (List α)) : runLines f s (ls ++ ls') =
    if (runLines f s ls).2 then runLines f s ls else runLines f (runLines f s ls).1 ls' := by
  induction ls generalizing s with
  | nil => rfl
  | cons l ls ih =>
    simp only [List.cons_append, runLines]
    by_cases hs : (f s l).2 = true
    · simp [hs]
    · simp only [hs, Bool.false_eq_true, if_false]
      exact ih _

structure Reader (σ α : Type) where
  state : σ
  buf : List α
  stopped : Bool

/-- `while ((nl = buf.indexOf("\n")) !== -1)` -/
def drain (f : OnLine σ α) (s : σ) (buf : List α) : Reader σ α :=
  match _h : cut d buf with
  | none => ⟨s, buf, false⟩
  | some (l, r) => if (f s l).2 then ⟨(f s l).1, r, true⟩ else drain f (f s l).1 r
termination_by buf.length
decreasing_by exact cut_length d ‹_›

/-- One chunk of text. -/
def Reader.feed (f : OnLine σ α) (r : Reader σ α) (chunk : List α) : Reader σ α :=
  if r.stopped then r else drain d f r.state (r.buf ++ chunk)

def Reader.feedAll (f : OnLine σ α) (r : Reader σ α) (chunks : List (List α)) : Reader σ α := chunks.foldl (Reader.feed d f) r

theorem feed_stopped {f : OnLine σ α} {r : Reader σ α} (h : r.stopped = true) (chunk : List α) : r.feed d f chunk = r :=
  if_pos h

theorem feed_going {f : OnLine σ α} {r : Reader σ α} (h : r.stopped = false) (chunk : List α) :
    r.feed d f chunk = drain d f r.state (r.buf ++ chunk) :=
  if_neg (by rw [h]; exact Bool.false_ne_true)

theorem feedAll_snoc (f : OnLine σ α) (r : Reader σ α) (chunks : List (List α)) (c : List α) :
    r.feedAll d f (chunks ++ [c]) = (r.feedAll d f chunks).feed d f c := by
  rw [Reader.feedAll, List.foldl_append]
  rfl

theorem drain_none {f : OnLine σ α} {s : σ} {buf : List α} (h : cut d buf = none) : drain d f s buf = ⟨s, buf, false⟩ := by
  rw [drain]
  split
  · rfl
  · rename_i he
    rw [h] at he
    cases he

theorem drain_some {f : OnLine σ α} {s : σ} {buf l r : List α} (h : cut d buf = some (l, r)) :
    drain d f s buf = if (f s l).2 then ⟨(f s l).1, r, true⟩ else drain d f (f s l).1 r := by
  rw [drain]
  split
  · rename_i he
    rw [h] at he
    cases he
  · rename_i he
    rw [h] at he
    cases he
    rfl

/-- A reader handles the lines it has whole, and keeps the rest. -/
theorem drain_lines (f : OnLine σ α) (s : σ) (buf : List α) :
    ((drain d f s buf).state, (drain d f s buf).stopped) = runLines f s (lines d buf) ∧
      ((drain d f s buf).stopped = false → (drain d f s buf).buf = rest d buf) := by
  induction hn : buf.length using Nat.strongRecOn generalizing s buf with
  | ind n ih =>
    cases h : cut d buf with
    | none =>
      rw [drain_none d h, lines, rest, cut_none d h]
      exact ⟨rfl, fun _ => rfl⟩
    | some c =>
      obtain ⟨l, r⟩ := c
      rw [drain_some d h, lines, rest, cut_some d h, runLines]
      split
      · exact ⟨rfl, fun h => by cases h⟩
      · exact ih r.length (hn ▸ cut_length d h) _ r rfl

/-- What chunks leave behind: the lines of all the text are handled, and the rest is kept. -/
theorem feedAll_lines (f : OnLine σ α) (s : σ) (chunks : List (List α)) :
    let r := Reader.feedAll d f ⟨s, [], false⟩ chunks
    (r.state, r.stopped) = runLines f s (lines d chunks.flatten) ∧
      (r.stopped = false → r.buf = rest d chunks.flatten) := by
  induction chunks using List.reverseRecOn with
  | nil => exact ⟨rfl, fun _ => rfl⟩
  | append_singleton chunks c ih =>
    simp only [Reader.feedAll, List.foldl_append, List.foldl_cons, List.foldl_nil, List.flatten_append,
      List.flatten_singleton] at ih ⊢
    obtain ⟨hs, hb⟩ := ih
    generalize chunks.foldl (Reader.feed d f) ⟨s, [], false⟩ = r at hs hb ⊢
    rw [lines_append, runLines_append, rest_append, ← hs]
    cases hr : r.stopped with
    | true =>
      rw [feed_stopped d hr]
      exact ⟨by simp [hr], by simp [hr]⟩
    | false =>
      obtain ⟨h1, h2⟩ := drain_lines d f r.state (r.buf ++ c)
      rw [feed_going d hr]
      rw [hb hr] at h1 h2 ⊢
      exact ⟨h1, h2⟩

end Lib.Framing
