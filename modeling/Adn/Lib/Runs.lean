import Mathlib.Data.List.Basic
/-!
# Runs of a transition system

A `Run` is a finite sequence of labelled steps from a first state. Every
theorem about each `Run` of a system of several parties holds for each
interleaving of their steps.

- `Run.inv`: what the first state satisfies and each step keeps holds at the end.
- `Run.after`: what one step establishes and later steps keep.
- `Run.lastFor`: a table that is only written to holds the last entry of each key.
-/

namespace Lib

variable {S L : Type}

/-- The labels of a run, oldest first, and the state after them. -/
inductive Run (step : S → L → S → Prop) (init : S) : List L → S → Prop
  | nil : Run step init [] init
  | snoc {ls : List L} {s s' : S} {l : L} : Run step init ls s → step s l s' → Run step init (ls ++ [l]) s'

/-- The steps that also meet a condition on the state before them. -/
def Meeting (step : S → L → S → Prop) (cond : S → L → Prop) (s : S) (l : L) (s' : S) : Prop :=
  step s l s' ∧ cond s l

namespace Run

variable {step : S → L → S → Prop} {init : S}

theorem append {ls ls' : List L} {s s' : S} (h : Run step init ls s) (h' : Run step s ls' s') :
    Run step init (ls ++ ls') s' := by
  induction h' with
  | nil => rwa [List.append_nil]
  | snoc _ hst ih => rw [← List.append_assoc]; exact ih.snoc hst

theorem cons {s : S} {l : L} {ls : List L} {s' : S} (hst : step init l s) (h : Run step s ls s') :
    Run step init (l :: ls) s' :=
  (snoc nil hst).append h

theorem mono {step' : S → L → S → Prop} (hm : ∀ s l s', step s l s' → step' s l s') {ls : List L} {s : S}
    (h : Run step init ls s) : Run step' init ls s := by
  induction h with
  | nil => exact .nil
  | snoc _ hst ih => exact ih.snoc (hm _ _ _ hst)

theorem inv {I : S → Prop} (h0 : I init) (hs : ∀ s l s', I s → step s l s' → I s') {ls : List L} {s : S}
    (h : Run step init ls s) : I s := by
  induction h with
  | nil => exact h0
  | snoc _ hst ih => exact hs _ _ _ ih hst

/-- An invariant about the state together with the labels so far. -/
theorem hist {I : List L → S → Prop} (h0 : I [] init)
    (hs : ∀ ls s l s', I ls s → step s l s' → I (ls ++ [l]) s') {ls : List L} {s : S}
    (h : Run step init ls s) : I ls s := by
  induction h with
  | nil => exact h0
  | snoc _ hst ih => exact hs _ _ _ _ ih hst

/-- A run splits at any of its labels. -/
theorem split {ls : List L} {s : S} (h : Run step init ls s) :
    ∀ pre l post, ls = pre ++ l :: post →
      ∃ a b, Run step init pre a ∧ step a l b ∧ Run step b post s := by
  induction h with
  | nil => intro pre l post he; simp at he
  | @snoc ls s s' l' hr hst ih =>
    intro pre l post he
    rcases List.eq_nil_or_concat post with rfl | ⟨post', x, rfl⟩
    · obtain ⟨rfl, hl⟩ := List.append_inj' he rfl
      cases hl
      exact ⟨s, s', hr, hst, .nil⟩
    · rw [List.concat_eq_append, ← List.cons_append, ← List.append_assoc] at he
      obtain ⟨hls, hx⟩ := List.append_inj' he rfl
      cases hx
      obtain ⟨a, b, h1, h2, h3⟩ := ih pre l post' hls
      rw [List.concat_eq_append]
      exact ⟨a, b, h1, h2, h3.snoc hst⟩

/-- What a step establishes and every later step keeps holds at every later step. -/
theorem after {Q : S → Prop} (hkeep : ∀ s l s', Q s → step s l s' → Q s') {ls : List L} {s : S}
    (h : Run step init ls s) {pre post : List L} {l : L} (he : ls = pre ++ l :: post)
    (hest : ∀ a b, Run step init pre a → step a l b → Q b) : Q s := by
  obtain ⟨a, b, h1, h2, h3⟩ := h.split pre l post he
  exact h3.inv (hest a b h1 h2) hkeep

end Run

/-! ## Tables -/

section
variable {κ α : Type} {entry : L → Option (κ × α)} {ls : List L} {l : L} {k : κ} {v : α}

/-- The last entry for this key. -/
def LastFor (entry : L → Option (κ × α)) (ls : List L) (k : κ) (v : α) : Prop :=
  ∃ before l later, ls = before ++ l :: later ∧ entry l = some (k, v) ∧ ∀ l' ∈ later, ∀ v', entry l' ≠ some (k, v')

theorem lastFor_concat : LastFor entry (ls ++ [l]) k v ↔
    entry l = some (k, v) ∨ (∀ v', entry l ≠ some (k, v')) ∧ LastFor entry ls k v := by
  constructor
  · rintro ⟨before, l', later, heq, hentry, hlater⟩
    rcases List.eq_nil_or_concat later with rfl | ⟨later, x, rfl⟩
    · obtain ⟨-, hl⟩ := List.append_inj' heq rfl
      cases hl
      exact .inl hentry
    · rw [List.concat_eq_append, ← List.cons_append, ← List.append_assoc] at heq
      obtain ⟨hls, hx⟩ := List.append_inj' heq rfl
      cases hx
      simp only [List.concat_eq_append, List.forall_mem_append, List.forall_mem_singleton] at hlater
      exact .inr ⟨hlater.2, before, l', later, hls, hentry, hlater.1⟩
  · rintro (hentry | ⟨hother, before, l', later, rfl, hentry, hlater⟩)
    · exact ⟨ls, l, [], rfl, hentry, by simp⟩
    · refine ⟨before, l', later ++ [l], by simp, hentry, ?_⟩
      simp only [List.forall_mem_append, List.forall_mem_singleton]
      exact ⟨hlater, hother⟩

/-- A table that starts empty, and to which each step writes its entry. -/
theorem Run.lastFor {step : S → L → S → Prop} {init s : S} {t : S → κ → Option α} (h0 : ∀ k, t init k = none)
    (hs : ∀ s l s', step s l s' → ∀ k v, t s' k = some v ↔
      entry l = some (k, v) ∨ (∀ v', entry l ≠ some (k, v')) ∧ t s k = some v)
    (h : Run step init ls s) (k : κ) (v : α) : t s k = some v ↔ LastFor entry ls k v := by
  induction h with
  | nil =>
    rw [h0]
    exact iff_of_false nofun fun ⟨_, _, _, heq, _⟩ => by simp at heq
  | snoc _ hst ih => rw [hs _ _ _ hst, ih, lastFor_concat]

end

end Lib
