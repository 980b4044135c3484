import Mathlib.Logic.Basic
/-!
# Statements that may raise

Statements on a state, any of which may raise: what is left is the state that the ones
before it have made.

- `on_bind_ok`, `on_bind_error`, `on_bind_eq_ok`: a sequence by its parts.
- `Leaves R`: however the statements end, the state they leave is related by `R`. It is kept
  by sequences and loops where `R` is reflexive and transitive.
- `foldlM_ok`: an invariant of the rounds of a loop that returns.
-/

namespace Lib

/-- Statements on a state. -/
abbrev Statements (ε σ α : Type) := ExceptT ε (StateM σ) α

namespace Statements

variable {ε σ α β γ : Type}

/-- The result, and the state that is left. -/
def on (x : Statements ε σ α) (s : σ) : Except ε α × σ := StateT.run (ExceptT.run x) s

/-- A computation that does not touch the state. -/
def ofExcept (x : Except ε α) : Statements ε σ α := ExceptT.mk (pure x)

/-! ## Sequences -/

section
variable {s s' t : σ} {x : Statements ε σ α} {f : α → Statements ε σ β}

theorem on_pure (a : α) : (pure a : Statements ε σ α).on s = (.ok a, s) := rfl

theorem on_ofExcept (x : Except ε α) : (ofExcept x : Statements ε σ α).on s = (x, s) := rfl

theorem on_get : (get : Statements ε σ σ).on s = (.ok s, s) := rfl

theorem on_modify (g : σ → σ) : (modify g : Statements ε σ PUnit).on s = (.ok ⟨⟩, g s) := rfl

theorem on_bind_ok {a : α} (h : x.on s = (.ok a, t)) : (x >>= f).on s = (f a).on t := by
  unfold on at h ⊢
  rw [ExceptT.run_bind, StateT.run_bind, h]
  rfl

theorem on_bind_error {e : ε} (h : x.on s = (.error e, t)) : (x >>= f).on s = (.error e, t) := by
  unfold on at h ⊢
  rw [ExceptT.run_bind, StateT.run_bind, h]
  rfl

theorem on_bind_eq_ok {b : β} : (x >>= f).on s = (.ok b, s') ↔ ∃ a t, x.on s = (.ok a, t) ∧ (f a).on t = (.ok b, s') := by
  obtain ⟨r, t, h⟩ : ∃ r t, x.on s = (r, t) := ⟨_, _, rfl⟩
  cases r with
  | error e =>
    rw [on_bind_error h, h]
    simp
  | ok a =>
    rw [on_bind_ok h, h]
    constructor
    · intro hrest
      exact ⟨a, t, rfl, hrest⟩
    · rintro ⟨a', t', heq, hrest⟩
      cases heq
      exact hrest

/-- A check that passes goes on in the same state. -/
theorem on_ofExcept_bind_eq_ok {y : Except ε α} {b : β} :
    (ofExcept y >>= f).on s = (.ok b, s') ↔ ∃ a, y = .ok a ∧ (f a).on s = (.ok b, s') := by
  rw [on_bind_eq_ok]
  constructor
  · rintro ⟨a, t, hcheck, hrest⟩
    cases hcheck
    exact ⟨a, rfl, hrest⟩
  · rintro ⟨a, rfl, hrest⟩
    exact ⟨a, s, rfl, hrest⟩

end

/-! ## What is left -/

/-- Returned or raised, the state that is left is related to the first one. -/
def Leaves (R : σ → σ → Prop) (x : Statements ε σ α) : Prop := ∀ s, R s (x.on s).2

section
variable {R : σ → σ → Prop}

theorem leaves_ofExcept (hrefl : ∀ s, R s s) (x : Except ε α) : Leaves R (ofExcept x : Statements ε σ α) := hrefl

/-- What the first part leaves, and then what the second one does after it returned. -/
theorem on_bind_leaves {P : σ → Prop} {x : Statements ε σ α} {f : α → Statements ε σ β} {s : σ} (hx : P (x.on s).2)
    (hf : ∀ a t, x.on s = (.ok a, t) → P ((f a).on t).2) : P ((x >>= f).on s).2 := by
  obtain ⟨r, t, h⟩ : ∃ r t, x.on s = (r, t) := ⟨_, _, rfl⟩
  rw [h] at hx
  cases r with
  | error e =>
    rw [on_bind_error h]
    exact hx
  | ok a =>
    rw [on_bind_ok h]
    exact hf a t h

theorem Leaves.bind (htrans : ∀ s t u, R s t → R t u → R s u) {x : Statements ε σ α} {f : α → Statements ε σ β}
    (hx : Leaves R x) (hf : ∀ a, Leaves R (f a)) : Leaves R (x >>= f) := by
  intro s
  apply on_bind_leaves (hx s)
  intro a t h
  have hfirst := hx s
  rw [h] at hfirst
  exact htrans s t _ hfirst (hf a t)

theorem leaves_foldlM (hrefl : ∀ s, R s s) (htrans : ∀ s t u, R s t → R t u → R s u) {f : β → γ → Statements ε σ β}
    {cs : List γ} (hf : ∀ b, ∀ c ∈ cs, Leaves R (f b c)) (b : β) : Leaves R (cs.foldlM f b) := by
  induction cs generalizing b with
  | nil => exact hrefl
  | cons c cs ih =>
    rw [List.foldlM_cons]
    exact (hf b c List.mem_cons_self).bind htrans (ih fun b d hd => hf b d (List.mem_cons_of_mem c hd))

theorem leaves_forM (hrefl : ∀ s, R s s) (htrans : ∀ s t u, R s t → R t u → R s u) {f : γ → Statements ε σ PUnit}
    {cs : List γ} (hf : ∀ c ∈ cs, Leaves R (f c)) : Leaves R (cs.forM f) := by
  induction cs with
  | nil => exact hrefl
  | cons c cs ih =>
    exact (hf c List.mem_cons_self).bind htrans fun _ => ih fun d hd => hf d (List.mem_cons_of_mem c hd)

end

/-! ## Loops that return -/

/-- What holds of the rounds so far holds of all of them in the end. -/
theorem foldlM_ok {I : List γ → β → σ → Prop} {f : β → γ → Statements ε σ β}
    (hstep : ∀ done b s c b' s', I done b s → (f b c).on s = (.ok b', s') → I (done ++ [c]) b' s')
    {cs : List γ} {b b' : β} {s s' : σ} (done : List γ) (h0 : I done b s) (h : (cs.foldlM f b).on s = (.ok b', s')) :
    I (done ++ cs) b' s' := by
  induction cs generalizing done b s with
  | nil =>
    rw [List.foldlM_nil, on_pure] at h
    cases h
    rwa [List.append_nil]
  | cons c cs ih =>
    rw [List.foldlM_cons, on_bind_eq_ok] at h
    obtain ⟨a, t, hfirst, hrest⟩ := h
    rw [List.append_cons]
    exact ih _ (hstep done b s c a t h0 hfirst) hrest

theorem forM_ok {I : List γ → σ → Prop} {f : γ → Statements ε σ PUnit}
    (hstep : ∀ done s c s', I done s → (f c).on s = (.ok ⟨⟩, s') → I (done ++ [c]) s')
    {cs : List γ} {s s' : σ} (done : List γ) (h0 : I done s) (h : (cs.forM f).on s = (.ok ⟨⟩, s')) :
    I (done ++ cs) s' := by
  induction cs generalizing done s with
  | nil =>
    cases h
    rwa [List.append_nil]
  | cons c cs ih =>
    obtain ⟨_, t, hfirst, hrest⟩ := on_bind_eq_ok.1 h
    rw [List.append_cons]
    exact ih _ (hstep done s c t h0 hfirst) hrest

end Statements

end Lib
