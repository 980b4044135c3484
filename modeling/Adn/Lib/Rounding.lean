import Adn.Lib.Exact
import Mathlib.Data.Prod.Lex
/-!
# Monotone rounding

Where rounding keeps the order of numbers and is exact at zero and one, products,
quotients and rounding to integers keep the order of floats that are not negative,
infinity included (`Increasing`).
-/

namespace Lib.PyFloat

/-! ## The order of floats -/

/-- Where a float lies, the infinities apart; that of a `NaN` is not looked at. -/
def level : PyFloat → ℤ ×ₗ ℚ
  | .posInf => toLex (1, 0)
  | .negInf => toLex (-1, 0)
  | x => toLex (0, x.rat)

section
variable {x y z : PyFloat} {p q : ℚ}

theorem Is.level (h : Is x p) : x.level = toLex (0, p) := by
  rcases is_iff.1 h with rfl | ⟨rfl, rfl⟩ <;> rfl

theorem level_le_posInf : x.level ≤ PyFloat.posInf.level := by
  cases x <;> simp [PyFloat.level, Prod.Lex.toLex_le_toLex]

theorem le_iff_level : le x y = true ↔ (x ≠ .nan ∧ y ≠ .nan) ∧ x.level ≤ y.level := by
  cases x <;> cases y <;> simp [le, partialCmp, PyFloat.level, rat, compare_lt_iff_lt, le_iff_lt_or_eq,
    Prod.Lex.toLex_lt_toLex]

theorem le_posInf (h : x ≠ .nan) : le x .posInf = true := le_iff_level.2 ⟨⟨h, nofun⟩, level_le_posInf⟩

theorem le_trans_float (hxy : le x y = true) (hyz : le y z = true) : le x z = true := by
  obtain ⟨⟨hx, -⟩, hxy⟩ := le_iff_level.1 hxy
  obtain ⟨⟨-, hz⟩, hyz⟩ := le_iff_level.1 hyz
  exact le_iff_level.2 ⟨⟨hx, hz⟩, hxy.trans hyz⟩

theorem le_total_float (hx : x ≠ .nan) (hy : y ≠ .nan) (h : ¬le x y = true) : le y x = true := by
  rw [le_iff_level] at h ⊢
  exact ⟨⟨hy, hx⟩, (le_total _ _).resolve_left fun hle => h ⟨⟨hx, hy⟩, hle⟩⟩

/-- A float that is not negative is infinite or a number. -/
theorem nonneg_cases (h : le (.finite 0) x = true) : x = .posInf ∨ ∃ q, Is x q ∧ 0 ≤ q := by
  cases x with
  | finite q => exact .inr ⟨q, is_finite q, ((is_finite 0).le_iff (is_finite q)).1 h⟩
  | negZero => exact .inr ⟨0, ⟨rfl, rfl⟩, le_rfl⟩
  | posInf => exact .inl rfl
  | negInf => cases h
  | nan => cases h

end

/-! ## Rounding -/

/-- Rounding to a float, of which there are zero and one. -/
structure Rounding (rnd : ℚ → PyFloat) : Prop where
  mono {p q : ℚ} : p ≤ q → le (rnd p) (rnd q) = true
  zero : rnd 0 = .finite 0
  one : rnd 1 = .finite 1

theorem rounding_finite : Rounding .finite where
  mono h := ((is_finite _).le_iff (is_finite _)).2 h
  zero := rfl
  one := rfl

section
variable {rnd : ℚ → PyFloat} (hr : Rounding rnd) {x y : PyFloat} {p q : ℚ}

include hr

theorem Rounding.not_nan (q : ℚ) : rnd q ≠ .nan := (le_iff_level.1 (hr.mono (le_refl q))).1.1

theorem Rounds.level (h : Rounds rnd x q) : x ≠ .nan ∧ x.level = (rnd q).level := by
  rcases h with rfl | ⟨rfl, hx⟩
  · exact ⟨hr.not_nan q, rfl⟩
  · rw [hx.level, hr.zero]
    exact ⟨hx.not_nan, rfl⟩

theorem Rounds.le (hx : Rounds rnd x p) (hy : Rounds rnd y q) (h : p ≤ q) : le x y = true := by
  obtain ⟨hxn, hxl⟩ := hx.level hr
  obtain ⟨hyn, hyl⟩ := hy.level hr
  rw [le_iff_level, hxl, hyl]
  exact ⟨⟨hxn, hyn⟩, (le_iff_level.1 (hr.mono h)).2⟩

theorem Rounds.nonneg (hx : Rounds rnd x p) (h : 0 ≤ p) : PyFloat.le (.finite 0) x = true :=
  Rounds.le hr (.inl hr.zero.symm) hx h

end

/-! ## Operations that keep the order -/

/-- Floats that are not negative stay so, and keep their order. -/
structure Increasing (f : PyFloat → PyFloat) : Prop where
  nonneg {x : PyFloat} : le (.finite 0) x = true → le (.finite 0) (f x) = true
  le {x y : PyFloat} : le (.finite 0) x = true → le x y = true → le (f x) (f y) = true

theorem Increasing.comp {f g : PyFloat → PyFloat} (hf : Increasing f) (hg : Increasing g) : Increasing fun x => f (g x) where
  nonneg h := hf.nonneg (hg.nonneg h)
  le h hxy := hf.le (hg.nonneg h) (hg.le h hxy)

/-- An operation that keeps infinity and the order of numbers. -/
theorem Increasing.of {f : PyFloat → PyFloat} (htop : f .posInf = .posInf)
    (hnonneg : ∀ {x p}, Is x p → 0 ≤ p → PyFloat.le (.finite 0) (f x) = true)
    (hle : ∀ {x y p q}, Is x p → Is y q → 0 ≤ p → p ≤ q → PyFloat.le (f x) (f y) = true) : Increasing f := by
  have hstays : ∀ {x}, PyFloat.le (.finite 0) x = true → PyFloat.le (.finite 0) (f x) = true := by
    intro x h
    rcases nonneg_cases h with rfl | ⟨p, hp, hpos⟩
    · rw [htop]
      exact h
    · exact hnonneg hp hpos
  refine ⟨hstays, ?_⟩
  intro x y hx hxy
  rcases nonneg_cases (le_trans_float hx hxy) with rfl | ⟨q, hq, -⟩
  · rw [htop]
    exact le_posInf (le_iff_level.1 (hstays hx)).1.2
  · rcases nonneg_cases hx with rfl | ⟨p, hp, hpos⟩
    · -- infinity is at most infinity
      rcases is_iff.1 hq with rfl | ⟨rfl, -⟩ <;> cases hxy
    · exact hle hp hq hpos ((hp.le_iff hq).1 hxy)

section
variable {rnd : ℚ → PyFloat} (hr : Rounding rnd) {c : PyFloat} {k : ℚ} (hc : Is c k) (hk : 0 < k)
include hr hc hk

theorem increasing_mul : Increasing (mul rnd · c) := by
  refine .of ?_ ?_ ?_
  · rcases is_iff.1 hc with rfl | ⟨rfl, rfl⟩
    · simp [mul, isFinite, isNegative, rat, infinity, hk.ne', not_lt.2 hk.le]
    · exact absurd hk (lt_irrefl 0)
  · intro x p hx hp
    exact (mul_rounds hx hc).nonneg hr (mul_nonneg hp hk.le)
  · intro x y p q hx hy _ hpq
    exact (mul_rounds hx hc).le hr (mul_rounds hy hc) (mul_le_mul_of_nonneg_right hpq hk.le)

theorem increasing_div : Increasing (div rnd · c) := by
  refine .of ?_ ?_ ?_
  · rcases is_iff.1 hc with rfl | ⟨rfl, rfl⟩
    · simp [div, isFinite, isNegative, infinity, not_lt.2 hk.le]
    · exact absurd hk (lt_irrefl 0)
  · intro x p hx hp
    exact (div_rounds hx hc hk.ne').nonneg hr (div_nonneg hp hk.le)
  · intro x y p q hx hy _ hpq
    exact (div_rounds hx hc hk.ne').le hr (div_rounds hy hc hk.ne') ((div_le_div_iff_of_pos_right hk).2 hpq)

end

theorem increasing_round : Increasing round := by
  refine .of rfl ?_ ?_
  · intro x p hx hp
    rw [(is_finite 0).le_iff hx.round]
    have hround := roundAway_mono hp
    rw [← Int.cast_zero, roundAway_intCast] at hround
    exact_mod_cast hround
  · intro x y p q hx hy _ hpq
    rw [hx.round.le_iff hy.round]
    exact_mod_cast roundAway_mono hpq

end Lib.PyFloat
