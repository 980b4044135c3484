import Adn.Lib.Ieee
import Mathlib.Algebra.Order.BigOperators.Group.List
import Mathlib.Algebra.Order.Round
import Mathlib.Tactic.Linarith
import Mathlib.Tactic.FieldSimp
import Mathlib.Tactic.Positivity
/-!
# Exact arithmetic

What the operations on floats compute where no result is rounded. A finite float
`Is` a rational, and each operation is the one on rationals.
-/

namespace Lib

/-! ## Rounding to an integer -/

/-- The nearest integer, halves away from zero. -/
def roundAway (q : ℚ) : ℤ := if q < 0 then -round (-q) else round q

theorem round_mono {p q : ℚ} (h : p ≤ q) : round p ≤ round q := by
  rw [round_eq, round_eq]
  apply Int.floor_le_floor
  linarith

theorem round_nonneg {q : ℚ} (h : 0 ≤ q) : 0 ≤ round q := by
  have hround := round_mono h
  rwa [round_zero] at hround

theorem roundAway_mono {p q : ℚ} (h : p ≤ q) : roundAway p ≤ roundAway q := by
  unfold roundAway
  split <;> split
  · have hround := round_mono (neg_le_neg h)
    omega
  · have hp := round_nonneg (q := -p) (by linarith)
    have hq := round_nonneg (q := q) (by linarith)
    omega
  · linarith
  · exact round_mono h

theorem abs_sub_roundAway (q : ℚ) : |q - roundAway q| ≤ 1 / 2 := by
  unfold roundAway
  split
  · have hround := abs_sub_round (-q)
    have hneg : q - ((-round (-q) : ℤ) : ℚ) = -(-q - round (-q)) := by
      push_cast
      ring
    rwa [hneg, abs_neg]
  · exact abs_sub_round q

theorem roundAway_intCast (n : ℤ) : roundAway n = n := by
  have hneg : -(n : ℚ) = ((-n : ℤ) : ℚ) := by push_cast; rfl
  unfold roundAway
  rw [hneg, round_intCast, round_intCast]
  split <;> omega

/-- The nearest multiple of a hundredth. -/
def hundredths (q : ℚ) : ℚ := roundAway (q * 100) / 100

theorem hundredths_mono {p q : ℚ} (h : p ≤ q) : hundredths p ≤ hundredths q := by
  have hround : roundAway (p * 100) ≤ roundAway (q * 100) := roundAway_mono (by linarith)
  unfold hundredths
  gcongr

theorem abs_sub_hundredths (q : ℚ) : |q - hundredths q| ≤ 1 / 200 := by
  have hround := abs_le.1 (abs_sub_roundAway (q * 100))
  unfold hundredths
  rw [abs_le]
  constructor <;> linarith

theorem hundredths_intCast (n : ℤ) : hundredths (n / 100) = n / 100 := by
  have hn : (n : ℚ) / 100 * 100 = n := by ring
  unfold hundredths
  rw [hn, roundAway_intCast]

theorem hundredths_zero : hundredths 0 = 0 := by
  have h := hundredths_intCast 0
  rwa [Int.cast_zero, zero_div] at h

/-! ## Means -/

/-- The mean of some numbers. -/
def average (qs : List ℚ) : ℚ := qs.sum / qs.length

section
variable {qs : List ℚ} {m : ℚ} (hne : qs ≠ [])
include hne

theorem length_pos : (0 : ℚ) < qs.length := by
  have hlen := List.length_pos_iff.2 hne
  exact_mod_cast hlen

theorem le_average (h : ∀ q ∈ qs, m ≤ q) : m ≤ average qs := by
  have hsum := List.card_nsmul_le_sum qs m h
  rw [nsmul_eq_mul] at hsum
  rw [average, le_div_iff₀ (length_pos hne), mul_comm]
  exact hsum

theorem average_le (h : ∀ q ∈ qs, q ≤ m) : average qs ≤ m := by
  have hsum := List.sum_le_card_nsmul qs m h
  rw [nsmul_eq_mul] at hsum
  rw [average, div_le_iff₀ (length_pos hne), mul_comm]
  exact hsum

theorem average_constant (h : ∀ q ∈ qs, q = m) : average qs = m :=
  le_antisymm (average_le hne fun q hq => (h q hq).le) (le_average hne fun q hq => (h q hq).ge)

end

/-! ## Floats as rationals -/

namespace PyFloat

/-- The float is this number. -/
def Is (x : PyFloat) (q : ℚ) : Prop := x.isFinite = true ∧ x.rat = q

instance (x : PyFloat) (q : ℚ) : Decidable (Is x q) := inferInstanceAs (Decidable (_ ∧ _))

/-- The float is this number rounded, up to the sign of a zero. -/
def Rounds (rnd : ℚ → PyFloat) (x : PyFloat) (q : ℚ) : Prop := x = rnd q ∨ q = 0 ∧ Is x 0

theorem is_finite (q : ℚ) : Is (.finite q) q := ⟨rfl, rfl⟩

theorem is_iff {x : PyFloat} {q : ℚ} : Is x q ↔ x = .finite q ∨ x = .negZero ∧ q = 0 := by
  cases x <;> simp [Is, isFinite, rat, eq_comm]

theorem Is.unique {x : PyFloat} {p q : ℚ} (hp : Is x p) (hq : Is x q) : p = q := hp.2.symm.trans hq.2

theorem is_zero (negative : Bool) : Is (zero negative) 0 := by cases negative <;> exact ⟨rfl, rfl⟩

section
variable {rnd : ℚ → PyFloat} {x y : PyFloat} {p q : ℚ}

theorem is_rounded (q : ℚ) : Is (rounded .finite q) q := by
  unfold rounded
  split
  · rename_i hq
    exact ⟨rfl, hq.symm⟩
  · exact is_finite q

theorem is_ofNat (n : ℕ) : Is (ofNat .finite n) n := is_rounded n

theorem Is.neg (hx : Is x p) : Is x.neg (-p) := by
  rcases is_iff.1 hx with rfl | ⟨rfl, rfl⟩
  · by_cases hp : p = 0 <;> simp [PyFloat.neg, hp, Is, isFinite, rat]
  · exact ⟨rfl, by simp [PyFloat.neg, rat]⟩

theorem Is.add (hx : Is x p) (hy : Is y q) : Is (add .finite x y) (p + q) := by
  rcases is_iff.1 hx with rfl | ⟨rfl, rfl⟩ <;> rcases is_iff.1 hy with rfl | ⟨rfl, rfl⟩
  · exact is_rounded _
  · exact is_rounded _
  · exact is_rounded _
  · exact ⟨rfl, by simp [rat, PyFloat.add]⟩

theorem Is.sub (hx : Is x p) (hy : Is y q) : Is (sub .finite x y) (p - q) := by
  rw [sub_eq_add_neg]
  exact hx.add hy.neg

theorem Is.not_nan (hx : Is x p) : x ≠ .nan := by
  rintro rfl
  cases hx.1

theorem mul_rounds (hx : Is x p) (hy : Is y q) : Rounds rnd (PyFloat.mul rnd x y) (p * q) := by
  unfold PyFloat.mul
  simp only [hx.not_nan, hy.not_nan, or_self, if_false, hx.1, hy.1, Bool.and_self, if_true, hx.2, hy.2]
  split
  · rename_i hzero
    exact .inr ⟨mul_eq_zero.2 hzero, is_zero _⟩
  · exact .inl rfl

theorem div_rounds (hx : Is x p) (hy : Is y q) (hq : q ≠ 0) : Rounds rnd (PyFloat.div rnd x y) (p / q) := by
  unfold PyFloat.div
  simp only [hx.not_nan, hy.not_nan, or_self, if_false, hx.1, hy.1, if_true, hx.2, hy.2, hq]
  split
  · rename_i hzero
    exact .inr ⟨by rw [hzero, zero_div], is_zero _⟩
  · exact .inl rfl

theorem Rounds.is (h : Rounds .finite x q) : Is x q := by
  rcases h with rfl | ⟨rfl, hx⟩
  · exact is_finite q
  · exact hx

theorem Is.mul (hx : Is x p) (hy : Is y q) : Is (mul .finite x y) (p * q) := (mul_rounds hx hy).is

theorem Is.div (hx : Is x p) (hy : Is y q) (hq : q ≠ 0) : Is (div .finite x y) (p / q) := (div_rounds hx hy hq).is

theorem Is.round (hx : Is x p) : Is x.round (roundAway p) := by
  rcases is_iff.1 hx with rfl | ⟨rfl, rfl⟩
  · have hn : (if p < 0 then -⌊-p + 1 / 2⌋ else ⌊p + 1 / 2⌋) = roundAway p := by
      unfold roundAway
      rw [round_eq, round_eq]
    change Is (if (if p < 0 then -⌊-p + 1 / 2⌋ else ⌊p + 1 / 2⌋) = 0 then zero (p < 0) else
      .finite (if p < 0 then -⌊-p + 1 / 2⌋ else ⌊p + 1 / 2⌋ : ℤ)) _
    rw [hn]
    split
    · rename_i hzero
      rw [hzero, Int.cast_zero]
      exact is_zero _
    · exact is_finite _
  · exact ⟨rfl, by simp [rat, PyFloat.round, roundAway]⟩

/-! ## Comparisons -/

theorem Is.partialCmp (hx : Is x p) (hy : Is y q) : partialCmp x y = some (compare p q) := by
  rcases is_iff.1 hx with rfl | ⟨rfl, rfl⟩ <;> rcases is_iff.1 hy with rfl | ⟨rfl, rfl⟩ <;> rfl

theorem Is.lt_iff (hx : Is x p) (hy : Is y q) : lt x y = true ↔ p < q := by
  simp [lt, hx.partialCmp hy, compare_lt_iff_lt]

theorem Is.le_iff (hx : Is x p) (hy : Is y q) : le x y = true ↔ p ≤ q := by
  simp [le, hx.partialCmp hy, compare_lt_iff_lt, le_iff_lt_or_eq]

theorem Is.eq_iff (hx : Is x p) (hy : Is y q) : eq x y = true ↔ p = q := by
  simp [eq, hx.partialCmp hy]

theorem Is.min (hx : Is x p) (hy : Is y q) : Is (min x y) (Min.min p q) := by
  unfold PyFloat.min
  rw [hx.partialCmp hy]
  rcases lt_trichotomy p q with h | h | h
  · rw [compare_lt_iff_lt.2 h, min_eq_left h.le]
    exact hx
  · rw [compare_eq_iff_eq.2 h, min_eq_left h.le]
    exact hx
  · rw [compare_gt_iff_gt.2 h, min_eq_right h.le]
    exact hy

theorem Is.max (hx : Is x p) (hy : Is y q) : Is (max x y) (Max.max p q) := by
  unfold PyFloat.max
  rw [hx.partialCmp hy]
  rcases lt_trichotomy p q with h | h | h
  · rw [compare_lt_iff_lt.2 h, max_eq_right h.le]
    exact hy
  · rw [compare_eq_iff_eq.2 h, max_eq_left h.ge]
    exact hx
  · rw [compare_gt_iff_gt.2 h, max_eq_left h.le]
    exact hx

theorem Is.min_posInf (hx : Is x p) : PyFloat.min .posInf x = x := by
  rcases is_iff.1 hx with rfl | ⟨rfl, rfl⟩ <;> rfl

theorem Is.max_negInf (hx : Is x p) : PyFloat.max .negInf x = x := by
  rcases is_iff.1 hx with rfl | ⟨rfl, rfl⟩ <;> rfl

end

/-! ## Lists -/

section
variable {xs : List PyFloat} {qs : List ℚ}

theorem forall₂_is (xs : List Finite64) :
    List.Forall₂ Is (xs.map (·.val)) (xs.map fun x : Finite64 => x.val.rat) := by
  rw [List.forall₂_map_left_iff, List.forall₂_map_right_iff, List.forall₂_same]
  exact fun x _ => ⟨x.2, rfl⟩

theorem is_foldl_add {x : PyFloat} {p : ℚ} (hx : Is x p) (h : List.Forall₂ Is xs qs) :
    Is (xs.foldl (add .finite) x) (p + qs.sum) := by
  induction h generalizing x p with
  | nil => simpa using hx
  | cons hhead htail ih =>
    rw [List.foldl_cons, List.sum_cons, ← add_assoc]
    exact ih (hx.add hhead)

theorem is_sum (h : List.Forall₂ Is xs qs) : Is (sum .finite xs) qs.sum := by
  have hsum := is_foldl_add (is_finite 0) h
  rwa [zero_add] at hsum

/-- A fold with a selection of one of two numbers, which `r` relates to both. -/
theorem is_foldl_select {f : PyFloat → PyFloat → PyFloat} {g : ℚ → ℚ → ℚ} {r : ℚ → ℚ → Prop}
    (hf : ∀ {x y p q}, Is x p → Is y q → Is (f x y) (g p q)) (hg : ∀ p q, g p q = p ∨ g p q = q)
    (hr : ∀ p q, r (g p q) p ∧ r (g p q) q) (hrefl : ∀ p, r p p) (htrans : ∀ {a b c}, r a b → r b c → r a c)
    {x : PyFloat} {p : ℚ} (hx : Is x p) (h : List.Forall₂ Is xs qs) :
    ∃ m, Is (xs.foldl f x) m ∧ m ∈ p :: qs ∧ ∀ q ∈ p :: qs, r m q := by
  induction h generalizing x p with
  | nil => exact ⟨p, hx, List.mem_cons_self, by simpa using hrefl p⟩
  | @cons y q ys qs hhead _ ih =>
    obtain ⟨m, hm, hmem, hbound⟩ := ih (hf hx hhead)
    have hchosen := hbound _ List.mem_cons_self
    refine ⟨m, hm, ?_, ?_⟩
    · rcases List.mem_cons.1 hmem with rfl | hmem
      · rcases hg p q with h | h <;> simp [h]
      · simp [hmem]
    · intro a ha
      rcases List.mem_cons.1 ha with rfl | ha
      · exact htrans hchosen (hr _ _).1
      · rcases List.mem_cons.1 ha with rfl | ha
        · exact htrans hchosen (hr _ _).2
        · exact hbound a (List.mem_cons_of_mem _ ha)

/-- The least of some numbers. -/
theorem is_least (hne : xs ≠ []) (h : List.Forall₂ Is xs qs) :
    ∃ m, Is (xs.foldl PyFloat.min .posInf) m ∧ m ∈ qs ∧ ∀ q ∈ qs, m ≤ q := by
  cases h with
  | nil => exact absurd rfl hne
  | cons hhead htail =>
    rw [List.foldl_cons, hhead.min_posInf]
    exact is_foldl_select (r := (· ≤ ·)) Is.min min_choice (fun p q => ⟨min_le_left p q, min_le_right p q⟩) le_refl
      le_trans hhead htail

/-- The greatest of some numbers. -/
theorem is_greatest (hne : xs ≠ []) (h : List.Forall₂ Is xs qs) :
    ∃ m, Is (xs.foldl PyFloat.max .negInf) m ∧ m ∈ qs ∧ ∀ q ∈ qs, q ≤ m := by
  cases h with
  | nil => exact absurd rfl hne
  | cons hhead htail =>
    rw [List.foldl_cons, hhead.max_negInf]
    exact is_foldl_select (r := (· ≥ ·)) Is.max max_choice (fun p q => ⟨le_max_left p q, le_max_right p q⟩) le_refl
      (fun hab hbc => le_trans hbc hab) hhead htail

end

end PyFloat

end Lib
