import Adn.Lib.Js
/-!
# One document, read twice

A JSON document as `json.loads` reads it and as `JSON.parse` does. Python keeps an
integer apart from a float and reads it exactly; JavaScript makes a double of it, which
is exact up to `2 ^ 53` and infinite where no double is left. A JavaScript object lists
its properties in an order of its own.
-/

namespace Lib

/-- Integers from here on have no finite double next to them. -/
def doubleOverflow : ℕ := 2 ^ 1024 - 2 ^ 970

/-- The double of an integer's literal. Only `-0` gives the negative zero. -/
inductive AsDouble (n : ℤ) : PyFloat → Prop where
  | exact (h : n.natAbs ≤ 2 ^ 53) : AsDouble n (.finite n)
  | negZero (h : n = 0) : AsDouble n .negZero
  | rounded {m : ℤ} (h : 2 ^ 53 < n.natAbs) (ho : n.natAbs < doubleOverflow) (hm : 2 ^ 53 ≤ m.natAbs)
      (hs : m.sign = n.sign) : AsDouble n (.finite m)
  | posInf (h : (doubleOverflow : ℤ) ≤ n) : AsDouble n .posInf
  | negInf (h : n ≤ -(doubleOverflow : ℤ)) : AsDouble n .negInf

/-- The two readings of a document. -/
inductive Parsed : Json → Js → Prop where
  | null : Parsed .null .null
  | bool (b : Bool) : Parsed (.bool b) (.bool b)
  | int {n : ℤ} {x : PyFloat} (h : AsDouble n x) : Parsed (.int n) (.num x)
  | float (x : PyFloat) : Parsed (.float x) (.num x)
  | str (s : Str) : Parsed (.str s) (.str s)
  | arr {xs : List Json} {ys : List Js} (hl : xs.length = ys.length) (h : ∀ p ∈ xs.zip ys, Parsed p.1 p.2) :
      Parsed (.arr xs) (.arr ys)
  | obj {fs : Dict} {gs o : Props} (hk : fs.map (·.1) = gs.map (·.1)) (hn : (fs.map (·.1)).Nodup)
      (h : ∀ p ∈ fs.zip gs, Parsed p.1.2 p.2.2) (ho : gs.Perm o) : Parsed (.obj fs) (.obj o)

/-! ## The fields of an object -/

namespace Parsed

theorem zip_left {P : Json → Js → Prop} {fs : Dict} {gs : Props} (hk : fs.map (·.1) = gs.map (·.1))
    (h : ∀ p ∈ fs.zip gs, P p.1.2 p.2.2) : ∀ f ∈ fs, ∃ w, (f.1, w) ∈ gs ∧ P f.2 w := by
  induction fs generalizing gs with
  | nil => simp
  | cons f fs ih =>
    cases gs with
    | nil => simp at hk
    | cons g gs =>
      simp only [List.map_cons, List.cons.injEq] at hk
      rw [List.zip_cons_cons] at h
      obtain ⟨hfg, htail⟩ := List.forall_mem_cons.mp h
      refine List.forall_mem_cons.mpr ⟨⟨g.2, by rw [hk.1]; exact List.mem_cons_self, hfg⟩, fun f' hf' => ?_⟩
      obtain ⟨w, hw, hp⟩ := ih hk.2 htail f' hf'
      exact ⟨w, List.mem_cons_of_mem g hw, hp⟩

theorem zip_right {P : Json → Js → Prop} {fs : Dict} {gs : Props} (hk : fs.map (·.1) = gs.map (·.1))
    (h : ∀ p ∈ fs.zip gs, P p.1.2 p.2.2) : ∀ g ∈ gs, ∃ v, (g.1, v) ∈ fs ∧ P v g.2 := by
  induction gs generalizing fs with
  | nil => simp
  | cons g gs ih =>
    cases fs with
    | nil => simp at hk
    | cons f fs =>
      simp only [List.map_cons, List.cons.injEq] at hk
      rw [List.zip_cons_cons] at h
      obtain ⟨hfg, htail⟩ := List.forall_mem_cons.mp h
      refine List.forall_mem_cons.mpr ⟨⟨f.2, by rw [← hk.1]; exact List.mem_cons_self, hfg⟩, fun g' hg' => ?_⟩
      obtain ⟨v, hv, hp⟩ := ih hk.2 htail g' hg'
      exact ⟨v, List.mem_cons_of_mem f hv, hp⟩

variable {fs : Dict} {o : Props} (h : Parsed (.obj fs) (.obj o))

include h

/-- Every field is read as a property, under its name. -/
theorem mem_left {k : Str} {v : Json} (hm : (k, v) ∈ fs) : ∃ w, (k, w) ∈ o ∧ Parsed v w := by
  cases h with
  | obj hk _ hz ho =>
    obtain ⟨w, hw, hp⟩ := zip_left hk hz _ hm
    exact ⟨w, ho.mem_iff.mp hw, hp⟩

theorem mem_right {k : Str} {w : Js} (hm : (k, w) ∈ o) : ∃ v, (k, v) ∈ fs ∧ Parsed v w := by
  cases h with
  | obj hk _ hz ho => exact zip_right hk hz _ (ho.mem_iff.mpr hm)

theorem names_nodup : (fs.map (·.1)).Nodup ∧ (o.map (·.1)).Nodup := by
  cases h with
  | obj hk hn _ ho => exact ⟨hn, (ho.map (·.1)).nodup_iff.mp (hk ▸ hn)⟩

/-- What holds of every field holds of every property. -/
theorem forall_iff {P : Str → Json → Prop} {Q : Str → Js → Prop} (hPQ : ∀ k v w, Parsed v w → (P k v ↔ Q k w)) :
    (∀ f ∈ fs, P f.1 f.2) ↔ ∀ g ∈ o, Q g.1 g.2 := by
  constructor
  · intro hf g hg
    obtain ⟨v, hv, hp⟩ := h.mem_right hg
    exact (hPQ g.1 v g.2 hp).mp (hf _ hv)
  · intro hg f hf
    obtain ⟨w, hw, hp⟩ := h.mem_left hf
    exact (hPQ f.1 f.2 w hp).mpr (hg _ hw)

/-- A name is read in both, or in neither. -/
theorem get? (k : Str) : (fs.get? k = none ∧ o.get? k = none) ∨
    ∃ v w, fs.get? k = some v ∧ o.get? k = some w ∧ Parsed v w := by
  cases hv : fs.get? k with
  | some v =>
    obtain ⟨w, hw, hp⟩ := h.mem_left (Dict.mem_of_get? hv)
    exact .inr ⟨v, w, rfl, Props.get?_of_mem h.names_nodup.2 hw, hp⟩
  | none =>
    cases hw : o.get? k with
    | none => exact .inl ⟨rfl, rfl⟩
    | some w =>
      obtain ⟨v, hm, -⟩ := h.mem_right (Props.mem_of_get? hw)
      rw [Dict.get?_of_mem h.names_nodup.1 hm] at hv
      cases hv

end Parsed

/-! ## Integers as numbers -/

namespace Js

open Numerals

/-- An integer of at most 21 digits is written out. -/
theorem numberText_int {n : ℤ} (h : n.natAbs < 10 ^ 21) : numberText (.finite n) = intText n := by
  have hlen : (natDigits n.natAbs).length ≤ 21 := by
    unfold natDigits
    split
    · simp
    · rw [List.length_reverse]
      exact (Nat.digits_length_le_iff (by decide) _).mpr h
  have hpos : 0 < (natDigits n.natAbs).length := List.length_pos_iff.mpr (natDigits_ne_nil _)
  have hrat : Sci.ofRat n = some ⟨(natDigits n.natAbs).rdropWhile (· = 0), (natDigits n.natAbs).length⟩ := by
    simp [Sci.ofRat, Sci.decimalShift]
  obtain ⟨j, hj⟩ := Sci.strip_zeros (natDigits n.natAbs)
  generalize hd : (natDigits n.natAbs).rdropWhile (· = 0) = ds at hrat hj
  have hcount : (natDigits n.natAbs).length = ds.length + j := by rw [hj]; simp
  have hwhole : jsNumeral (decide ((n : ℚ) < 0)) ⟨ds, (natDigits n.natAbs).length⟩ =
      ⟨decide (n < 0), natDigits n.natAbs, [], none⟩ := by
    simp only [jsNumeral, fixed]
    rw [if_pos (by omega), if_neg (by omega), if_pos (by omega), hcount]
    simp only [Nat.cast_add, add_sub_cancel_left, Int.toNat_natCast, ← hj, Rat.intCast_neg_iff]
  rw [numberText, hrat]
  simp only [hwhole, Numeral.text, Numeral.signText, Numeral.fracText, Numeral.expText, intText, natText]
  by_cases hn : n < 0 <;> simp [hn]

/-- Numbers that both languages write alike. -/
def PrintsAlike (q : ℚ) : Prop := ∀ s, Sci.ofRat q = some s → s.Alike

theorem numberText_eq_floatText_iff (q : ℚ) : numberText (.finite q) = floatText q ↔ PrintsAlike q := by
  unfold PrintsAlike numberText floatText
  cases h : Sci.ofRat q with
  | none => simp only [h, reduceCtorEq, false_imp_iff, implies_true]
  | some s =>
    simp only [h, Option.some.injEq, forall_eq']
    exact jsText_eq_pyText_iff h _

/-- JavaScript writes a whole number below `10 ^ 21` without a point or an exponent, and no other number. -/
theorem numberText_whole {q : ℚ} (h : ∀ u ∈ numberText (.finite q), isFloatMark u = false) :
    ∃ n : ℤ, q = n ∧ n.natAbs < 10 ^ 21 := by
  unfold numberText at h
  cases hs : Sci.ofRat q with
  | none =>
    simp only [hs] at h
    exact absurd (h 0x2F (by simp)) (by decide)
  | some s =>
    simp only [hs] at h
    have hplain : (jsNumeral (q < 0) s).frac = [] ∧ (jsNumeral (q < 0) s).exp = none := by
      by_contra hn
      rw [not_and_or] at hn
      obtain ⟨u, hu, hm⟩ := text_marked hn false
      rw [h u hu] at hm
      cases hm
    unfold jsNumeral at hplain
    split_ifs at hplain with hjs
    · have hfrac := hplain.1
      unfold fixed at hfrac
      split_ifs at hfrac with hp hl
      · exact absurd (List.append_eq_nil_iff.1 hfrac).2 (digits_ne_nil hs (by omega))
      · refine ⟨(if decide (q < 0) = true then -1 else 1) *
          (digitsValue (s.digits ++ List.replicate (s.point - s.digits.length).toNat 0) : ℤ), ?_, ?_⟩
        · have hv := fixed_value (.inl rfl) (decide (q < 0)) s
          rw [Sci.ofRat_value hs, sign_mul_abs, fixed, if_neg hp, if_pos hl] at hv
          simp only [Numeral.value, List.append_nil, Option.getD_none, List.length_nil, Nat.cast_zero, sub_zero,
            zpow_zero, mul_one] at hv
          generalize decide (q < 0) = neg at hv
          rw [← hv]
          cases neg <;> simp
        · have hlt := digitsValue_lt (Digits.append.2 ⟨Sci.ofRat_digits hs,
            digits_replicate_zero (s.point - s.digits.length).toNat⟩)
          have hlen : (s.digits ++ List.replicate (s.point - s.digits.length).toNat 0).length ≤ 21 := by
            simp only [List.length_append, List.length_replicate]
            omega
          have hsign : (if decide (q < 0) = true then (-1 : ℤ) else 1).natAbs = 1 := by split_ifs <;> rfl
          rw [Int.natAbs_mul, hsign, Nat.one_mul, Int.natAbs_natCast]
          exact hlt.trans_le (Nat.pow_le_pow_right (by decide) hlen)
      · have := List.drop_eq_nil_iff.1 hfrac
        omega
    · cases hplain.2

theorem numberText_eq_intText_iff (q : ℚ) (n : ℤ) : numberText (.finite q) = intText n ↔ q = n ∧ n.natAbs < 10 ^ 21 := by
  constructor
  · intro h
    obtain ⟨m, rfl, hm⟩ := numberText_whole (q := q) fun u hu => intText_unmarked n u (h ▸ hu)
    rw [numberText_int hm] at h
    obtain rfl := intText_inj h
    exact ⟨rfl, hm⟩
  · rintro ⟨rfl, hn⟩
    exact numberText_int hn

end Js

end Lib
