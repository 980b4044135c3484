import Adn.Lib.Readings
import Mathlib.Algebra.Order.Field.Power
import Mathlib.Tactic.NormNum
import Mathlib.Tactic.Positivity
/-!
# A document that is relayed

Python writes a document, JavaScript reads it and writes it again, and Python reads what
JavaScript wrote: `Parsed v w`, and then `w.loaded`. Of numbers that a double holds
nothing is lost (`Parsed.relayed`), although a whole float comes back as an integer, and
JavaScript has the document as it was written (`Sendable.parsed`). Amounts in cents are
written alike from then on (`cents_alike`), which they need not be before.
-/

namespace Lib

/-! ## Where the point is -/

namespace Numerals

theorem le_digitsValue {ds : List ℕ} (hne : ds ≠ []) (hhead : ds.head hne ≠ 0) : 10 ^ (ds.length - 1) ≤ digitsValue ds := by
  obtain ⟨d, t, rfl⟩ := List.exists_cons_of_ne_nil hne
  rw [digitsValue, List.reverse_cons, Nat.ofDigits_append, Nat.ofDigits_singleton, List.length_reverse, List.length_cons,
    Nat.add_sub_cancel]
  have hd : 1 ≤ d := Nat.one_le_iff_ne_zero.2 hhead
  calc 10 ^ t.length ≤ 10 ^ t.length * d := Nat.le_mul_of_pos_right _ hd
    _ ≤ Nat.ofDigits 10 t.reverse + 10 ^ t.length * d := Nat.le_add_left _ _

namespace Sci

variable {q : ℚ} {s : Sci} (h : ofRat q = some s)

include h

theorem abs_lt : |q| < 10 ^ s.point := by
  have hlt : (digitsValue s.digits : ℚ) < 10 ^ (s.digits.length : ℤ) := by
    rw [zpow_natCast]
    exact_mod_cast digitsValue_lt (ofRat_digits h)
  rw [← ofRat_value h, value, zpow_sub₀ (by norm_num), ← mul_div_assoc, div_lt_iff₀ (by positivity), mul_comm]
  exact mul_lt_mul_of_pos_left hlt (by positivity)

theorem le_abs (hq : q ≠ 0) : 10 ^ (s.point - 1) ≤ |q| := by
  have hne : s.digits ≠ [] := by
    intro hd
    obtain rfl := ofRat_nil h hd
    have hv := ofRat_value h
    rw [value, digitsValue] at hv
    simp only [List.reverse_nil, Nat.ofDigits_nil, Nat.cast_zero, zero_mul] at hv
    exact hq (abs_eq_zero.1 hv.symm)
  have hlength : 1 ≤ s.digits.length := List.length_pos_iff.2 hne
  have hle : (10 : ℚ) ^ ((s.digits.length : ℤ) - 1) ≤ digitsValue s.digits := by
    have hnat := le_digitsValue hne (ofRat_head h hne)
    rw [show (s.digits.length : ℤ) - 1 = ((s.digits.length - 1 : ℕ) : ℤ) by omega, zpow_natCast]
    exact_mod_cast hnat
  rw [← ofRat_value h, value, show s.point - 1 = ((s.digits.length : ℤ) - 1) + (s.point - s.digits.length) by ring,
    zpow_add₀ (by norm_num)]
  exact mul_le_mul_of_nonneg_right hle (by positivity)

/-- A number that is not whole has digits behind the point. -/
theorem fraction (hq : q.den ≠ 1) : s.point < s.digits.length := by
  by_contra hle
  rw [not_lt] at hle
  have hv := ofRat_value h
  rw [value, show s.point - s.digits.length = ((s.point - s.digits.length).toNat : ℤ) by omega, zpow_natCast] at hv
  have hwhole : |q|.den = 1 := by
    rw [← hv, show (digitsValue s.digits : ℚ) * 10 ^ (s.point - s.digits.length).toNat =
      ((digitsValue s.digits * 10 ^ (s.point - s.digits.length).toNat : ℕ) : ℚ) by push_cast; rfl]
    exact Rat.den_natCast _
  rcases abs_cases q with ⟨he, -⟩ | ⟨he, -⟩
  · exact hq (he ▸ hwhole)
  · rw [he, Rat.neg_den] at hwhole
    exact hq hwhole

end Sci

end Numerals

/-! ## Cents -/

namespace Js

open Numerals

/-- An amount in cents, as a double holds it: from `2 ^ 53` on there are only whole ones. -/
inductive Cents : PyFloat → Prop where
  | negZero : Cents .negZero
  | whole (n : ℤ) : Cents (.finite n)
  | part {n : ℤ} (h : n.natAbs < 100 * 2 ^ 53) : Cents (.finite (n / 100))

theorem alike_whole (n : ℤ) : ScalarAlike (loadedNumber (.finite n)) (.num (.finite n)) := by
  rw [loadedNumber, Rat.num_intCast, Rat.den_intCast]
  split
  · rename_i hsmall
    exact .whole hsmall.2
  · rename_i hlarge
    refine .float fun s hs => .inr (.inr ?_)
    have hle : 10 ^ 21 ≤ n.natAbs := by omega
    have habs : (10 : ℚ) ^ (21 : ℤ) ≤ |(n : ℚ)| := by
      have hcast : (((10 ^ 21 : ℕ)) : ℚ) ≤ (n.natAbs : ℚ) := Nat.cast_le.2 hle
      rw [Nat.cast_natAbs, Int.cast_abs] at hcast
      simpa only [Nat.cast_pow, Nat.cast_ofNat, zpow_ofNat] using hcast
    exact (zpow_lt_zpow_iff_right₀ (by norm_num)).1 (habs.trans_lt (Sci.abs_lt hs))

/-- Both languages write amounts in cents alike, once JavaScript has written them. -/
theorem cents_alike {x : PyFloat} (h : Cents x) : Alike (loadedNumber x) (.num x) := by
  refine .scalar ?_
  cases h with
  | negZero => exact .zero
  | whole n => exact alike_whole n
  | @part n hn =>
    by_cases hden : ((n : ℚ) / 100).den = 1
    · rw [← Rat.coe_int_num_of_den_eq_one hden]
      exact alike_whole _
    · rw [loadedNumber, if_neg fun hw => hden hw.1]
      -- from a cent on and below `10 ^ 16` neither language writes an exponent
      refine .float fun s hs => .inl ⟨?_, ?_, Sci.fraction hs hden⟩
      · have hne : n ≠ 0 := by
          rintro rfl
          exact hden (by norm_num)
        have hcent : (10 : ℚ) ^ (-2 : ℤ) ≤ |(n : ℚ) / 100| := by
          have hone : (1 : ℚ) ≤ |(n : ℚ)| := by exact_mod_cast Int.one_le_abs hne
          rw [abs_div, abs_of_nonneg (show (0 : ℚ) ≤ 100 by norm_num), zpow_neg, le_div_iff₀ (by norm_num)]
          norm_num
          exact hone
        have hlt := (zpow_lt_zpow_iff_right₀ (show (1 : ℚ) < 10 by norm_num)).1 (hcent.trans_lt (Sci.abs_lt hs))
        omega
      · have hq : (n : ℚ) / 100 ≠ 0 := by
          intro h0
          exact hden (by rw [h0]; rfl)
        have hsmall : |(n : ℚ) / 100| < 10 ^ (16 : ℤ) := by
          have hcast : (n.natAbs : ℚ) < ((100 * 2 ^ 53 : ℕ) : ℚ) := Nat.cast_lt.2 hn
          rw [Nat.cast_natAbs, Int.cast_abs] at hcast
          rw [abs_div, abs_of_nonneg (show (0 : ℚ) ≤ 100 by norm_num), div_lt_iff₀ (by norm_num)]
          refine hcast.trans ?_
          norm_num
        have hlt := (zpow_lt_zpow_iff_right₀ (show (1 : ℚ) < 10 by norm_num)).1 ((Sci.le_abs hs hq).trans_lt hsmall)
        omega

end Js

/-! ## What is kept -/

/-- An integer that a double holds is read as it is, or as the negative zero. -/
theorem AsDouble.small {n : ℤ} {x : PyFloat} (h : AsDouble n x) (hn : n.natAbs ≤ 2 ^ 53) :
    x = .finite n ∨ x = .negZero ∧ (n : ℚ) = 0 := by
  have hlt := Js.ten_pow_lt_doubleOverflow
  cases h with
  | exact _ => exact .inl rfl
  | negZero h0 => exact .inr ⟨rfl, by rw [h0, Int.cast_zero]⟩
  | rounded hlarge => omega
  | posInf ho | negInf ho => omega

theorem zip_map_self {α β : Type} (f : α → β) (xs : List α) : (xs.map f).zip xs = xs.map fun x => (f x, x) := by
  induction xs with
  | nil => rfl
  | cons x xs ih => rw [List.map_cons, List.zip_cons_cons, ih, List.map_cons]

/-- A value that JavaScript has too: its numbers are finite, and its integers doubles. -/
inductive Json.Exact : Json → Prop where
  | null : Exact .null
  | bool (b : Bool) : Exact (.bool b)
  | int {n : ℤ} (h : n.natAbs ≤ 2 ^ 53) : Exact (.int n)
  | finite (q : ℚ) : Exact (.float (.finite q))
  | negZero : Exact (.float .negZero)
  | str (s : Str) : Exact (.str s)
  | arr {xs : List Json} (h : ∀ x ∈ xs, Exact x) : Exact (.arr xs)
  | obj {fs : Dict} (h : ∀ f ∈ fs, Exact f.2) : Exact (.obj fs)

/-- A value that JSON has: no number of it becomes `null`, and no field is left out. -/
inductive Js.Sendable : Js → Prop where
  | null : Sendable .null
  | bool (b : Bool) : Sendable (.bool b)
  | finite (q : ℚ) : Sendable (.num (.finite q))
  | negZero : Sendable (.num .negZero)
  | str (s : Str) : Sendable (.str s)
  | arr {xs : List Js} (h : ∀ x ∈ xs, Sendable x) : Sendable (.arr xs)
  | obj {fs : Props} (hn : (fs.map (·.1)).Nodup) (h : ∀ f ∈ fs, Sendable f.2) : Sendable (.obj fs)

namespace Js

theorem Sendable.ne_undefined {w : Js} (h : w.Sendable) : w ≠ .undefined := by
  rintro rfl
  cases h

/-- Only a text is read back as one. -/
theorem loaded_eq_str {w : Js} {s : Str} : w.loaded = .str s ↔ w = .str s := by
  cases w with
  | num x =>
    have hnumber : loadedNumber x ≠ .str s := by
      cases x with
      | finite q =>
        rw [loadedNumber]
        split <;> exact fun h => Json.noConfusion h
      | negZero | posInf | negInf | nan => exact fun h => Json.noConfusion h
    simp [loaded, hnumber]
  | _ => simp [loaded]

theorem parsed_loadedNumber (q : ℚ) : Parsed (loadedNumber (.finite q)) (.num (.finite q)) := by
  have hscalar := scalar_loadedNumber (.finite q)
  rw [loadedNumber] at hscalar ⊢
  split at hscalar
  · rename_i hwhole
    rw [if_pos hwhole]
    cases hscalar with
    | int h => exact .int h
  · rename_i hpart
    rw [if_neg hpart]
    exact .float _

/-- What was sent is what Python reads. -/
theorem Sendable.parsed {w : Js} (h : w.Sendable) : Parsed w.loaded w := by
  induction h with
  | null => exact .null
  | bool b => exact .bool b
  | finite q => exact parsed_loadedNumber q
  | negZero => exact .int (.negZero rfl)
  | str s => exact .str s
  | @arr xs h ih =>
    rw [loaded, loadedList_eq]
    refine .arr (List.length_map _) ?_
    rw [zip_map_self, List.forall_mem_map]
    exact ih
  | @obj fs hn h ih =>
    rw [loaded, loadedProps_eq fun f hf => (h f hf).ne_undefined]
    have hk : (fs.map fun f => (f.1, f.2.loaded)).map (·.1) = fs.map (·.1) := by
      rw [List.map_map]
      rfl
    refine .obj hk (hk ▸ hn) ?_ (.refl _)
    rw [zip_map_self, List.forall_mem_map]
    exact ih

end Js

namespace Json

/-- A number is equal to the one that comes back. -/
theorem number_loaded {x : PyFloat} (q : ℚ) (hx : x = .finite q ∨ x = .negZero ∧ q = 0) :
    (Js.loadedNumber x).number? = some (.finite q) := by
  rcases hx with rfl | ⟨rfl, rfl⟩
  · rw [Js.loadedNumber]
    split
    · rename_i hwhole
      rw [number?, Rat.coe_int_num_of_den_eq_one hwhole.1]
    · rfl
  · rfl

theorem eqList_of {xs ys : List Json} (hl : xs.length = ys.length) (h : ∀ p ∈ xs.zip ys, p.1.pyEq p.2 = true) :
    eqList xs ys = true := by
  induction xs generalizing ys with
  | nil =>
    cases ys with
    | nil => rfl
    | cons y ys => cases hl
  | cons x xs ih =>
    cases ys with
    | nil => cases hl
    | cons y ys =>
      rw [List.zip_cons_cons, List.forall_mem_cons] at h
      rw [eqList, h.1, ih (Nat.succ.inj hl) h.2, Bool.and_self]

theorem eqFields_iff {fs gs : Dict} : eqFields fs gs = true ↔ ∀ f ∈ fs, ∃ w, gs.get? f.1 = some w ∧ f.2.pyEq w = true := by
  induction fs with
  | nil => simp [eqFields]
  | cons f fs ih =>
    obtain ⟨k, v⟩ := f
    rw [eqFields, Bool.and_eq_true, ih, List.forall_mem_cons]
    cases hg : gs.get? k with
    | none => simp
    | some w => simp

theorem pyEq_field {fs gs : Dict} (h : pyEq (.obj fs) (.obj gs) = true) {k : Str} {v : Json} (hm : (k, v) ∈ fs) :
    ∃ w, gs.get? k = some w ∧ v.pyEq w = true := by
  rw [pyEq, decide_eq_true_eq] at h
  exact eqFields_iff.1 h.2 _ hm

end Json

namespace Parsed

open Json

theorem defined {fs : Dict} {o : Props} (h : Parsed (.obj fs) (.obj o)) : ∀ g ∈ o, g.2 ≠ .undefined := by
  intro g hg
  obtain ⟨v, -, hp⟩ := h.mem_right hg
  exact hp.ne_undefined

/-- JavaScript loses nothing of a value that it has too. -/
theorem sendable {v : Json} {w : Js} (h : Parsed v w) (hv : v.Exact) : w.Sendable := by
  induction h with
  | null => exact .null
  | bool b => exact .bool b
  | int h =>
    cases hv with
    | int hn =>
      rcases h.small hn with rfl | ⟨rfl, -⟩
      · exact .finite _
      · exact .negZero
  | float x =>
    cases hv with
    | finite q => exact .finite q
    | negZero => exact .negZero
  | str s => exact .str s
  | @arr xs ys hl h ih =>
    cases hv with
    | arr hxs =>
      refine .arr fun y hy => ?_
      rw [← List.map_snd_zip hl.ge] at hy
      obtain ⟨p, hp, rfl⟩ := List.mem_map.1 hy
      exact ih p hp (hxs _ (List.of_mem_zip hp).1)
  | @obj fs gs o hk hn h ho ih =>
    cases hv with
    | obj hfs =>
      refine .obj ((ho.map (·.1)).nodup_iff.1 (hk ▸ hn)) fun f hf => ?_
      have hl : fs.length = gs.length := by simpa using congrArg List.length hk
      have hg := ho.mem_iff.2 hf
      rw [← List.map_snd_zip hl.ge] at hg
      obtain ⟨p, hp, rfl⟩ := List.mem_map.1 hg
      exact ih p hp (hfs _ (List.of_mem_zip hp).1)

/-- What comes back of a value that JavaScript has is equal to it. -/
theorem relayed {v : Json} {w : Js} (h : Parsed v w) (hv : v.Exact) : v.pyEq w.loaded = true := by
  induction h with
  | null => rfl
  | bool b => simp [Js.loaded, pyEq, number?, numberEq]
  | @int n x h =>
    cases hv with
    | int hn =>
      rw [Js.loaded, pyEq, number_loaded n (h.small hn)]
      simp [number?, numberEq]
  | float x =>
    cases hv with
    | finite q =>
      rw [Js.loaded, pyEq, number_loaded q (.inl rfl)]
      simp [number?, numberEq]
    | negZero => rfl
  | str s => simp [Js.loaded, pyEq]
  | @arr xs ys hl h ih =>
    cases hv with
    | arr hxs =>
      rw [Js.loaded, Js.loadedList_eq, pyEq]
      refine eqList_of (hl.trans (List.length_map _).symm) ?_
      rw [List.zip_map_right, List.forall_mem_map]
      exact fun p hp => ih p hp (hxs _ (List.of_mem_zip hp).1)
  | @obj fs gs o hk hn h ho ih =>
    cases hv with
    | obj hfs =>
      have hl : fs.length = gs.length := by simpa using congrArg List.length hk
      have hparsed : Parsed (.obj fs) (.obj o) := .obj hk hn h ho
      -- a field comes back under its name, equal to what it was
      have hback := zip_left (P := fun v w => v.pyEq w.loaded = true ∧ w ≠ .undefined) hk
        fun p hp => ⟨ih p hp (hfs _ (List.of_mem_zip hp).1), (h p hp).ne_undefined⟩
      rw [Js.loaded, Js.loadedProps_eq hparsed.defined, pyEq, decide_eq_true_eq]
      refine ⟨by rw [List.length_map, hl, ho.length_eq], ?_⟩
      rw [eqFields_iff]
      intro f hf
      obtain ⟨w, hw, heq, -⟩ := hback f hf
      refine ⟨w.loaded, Dict.get?_of_mem ?_ ?_, heq⟩
      · rw [List.map_map]
        exact hparsed.names_nodup.2
      · exact List.mem_map_of_mem (f := fun g : Str × Js => (g.1, g.2.loaded)) (ho.mem_iff.1 hw)

end Parsed

namespace Json

theorem truthy_number {v : Json} {x : PyFloat} (h : v.number? = some x) : v.truthy = decide (x ≠ .finite 0) := by
  unfold number? at h
  split at h
  · cases h
    rename_i b
    cases b <;> simp [truthy]
  · cases h
    simp [truthy]
  · cases h
    simp [truthy]
  · rename_i x hx
    cases h
    have hne : x ≠ .negZero := fun h0 => hx (by rw [h0])
    simp [truthy, hne]
  · cases h

/-- Equal values are both true or both false. -/
theorem truthy_of_pyEq {v w : Json} (h : v.pyEq w = true) : v.truthy = w.truthy := by
  have hnumber : ∀ {v w : Json}, numberEq v.number? w.number? = true → v.truthy = w.truthy := by
    intro v w h
    cases hv : v.number? with
    | none => rw [hv] at h; cases h
    | some x =>
      cases hw : w.number? with
      | none => rw [hv, hw] at h; cases x <;> cases h
      | some y =>
        rw [hv, hw] at h
        have hxy : x = y := by
          cases x <;> simp [numberEq] at h <;> exact h
        rw [truthy_number hv, truthy_number hw, hxy]
  cases v with
  | null => cases w <;> simp_all [pyEq, truthy]
  | str s => cases w <;> simp_all [pyEq, truthy]
  | arr xs =>
    cases w with
    | arr ys => cases xs <;> cases ys <;> simp_all [pyEq, truthy, eqList]
    | _ => simp [pyEq] at h
  | obj fs =>
    cases w with
    | obj gs =>
      simp only [pyEq, decide_eq_true_eq] at h
      cases fs <;> cases gs <;> simp_all [truthy]
    | _ => simp [pyEq] at h
  | bool b => exact hnumber h
  | int n => exact hnumber h
  | float x => exact hnumber h

end Json

end Lib
