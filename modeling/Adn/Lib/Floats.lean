import Adn.Lib.Numerals
import Mathlib.Tactic.Positivity
import Mathlib.Tactic.NormNum
/-!
# Floats as text

`Sci.ofRat` finds the significant digits and the decimal point of a float's
shortest decimal. `repr` in Python writes it with a point from `1e-04` up to
`1e16` and with an exponent elsewhere; `Number::toString` in JavaScript from
`1e-06` up to `1e21`.

- `floatText_inj`: Python's text of a float determines the float.
- `jsText_eq_pyText_iff`: where the two languages write the same text.
-/

namespace Lib.Numerals

/-! ## Significant digits -/

/-- `0.d₁d₂… × 10 ^ point`, without trailing zeros. -/
structure Sci where
  digits : List ℕ
  point : ℤ
deriving DecidableEq

namespace Sci

def value (s : Sci) : ℚ := (digitsValue s.digits : ℚ) * 10 ^ (s.point - s.digits.length)

/-- The fewest decimal places that make a fraction over `den` a whole number. -/
def decimalShift (den : ℕ) : ℕ → ℕ → Option ℕ
  | 0, _ => none
  | fuel + 1, k => if den ∣ 10 ^ k then some k else decimalShift den fuel (k + 1)

/-- The digits of a decimal fraction; `none` for a number that has no finite
decimal, which no float is. -/
def ofRat (q : ℚ) : Option Sci :=
  (decimalShift q.den q.den 0).map fun k : ℕ =>
    let ds := natDigits (q.num.natAbs * (10 ^ k / q.den))
    { digits := ds.rdropWhile (· = 0), point := (ds.length : ℤ) - k }

theorem decimalShift_dvd {den : ℕ} : ∀ {fuel k j : ℕ}, decimalShift den fuel k = some j → den ∣ 10 ^ j
  | 0, _, _, h => by cases h
  | fuel + 1, k, j, h => by
    rw [decimalShift] at h
    split at h
    · cases h; assumption
    · exact decimalShift_dvd h

/-- Dropping trailing zeros scales the value. -/
theorem strip_zeros (ds : List ℕ) : ∃ j, ds = ds.rdropWhile (· = 0) ++ List.replicate j 0 := by
  refine ⟨(ds.rtakeWhile (· = 0)).length, ?_⟩
  conv_lhs => rw [← List.rdropWhile_append_rtakeWhile (p := (· = 0)) (l := ds)]
  congr 1
  exact List.eq_replicate_of_mem fun d hd => by simpa using List.mem_rtakeWhile_imp hd

theorem ofRat_value {q : ℚ} {s : Sci} (h : ofRat q = some s) : s.value = |q| := by
  obtain ⟨k, hk, rfl⟩ := Option.map_eq_some_iff.1 h
  obtain ⟨c, hc⟩ := decimalShift_dvd hk
  have hden : (q.den : ℚ) ≠ 0 := by exact_mod_cast q.den_nz
  have hdiv : 10 ^ k / q.den = c := by rw [hc, Nat.mul_div_cancel_left c q.den_pos]
  have hcq : (10 : ℚ) ^ k = q.den * c := by exact_mod_cast hc
  have habs : |q| = q.num.natAbs / q.den := by
    conv_lhs => rw [← Rat.num_div_den q]
    rw [abs_div, Nat.abs_cast, Nat.cast_natAbs, Int.cast_abs]
  simp only [value, hdiv]
  obtain ⟨j, hj⟩ := strip_zeros (natDigits (q.num.natAbs * c))
  generalize hds : natDigits (q.num.natAbs * c) = ds at hj ⊢
  have hv : (digitsValue (ds.rdropWhile (· = 0)) : ℚ) * 10 ^ j = q.num.natAbs * c := by
    have := digitsValue_natDigits (q.num.natAbs * c)
    rw [hds, hj, digitsValue_append_zeros] at this
    exact_mod_cast this
  have hlen : (ds.length : ℤ) = (ds.rdropWhile (· = 0)).length + j := by
    conv_lhs => rw [hj]
    simp
  rw [hlen, show ((ds.rdropWhile (· = 0)).length : ℤ) + j - k - (ds.rdropWhile (· = 0)).length = (j : ℤ) - k by ring,
    zpow_sub₀ (by norm_num), zpow_natCast, zpow_natCast, ← mul_div_assoc, hv, hcq, habs]
  have hc0 : (c : ℚ) ≠ 0 := by
    rintro h0
    rw [h0, mul_zero] at hcq
    exact absurd hcq (by positivity)
  field_simp

theorem ofRat_digits {q : ℚ} {s : Sci} (h : ofRat q = some s) : Digits s.digits := by
  obtain ⟨k, -, rfl⟩ := Option.map_eq_some_iff.1 h
  exact fun d hd => digits_natDigits _ d ((List.rdropWhile_prefix _ _).subset hd)

theorem ofRat_zero : ofRat 0 = some ⟨[], 1⟩ := by decide +kernel

/-- Only zero has no significant digits. -/
theorem ofRat_nil {q : ℚ} {s : Sci} (h : ofRat q = some s) (hd : s.digits = []) : s = ⟨[], 1⟩ := by
  have hv := ofRat_value h
  rw [value, hd] at hv
  have hq : q = 0 := abs_eq_zero.1 (by rw [← hv]; simp [digitsValue])
  rw [hq, ofRat_zero] at h
  exact (Option.some.inj h).symm

/-- The first digit is not zero. -/
theorem ofRat_head {q : ℚ} {s : Sci} (h : ofRat q = some s) (hd : s.digits ≠ []) : s.digits.head hd ≠ 0 := by
  obtain ⟨k, -, rfl⟩ := Option.map_eq_some_iff.1 h
  simp only at hd ⊢
  generalize q.num.natAbs * (10 ^ k / q.den) = n at hd ⊢
  have hne : natDigits n ≠ [] := natDigits_ne_nil n
  have hn : n ≠ 0 := by
    rintro rfl
    exact hd (by decide)
  have hh : (natDigits n).head hne ≠ 0 := by
    have hl := Nat.getLast_digit_ne_zero 10 hn
    simp only [natDigits, if_neg hn]
    rwa [List.head_reverse]
  obtain ⟨t, ht⟩ := List.rdropWhile_prefix (· = 0) (natDigits n)
  have he : (natDigits n).head? = ((natDigits n).rdropWhile (· = 0)).head? := by
    conv_lhs => rw [← ht]
    rw [List.head?_append_of_ne_nil _ hd]
  rw [List.head?_eq_some_head hne, List.head?_eq_some_head hd] at he
  rwa [← Option.some.inj he]

end Sci

/-! ## Layouts -/

/-- With a decimal point. `whole` is written after the point of a whole number. -/
def fixed (whole : List ℕ) (neg : Bool) (s : Sci) : Numeral :=
  if s.point ≤ 0 then ⟨neg, [0], List.replicate (-s.point).toNat 0 ++ s.digits, none⟩
  else if s.digits.length ≤ s.point then
    ⟨neg, s.digits ++ List.replicate (s.point - s.digits.length).toNat 0, whole, none⟩
  else ⟨neg, s.digits.take s.point.toNat, s.digits.drop s.point.toNat, none⟩

/-- With an exponent. -/
def expo (neg : Bool) (s : Sci) : Numeral := ⟨neg, [s.digits.headD 0], s.digits.tail, some (s.point - 1)⟩

/-- `repr` of a float. -/
def pyNumeral (neg : Bool) (s : Sci) : Numeral :=
  if -4 < s.point ∧ s.point ≤ 16 then fixed [0] neg s else expo neg s

/-- `Number::toString`. -/
def jsNumeral (neg : Bool) (s : Sci) : Numeral :=
  if -6 < s.point ∧ s.point ≤ 21 then fixed [] neg s else expo neg s

/-- Python's text of a finite float. -/
def floatText (q : ℚ) : Str :=
  match Sci.ofRat q with
  | some s => (pyNumeral (q < 0) s).text true
  | none => intText q.num ++ 0x2F :: natText q.den

theorem fixed_value {whole : List ℕ} (hw : whole = [] ∨ whole = [0]) (neg : Bool) (s : Sci) :
    (fixed whole neg s).value = (if neg then -1 else 1) * s.value := by
  unfold fixed Sci.value
  split
  · rename_i hp
    simp only [Numeral.value, Option.getD_none, List.length_append, List.length_replicate, Nat.cast_add,
      Int.toNat_of_nonneg (show 0 ≤ -s.point by omega)]
    rw [show ([0] ++ (List.replicate (-s.point).toNat 0 ++ s.digits)) =
      List.replicate ((-s.point).toNat + 1) 0 ++ s.digits by rw [List.replicate_succ]; rfl, digitsValue_zeros_append]
    congr 3
    ring
  split
  · rename_i hl
    have hz : ((s.point - s.digits.length).toNat : ℤ) = s.point - s.digits.length := Int.toNat_of_nonneg (by omega)
    have hpow : (10 : ℚ) ^ (s.point - s.digits.length) = 10 ^ (s.point - s.digits.length).toNat := by
      rw [← zpow_natCast, hz]
    rw [hpow]
    rcases hw with rfl | rfl
    · simp only [Numeral.value, List.append_nil, digitsValue_append_zeros, Option.getD_none, List.length_nil]
      push_cast
      norm_num
    · simp only [Numeral.value, Option.getD_none, List.length_singleton]
      rw [show ([0] : List ℕ) = List.replicate 1 0 from rfl, digitsValue_append_zeros, digitsValue_append_zeros]
      congr 1
      push_cast
      norm_num
      ring
  · rename_i h1 h2
    simp only [Numeral.value, List.take_append_drop, Option.getD_none, List.length_drop]
    congr 3
    omega

theorem expo_value (neg : Bool) {s : Sci} (h : s.digits ≠ []) :
    (expo neg s).value = (if neg then -1 else 1) * s.value := by
  cases hd : s.digits with
  | nil => exact absurd hd h
  | cons d ds =>
    simp only [expo, Numeral.value, Sci.value, hd, List.headD_cons, List.tail_cons, Option.getD_some,
      List.singleton_append, List.length_cons]
    congr 3
    push_cast
    ring

theorem fixed_ok {whole : List ℕ} (hw : Digits whole) (neg : Bool) {s : Sci} (hs : Digits s.digits) :
    (fixed whole neg s).Ok := by
  unfold fixed
  split
  · exact ⟨by simp, by simp [Digits], Digits.append.2 ⟨digits_replicate_zero _, hs⟩⟩
  split
  · refine ⟨fun he => ?_, Digits.append.2 ⟨hs, digits_replicate_zero _⟩, hw⟩
    have hlen := congrArg List.length he
    simp only [List.length_append, List.length_replicate, List.length_nil] at hlen
    omega
  · refine ⟨fun he => ?_, fun d hd => hs d (List.mem_of_mem_take hd), fun d hd => hs d (List.mem_of_mem_drop hd)⟩
    have hlen := congrArg List.length he
    simp only [List.length_take, List.length_nil] at hlen
    omega

theorem expo_ok (neg : Bool) {s : Sci} (hs : Digits s.digits) : (expo neg s).Ok := by
  refine ⟨by simp [expo], fun d hd => ?_, fun d hd => hs d (List.mem_of_mem_tail hd)⟩
  simp only [expo, List.mem_singleton] at hd
  subst hd
  cases h : s.digits with
  | nil => decide
  | cons d ds => exact hs d (by rw [h]; exact List.mem_cons_self)

theorem pyNumeral_ok {q : ℚ} {s : Sci} (h : Sci.ofRat q = some s) (neg : Bool) : (pyNumeral neg s).Ok := by
  unfold pyNumeral
  split
  · exact fixed_ok (by simp [Digits]) neg (Sci.ofRat_digits h)
  · exact expo_ok neg (Sci.ofRat_digits h)

/-- A numeral with an exponent has digits: zero is written with a point. -/
theorem digits_ne_nil {q : ℚ} {s : Sci} (h : Sci.ofRat q = some s) (hp : s.point ≠ 1) : s.digits ≠ [] := by
  intro hd
  rw [Sci.ofRat_nil h hd] at hp
  exact hp rfl

theorem sign_mul_abs (q : ℚ) : (if decide (q < 0) = true then (-1 : ℚ) else 1) * |q| = q := by
  by_cases hq : q < 0
  · rw [if_pos (by simpa using hq), abs_of_neg hq]; ring
  · rw [if_neg (by simpa using hq), abs_of_nonneg (not_lt.1 hq)]; ring

theorem pyNumeral_value {q : ℚ} {s : Sci} (h : Sci.ofRat q = some s) : (pyNumeral (q < 0) s).value = q := by
  unfold pyNumeral
  split
  · rw [fixed_value (.inr rfl), Sci.ofRat_value h, sign_mul_abs]
  · rename_i hp
    rw [expo_value _ (digits_ne_nil h (by omega)), Sci.ofRat_value h, sign_mul_abs]

/-! ## Python's text of a float -/

/-- The characters of a number that a whole number's text does not use. -/
def isFloatMark (u : UInt16) : Bool := u = 0x2E || u = 0x65 || u = 0x2F

theorem intText_unmarked (n : ℤ) : ∀ u ∈ intText n, isFloatMark u = false := by
  have hd : ∀ m, ∀ u ∈ natText m, isFloatMark u = false := by
    intro m u hu
    have h := isDigit_digitsText (digits_natDigits m) u hu
    unfold isFloatMark
    simp only [isDigit, Bool.and_eq_true, decide_eq_true_eq] at h
    simp only [Bool.or_eq_false_iff, decide_eq_false_iff_not]
    refine ⟨⟨?_, ?_⟩, ?_⟩ <;> (rintro rfl; revert h; decide)
  intro u hu
  unfold intText at hu
  split at hu
  · rcases List.mem_cons.1 hu with rfl | hu
    · decide
    · exact hd _ u hu
  · exact hd _ u hu

theorem text_marked {t : Numeral} (h : t.frac ≠ [] ∨ t.exp ≠ none) (pad : Bool) :
    ∃ u ∈ t.text pad, isFloatMark u = true := by
  unfold Numeral.text
  rcases h with h | h
  · refine ⟨0x2E, ?_, by decide⟩
    simp [Numeral.fracText, h]
  · obtain ⟨e, he⟩ := Option.ne_none_iff_exists'.1 h
    refine ⟨0x65, ?_, by decide⟩
    simp [Numeral.expText, he]

theorem pyNumeral_marked {q : ℚ} {s : Sci} (h : Sci.ofRat q = some s) (neg : Bool) :
    (pyNumeral neg s).frac ≠ [] ∨ (pyNumeral neg s).exp ≠ none := by
  unfold pyNumeral
  split
  · left
    unfold fixed
    split
    · rename_i hp
      simp [digits_ne_nil h (by omega)]
    split
    · simp
    · simp only [ne_eq, List.drop_eq_nil_iff]
      omega
  · right
    simp [expo]

theorem floatText_marked (q : ℚ) : ∃ u ∈ floatText q, isFloatMark u = true := by
  unfold floatText
  split
  · exact text_marked (pyNumeral_marked ‹_› _) true
  · exact ⟨0x2F, by simp, by decide⟩

theorem floatText_ne_nil (q : ℚ) : floatText q ≠ [] := by
  intro h
  obtain ⟨u, hu, -⟩ := floatText_marked q
  rw [h] at hu
  cases hu

/-- A float is never written like a whole number. -/
theorem floatText_ne_intText (q : ℚ) (n : ℤ) : floatText q ≠ intText n := by
  intro he
  obtain ⟨u, hu, h⟩ := floatText_marked q
  rw [he] at hu
  rw [intText_unmarked n u hu] at h
  cases h

/-- The characters of a fraction that has no finite decimal. -/
theorem slash_not_mem {t : Numeral} (h : t.Ok) (pad : Bool) : (0x2F : UInt16) ∉ t.text pad := by
  have hd : ∀ {ds : List ℕ}, Digits ds → (0x2F : UInt16) ∉ digitsText ds :=
    fun hds hm => absurd (isDigit_digitsText hds _ hm) (by decide)
  intro hm
  simp only [Numeral.text, List.mem_append] at hm
  rcases hm with hm | hm | hm | hm
  · unfold Numeral.signText at hm
    split at hm
    · exact absurd (List.mem_singleton.1 hm) (by decide)
    · cases hm
  · exact hd h.int hm
  · unfold Numeral.fracText at hm
    split at hm
    · cases hm
    · rcases List.mem_cons.1 hm with hm | hm
      · exact absurd hm (by decide)
      · exact hd h.frac hm
  · cases he : t.exp with
    | none => rw [he] at hm; cases hm
    | some e =>
      rw [he, Numeral.expText, List.mem_cons, List.mem_cons] at hm
      rcases hm with hm | hm | hm
      · exact absurd hm (by decide)
      · split at hm <;> exact absurd hm (by decide)
      · split at hm
        · exact hd (Numeral.digits_padTwo _) hm
        · exact hd (digits_natDigits _) hm

/-- Python's text of a float determines the float. -/
theorem floatText_inj {p q : ℚ} (h : floatText p = floatText q) : p = q := by
  unfold floatText at h
  cases hp : Sci.ofRat p with
  | some s =>
    cases hq : Sci.ofRat q with
    | some t =>
      simp only [hp, hq] at h
      have ht := Numeral.text_inj (pyNumeral_ok hp _) (pyNumeral_ok hq _) h
      rw [← pyNumeral_value hp, ht, pyNumeral_value hq]
    | none =>
      simp only [hp, hq] at h
      exact absurd (by rw [h]; simp) (slash_not_mem (pyNumeral_ok hp (p < 0)) true)
  | none =>
    cases hq : Sci.ofRat q with
    | some t =>
      simp only [hp, hq] at h
      exact absurd (by rw [← h]; simp) (slash_not_mem (pyNumeral_ok hq (q < 0)) true)
    | none =>
      simp only [hp, hq] at h
      have hrun : ∀ n : ℤ, ∀ u ∈ intText n, (!isFloatMark u) = true := fun n u hu => by rw [intText_unmarked n u hu]; rfl
      obtain ⟨h1, h2⟩ := run_cancel (hrun p.num) (hrun q.num) (stops_cons (by decide)) (stops_cons (by decide)) h
      exact Rat.ext (intText_inj h1) (natText_inj (List.cons.inj h2).2)

/-! ## Where the two languages agree -/

namespace Numeral

theorem text_pad {t : Numeral} (h : t.exp = none) (pad pad' : Bool) : t.text pad = t.text pad' := by
  rw [text, text, h]
  rfl

theorem padTwo_eq_iff (n : ℕ) : padTwo n = natDigits n ↔ 10 ≤ n := by
  unfold padTwo
  split
  · rename_i h
    refine ⟨fun he => ?_, fun hn => absurd h (by omega)⟩
    have hlen : ∀ m < 10, (natDigits m).length = 1 := by decide
    have := congrArg List.length he
    rw [hlen n h] at this
    cases this
  · rename_i h
    exact ⟨fun _ => by omega, fun _ => rfl⟩

/-- An exponent of two digits needs no padding. -/
theorem text_exp_iff {t : Numeral} {e : ℤ} (h : t.exp = some e) : t.text false = t.text true ↔ 10 ≤ e.natAbs := by
  simp only [text, h, expText, List.append_cancel_left_eq, List.cons.injEq, true_and, Bool.false_eq_true, if_false,
    if_true]
  rw [← padTwo_eq_iff]
  exact ⟨fun he => (digitsText_inj (digits_natDigits _) (digits_padTwo _) he).symm, fun he => by rw [he]⟩

end Numeral

theorem digitsValue_lt {ds : List ℕ} (hd : Digits ds) : digitsValue ds < 10 ^ ds.length := by
  have h := Nat.ofDigits_lt_base_pow_length (b := 10) (by decide) (l := ds.reverse) fun d hm => hd d (List.mem_reverse.1 hm)
  rwa [List.length_reverse] at h

theorem fixed_exp (whole : List ℕ) (neg : Bool) (s : Sci) : (fixed whole neg s).exp = none := by
  unfold fixed
  split_ifs <;> rfl

/-- A whole number is the only one whose fraction depends on the language. -/
theorem fixed_eq_iff (neg : Bool) {s : Sci} (hs : s.point ≤ 0 → s.digits ≠ []) :
    fixed [] neg s = fixed [0] neg s ↔ s.point < s.digits.length := by
  unfold fixed
  split_ifs with hp hl
  · have := List.length_pos_iff.2 (hs hp)
    exact ⟨fun _ => by omega, fun _ => rfl⟩
  · simpa using hl
  · simpa using hl

/-- The numbers that both languages write alike: with a fraction, or with an exponent of two digits. -/
def Sci.Alike (s : Sci) : Prop :=
  (-4 < s.point ∧ s.point ≤ 16 ∧ s.point < s.digits.length) ∨ s.point ≤ -9 ∨ 21 < s.point

instance (s : Sci) : Decidable s.Alike := by
  unfold Sci.Alike
  infer_instance

theorem jsNumeral_ok {q : ℚ} {s : Sci} (h : Sci.ofRat q = some s) (neg : Bool) : (jsNumeral neg s).Ok := by
  unfold jsNumeral
  split
  · exact fixed_ok (by simp [Digits]) neg (Sci.ofRat_digits h)
  · exact expo_ok neg (Sci.ofRat_digits h)

theorem jsText_eq_pyText_iff {q : ℚ} {s : Sci} (h : Sci.ofRat q = some s) (neg : Bool) :
    (jsNumeral neg s).text false = (pyNumeral neg s).text true ↔ s.Alike := by
  have hne : s.point ≤ 0 → s.digits ≠ [] := fun hp => digits_ne_nil h (by omega)
  unfold Sci.Alike
  by_cases hjs : -6 < s.point ∧ s.point ≤ 21
  · -- JavaScript writes no exponent, so Python must not
    have hnumeral : (jsNumeral neg s).text false = (pyNumeral neg s).text true ↔ jsNumeral neg s = pyNumeral neg s := by
      have hexp : (jsNumeral neg s).exp = none := by rw [jsNumeral, if_pos hjs, fixed_exp]
      rw [Numeral.text_pad hexp false true]
      exact ⟨Numeral.text_inj (jsNumeral_ok h neg) (pyNumeral_ok h neg), fun he => by rw [he]⟩
    rw [hnumeral, jsNumeral, if_pos hjs, pyNumeral]
    split_ifs with hpy
    · rw [fixed_eq_iff neg hne]
      omega
    · refine ⟨fun he => ?_, fun hs => absurd hs (by omega)⟩
      have := congrArg Numeral.exp he
      rw [fixed_exp] at this
      cases this
  · -- both write an exponent
    rw [jsNumeral, if_neg hjs, pyNumeral, if_neg (by omega), Numeral.text_exp_iff rfl]
    omega

end Lib.Numerals
