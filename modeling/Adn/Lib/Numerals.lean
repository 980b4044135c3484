import Adn.Lib.Text
import Mathlib.Data.List.DropRight
import Mathlib.Data.Nat.Digits.Lemmas
import Mathlib.Data.Rat.Lemmas
import Mathlib.Algebra.Order.Field.Rat
import Mathlib.Tactic.FieldSimp
import Mathlib.Tactic.Ring
/-!
# Numbers as text

A finite float is modelled by the value of its shortest decimal, the one both
`repr` in Python and `Number::toString` in JavaScript print: a rational number.
`Lib.Floats` finds its digits; the two languages lay these out differently.
Here: digits, and the layout of a number (`Numeral`), which determines its
parts (`Numeral.text_inj`).
-/

namespace Lib.Numerals

/-! ## Decimal digits -/

def digitUnit (d : ℕ) : UInt16 := (0x30 + d).toUInt16

def isDigit (u : UInt16) : Bool := 0x30 ≤ u.toNat && u.toNat < 0x3A

def digitsText (ds : List ℕ) : Str := ds.map digitUnit

/-- The digits of `n`, most significant first. -/
def natDigits (n : ℕ) : List ℕ := if n = 0 then [0] else (Nat.digits 10 n).reverse

def digitsValue (ds : List ℕ) : ℕ := Nat.ofDigits 10 ds.reverse

def natText (n : ℕ) : Str := digitsText (natDigits n)

def intText (n : ℤ) : Str := if n < 0 then 0x2D :: natText n.natAbs else natText n.natAbs

/-- A list of decimal digits. -/
def Digits (ds : List ℕ) : Prop := ∀ d ∈ ds, d < 10

theorem Digits.append {a b : List ℕ} : Digits (a ++ b) ↔ Digits a ∧ Digits b := by
  simp only [Digits, List.mem_append, or_imp, forall_and]

theorem digits_replicate_zero (n : ℕ) : Digits (List.replicate n 0) := by
  intro d hd
  rw [List.eq_of_mem_replicate hd]
  decide

theorem digits_natDigits (n : ℕ) : Digits (natDigits n) := by
  intro d hd
  unfold natDigits at hd
  split at hd
  · simp_all
  · exact Nat.digits_lt_base (by decide) (List.mem_reverse.1 hd)

theorem natDigits_ne_nil (n : ℕ) : natDigits n ≠ [] := by
  unfold natDigits
  split
  · simp
  · simpa [Nat.digits_ne_nil_iff_ne_zero]

theorem digitsValue_natDigits (n : ℕ) : digitsValue (natDigits n) = n := by
  unfold natDigits digitsValue
  split
  · subst_vars; rfl
  · rw [List.reverse_reverse, Nat.ofDigits_digits]

theorem natDigits_inj {m n : ℕ} (h : natDigits m = natDigits n) : m = n := by
  rw [← digitsValue_natDigits m, h, digitsValue_natDigits]

theorem digitsValue_append_zeros (ds : List ℕ) (k : ℕ) :
    digitsValue (ds ++ List.replicate k 0) = digitsValue ds * 10 ^ k := by
  rw [digitsValue, digitsValue, List.reverse_append, Nat.ofDigits_append, List.reverse_replicate,
    List.length_replicate, Nat.ofDigits_replicate_zero, Nat.zero_add, Nat.mul_comm]

theorem digitsValue_zeros_append (k : ℕ) (ds : List ℕ) : digitsValue (List.replicate k 0 ++ ds) = digitsValue ds := by
  rw [digitsValue, digitsValue, List.reverse_append, List.reverse_replicate, Nat.ofDigits_append_replicate_zero]

theorem digitUnit_toNat {d : ℕ} (h : d < 10) : (digitUnit d).toNat = 0x30 + d :=
  Text.toNat_toUInt16 (by omega)

theorem isDigit_digitUnit {d : ℕ} (h : d < 10) : isDigit (digitUnit d) = true := by
  simp only [isDigit, digitUnit_toNat h, Bool.and_eq_true, decide_eq_true_eq]
  omega

theorem isDigit_digitsText {ds : List ℕ} (hd : Digits ds) : ∀ u ∈ digitsText ds, isDigit u = true := by
  intro u hu
  obtain ⟨d, hm, rfl⟩ := List.mem_map.1 hu
  exact isDigit_digitUnit (hd d hm)

theorem digitsText_inj : ∀ {a b : List ℕ}, Digits a → Digits b → digitsText a = digitsText b → a = b
  | [], [], _, _, _ => rfl
  | [], _ :: _, _, _, h => by cases h
  | _ :: _, [], _, _, h => by cases h
  | x :: a, y :: b, ha, hb, h => by
    simp only [digitsText, List.map_cons, List.cons.injEq] at h
    have hx := digitUnit_toNat (ha x List.mem_cons_self)
    have hy := digitUnit_toNat (hb y List.mem_cons_self)
    rw [h.1] at hx
    rw [digitsText_inj (fun d hd => ha d (List.mem_cons_of_mem _ hd)) (fun d hd => hb d (List.mem_cons_of_mem _ hd)) h.2,
      show x = y by omega]

/-! ## Reading a run of characters -/

/-- What follows a run of `p`: the end, or a character that is not `p`. -/
def Stops (p : UInt16 → Bool) (r : Str) : Prop := ∀ u ∈ r.head?, p u = false

theorem stops_nil (p : UInt16 → Bool) : Stops p [] := by intro u hu; cases hu

theorem stops_cons {p : UInt16 → Bool} {u : UInt16} {r : Str} (h : p u = false) : Stops p (u :: r) := by
  intro v hv
  cases hv
  exact h

/-- Two runs of `p` that end where the text stops being `p` are the same run. -/
theorem run_cancel {p : UInt16 → Bool} : ∀ {a b r r' : Str}, (∀ u ∈ a, p u = true) → (∀ u ∈ b, p u = true) →
    Stops p r → Stops p r' → a ++ r = b ++ r' → a = b ∧ r = r'
  | [], [], _, _, _, _, _, _, h => ⟨rfl, h⟩
  | [], v :: b, _, _, _, hb, hr, _, h => by
    subst h
    have h1 := hb v List.mem_cons_self
    rw [hr v rfl] at h1
    cases h1
  | u :: a, [], _, _, ha, _, _, hr', h => by
    subst h
    have h1 := ha u List.mem_cons_self
    rw [hr' u rfl] at h1
    cases h1
  | u :: a, v :: b, _, _, ha, hb, hr, hr', h => by
    obtain ⟨rfl, h'⟩ := List.cons.inj h
    obtain ⟨rfl, hrr⟩ := run_cancel (fun w hw => ha w (List.mem_cons_of_mem _ hw))
      (fun w hw => hb w (List.mem_cons_of_mem _ hw)) hr hr' h'
    exact ⟨rfl, hrr⟩

theorem natText_inj {m n : ℕ} (h : natText m = natText n) : m = n :=
  natDigits_inj (digitsText_inj (digits_natDigits m) (digits_natDigits n) h)

theorem natText_ne_minus (n : ℕ) (s t : Str) : natText n ++ s ≠ 0x2D :: t := by
  intro h
  unfold natText at h
  cases hd : natDigits n with
  | nil => exact natDigits_ne_nil n hd
  | cons d ds =>
    rw [hd] at h
    have hlt := digits_natDigits n d (by rw [hd]; exact List.mem_cons_self)
    have h1 := isDigit_digitUnit hlt
    rw [(List.cons.inj h).1] at h1
    exact absurd h1 (by decide)

theorem natText_ne_nil (n : ℕ) : natText n ≠ [] := by
  simpa only [natText, digitsText, ne_eq, List.map_eq_nil_iff] using natDigits_ne_nil n

theorem intText_ne_nil (n : ℤ) : intText n ≠ [] := by
  unfold intText
  split
  · exact List.cons_ne_nil _ _
  · exact natText_ne_nil _

theorem intText_inj {m n : ℤ} (h : intText m = intText n) : m = n := by
  unfold intText at h
  split at h <;> split at h
  · have := natText_inj (List.cons.inj h).2
    omega
  · exact absurd h.symm (by simpa using natText_ne_minus n.natAbs [] (natText m.natAbs))
  · exact absurd h (by simpa using natText_ne_minus m.natAbs [] (natText n.natAbs))
  · have := natText_inj h
    omega

/-! ## Numerals -/

/-- The parts of a number's text. An empty fraction has no point. -/
structure Numeral where
  neg : Bool
  int : List ℕ
  frac : List ℕ
  exp : Option ℤ
deriving DecidableEq

namespace Numeral

/-- Python writes an exponent with at least two digits. -/
def padTwo (n : ℕ) : List ℕ := if n < 10 then [0, n] else natDigits n

def signText (neg : Bool) : Str := if neg then [0x2D] else []

def fracText (ds : List ℕ) : Str := if ds = [] then [] else 0x2E :: digitsText ds

def expText (pad : Bool) : Option ℤ → Str
  | none => []
  | some e =>
    0x65 :: (if e < 0 then 0x2D else 0x2B) :: digitsText (if pad then padTwo e.natAbs else natDigits e.natAbs)

def text (pad : Bool) (t : Numeral) : Str :=
  signText t.neg ++ (digitsText t.int ++ (fracText t.frac ++ expText pad t.exp))

def value (t : Numeral) : ℚ :=
  (if t.neg then -1 else 1) * ((digitsValue (t.int ++ t.frac) : ℚ) * 10 ^ (t.exp.getD 0 - t.frac.length))

/-- Digits are digits, and there is one before the point. -/
structure Ok (t : Numeral) : Prop where
  int_ne : t.int ≠ []
  int : Digits t.int
  frac : Digits t.frac

theorem padTwo_inj {m n : ℕ} (h : padTwo m = padTwo n) : m = n := by
  have hhead : ∀ k, ¬ k < 10 → ∀ j, natDigits k ≠ [0, j] := by
    intro k hk j he
    have hv := digitsValue_natDigits k
    have hj := digits_natDigits k j (by rw [he]; simp)
    rw [he] at hv
    simp [digitsValue, Nat.ofDigits_cons] at hv
    omega
  unfold padTwo at h
  split at h <;> split at h
  · simpa using h
  · exact absurd h.symm (hhead n ‹_› m)
  · exact absurd h (hhead m ‹_› n)
  · exact natDigits_inj h

theorem digits_padTwo (n : ℕ) : Digits (padTwo n) := by
  unfold padTwo
  split
  · intro d hd
    simp at hd
    omega
  · exact digits_natDigits n

theorem expText_inj : ∀ {a b : Option ℤ}, expText true a = expText true b → a = b
  | none, none, _ => rfl
  | none, some _, h => by cases h
  | some _, none, h => by cases h
  | some a, some b, h => by
    simp only [expText, if_true, List.cons.injEq, true_and] at h
    have hn := padTwo_inj (digitsText_inj (digits_padTwo _) (digits_padTwo _) h.2)
    have hs := h.1
    split at hs <;> split at hs
    · rw [show a = b by omega]
    · exact absurd hs (by decide)
    · exact absurd hs (by decide)
    · rw [show a = b by omega]

theorem stops_expText (p : UInt16 → Bool) (hp : p 0x65 = false) (pad : Bool) (e : Option ℤ) : Stops p (expText pad e) := by
  cases e with
  | none => exact stops_nil p
  | some e => exact stops_cons hp

theorem stops_frac (ds : List ℕ) (pad : Bool) (e : Option ℤ) : Stops isDigit (fracText ds ++ expText pad e) := by
  unfold fracText
  split
  · exact stops_expText isDigit (by decide) pad e
  · exact stops_cons (by decide)

theorem frac_inj {a b : List ℕ} (ha : Digits a) (hb : Digits b) {e e' : Option ℤ}
    (h : fracText a ++ expText true e = fracText b ++ expText true e') : a = b ∧ e = e' := by
  have hne : ∀ {x : Option ℤ} {d : List ℕ} {r : Str}, expText true x ≠ 0x2E :: digitsText d ++ r := by
    intro x d r he
    cases x with
    | none => cases he
    | some x => exact absurd (List.cons.inj he).1 (by decide)
  unfold fracText at h
  split at h <;> split at h
  · subst_vars; exact ⟨rfl, expText_inj h⟩
  · exact absurd h hne
  · exact absurd h.symm hne
  · obtain ⟨hd, he⟩ := run_cancel (isDigit_digitsText ha) (isDigit_digitsText hb)
      (stops_expText isDigit (by decide) true e) (stops_expText isDigit (by decide) true e') (List.cons.inj h).2
    exact ⟨digitsText_inj ha hb hd, expText_inj he⟩

theorem unsigned_ne_minus {t : Numeral} (h : t.Ok) (r s : Str) : digitsText t.int ++ r ≠ 0x2D :: s := by
  intro he
  cases hi : t.int with
  | nil => exact h.int_ne hi
  | cons d ds =>
    rw [hi] at he
    have h1 := isDigit_digitUnit (h.int d (by rw [hi]; exact List.mem_cons_self))
    rw [(List.cons.inj he).1] at h1
    exact absurd h1 (by decide)

/-- The layout of a number determines its parts. -/
theorem text_inj {s t : Numeral} (hs : s.Ok) (ht : t.Ok) (h : s.text true = t.text true) : s = t := by
  have hneg : s.neg = t.neg := by
    unfold text signText at h
    cases hsn : s.neg <;> cases htn : t.neg <;> simp only [hsn, htn, if_true, Bool.false_eq_true, if_false] at h
    · rfl
    · exact absurd h (unsigned_ne_minus hs _ _)
    · exact absurd h.symm (unsigned_ne_minus ht _ _)
    · rfl
  unfold text at h
  rw [hneg, List.append_cancel_left_eq] at h
  obtain ⟨hi, h'⟩ := run_cancel (isDigit_digitsText hs.int) (isDigit_digitsText ht.int) (stops_frac _ _ _)
    (stops_frac _ _ _) h
  obtain ⟨hf, he⟩ := frac_inj hs.frac ht.frac h'
  cases s
  cases t
  simp only [mk.injEq]
  exact ⟨hneg, digitsText_inj hs.int ht.int hi, hf, he⟩

end Numeral

end Lib.Numerals
