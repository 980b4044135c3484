import Adn.ContractExports
import Adn.Lib.UnicodeQuoting
/-!
# Addresses as text

`parse_addr_hex` counts bytes, cuts pairs of bytes out of the text and reads each
as a number, with a sign if there is one. `parseAddrHex_exact_iff`: it reads exactly
the addresses unless a pair ends inside a character or has a plus sign.
-/

open Lib

namespace Adn.Contract

/-! ## Pairs of bytes -/

theorem digit_filter (u : UInt16) : (Hex.digitValue u).filter (· < 16) = Hex.digitValue u := by
  cases h : Hex.digitValue u with
  | none => rfl
  | some x => exact Option.filter_some_pos (decide_eq_true (Hex.digitValue_lt h))

/-- The digits of a number below 256, or a plus sign and a digit. -/
theorem fromStrRadix_pair {u v : UInt16} {n : ℕ} : fromStrRadix 16 256 [u, v] = some n ↔
    (u = 0x2B ∧ Hex.digitValue v = some n) ∨
      ∃ x y, Hex.digitValue u = some x ∧ Hex.digitValue v = some y ∧ 16 * x + y = n := by
  have hplus : Hex.digitValue 0x2B = none := by decide
  unfold fromStrRadix
  by_cases hu : u = 0x2B
  · subst hu
    simp only [List.cons_ne_nil, if_false, digit_filter, hplus, reduceCtorEq, false_and, exists_false, or_false, true_and]
    cases hv : Hex.digitValue v with
    | none => simp [hv]
    | some y =>
      have := Hex.digitValue_lt hv
      simp [hv]
      omega
  · split
    · rename_i t ht
      exact absurd (List.cons.inj ht).1 hu
    · simp only [List.cons_ne_nil, if_false, digit_filter, hu, false_and, false_or]
      cases hx : Hex.digitValue u with
      | none => simp [hx]
      | some x =>
        cases hy : Hex.digitValue v with
        | none => simp [hx, hy]
        | some y =>
          have := Hex.digitValue_lt hx
          have := Hex.digitValue_lt hy
          simp [hx, hy, Nat.ofDigits_cons]
          omega

/-- One character of two bytes is no number. -/
theorem fromStrRadix_single {u : UInt16} (h : 0x80 ≤ u.toNat) : fromStrRadix 16 256 [u] = none := by
  have hu : Hex.digitValue u = none := by
    cases hx : Hex.digitValue u with
    | none => rfl
    | some x =>
      have := Hex.digitValue_ascii hx
      omega
  unfold fromStrRadix
  split
  · rename_i t ht
    obtain ⟨rfl, -⟩ := List.cons.inj ht
    exact absurd h (by decide)
  · simp [digit_filter, hu]

/-- The units of the pairs. -/
def joined (qs : List (UInt16 × UInt16)) : Str := qs.flatMap fun q => [q.1, q.2]

/-- The byte a pair is read as. -/
def ReadAs (q : UInt16 × UInt16) (b : UInt8) : Prop := fromStrRadix 16 256 [q.1, q.2] = some b.toNat

theorem ReadAs.ascii {q : UInt16 × UInt16} {b : UInt8} (h : ReadAs q b) : q.1.toNat < 0x80 ∧ q.2.toNat < 0x80 := by
  rcases fromStrRadix_pair.1 h with ⟨hu, hv⟩ | ⟨x, y, hu, hv, -⟩
  · exact ⟨by rw [hu]; decide, Hex.digitValue_ascii hv⟩
  · exact ⟨Hex.digitValue_ascii hu, Hex.digitValue_ascii hv⟩

theorem fromStrRadix_lt {radix limit n : ℕ} {s : Str} (h : fromStrRadix radix limit s = some n) : n < limit := by
  unfold fromStrRadix at h
  extract_lets digits at h
  split_ifs at h
  obtain ⟨ds, -, h⟩ := Option.bind_eq_some_iff.1 h
  extract_lets m at h
  split_ifs at h with hn
  exact Option.some.inj h ▸ hn

/-- The pairs are read one after the other. -/
theorem hexPairs_eq_some {s : Str} {n k : ℕ} {before rest : List ℕ} {bs : List UInt8}
    (hs : Text.codePoints s = before ++ rest) (hk : (before.flatMap Text.utf8CodePoint).length = 2 * k) :
    hexPairs s (List.range' k n) = .ok (some bs) ↔ ∃ qs after, qs.length = n ∧
      rest = Text.codeUnits (joined qs) ++ after ∧ List.Forall₂ ReadAs qs bs := by
  induction n generalizing k before rest bs with
  | zero =>
    constructor
    · intro h
      cases h
      exact ⟨[], rest, rfl, rfl, .nil⟩
    · rintro ⟨qs, after, hl, -, hq⟩
      obtain rfl := List.eq_nil_of_length_eq_zero hl
      cases hq
      rfl
  | succ n ih =>
    rw [List.range'_succ, hexPairs]
    constructor
    · intro h
      obtain ⟨pair, hpair, h⟩ := Outcome.bind_eq_ok.1 h
      cases hnum : fromStrRadix 16 256 pair with
      | none => rw [hnum] at h; cases h
      | some b =>
        rw [hnum] at h
        obtain ⟨r, hr, h⟩ := Outcome.bind_eq_ok.1 h
        obtain ⟨bs', rfl, rfl⟩ := Option.map_eq_some_iff.1 (Outcome.ok.inj h)
        obtain ⟨front, middle, after, hsplit, hfront, hbytes, rfl⟩ := Outcome.sliceText_eq_ok hpair
        -- the slice begins where the pairs so far end
        have hcut : Text.splitBytes (Text.codePoints s) (2 * k) = some (before, rest) := by
          rw [hs, ← hk, Text.splitBytes_append]
        have hcut' : Text.splitBytes (Text.codePoints s) (2 * k) = some (front, middle ++ after) := by
          rw [hsplit, ← hfront, List.append_assoc, Text.splitBytes_append]
        obtain ⟨rfl, rfl⟩ := Prod.mk.inj (Option.some.inj (hcut.symm.trans hcut'))
        have hmiddle : (middle.flatMap Text.utf8CodePoint).length = 2 := by
          rw [List.flatMap_append, List.length_append] at hbytes
          omega
        have hb := fromStrRadix_lt hnum
        rcases Text.two_bytes hmiddle with ⟨c, rfl, hc, hc'⟩ | ⟨c, d, rfl, hc, hd⟩
        · have hunit : Str.ofCodePoint c = [c.toUInt16] := by rw [Str.ofCodePoint, if_pos (by omega)]
          rw [List.flatMap_singleton, hunit, fromStrRadix_single (by rw [Text.toNat_toUInt16 (by omega)]; exact hc)] at hnum
          cases hnum
        · have hunits : [c, d].flatMap Str.ofCodePoint = [c.toUInt16, d.toUInt16] := by
            simp [Str.ofCodePoint, show c < 0x10000 by omega, show d < 0x10000 by omega]
          rw [hunits] at hnum
          have hnext : Text.codePoints s = before ++ [c, d] ++ after := by rw [hs, List.append_assoc]
          have hpassed : ((before ++ [c, d]).flatMap Text.utf8CodePoint).length = 2 * (k + 1) := by
            rw [hbytes]
            omega
          obtain ⟨qs, tail, hl, rfl, hq⟩ := (ih hnext hpassed).1 hr
          refine ⟨(c.toUInt16, d.toUInt16) :: qs, tail, by rw [List.length_cons, hl], ?_, .cons ?_ hq⟩
          · simp [joined, Text.codeUnits, Text.toNat_toUInt16 (show c < 0x10000 by omega),
              Text.toNat_toUInt16 (show d < 0x10000 by omega)]
          · rw [ReadAs, hnum, UInt8.toNat_ofNat_of_lt' hb]
    · rintro ⟨qs, after, hl, rfl, hq⟩
      cases hq with
      | nil => cases hl
      | @cons q b qs bs' hb hq =>
        obtain ⟨hu, hv⟩ := hb.ascii
        have hsplit : Text.codePoints s = before ++ [q.1.toNat, q.2.toNat] ++ (Text.codeUnits (joined qs) ++ after) := by
          rw [hs]
          simp [joined, Text.codeUnits]
        have hlen : ((before ++ [q.1.toNat, q.2.toNat]).flatMap Text.utf8CodePoint).length = 2 * k + 2 := by
          rw [List.flatMap_append, List.length_append, hk]
          simp [Text.utf8CodePoint_ascii hu, Text.utf8CodePoint_ascii hv]
        have hslice := Outcome.sliceText_append hsplit
        have hunits : [q.1.toNat, q.2.toNat].flatMap Str.ofCodePoint = [q.1, q.2] := by
          simp [Text.ofCodePoint_toNat]
        rw [hk, hlen, hunits] at hslice
        have hpassed : ((before ++ [q.1.toNat, q.2.toNat]).flatMap Text.utf8CodePoint).length = 2 * (k + 1) := by
          rw [hlen]
          omega
        have hrest := (ih hsplit hpassed).2 ⟨qs, after, by simpa using hl, rfl, hq⟩
        rw [ReadAs] at hb
        refine Outcome.bind_eq_ok.2 ⟨[q.1, q.2], hslice, ?_⟩
        rw [hb, hrest]
        simp [pure, bind, Outcome.bind]

/-! ## What is read -/

theorem ascii_joined {qs : List (UInt16 × UInt16)} {bs : List UInt8} (h : List.Forall₂ ReadAs qs bs) :
    Text.IsAscii (joined qs) := by
  induction h with
  | nil => exact nofun
  | cons hb _ ih =>
    intro u hu
    rcases List.mem_cons.1 hu with rfl | hu
    · exact hb.ascii.1
    rcases List.mem_cons.1 hu with rfl | hu
    · exact hb.ascii.2
    · exact ih u hu

theorem length_joined (qs : List (UInt16 × UInt16)) : (joined qs).length = 2 * qs.length := by
  induction qs with
  | nil => rfl
  | cons q qs ih =>
    rw [joined, List.flatMap_cons, ← joined, List.length_append, ih, List.length_cons]
    simp only [List.length_cons, List.length_nil]
    omega

theorem parseAddrHex_eq_some {s : Str} {a : List UInt8} : parseAddrHex s = .ok (some a) ↔
    ∃ qs, qs.length = 20 ∧ stripPrefix s = joined qs ∧ List.Forall₂ ReadAs qs a := by
  have hpairs : hexPairs (stripPrefix s) (List.range' 0 20) = .ok (some a) ↔ ∃ qs after, qs.length = 20 ∧
      Text.codePoints (stripPrefix s) = Text.codeUnits (joined qs) ++ after ∧ List.Forall₂ ReadAs qs a :=
    hexPairs_eq_some (List.nil_append _).symm rfl
  rw [← List.range_eq_range'] at hpairs
  have hbytes : ∀ {qs bs}, List.Forall₂ ReadAs qs bs →
      ((Text.codeUnits (joined qs)).flatMap Text.utf8CodePoint).length = 2 * qs.length := by
    intro qs bs hq
    rw [← Text.codePoints_ascii (ascii_joined hq), ← Text.utf8, Text.length_utf8_ascii (ascii_joined hq), length_joined]
  unfold parseAddrHex
  simp only
  split
  · rename_i hlen
    constructor
    · intro h
      cases h
    · rintro ⟨qs, hl, hs, hq⟩
      refine absurd ?_ hlen
      rw [hs, Text.byteLen, Text.length_utf8_ascii (ascii_joined hq), length_joined, hl]
  · rename_i hlen
    rw [hpairs]
    constructor
    · rintro ⟨qs, after, hl, hs, hq⟩
      refine ⟨qs, hl, Text.codePoints_injective ?_, hq⟩
      rw [not_not, Text.byteLen, Text.utf8, hs, List.flatMap_append, List.length_append, hbytes hq, hl] at hlen
      have hafter : after = [] := by
        cases after with
        | nil => rfl
        | cons c cs =>
          have := Text.utf8CodePoint_pos c
          rw [List.flatMap_cons, List.length_append] at hlen
          omega
      rw [hs, hafter, List.append_nil, Text.codePoints_ascii (ascii_joined hq)]
    · rintro ⟨qs, hl, hs, hq⟩
      exact ⟨qs, [], hl, by rw [hs, Text.codePoints_ascii (ascii_joined hq), List.append_nil], hq⟩

/-- A number is read exactly from twenty pairs. -/
theorem hexPairs_some_iff {s : Str} {n k : ℕ} : (∃ bs, hexPairs s (List.range' k n) = .ok (some bs)) ↔
    ∀ i, k ≤ i → i < k + n → IsHexPair s i := by
  induction n generalizing k with
  | zero => exact ⟨fun _ i h h' => absurd h (by omega), fun _ => ⟨[], rfl⟩⟩
  | succ n ih =>
    rw [List.range'_succ, hexPairs]
    constructor
    · rintro ⟨bs, h⟩ i hki hi
      obtain ⟨pair, hpair, h⟩ := Outcome.bind_eq_ok.1 h
      cases hnum : fromStrRadix 16 256 pair with
      | none => rw [hnum] at h; cases h
      | some b =>
        rw [hnum] at h
        obtain ⟨r, hr, h⟩ := Outcome.bind_eq_ok.1 h
        obtain ⟨bs', rfl, -⟩ := Option.map_eq_some_iff.1 (Outcome.ok.inj h)
        rcases Nat.eq_or_lt_of_le hki with rfl | hlt
        · exact ⟨pair, b, hpair, hnum⟩
        · exact ih.1 ⟨bs', hr⟩ i hlt (by omega)
    · intro h
      obtain ⟨pair, b, hpair, hnum⟩ := h k (le_refl k) (by omega)
      obtain ⟨bs, hbs⟩ := (ih (k := k + 1)).2 fun i hki hi => h i (by omega) (by omega)
      refine ⟨UInt8.ofNat b :: bs, Outcome.bind_eq_ok.2 ⟨pair, hpair, ?_⟩⟩
      rw [hnum]
      exact Outcome.bind_eq_ok.2 ⟨some bs, hbs, rfl⟩

theorem parseAddrHex_reads_iff {s : Str} : (∃ a, parseAddrHex s = .ok (some a)) ↔
    Text.byteLen (stripPrefix s) = 40 ∧ ∀ i < 20, IsHexPair (stripPrefix s) i := by
  have hpairs := hexPairs_some_iff (s := stripPrefix s) (n := 20) (k := 0)
  rw [← List.range_eq_range'] at hpairs
  unfold parseAddrHex
  simp only
  split
  · rename_i hlen
    exact ⟨fun ⟨a, h⟩ => (by cases h), fun h => absurd h.1 hlen⟩
  · rename_i hlen
    rw [not_not] at hlen
    rw [hpairs]
    simp only [hlen, Nat.zero_le, Nat.zero_add, true_imp_iff, true_and]

/-! ## Addresses -/

/-- Forty hexadecimal digits, after an optional `0x`, of the address `a`. -/
def Spells (s : Str) (a : List UInt8) : Prop := ∃ t, (s = t ∨ s = Str.ofString "0x" ++ t) ∧ t.length = 40 ∧
  (∀ u ∈ t, (Hex.digitValue u).isSome = true) ∧ Hex.hexLower a = lower t

theorem lower_digit {u : UInt16} {x : ℕ} (h : Hex.digitValue u = some x) : lower [u] = [Text.hexDigit x] := by
  have hall : ∀ n < 0x80, (Hex.digitValue (UInt16.ofNat n)).all fun x => lower [UInt16.ofNat n] = [Text.hexDigit x] := by
    decide +kernel
  have hu := hall u.toNat (Hex.digitValue_ascii h)
  rw [UInt16.ofNat_toNat, h] at hu
  exact of_decide_eq_true hu

theorem lower_cons (u : UInt16) (s : Str) : lower (u :: s) = lower [u] ++ lower s := rfl

/-- Pairs without a sign spell the bytes they are read as. -/
theorem spelled_of_read {qs : List (UInt16 × UInt16)} {a : List UInt8} (h : List.Forall₂ ReadAs qs a)
    (hp : (0x2B : UInt16) ∉ joined qs) :
    (∀ u ∈ joined qs, (Hex.digitValue u).isSome = true) ∧ Hex.hexLower a = lower (joined qs) := by
  induction h with
  | nil => exact ⟨nofun, rfl⟩
  | @cons q b qs a hb _ ih =>
    simp only [joined, List.flatMap_cons, List.cons_append, List.nil_append, List.mem_cons, not_or] at hp
    obtain ⟨hplus, -, hp⟩ := hp
    obtain ⟨hdigits, hlower⟩ := ih hp
    rcases fromStrRadix_pair.1 hb with ⟨hu, -⟩ | ⟨x, y, hx, hy, hxy⟩
    · exact absurd hu.symm hplus
    · have := Hex.digitValue_lt hx
      have := Hex.digitValue_lt hy
      refine ⟨?_, ?_⟩
      · intro u hu
        rcases List.mem_cons.1 hu with rfl | hu
        · rw [hx]; rfl
        rcases List.mem_cons.1 hu with rfl | hu
        · rw [hy]; rfl
        · exact hdigits u hu
      · rw [Hex.hexLower_cons, hlower, show b.toNat / 0x10 = x by omega, show b.toNat % 0x10 = y by omega]
        change _ = lower (q.1 :: q.2 :: joined qs)
        rw [lower_cons q.1, lower_cons q.2, lower_digit hx, lower_digit hy]
        rfl

/-- Digits in lower case are read as the bytes they spell. -/
theorem read_of_spelled {a : List UInt8} : ∀ {t : Str}, (∀ u ∈ t, (Hex.digitValue u).isSome = true) →
    Hex.hexLower a = lower t → ∃ qs, t = joined qs ∧ List.Forall₂ ReadAs qs a := by
  induction a with
  | nil =>
    intro t _ h
    exact ⟨[], List.map_eq_nil_iff.1 h.symm, .nil⟩
  | cons b a ih =>
    intro t hd h
    rw [Hex.hexLower_cons] at h
    match t with
    | [] => cases h
    | [u] => exact absurd (congrArg List.length h) (by simp [lower])
    | u :: v :: t =>
      obtain ⟨x, hx⟩ := Option.isSome_iff_exists.1 (hd u List.mem_cons_self)
      obtain ⟨y, hy⟩ := Option.isSome_iff_exists.1 (hd v (List.mem_cons_of_mem _ List.mem_cons_self))
      rw [lower_cons u, lower_cons v, lower_digit hx, lower_digit hy] at h
      simp only [List.cons_append, List.nil_append, List.cons.injEq] at h
      obtain ⟨hbx, hby, h⟩ := h
      have hb := b.toNat_lt
      have hdivide := Text.hexDigit_inj (by omega) (Hex.digitValue_lt hx) hbx
      have hmod := Text.hexDigit_inj (by omega) (Hex.digitValue_lt hy) hby
      obtain ⟨qs, rfl, hq⟩ := ih (fun w hw => hd w (List.mem_cons_of_mem _ (List.mem_cons_of_mem _ hw))) h
      exact ⟨(u, v) :: qs, rfl, .cons (fromStrRadix_pair.2 (.inr ⟨x, y, hx, hy, by omega⟩)) hq⟩

theorem stripPrefix_digits {t : Str} (h : ∀ u ∈ t, (Hex.digitValue u).isSome = true) : stripPrefix t = t := by
  unfold stripPrefix
  split
  · have := h 0x78 (by simp)
    exact absurd this (by decide)
  · rfl

theorem spells_strip {s : Str} {a : List UInt8} : Spells s a ↔ (stripPrefix s).length = 40 ∧
    (∀ u ∈ stripPrefix s, (Hex.digitValue u).isSome = true) ∧ Hex.hexLower a = lower (stripPrefix s) := by
  constructor
  · rintro ⟨t, hs, hl, hd, ha⟩
    have ht : stripPrefix s = t := by
      rcases hs with rfl | rfl
      · exact stripPrefix_digits hd
      · rfl
    rw [ht]
    exact ⟨hl, hd, ha⟩
  · intro h
    refine ⟨stripPrefix s, ?_, h⟩
    unfold stripPrefix
    split
    · exact .inr rfl
    · exact .inl rfl

/-- What is read without a sign is spelled. -/
theorem spells_iff {s : Str} {a : List UInt8} :
    Spells s a ↔ parseAddrHex s = .ok (some a) ∧ (0x2B : UInt16) ∉ stripPrefix s := by
  rw [spells_strip, parseAddrHex_eq_some]
  constructor
  · rintro ⟨hl, hd, ha⟩
    obtain ⟨qs, hs, hq⟩ := read_of_spelled hd ha
    refine ⟨⟨qs, ?_, hs, hq⟩, fun hp => absurd (hd _ hp) (by decide)⟩
    rw [hs, length_joined] at hl
    omega
  · rintro ⟨⟨qs, hl, hs, hq⟩, hp⟩
    rw [hs] at hp ⊢
    obtain ⟨hd, ha⟩ := spelled_of_read hq hp
    exact ⟨by rw [length_joined, hl], hd, ha⟩

theorem hexPairs_ne_err (s : Str) (is : List ℕ) : ∀ e, hexPairs s is ≠ .err e := by
  induction is with
  | nil =>
    intro e h
    cases h
  | cons i is ih =>
    intro e h
    rw [hexPairs] at h
    have hslice : ∀ e, Outcome.sliceText s (2 * i) (2 * i + 2) ≠ .err e := by
      intro e h
      unfold Outcome.sliceText at h
      split at h
      · cases h
      · split at h <;> cases h
    cases hpair : Outcome.sliceText s (2 * i) (2 * i + 2) with
    | err e' => exact hslice e' hpair
    | panic =>
      rw [hpair] at h
      cases h
    | ok pair =>
      rw [hpair] at h
      simp only [bind, Outcome.bind] at h
      cases hnum : fromStrRadix 16 256 pair with
      | none =>
        rw [hnum] at h
        cases h
      | some b =>
        cases hrest : hexPairs s is with
        | err e' => exact ih e' hrest
        | panic =>
          rw [hnum, hrest] at h
          cases h
        | ok r =>
          rw [hnum, hrest] at h
          cases h

/-- What does not panic has a result. -/
theorem parseAddrHex_of_runs {s : Str} (h : (parseAddrHex s).Runs) : ∃ r, parseAddrHex s = .ok r := by
  cases hs : parseAddrHex s with
  | ok r => exact ⟨r, rfl⟩
  | panic => exact absurd hs h
  | err e =>
    unfold parseAddrHex at hs
    simp only at hs
    split at hs
    · cases hs
    · exact absurd hs (hexPairs_ne_err _ _ e)

/-- It does not panic, and reads exactly the addresses. -/
def ParsesExactly (s : Str) : Prop := ∃ r, parseAddrHex s = .ok r ∧ ∀ a, r = some a ↔ Spells s a

/-- The text is read exactly unless it has 40 bytes and a pair of them ends inside a character, or all pairs are
numbers and one has a plus sign. -/
theorem parseAddrHex_exact_iff (s : Str) : ParsesExactly s ↔ (Text.byteLen (stripPrefix s) = 40 →
    Pairable (stripPrefix s) ∧ ((∀ i < 20, IsHexPair (stripPrefix s) i) → (0x2B : UInt16) ∉ stripPrefix s)) := by
  constructor
  · rintro ⟨r, hr, hexact⟩ hlen
    have hruns : (parseAddrHex s).Runs := hr ▸ Outcome.runs_ok r
    refine ⟨parseAddrHex_runs.1 hruns hlen, fun hpairs => ?_⟩
    obtain ⟨a, ha⟩ := parseAddrHex_reads_iff.2 ⟨hlen, hpairs⟩
    exact (spells_iff.1 ((hexact a).1 (Outcome.ok.inj (hr.symm.trans ha)))).2
  · intro h
    have hruns : (parseAddrHex s).Runs := parseAddrHex_runs.2 fun hlen => (h hlen).1
    obtain ⟨r, hr⟩ := parseAddrHex_of_runs hruns
    refine ⟨r, hr, fun a => ?_⟩
    rw [spells_iff, hr, Outcome.ok.injEq]
    refine ⟨fun ha => ⟨ha, ?_⟩, fun ha => ha.1⟩
    obtain ⟨hlen, hpairs⟩ := parseAddrHex_reads_iff.1 ⟨a, by rw [hr, ha]⟩
    exact (h hlen).2 hpairs

/-! ### Two texts of forty bytes -/

namespace Sample

/-- Twenty pairs of a plus sign and a digit. -/
def signedText : Str := joined (List.replicate 20 (0x2B, 0x66))

/-- The second byte is inside the second character. -/
def accentedText : Str := 0x31 :: 0xE9 :: List.replicate 37 0x31

theorem signed_read : parseAddrHex signedText = .ok (some (List.replicate 20 0x0F)) := by
  have hpair : ReadAs (0x2B, 0x66) 0x0F := fromStrRadix_pair.2 (.inl ⟨rfl, by decide⟩)
  have hpairs : ∀ n, List.Forall₂ ReadAs (List.replicate n (0x2B, 0x66)) (List.replicate n 0x0F) := by
    intro n
    induction n with
    | zero => exact .nil
    | succ n ih => exact .cons hpair ih
  exact parseAddrHex_eq_some.2 ⟨_, rfl, rfl, hpairs 20⟩

/-- The first is read as an address that it does not spell; the second panics. -/
theorem address_misread : ¬ParsesExactly signedText ∧ ¬ParsesExactly accentedText := by
  constructor
  · rintro ⟨r, hr, hexact⟩
    have hspelled := (hexact _).1 (Outcome.ok.inj (hr.symm.trans signed_read))
    exact absurd (spells_iff.1 hspelled).2 (by decide)
  · rintro ⟨r, hr, -⟩
    have hruns : (parseAddrHex accentedText).Runs := hr ▸ Outcome.runs_ok r
    have hcut := parseAddrHex_runs.1 hruns (by decide +kernel) 0 (by decide) nofun
    exact absurd hcut (by decide +kernel)

end Sample

end Adn.Contract
