import Adn.Lib.Quoting
/-!
# Literals that are not ASCII can be read back

`quoteUnicode` goes over code points, and a string is determined by its own:
`quoteUnicode_cancel` takes a literal off the front of a text.
-/

namespace Lib.Text

/-! ## Code points -/

theorem joinPair_lt (hi lo : UInt16) (hh : isHigh hi = true) (hl : isLow lo = true) :
    0x10000 ≤ joinPair hi lo ∧ joinPair hi lo < 0x110000 := by
  simp only [isHigh, isLow, Bool.and_eq_true, decide_eq_true_eq] at hh hl
  unfold joinPair
  omega

theorem codePoints_lt {s : Str} : ∀ c ∈ codePoints s, c < 0x110000 := by
  induction s using codePoints.induct with
  | case1 => simp [codePoints]
  | case2 u =>
    have hu := u.toNat_lt
    intro c hc
    rw [codePoints, List.mem_singleton] at hc
    omega
  | case3 u v rest hp ih =>
    rw [codePoints, if_pos hp]
    rw [Bool.and_eq_true] at hp
    exact List.forall_mem_cons.2 ⟨(joinPair_lt u v hp.1 hp.2).2, ih⟩
  | case4 u v rest hp ih =>
    have hu := u.toNat_lt
    rw [codePoints, if_neg hp]
    exact List.forall_mem_cons.2 ⟨by omega, ih⟩

/-- A unit is the code point that it stands for alone. -/
theorem ofCodePoint_toNat (u : UInt16) : Str.ofCodePoint u.toNat = [u] := by
  have hu := u.toNat_lt
  rw [Str.ofCodePoint, if_pos (by omega), Nat.toUInt16_eq, UInt16.ofNat_toNat]

theorem ofCodePoint_joinPair {hi lo : UInt16} (hh : isHigh hi = true) (hl : isLow lo = true) :
    Str.ofCodePoint (joinPair hi lo) = [hi, lo] := by
  have hge := (joinPair_lt hi lo hh hl).1
  simp only [isHigh, isLow, Bool.and_eq_true, decide_eq_true_eq] at hh hl
  have hhi : 0xD800 + (joinPair hi lo - 0x10000) / 0x400 = hi.toNat := by
    unfold joinPair
    omega
  have hlo : 0xDC00 + (joinPair hi lo - 0x10000) % 0x400 = lo.toNat := by
    unfold joinPair
    omega
  rw [Str.ofCodePoint, if_neg (by omega), hhi, hlo, Nat.toUInt16_eq, Nat.toUInt16_eq, UInt16.ofNat_toNat, UInt16.ofNat_toNat]

/-- The code points of a string have its units. -/
theorem flatMap_ofCodePoint (s : Str) : (codePoints s).flatMap Str.ofCodePoint = s := by
  induction s using codePoints.induct with
  | case1 => rfl
  | case2 u => rw [codePoints, List.flatMap_singleton, ofCodePoint_toNat]
  | case3 u v rest hp ih =>
    rw [codePoints, if_pos hp, List.flatMap_cons, ih]
    rw [Bool.and_eq_true] at hp
    rw [ofCodePoint_joinPair hp.1 hp.2]
    rfl
  | case4 u v rest hp ih =>
    rw [codePoints, if_neg hp, List.flatMap_cons, ih, ofCodePoint_toNat]
    rfl

theorem codePoints_injective : Function.Injective codePoints := by
  intro s t h
  rw [← flatMap_ofCodePoint s, h, flatMap_ofCodePoint]

/-! ## Literals -/

/-- What is written of a code point beyond the first plane starts with a high surrogate. -/
theorem unicodeCodePoint_high {c : ℕ} (h : 0x10000 ≤ c) (hc : c < 0x110000) :
    ∃ hi lo, unicodeCodePoint c = [hi, lo] ∧ isSurrogate hi.toNat = true ∧
      hi.toNat = 0xD800 + (c - 0x10000) / 0x400 ∧ lo.toNat = 0xDC00 + (c - 0x10000) % 0x400 := by
  have hhi : (0xD800 + (c - 0x10000) / 0x400).toUInt16.toNat = 0xD800 + (c - 0x10000) / 0x400 := toNat_toUInt16 (by omega)
  refine ⟨_, _, by rw [unicodeCodePoint, if_neg (by omega), Str.ofCodePoint, if_neg (by omega)], ?_, hhi,
    toNat_toUInt16 (by omega)⟩
  rw [hhi, isSurrogate, Bool.and_eq_true]
  exact ⟨decide_eq_true (by omega), decide_eq_true (by omega)⟩

/-- What is written of another one does not. -/
theorem escapeUnit_ne_surrogate {u hi : UInt16} {s t : Str} (h : isSurrogate hi.toNat = true) :
    escapeUnit (fun u => 0x20 ≤ u.toNat && !isSurrogate u.toNat) u ++ s ≠ hi :: t := by
  intro he
  have hb : hi ≠ backslash := by
    rintro rfl
    revert h
    decide
  unfold escapeUnit at he
  cases hu : shortEscape? u with
  | some e =>
    simp only [hu, List.cons_append, List.cons.injEq] at he
    exact hb he.1.symm
  | none =>
    simp only [hu] at he
    split at he
    · rename_i hraw
      obtain rfl := (List.cons.inj he).1
      rw [h, Bool.not_true, Bool.and_false] at hraw
      cases hraw
    · exact hb (List.cons.inj he).1.symm

theorem unicodeCodePoint_cancel {c d : ℕ} (hc : c < 0x110000) (hd : d < 0x110000) {s t : Str}
    (h : unicodeCodePoint c ++ s = unicodeCodePoint d ++ t) : c = d ∧ s = t := by
  rcases lt_or_ge c 0x10000 with hcl | hcg
  · rcases lt_or_ge d 0x10000 with hdl | hdg
    · rw [unicodeCodePoint, unicodeCodePoint, if_pos hcl, if_pos hdl] at h
      obtain ⟨hu, hs⟩ := escapeUnit_cancel h
      refine ⟨?_, hs⟩
      rw [← toNat_toUInt16 hcl, hu, toNat_toUInt16 hdl]
    · obtain ⟨hi, lo, he, hsur, -⟩ := unicodeCodePoint_high hdg hd
      rw [he, unicodeCodePoint, if_pos hcl] at h
      exact absurd h (escapeUnit_ne_surrogate hsur)
  · obtain ⟨hi, lo, he, hsur, hhi, hlo⟩ := unicodeCodePoint_high hcg hc
    rcases lt_or_ge d 0x10000 with hdl | hdg
    · rw [he, unicodeCodePoint, if_pos hdl] at h
      exact absurd h.symm (escapeUnit_ne_surrogate hsur)
    · obtain ⟨hi', lo', he', -, hhi', hlo'⟩ := unicodeCodePoint_high hdg hd
      rw [he, he'] at h
      obtain ⟨rfl, htail⟩ := List.cons.inj h
      obtain ⟨rfl, hs⟩ := List.cons.inj htail
      exact ⟨by omega, hs⟩

theorem unicodeCodePoint_ne_quote {c : ℕ} (hc : c < 0x110000) (s t : Str) :
    unicodeCodePoint c ++ s ≠ quotationMark :: t := by
  rcases lt_or_ge c 0x10000 with hcl | hcg
  · rw [unicodeCodePoint, if_pos hcl]
    exact escapeUnit_ne_quote _ _ _ _
  · obtain ⟨hi, lo, he, hsur, -⟩ := unicodeCodePoint_high hcg hc
    rw [he]
    intro h
    obtain rfl := (List.cons.inj h).1
    exact absurd hsur (by decide)

theorem unicodeBody_cancel : ∀ {cs ds : List ℕ} {r r' : Str}, (∀ c ∈ cs, c < 0x110000) → (∀ d ∈ ds, d < 0x110000) →
    cs.flatMap unicodeCodePoint ++ quotationMark :: r = ds.flatMap unicodeCodePoint ++ quotationMark :: r' →
      cs = ds ∧ r = r'
  | [], [], _, _, _, _, h => ⟨rfl, (List.cons.inj h).2⟩
  | [], d :: ds, _, _, _, hd, h => by
    rw [List.flatMap_cons, List.append_assoc] at h
    exact absurd h.symm (unicodeCodePoint_ne_quote (hd d List.mem_cons_self) _ _)
  | c :: cs, [], _, _, hc, _, h => by
    rw [List.flatMap_cons, List.append_assoc] at h
    exact absurd h (unicodeCodePoint_ne_quote (hc c List.mem_cons_self) _ _)
  | c :: cs, d :: ds, _, _, hc, hd, h => by
    obtain ⟨hc, hcs⟩ := List.forall_mem_cons.1 hc
    obtain ⟨hd, hds⟩ := List.forall_mem_cons.1 hd
    rw [List.flatMap_cons, List.flatMap_cons, List.append_assoc, List.append_assoc] at h
    obtain ⟨rfl, h'⟩ := unicodeCodePoint_cancel hc hd h
    obtain ⟨rfl, hr⟩ := unicodeBody_cancel hcs hds h'
    exact ⟨rfl, hr⟩

/-- A literal ends at its own closing quote and determines its string. -/
theorem quoteUnicode_cancel {s t r r' : Str} (h : quoteUnicode s ++ r = quoteUnicode t ++ r') : s = t ∧ r = r' := by
  simp only [quoteUnicode, unicodeBody, List.cons_append, List.append_assoc, List.cons.injEq, true_and, List.nil_append] at h
  obtain ⟨hs, hr⟩ := unicodeBody_cancel codePoints_lt codePoints_lt h
  exact ⟨codePoints_injective hs, hr⟩

end Lib.Text
