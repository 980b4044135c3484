import Adn.Lib.Text
/-!
# JSON string literals

Both languages escape the quote, the backslash and five control characters with
two characters, and other control characters as `\\u00xx`. They differ on the
rest: Python's `json.dumps` escapes every code unit outside printable ASCII,
JavaScript's `JSON.stringify` writes it out unless it is a lone surrogate.
`unicodeBody_eq_iff_portable` says on which strings the two agree.
-/

namespace Lib.Text

/-! ## Escapes -/

def quotationMark : UInt16 := 0x22
def backslash : UInt16 := 0x5C

def hexDigit (n : ℕ) : UInt16 := if n < 10 then (0x30 + n).toUInt16 else (0x57 + n).toUInt16

/-- Four lower-case hexadecimal digits. -/
def hex4 (u : UInt16) : Str :=
  [hexDigit (u.toNat / 0x1000), hexDigit (u.toNat / 0x100 % 0x10), hexDigit (u.toNat / 0x10 % 0x10),
    hexDigit (u.toNat % 0x10)]

/-- The letter after the backslash, for the seven characters that have one. -/
def shortEscape? (u : UInt16) : Option UInt16 :=
  if u = 0x08 then some 0x62
  else if u = 0x09 then some 0x74
  else if u = 0x0A then some 0x6E
  else if u = 0x0C then some 0x66
  else if u = 0x0D then some 0x72
  else if u = 0x22 then some 0x22
  else if u = 0x5C then some 0x5C
  else none

/-- One code unit, written out where `raw` allows it. -/
def escapeUnit (raw : UInt16 → Bool) (u : UInt16) : Str :=
  match shortEscape? u with
  | some e => [backslash, e]
  | none => if raw u then [u] else backslash :: 0x75 :: hex4 u

def isPrintable (u : UInt16) : Bool := 0x20 ≤ u.toNat && u.toNat < 0x7F

def isSurrogate (c : ℕ) : Bool := 0xD800 ≤ c && c < 0xE000

def asciiBody (s : Str) : Str := s.flatMap (escapeUnit isPrintable)

/-- A string as Python's `json.dumps` writes it. -/
def quoteAscii (s : Str) : Str := quotationMark :: asciiBody s ++ [quotationMark]

def unicodeCodePoint (c : ℕ) : Str :=
  if c < 0x10000 then escapeUnit (fun u => 0x20 ≤ u.toNat && !isSurrogate u.toNat) c.toUInt16 else Str.ofCodePoint c

def unicodeBody (s : Str) : Str := (codePoints s).flatMap unicodeCodePoint

/-- A string as JavaScript's `JSON.stringify` writes it. -/
def quoteUnicode (s : Str) : Str := quotationMark :: unicodeBody s ++ [quotationMark]

/-! ## An escaped string can be read back -/

theorem hexDigit_inj {m n : ℕ} (hm : m < 16) (hn : n < 16) (h : hexDigit m = hexDigit n) : m = n := by
  have hall : ∀ m < 16, ∀ n < 16, hexDigit m = hexDigit n → m = n := by decide
  exact hall m hm n hn h

theorem hex4_inj {u v : UInt16} (h : hex4 u = hex4 v) : u = v := by
  have hu := u.toNat_lt
  have hv := v.toNat_lt
  simp only [hex4, List.cons.injEq, and_true] at h
  obtain ⟨h1, h2, h3, h4⟩ := h
  have h1 := hexDigit_inj (by omega) (by omega) h1
  have h2 := hexDigit_inj (by omega) (by omega) h2
  have h3 := hexDigit_inj (by omega) (by omega) h3
  have h4 := hexDigit_inj (by omega) (by omega) h4
  exact UInt16.toNat_inj.1 (by omega)

/-- The character a two-character escape stands for. -/
def shortUnescape (e : UInt16) : UInt16 :=
  if e = 0x62 then 0x08 else if e = 0x74 then 0x09 else if e = 0x6E then 0x0A
  else if e = 0x66 then 0x0C else if e = 0x72 then 0x0D else e

theorem shortEscape_some {u e : UInt16} (h : shortEscape? u = some e) :
    shortUnescape e = u ∧ e ≠ 0x75 ∧ u.toNat < 0x7F ∧ e.toNat < 0x7F := by
  unfold shortEscape? at h
  split at h
  · subst_vars; cases h; decide
  split at h
  · subst_vars; cases h; decide
  split at h
  · subst_vars; cases h; decide
  split at h
  · subst_vars; cases h; decide
  split at h
  · subst_vars; cases h; decide
  split at h
  · subst_vars; cases h; decide
  split at h
  · subst_vars; cases h; decide
  · cases h

theorem ne_of_shortEscape_none {u : UInt16} (h : shortEscape? u = none) : u ≠ quotationMark ∧ u ≠ backslash := by
  constructor <;> (rintro rfl; revert h; decide)

theorem escapeUnit_cancel {raw : UInt16 → Bool} {u v : UInt16} {s t : Str}
    (h : escapeUnit raw u ++ s = escapeUnit raw v ++ t) : u = v ∧ s = t := by
  unfold escapeUnit at h
  cases hu : shortEscape? u with
  | some e =>
    obtain ⟨heu, he, -⟩ := shortEscape_some hu
    cases hv : shortEscape? v with
    | some e' =>
      simp only [hu, hv, List.cons_append, List.nil_append, List.cons.injEq, true_and] at h
      exact ⟨by rw [← heu, ← (shortEscape_some hv).1, h.1], h.2⟩
    | none =>
      have hb := (ne_of_shortEscape_none hv).2
      simp only [hu, hv] at h
      split at h
      · simp only [List.cons_append, List.nil_append, List.cons.injEq] at h
        exact absurd h.1.symm hb
      · simp only [List.cons_append, List.nil_append, List.cons.injEq, true_and] at h
        exact absurd h.1 he
  | none =>
    have hbu := (ne_of_shortEscape_none hu).2
    cases hv : shortEscape? v with
    | some e' =>
      obtain ⟨-, he, -⟩ := shortEscape_some hv
      simp only [hu, hv] at h
      split at h
      · simp only [List.cons_append, List.nil_append, List.cons.injEq] at h
        exact absurd h.1 hbu
      · simp only [List.cons_append, List.nil_append, List.cons.injEq, true_and] at h
        exact absurd h.1.symm he
    | none =>
      have hbv := (ne_of_shortEscape_none hv).2
      simp only [hu, hv] at h
      split at h <;> split at h <;>
        simp only [List.cons_append, List.nil_append, List.cons.injEq, true_and] at h
      · exact h
      · exact absurd h.1 hbu
      · exact absurd h.1.symm hbv
      · obtain ⟨hx, ht⟩ := List.append_inj h rfl
        exact ⟨hex4_inj hx, ht⟩

/-- An escaped character never starts with the closing quote. -/
theorem escapeUnit_ne_quote (raw : UInt16 → Bool) (u : UInt16) (s t : Str) :
    escapeUnit raw u ++ s ≠ quotationMark :: t := by
  intro h
  unfold escapeUnit at h
  cases hu : shortEscape? u with
  | some e =>
    simp only [hu, List.cons_append, List.cons.injEq] at h
    exact absurd h.1 (by decide)
  | none =>
    simp only [hu] at h
    split at h <;> simp only [List.cons_append, List.nil_append, List.cons.injEq] at h
    · exact (ne_of_shortEscape_none hu).1 h.1
    · exact absurd h.1 (by decide)

/-- A string literal ends at its own closing quote and determines its string. -/
theorem escaped_cancel {raw : UInt16 → Bool} : ∀ {s t r r' : Str},
    s.flatMap (escapeUnit raw) ++ quotationMark :: r = t.flatMap (escapeUnit raw) ++ quotationMark :: r' →
      s = t ∧ r = r'
  | [], [], _, _, h => ⟨rfl, (List.cons.inj h).2⟩
  | [], v :: t, _, _, h => by
    rw [List.flatMap_cons, List.append_assoc] at h
    exact absurd h.symm (escapeUnit_ne_quote _ _ _ _)
  | u :: s, [], _, _, h => by
    rw [List.flatMap_cons, List.append_assoc] at h
    exact absurd h (escapeUnit_ne_quote _ _ _ _)
  | u :: s, v :: t, _, _, h => by
    rw [List.flatMap_cons, List.flatMap_cons, List.append_assoc, List.append_assoc] at h
    obtain ⟨rfl, h'⟩ := escapeUnit_cancel h
    obtain ⟨rfl, hr⟩ := escaped_cancel h'
    exact ⟨rfl, hr⟩

theorem quoteAscii_cancel {s t r r' : Str} (h : quoteAscii s ++ r = quoteAscii t ++ r') : s = t ∧ r = r' := by
  simp only [quoteAscii, asciiBody, List.cons_append, List.append_assoc, List.cons.injEq, true_and, List.nil_append] at h
  exact escaped_cancel h

/-! ## Where the two literals agree -/

/-- Every code point is below 127 or a lone surrogate. -/
def Portable (s : Str) : Prop := ∀ c ∈ codePoints s, c < 0x7F ∨ isSurrogate c = true

instance (s : Str) : Decidable (Portable s) := by unfold Portable; infer_instance

/-- Every code unit is below 127. -/
def Plain (s : Str) : Prop := ∀ u ∈ s, u.toNat < 0x7F

instance (s : Str) : Decidable (Plain s) := List.decidableBAll _ s

theorem Plain.append {s t : Str} : Plain (s ++ t) ↔ Plain s ∧ Plain t := by
  simp only [Plain, List.mem_append, or_imp, forall_and]

theorem Plain.cons {u : UInt16} {s : Str} : Plain (u :: s) ↔ u.toNat < 0x7F ∧ Plain s := by
  simp only [Plain, List.mem_cons, forall_eq_or_imp]

theorem plain_nil : Plain [] := by intro u hu; cases hu

theorem plain_ofString {s : String} (hs : s.toList.all (fun c => c.toNat < 0x7F) = true) : Plain (Str.ofString s) := by
  have h : ∀ c ∈ s.toList, c.toNat < 0x7F := by simpa using hs
  intro u hu
  obtain ⟨c, hc, hu⟩ := mem_ofString (fun c hc => Nat.lt_trans (h c hc) (by decide)) hu
  rw [hu]
  exact h c hc

theorem Plain.ascii {s : Str} (h : Plain s) : IsAscii s := fun u hu => Nat.lt_trans (h u hu) (by decide)

theorem plain_hex4 (u : UInt16) : Plain (hex4 u) := by
  have hd : ∀ n < 16, (hexDigit n).toNat < 0x7F := by decide
  have hu := u.toNat_lt
  intro w hw
  simp only [hex4, List.mem_cons, List.not_mem_nil, or_false] at hw
  rcases hw with rfl | rfl | rfl | rfl <;> exact hd _ (by omega)

theorem plain_escapeUnit {raw : UInt16 → Bool} {u : UInt16} (h : raw u = true → u.toNat < 0x7F) :
    Plain (escapeUnit raw u) := by
  unfold escapeUnit
  split
  · rename_i e he
    exact Plain.cons.2 ⟨by decide, Plain.cons.2 ⟨(shortEscape_some he).2.2.2, plain_nil⟩⟩
  split
  · rename_i hr
    exact Plain.cons.2 ⟨h hr, plain_nil⟩
  · exact Plain.cons.2 ⟨by decide, Plain.cons.2 ⟨by decide, plain_hex4 u⟩⟩

theorem plain_quoteAscii (s : Str) : Plain (quoteAscii s) := by
  refine Plain.cons.2 ⟨by decide, Plain.append.2 ⟨?_, Plain.cons.2 ⟨by decide, plain_nil⟩⟩⟩
  intro w hw
  obtain ⟨u, -, hu⟩ := List.mem_flatMap.1 hw
  refine plain_escapeUnit (fun hr => ?_) w hu
  simp only [isPrintable, Bool.and_eq_true, decide_eq_true_eq] at hr
  exact hr.2

theorem portable_tail {c : ℕ} {cs : List ℕ} (h : ∀ d ∈ c :: cs, d < 0x7F ∨ isSurrogate d = true) :
    ∀ d ∈ cs, d < 0x7F ∨ isSurrogate d = true := fun d hd => h d (List.mem_cons_of_mem _ hd)

/-- A portable string has no surrogate pair, so its code points are its code units. -/
theorem Portable.codePoints {s : Str} (h : Portable s) : codePoints s = codeUnits s := by
  induction s using codePoints.induct with
  | case1 => rfl
  | case2 u => rfl
  | case3 u v rest hp =>
    have hj := h (joinPair u v) (by simp [Text.codePoints, hp])
    simp only [isSurrogate, Bool.and_eq_true, decide_eq_true_eq] at hj
    unfold joinPair at hj
    omega
  | case4 u v rest hp ih =>
    unfold Portable at h ih
    rw [Text.codePoints, if_neg hp] at h ⊢
    rw [ih (portable_tail h)]
    rfl

/-- ASCII without the last character is portable. -/
theorem Plain.portable {s : Str} (h : Plain s) : Portable s := by
  induction s using codePoints.induct with
  | case1 => simp [Portable, Text.codePoints]
  | case2 u =>
    rw [Portable, Text.codePoints]
    exact fun c hc => .inl (List.mem_singleton.1 hc ▸ (Plain.cons.1 h).1)
  | case3 u v rest hp =>
    have hu := (Plain.cons.1 h).1
    simp only [isHigh, Bool.and_eq_true, decide_eq_true_eq] at hp
    omega
  | case4 u v rest hp ih =>
    have ih := ih (Plain.cons.1 h).2
    rw [Portable] at ih ⊢
    rw [Text.codePoints, if_neg hp]
    exact List.forall_mem_cons.2 ⟨.inl (Plain.cons.1 h).1, ih⟩

theorem escapeUnit_portable {u : UInt16} (h : u.toNat < 0x7F ∨ isSurrogate u.toNat = true) :
    unicodeCodePoint u.toNat = escapeUnit isPrintable u := by
  have hr : (decide (0x20 ≤ u.toNat) && !isSurrogate u.toNat) = isPrintable u := by
    rw [Bool.eq_iff_iff]
    simp only [isSurrogate, isPrintable, Bool.and_eq_true, decide_eq_true_eq, Bool.not_eq_true',
      Bool.and_eq_false_imp, decide_eq_false_iff_not] at h ⊢
    omega
  rw [unicodeCodePoint, if_pos u.toNat_lt]
  simp only [Nat.toUInt16_eq, UInt16.ofNat_toNat, escapeUnit, hr]

theorem unicodeBody_of_portable {s : Str} (h : Portable s) : unicodeBody s = asciiBody s := by
  have hc := h.codePoints
  unfold Portable at h
  rw [unicodeBody, asciiBody, hc, codeUnits]
  rw [hc, codeUnits] at h
  clear hc
  induction s with
  | nil => rfl
  | cons u s ih =>
    simp only [List.map_cons] at h ⊢
    rw [List.flatMap_cons, List.flatMap_cons, escapeUnit_portable (h _ List.mem_cons_self), ih (portable_tail h)]

/-- `JSON.stringify` writes any other character out as it is. -/
theorem portable_of_plain {s : Str} (h : Plain (unicodeBody s)) : Portable s := by
  intro c hc
  have hp : Plain (unicodeCodePoint c) := fun u hu => h u (List.mem_flatMap.2 ⟨c, hc, hu⟩)
  by_contra hn
  rw [not_or, Bool.not_eq_true] at hn
  obtain ⟨hge, hs⟩ := hn
  unfold unicodeCodePoint at hp
  split at hp
  · rename_i hlt
    have hcn : c.toUInt16.toNat = c := toNat_toUInt16 hlt
    unfold escapeUnit at hp
    split at hp
    · rename_i e he
      have := (shortEscape_some he).2.2.1
      omega
    · rw [if_pos (by simp only [hcn, hs]; simp; omega)] at hp
      have := (Plain.cons.1 hp).1
      omega
  · rename_i hge
    unfold Str.ofCodePoint at hp
    rw [if_neg hge] at hp
    have h1 := (Plain.cons.1 hp).1
    have h2 := (Plain.cons.1 (Plain.cons.1 hp).2).1
    simp only [Nat.toUInt16_eq, UInt16.toNat_ofNat'] at h1 h2
    omega

/-- The two literals of a string agree exactly when the string is portable. -/
theorem unicodeBody_eq_iff_portable (s : Str) : quoteUnicode s = quoteAscii s ↔ Portable s := by
  constructor
  · intro h
    have hp := plain_quoteAscii s
    rw [← h, quoteUnicode] at hp
    exact portable_of_plain (Plain.append.1 (Plain.cons.1 hp).2).1
  · intro h
    rw [quoteUnicode, quoteAscii, unicodeBody_of_portable h]

end Lib.Text
