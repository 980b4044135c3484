import Mathlib.Data.List.Lex
import Mathlib.Data.List.Sort
/-!
# Text as UTF-16 code units

A JavaScript string is any list of UTF-16 code units. A Python string read from
JSON never has a high surrogate directly before a low one (the reader joins
them), so its code units determine it too, and one type serves both languages.

- `codePoints` and `codeUnits` are the two readings strings are compared by.
- `utf8` is the encoding texts are hashed in; on an ASCII text it loses nothing.
-/

namespace Lib

/-- A string, by its UTF-16 code units. -/
abbrev Str := List UInt16

namespace Str

/-- The code units of a code point. -/
def ofCodePoint (c : ℕ) : Str :=
  if c < 0x10000 then [c.toUInt16]
  else [(0xD800 + (c - 0x10000) / 0x400).toUInt16, (0xDC00 + (c - 0x10000) % 0x400).toUInt16]

def ofString (s : String) : Str := s.toList.flatMap fun c => ofCodePoint c.toNat

end Str

instance : Coe String Str := ⟨Str.ofString⟩

instance : LawfulBEq Str := inferInstance

namespace Text

/-! ## Surrogates and code points -/

def isHigh (u : UInt16) : Bool := 0xD800 ≤ u.toNat && u.toNat < 0xDC00

def isLow (u : UInt16) : Bool := 0xDC00 ≤ u.toNat && u.toNat < 0xE000

def joinPair (hi lo : UInt16) : ℕ := 0x10000 + (hi.toNat - 0xD800) * 0x400 + (lo.toNat - 0xDC00)

/-- The code points of a string: a pair of surrogates is one code point, a lone
surrogate stands for itself. -/
def codePoints : Str → List ℕ
  | [] => []
  | [u] => [u.toNat]
  | u :: v :: rest =>
    if isHigh u && isLow v then joinPair u v :: codePoints rest else u.toNat :: codePoints (v :: rest)

/-- The code units as numbers, which is how JavaScript compares strings. -/
def codeUnits (s : Str) : List ℕ := s.map UInt16.toNat

theorem codePoints_cons_of_not_high {u : UInt16} (h : isHigh u = false) (s : Str) :
    codePoints (u :: s) = u.toNat :: codePoints s := by
  cases s <;> simp [codePoints, h]

theorem toNat_toUInt16 {n : ℕ} (h : n < 0x10000) : n.toUInt16.toNat = n := by
  rw [Nat.toUInt16_eq, UInt16.toNat_ofNat', Nat.mod_eq_of_lt h]

theorem codePoints_ofChar (c : Char) (s : Str) : codePoints (Str.ofCodePoint c.toNat ++ s) = c.toNat :: codePoints s := by
  have hv : c.toNat < 0xD800 ∨ (0xDFFF < c.toNat ∧ c.toNat < 0x110000) := c.valid
  unfold Str.ofCodePoint
  split
  · rename_i hlt
    have hu : c.toNat.toUInt16.toNat = c.toNat := toNat_toUInt16 hlt
    rw [List.singleton_append, codePoints_cons_of_not_high, hu]
    rw [isHigh, hu, Bool.and_eq_false_imp]
    intro h1
    have h2 := of_decide_eq_true h1
    exact decide_eq_false (by omega)
  · rename_i hge
    have hhi : (0xD800 + (c.toNat - 0x10000) / 0x400).toUInt16.toNat = 0xD800 + (c.toNat - 0x10000) / 0x400 :=
      toNat_toUInt16 (by omega)
    have hlo : (0xDC00 + (c.toNat - 0x10000) % 0x400).toUInt16.toNat = 0xDC00 + (c.toNat - 0x10000) % 0x400 :=
      toNat_toUInt16 (by omega)
    generalize (0xD800 + (c.toNat - 0x10000) / 0x400).toUInt16 = hi at hhi ⊢
    generalize (0xDC00 + (c.toNat - 0x10000) % 0x400).toUInt16 = lo at hlo ⊢
    have hp : (isHigh hi && isLow lo) = true := by
      simp only [isHigh, isLow, Bool.and_eq_true, decide_eq_true_eq]
      omega
    have hj : joinPair hi lo = c.toNat := by
      unfold joinPair
      omega
    rw [List.cons_append, List.cons_append, List.nil_append, codePoints, if_pos hp, hj]

/-- Text that starts with no low surrogate keeps its code points behind another one. -/
theorem codePoints_append {s t : Str} (h : ∀ u ∈ t.head?, isLow u = false) :
    codePoints (s ++ t) = codePoints s ++ codePoints t := by
  induction s using codePoints.induct with
  | case1 => rfl
  | case2 u =>
    cases t with
    | nil => simp [codePoints]
    | cons v t =>
      have hv := h v rfl
      simp [codePoints, hv]
  | case3 u v rest hp ih => simp [codePoints, hp, ih]
  | case4 u v rest hp ih =>
    simp only [List.cons_append] at ih ⊢
    rw [codePoints, if_neg hp, ih, codePoints, if_neg hp]
    rfl

theorem codePoints_ofString (s : String) : codePoints s = s.toList.map Char.toNat := by
  unfold Str.ofString
  induction s.toList with
  | nil => rfl
  | cons c cs ih => rw [List.flatMap_cons, codePoints_ofChar, ih, List.map_cons]

/-- Two literals are the same text only if they are the same literal. -/
@[simp]
theorem ofString_inj {a b : String} : Str.ofString a = Str.ofString b ↔ a = b := by
  refine ⟨fun h => ?_, fun h => h ▸ rfl⟩
  have h' := congrArg codePoints h
  rw [codePoints_ofString, codePoints_ofString] at h'
  exact String.toList_inj.1 (List.map_injective_iff.2 (fun _ _ => Char.toNat_inj.1) h')

@[simp]
theorem ofString_eq_nil {a : String} : Str.ofString a = [] ↔ a = "" := by
  rw [show ([] : Str) = Str.ofString "" from rfl, ofString_inj]

/-- The code units of an ASCII literal are its characters. -/
theorem mem_ofString {s : String} (h : ∀ c ∈ s.toList, c.toNat < 0x80) {u : UInt16} (hu : u ∈ Str.ofString s) :
    ∃ c ∈ s.toList, u.toNat = c.toNat := by
  obtain ⟨c, hc, hu⟩ := List.mem_flatMap.1 hu
  have hlt := h c hc
  rw [Str.ofCodePoint, if_pos (by omega), List.mem_singleton] at hu
  exact ⟨c, hc, by rw [hu, toNat_toUInt16 (by omega)]⟩

/-! ## UTF-8 -/

/-- The UTF-8 bytes of a code point; a surrogate is written as U+FFFD. -/
def utf8CodePoint (c : ℕ) : List UInt8 :=
  if c < 0x80 then [c.toUInt8]
  else if c < 0x800 then [(0xC0 + c / 0x40).toUInt8, (0x80 + c % 0x40).toUInt8]
  else if 0xD800 ≤ c ∧ c < 0xE000 then [0xEF, 0xBF, 0xBD]
  else if c < 0x10000 then [(0xE0 + c / 0x1000).toUInt8, (0x80 + c / 0x40 % 0x40).toUInt8, (0x80 + c % 0x40).toUInt8]
  else [(0xF0 + c / 0x40000).toUInt8, (0x80 + c / 0x1000 % 0x40).toUInt8, (0x80 + c / 0x40 % 0x40).toUInt8,
    (0x80 + c % 0x40).toUInt8]

def utf8 (s : Str) : List UInt8 := (codePoints s).flatMap utf8CodePoint

/-- Every code unit is below 128. -/
def IsAscii (s : Str) : Prop := ∀ u ∈ s, u.toNat < 0x80

theorem IsAscii.tail {u : UInt16} {s : Str} (h : IsAscii (u :: s)) : IsAscii s :=
  fun v hv => h v (List.mem_cons_of_mem _ hv)

theorem codePoints_ascii {s : Str} (h : IsAscii s) : codePoints s = codeUnits s := by
  induction s with
  | nil => rfl
  | cons u s ih =>
    have hu := h u List.mem_cons_self
    rw [codePoints_cons_of_not_high (by simp [isHigh]; omega), ih h.tail, codeUnits, codeUnits, List.map_cons]

theorem utf8_ascii {s : Str} (h : IsAscii s) : utf8 s = s.map UInt16.toUInt8 := by
  rw [utf8, codePoints_ascii h, codeUnits]
  induction s with
  | nil => rfl
  | cons u s ih =>
    have hu := h u List.mem_cons_self
    rw [List.map_cons, List.flatMap_cons, ih h.tail, utf8CodePoint, if_pos hu]
    rfl

theorem utf8CodePoint_ascii {c : ℕ} (h : c < 0x80) : (utf8CodePoint c).length = 1 := by
  rw [utf8CodePoint, if_pos h]
  rfl

theorem length_utf8_ascii {s : Str} (h : IsAscii s) : (utf8 s).length = s.length := by
  rw [utf8_ascii h, List.length_map]

/-- Every byte of a code point from 128 on has its top bit set. -/
theorem utf8CodePoint_high {c : ℕ} (h : 0x80 ≤ c) : ∃ b ∈ utf8CodePoint c, 0x80 ≤ b.toNat := by
  unfold utf8CodePoint
  rw [if_neg (by omega)]
  split
  · exact ⟨(0x80 + c % 0x40).toUInt8, by simp, by simp; omega⟩
  split
  · exact ⟨0xEF, by simp, by decide⟩
  split
  · exact ⟨(0x80 + c % 0x40).toUInt8, by simp, by simp; omega⟩
  · exact ⟨(0x80 + c % 0x40).toUInt8, by simp, by simp; omega⟩

theorem ascii_of_codePoints {s : Str} (h : ∀ c ∈ codePoints s, c < 0x80) : IsAscii s := by
  induction s using codePoints.induct with
  | case1 => intro _ hu; cases hu
  | case2 u => simpa [IsAscii, codePoints] using h
  | case3 u v rest hp =>
    have hj := h (joinPair u v) (by simp [codePoints, hp])
    unfold joinPair at hj
    omega
  | case4 u v rest hp ih =>
    rw [codePoints, if_neg hp] at h
    intro w hw
    rcases List.mem_cons.1 hw with rfl | hw
    · exact h _ List.mem_cons_self
    · exact ih (fun c hc => h c (List.mem_cons_of_mem _ hc)) w hw

/-- A text whose UTF-8 bytes are those of an ASCII text is that text. -/
theorem utf8_eq_ascii {s t : Str} (ht : IsAscii t) (h : utf8 s = utf8 t) : s = t := by
  have hs : IsAscii s := by
    refine ascii_of_codePoints fun c hc => ?_
    by_contra hge
    obtain ⟨b, hb, hb'⟩ := utf8CodePoint_high (Nat.le_of_not_lt hge)
    have hm : b ∈ utf8 t := h ▸ List.mem_flatMap.2 ⟨c, hc, hb⟩
    rw [utf8_ascii ht, List.mem_map] at hm
    obtain ⟨u, hu, rfl⟩ := hm
    have := ht u hu
    simp only [UInt16.toNat_toUInt8] at hb'
    omega
  rw [utf8_ascii hs, utf8_ascii ht] at h
  have hc : s.map UInt16.toNat = t.map UInt16.toNat := by
    have hmap : ∀ {r : Str}, IsAscii r → (r.map UInt16.toUInt8).map UInt8.toNat = r.map UInt16.toNat := by
      intro r hr
      rw [List.map_map]
      refine List.map_congr_left fun u hu => ?_
      have := hr u hu
      simp only [Function.comp_apply, UInt16.toNat_toUInt8]
      omega
    rw [← hmap hs, ← hmap ht, h]
  exact List.map_injective_iff.2 (fun _ _ => UInt16.toNat_inj.1) hc

end Text

end Lib
