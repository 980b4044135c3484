import Adn.Lib.Text
/-!
# Reading UTF-8

`decode` reads bytes as characters; the longest start of a character that does not
become one is read as U+FFFD. Read chunk by chunk, a text comes out right exactly
if every chunk is a whole number of characters (`decode_chunks_iff`).
-/

namespace Lib.Utf8

/-- U+FFFD -/
def replacement : Char := '\uFFFD'

/-- The character of a code point. -/
def scalar (cp : ℕ) : Char := if cp.isValidChar then Char.ofNat cp else replacement

/-- `n` more bytes of a character, the first of them from `lo` to `hi`. -/
def follow : ℕ → ℕ → ℕ → ℕ → List UInt8 → Char × List UInt8
  | 0, _, _, cp, bs => (scalar cp, bs)
  | _ + 1, _, _, _, [] => (replacement, [])
  | n + 1, lo, hi, cp, b :: bs =>
    if lo ≤ b.toNat ∧ b.toNat ≤ hi then follow n 0x80 0xBF (cp * 0x40 + b.toNat % 0x40) bs else (replacement, b :: bs)

/-- The character that starts with `b`, and the bytes after it. -/
def first (b : ℕ) (bs : List UInt8) : Char × List UInt8 :=
  if b < 0x80 then (scalar b, bs)
  else if 0xC2 ≤ b ∧ b ≤ 0xDF then follow 1 0x80 0xBF (b % 0x20) bs
  else if b = 0xE0 then follow 2 0xA0 0xBF 0 bs
  else if b = 0xED then follow 2 0x80 0x9F 0xD bs
  else if 0xE1 ≤ b ∧ b ≤ 0xEF then follow 2 0x80 0xBF (b % 0x10) bs
  else if b = 0xF0 then follow 3 0x90 0xBF 0 bs
  else if b = 0xF4 then follow 3 0x80 0x8F 4 bs
  else if 0xF1 ≤ b ∧ b ≤ 0xF3 then follow 3 0x80 0xBF (b % 8) bs
  else (replacement, bs)

theorem follow_length : ∀ {n lo hi cp : ℕ} {bs : List UInt8}, (follow n lo hi cp bs).2.length ≤ bs.length
  | 0, _, _, _, _ => le_rfl
  | _ + 1, _, _, _, [] => le_rfl
  | n + 1, lo, hi, cp, b :: bs => by
    rw [follow]
    split
    · exact Nat.le_succ_of_le follow_length
    · exact le_rfl

theorem first_length (b : ℕ) (bs : List UInt8) : (first b bs).2.length ≤ bs.length := by
  unfold first
  split_ifs
  all_goals first | exact le_rfl | exact follow_length

/-- `chunk.toString("utf8")` -/
def decode : List UInt8 → List Char
  | [] => []
  | b :: bs => (first b.toNat bs).1 :: decode (first b.toNat bs).2
termination_by bs => bs.length
decreasing_by exact Nat.lt_succ_of_le (first_length _ _)

def encode (cs : List Char) : List UInt8 := cs.flatMap fun c => Text.utf8CodePoint c.toNat

theorem encode_append (cs ds : List Char) : encode (cs ++ ds) = encode cs ++ encode ds := List.flatMap_append

theorem encode_cons (c : Char) (cs : List Char) : encode (c :: cs) = Text.utf8CodePoint c.toNat ++ encode cs :=
  List.flatMap_cons

theorem decode_nil : decode [] = [] := by rw [decode]

theorem decode_cons (b : UInt8) (bs : List UInt8) :
    decode (b :: bs) = (first b.toNat bs).1 :: decode (first b.toNat bs).2 := by rw [decode]

/-- The code units of a text. -/
def units (cs : List Char) : Str := cs.flatMap fun c => Str.ofCodePoint c.toNat

theorem units_append (cs ds : List Char) : units (cs ++ ds) = units cs ++ units ds := List.flatMap_append

/-! ## Reading what was written -/

theorem scalar_toNat (c : Char) : scalar c.toNat = c := by
  have hv : c.toNat.isValidChar := c.valid
  rw [scalar, if_pos hv]
  exact Char.ofNat_toNat c

theorem toNat_toUInt8 {n : ℕ} (h : n < 0x100) : n.toUInt8.toNat = n := by
  rw [Nat.toUInt8_eq, UInt8.toNat_ofNat', Nat.mod_eq_of_lt h]

/-- One byte within the range that is asked for. -/
theorem follow_cons {n lo hi cp x : ℕ} {bs : List UInt8} (h : x < 0x100) (hlo : lo ≤ x) (hhi : x ≤ hi) :
    follow (n + 1) lo hi cp (x.toUInt8 :: bs) = follow n 0x80 0xBF (cp * 0x40 + x % 0x40) bs := by
  rw [follow, toNat_toUInt8 h, if_pos ⟨hlo, hhi⟩]

theorem decode_utf8CodePoint (c : Char) (bs : List UInt8) :
    decode (Text.utf8CodePoint c.toNat ++ bs) = c :: decode bs := by
  have hv : c.toNat < 0xD800 ∨ (0xDFFF < c.toNat ∧ c.toNat < 0x110000) := c.valid
  have hc := scalar_toNat c
  generalize c.toNat = n at hv hc ⊢
  unfold Text.utf8CodePoint
  split_ifs with h1 h2 h3 h4
  · rw [List.singleton_append, decode_cons, toNat_toUInt8 (by omega), first, if_pos h1, hc]
  · rw [List.cons_append, decode_cons, toNat_toUInt8 (by omega), first, if_neg (by omega), if_pos (by omega),
      List.cons_append, List.nil_append, follow_cons (by omega) (by omega) (by omega), follow]
    have hn : (0xC0 + n / 0x40) % 0x20 * 0x40 + (0x80 + n % 0x40) % 0x40 = n := by omega
    rw [hn, hc]
  · omega
  · rw [List.cons_append, decode_cons, toNat_toUInt8 (by omega)]
    have hf : first (0xE0 + n / 0x1000) ((0x80 + n / 0x40 % 0x40).toUInt8 :: (0x80 + n % 0x40).toUInt8 :: bs) =
        (c, bs) := by
      unfold first
      split_ifs
      any_goals omega
      all_goals
        rw [follow_cons (by omega) (by omega) (by omega), follow_cons (by omega) (by omega) (by omega), follow, ← hc]
        congr 2
        omega
    rw [List.cons_append, List.cons_append, List.nil_append, hf]
  · rw [List.cons_append, decode_cons, toNat_toUInt8 (by omega)]
    have hf : first (0xF0 + n / 0x40000) ((0x80 + n / 0x1000 % 0x40).toUInt8 :: (0x80 + n / 0x40 % 0x40).toUInt8 ::
        (0x80 + n % 0x40).toUInt8 :: bs) = (c, bs) := by
      unfold first
      split_ifs
      any_goals omega
      all_goals
        rw [follow_cons (by omega) (by omega) (by omega), follow_cons (by omega) (by omega) (by omega),
          follow_cons (by omega) (by omega) (by omega), follow, ← hc]
        congr 2
        omega
    rw [List.cons_append, List.cons_append, List.cons_append, List.nil_append, hf]

theorem decode_encode (cs : List Char) : decode (encode cs) = cs := by
  induction cs with
  | nil => exact decode_nil
  | cons c cs ih => rw [encode_cons, decode_utf8CodePoint, ih]

theorem encode_inj {cs ds : List Char} (h : encode cs = encode ds) : cs = ds := by
  rw [← decode_encode cs, h, decode_encode]

/-! ## What is read is not shorter -/

/-- A code point that takes at least `k` bytes, or is not one and is read as U+FFFD. -/
def Takes (k cp : ℕ) : Prop :=
  k = 1 ∨ (k = 2 ∧ 0x80 ≤ cp) ∨ (k = 3 ∧ 0x800 ≤ cp) ∨ (k = 4 ∧ 0x10000 ≤ cp ∧ cp < 0x110000)

theorem length_replacement : (Text.utf8CodePoint replacement.toNat).length = 3 := by decide

theorem length_scalar {k cp : ℕ} (h : Takes k cp) : k ≤ (Text.utf8CodePoint (scalar cp).toNat).length := by
  unfold scalar
  split
  · rename_i hv
    have hn : (Char.ofNat cp).toNat = cp := by
      rw [Char.ofNat, dif_pos hv]
      rfl
    rw [hn]
    unfold Takes at h
    unfold Text.utf8CodePoint
    split_ifs <;> simp <;> omega
  · rename_i hv
    rw [length_replacement]
    simp only [Nat.isValidChar, not_or, not_and] at hv
    unfold Takes at h
    omega

/-- Whatever `n` more bytes follow `t` bytes, the code point takes all of them. -/
def Fits : ℕ → ℕ → ℕ → ℕ → ℕ → Prop
  | 0, _, _, cp, t => Takes t cp
  | n + 1, lo, hi, cp, t => t ≤ 3 ∧ ∀ b, lo ≤ b → b ≤ hi → Fits n 0x80 0xBF (cp * 0x40 + b % 0x40) (t + 1)

theorem length_follow {n lo hi cp t : ℕ} {bs : List UInt8} (h : Fits n lo hi cp t) :
    bs.length + t ≤ (Text.utf8CodePoint (follow n lo hi cp bs).1.toNat).length + (follow n lo hi cp bs).2.length := by
  induction n generalizing lo hi cp t bs with
  | zero =>
    have := length_scalar h
    simp only [follow]
    omega
  | succ n ih =>
    obtain ⟨ht, hb⟩ := h
    cases bs with
    | nil =>
      simp only [follow, length_replacement, List.length_nil]
      omega
    | cons b bs =>
      rw [follow]
      split
      · rename_i hr
        have := @ih _ _ _ _ bs (hb b.toNat hr.1 hr.2)
        simp only [List.length_cons] at this ⊢
        omega
      · simp only [length_replacement]
        omega

/-- The last byte of two. -/
theorem fits_two {cp : ℕ} (h : 2 ≤ cp) : Fits 1 0x80 0xBF cp 1 := by
  refine ⟨by omega, fun x _ _ => ?_⟩
  unfold Fits Takes
  omega

/-- The last two bytes of three. -/
theorem fits_three {lo hi cp : ℕ} (h : 1 ≤ cp ∨ (0xA0 ≤ lo ∧ hi ≤ 0xBF)) : Fits 2 lo hi cp 1 := by
  refine ⟨by omega, fun x _ _ => ⟨by omega, fun y _ _ => ?_⟩⟩
  unfold Fits Takes
  omega

/-- The last three bytes of four. -/
theorem fits_four {lo hi cp : ℕ} (h : 1 ≤ cp ∨ (0x90 ≤ lo ∧ hi ≤ 0xBF))
    (h4 : cp < 4 ∨ (cp = 4 ∧ 0x80 ≤ lo ∧ hi ≤ 0x8F)) : Fits 3 lo hi cp 1 := by
  refine ⟨by omega, fun x _ _ => ⟨by omega, fun y _ _ => ⟨by omega, fun z _ _ => ?_⟩⟩⟩
  unfold Fits Takes
  omega

theorem length_first {b : ℕ} (bs : List UInt8) :
    bs.length + 1 ≤ (Text.utf8CodePoint (first b bs).1.toNat).length + (first b bs).2.length := by
  unfold first
  split_ifs with h1 h2 h3 h4 h5 h6 h7 h8
  · have := @length_scalar 1 b (.inl rfl)
    simp only
    omega
  · exact length_follow (fits_two (by omega))
  · exact length_follow (fits_three (.inr ⟨by omega, by omega⟩))
  · exact length_follow (fits_three (.inl (by omega)))
  · exact length_follow (fits_three (.inl (by omega)))
  · exact length_follow (fits_four (.inr ⟨by omega, by omega⟩) (.inl (by omega)))
  · exact length_follow (fits_four (.inl (by omega)) (.inr ⟨rfl, by omega, by omega⟩))
  · exact length_follow (fits_four (.inl (by omega)) (.inl (by omega)))
  · simp only [length_replacement]
    omega

theorem length_le_encode_decode (bs : List UInt8) : bs.length ≤ (encode (decode bs)).length := by
  induction bs using decode.induct with
  | case1 => exact Nat.zero_le _
  | case2 b bs ih =>
    have := length_first (b := b.toNat) bs
    rw [decode_cons, encode_cons, List.length_append, List.length_cons]
    omega

/-! ## Reading in chunks -/

/-- Whole characters only. -/
def Aligned (chunk : List UInt8) : Prop := encode (decode chunk) = chunk

theorem aligned_encode (cs : List Char) : Aligned (encode cs) := by rw [Aligned, decode_encode]

theorem aligned_iff {chunk : List UInt8} : Aligned chunk ↔ ∃ cs, chunk = encode cs := by
  constructor
  · intro h
    exact ⟨decode chunk, h.symm⟩
  · rintro ⟨cs, rfl⟩
    exact aligned_encode cs

theorem encode_flatten (texts : List (List Char)) : encode texts.flatten = (texts.map encode).flatten := by
  induction texts with
  | nil => rfl
  | cons t ts ih => rw [List.flatten_cons, encode_append, ih, List.map_cons, List.flatten_cons]

theorem length_flatten_le (chunks : List (List UInt8)) :
    chunks.flatten.length ≤ (encode (chunks.map decode).flatten).length := by
  induction chunks with
  | nil => exact Nat.zero_le _
  | cons c cs ih =>
    have := length_le_encode_decode c
    rw [List.map_cons, List.flatten_cons, List.flatten_cons, encode_append, List.length_append, List.length_append]
    omega

/-- What was read chunk by chunk is what was sent: every chunk was a whole number of characters. -/
theorem aligned_of_encode : ∀ {chunks : List (List UInt8)},
    encode (chunks.map decode).flatten = chunks.flatten → ∀ chunk ∈ chunks, Aligned chunk
  | [], _, _, hc => nomatch hc
  | c :: cs, h, chunk, hc => by
    rw [List.map_cons, List.flatten_cons, List.flatten_cons, encode_append] at h
    have hl := congrArg List.length h
    have h1 := length_le_encode_decode c
    have h2 := length_flatten_le cs
    rw [List.length_append, List.length_append] at hl
    obtain ⟨hfirst, hrest⟩ := List.append_inj h (by omega)
    rcases List.mem_cons.mp hc with rfl | hc
    · exact hfirst
    · exact aligned_of_encode hrest chunk hc

theorem decode_chunks_iff {chunks : List (List UInt8)} {text : List Char} (h : chunks.flatten = encode text) :
    (chunks.map decode).flatten = text ↔ ∀ chunk ∈ chunks, Aligned chunk := by
  constructor
  · rintro rfl
    exact aligned_of_encode h.symm
  · intro ha
    refine encode_inj ?_
    rw [← h, encode_flatten, List.map_map]
    congr 1
    exact (List.map_congr_left ha).trans (List.map_id chunks)

/-! ## A character that is cut -/

/-- A byte that no character starts with. -/
def IsTail (b : UInt8) : Prop := 0x80 ≤ b.toNat ∧ b.toNat ≤ 0xBF

theorem decode_tail {b : UInt8} (h : IsTail b) (bs : List UInt8) : decode (b :: bs) = replacement :: decode bs := by
  obtain ⟨h1, h2⟩ := h
  have hf : first b.toNat bs = (replacement, bs) := by
    unfold first
    split_ifs <;> first | omega | rfl
  rw [decode_cons, hf]

theorem decode_tails {q : List UInt8} (h : ∀ b ∈ q, IsTail b) (bs : List UInt8) :
    decode (q ++ bs) = List.replicate q.length replacement ++ decode bs := by
  induction q with
  | nil => rfl
  | cons b q ih =>
    rw [List.cons_append, decode_tail (h b List.mem_cons_self), ih fun x hx => h x (List.mem_cons_of_mem b hx)]
    rfl

theorem follow_short {n lo hi cp : ℕ} {bs : List UInt8} (h : bs.length < n) :
    (follow n lo hi cp bs).1 = replacement := by
  induction n generalizing lo hi cp bs with
  | zero => omega
  | succ n ih =>
    cases bs with
    | nil => rfl
    | cons b bs =>
      rw [follow]
      split
      · exact ih (Nat.lt_of_succ_lt_succ h)
      · rfl

theorem isTail_toUInt8 {n : ℕ} (h : n < 0x40) : IsTail (0x80 + n).toUInt8 := by
  rw [IsTail, toNat_toUInt8 (by omega)]
  omega

/-- The first byte of a character says how many follow; short of them it is read as U+FFFD. -/
theorem utf8CodePoint_shape (c : Char) : ∃ b rest, Text.utf8CodePoint c.toNat = b :: rest ∧ (∀ x ∈ rest, IsTail x) ∧
    ∀ bs : List UInt8, bs.length < rest.length → (first b.toNat bs).1 = replacement := by
  have hv : c.toNat < 0xD800 ∨ (0xDFFF < c.toNat ∧ c.toNat < 0x110000) := c.valid
  generalize c.toNat = n at hv ⊢
  unfold Text.utf8CodePoint
  split_ifs with h1 h2 h3 h4
  · exact ⟨_, _, rfl, by simp, by simp⟩
  · refine ⟨_, _, rfl, ?_, ?_⟩
    · simp only [List.mem_singleton, forall_eq]
      exact isTail_toUInt8 (by omega)
    · intro bs hbs
      rw [toNat_toUInt8 (by omega), first, if_neg (by omega), if_pos (by omega)]
      exact follow_short hbs
  · omega
  · refine ⟨_, _, rfl, ?_, ?_⟩
    · simp only [List.mem_cons, List.not_mem_nil, or_false, forall_eq_or_imp, forall_eq]
      exact ⟨isTail_toUInt8 (by omega), isTail_toUInt8 (by omega)⟩
    · intro bs hbs
      rw [toNat_toUInt8 (by omega)]
      unfold first
      split_ifs <;> first | omega | rfl | exact follow_short hbs
  · refine ⟨_, _, rfl, ?_, ?_⟩
    · simp only [List.mem_cons, List.not_mem_nil, or_false, forall_eq_or_imp, forall_eq]
      exact ⟨isTail_toUInt8 (by omega), isTail_toUInt8 (by omega), isTail_toUInt8 (by omega)⟩
    · intro bs hbs
      rw [toNat_toUInt8 (by omega)]
      unfold first
      split_ifs <;> first | omega | rfl | exact follow_short hbs

/-- The bytes of a text, cut in two: between two characters, or inside one. -/
theorem cut_encode {c r : List UInt8} {t : List Char} (h : c ++ r = encode t) :
    (∃ t1 t2, t = t1 ++ t2 ∧ c = encode t1 ∧ r = encode t2) ∨
      ∃ t1 x t2 p q, t = t1 ++ x :: t2 ∧ c = encode t1 ++ p ∧ r = q ++ encode t2 ∧ (∀ b ∈ q, IsTail b) ∧ q ≠ [] ∧
        replacement ∈ decode p := by
  induction t generalizing c with
  | nil =>
    obtain ⟨rfl, rfl⟩ := List.append_eq_nil_iff.mp h
    exact .inl ⟨[], [], rfl, rfl, rfl⟩
  | cons x t ih =>
    obtain ⟨b, rest, hx, htail, hshort⟩ := utf8CodePoint_shape x
    rw [encode_cons] at h
    rcases List.append_eq_append_iff.mp h with ⟨q, hu, hr⟩ | ⟨c', hc, he⟩
    · cases c with
      | nil => exact .inl ⟨[], x :: t, rfl, rfl, by rw [hr, encode_cons, hu]; rfl⟩
      | cons b' p =>
        rw [hx, List.cons_append] at hu
        obtain ⟨rfl, hrest⟩ := List.cons.inj hu
        by_cases hq : q = []
        · subst hq
          rw [List.append_nil] at hrest
          refine .inl ⟨[x], t, rfl, ?_, hr⟩
          rw [encode_cons, hx, hrest]
          exact (List.append_nil _).symm
        · refine .inr ⟨[], x, t, b :: p, q, rfl, rfl, hr, ?_, hq, ?_⟩
          · intro y hy
            exact htail y (hrest ▸ List.mem_append_right p hy)
          · have hlen := congrArg List.length hrest
            have := List.length_pos_iff.mpr hq
            rw [List.length_append] at hlen
            rw [decode_cons, hshort p (by omega)]
            exact List.mem_cons_self
    · rcases ih he.symm with ⟨t1, t2, rfl, rfl, rfl⟩ | ⟨t1, y, t2, p, q, rfl, rfl, rfl, hq⟩
      · exact .inl ⟨x :: t1, t2, rfl, by rw [hc, encode_cons], rfl⟩
      · exact .inr ⟨x :: t1, y, t2, p, q, rfl, by rw [hc, encode_cons, List.append_assoc], rfl, hq⟩

theorem decode_encode_append (cs : List Char) (bs : List UInt8) : decode (encode cs ++ bs) = cs ++ decode bs := by
  induction cs with
  | nil => rfl
  | cons c cs ih => rw [encode_cons, List.append_assoc, decode_utf8CodePoint, ih, List.cons_append]

/-- Whole characters may follow whole characters. -/
theorem aligned_append {p q : List UInt8} (hp : Aligned p) : Aligned (p ++ q) ↔ Aligned q := by
  obtain ⟨cs, rfl⟩ := aligned_iff.1 hp
  rw [Aligned, Aligned, decode_encode_append, encode_append, List.append_cancel_left_eq]

theorem units_cons (c : Char) (cs : List Char) : ∃ u s, units (c :: cs) = u :: s ∧ (Str.ofCodePoint c.toNat).head? = some u := by
  rw [units, List.flatMap_cons, Str.ofCodePoint]
  split
  · exact ⟨_, _, rfl, rfl⟩
  · exact ⟨_, _, rfl, rfl⟩

theorem units_eq_nil {cs : List Char} (h : units cs = []) : cs = [] := by
  cases cs with
  | nil => rfl
  | cons c cs =>
    obtain ⟨u, s, hunits, -⟩ := units_cons c cs
    rw [hunits] at h
    cases h

/-- How often U+FFFD is read. -/
def lost (cs : List Char) : ℕ := cs.count replacement

theorem lost_append (cs ds : List Char) : lost (cs ++ ds) = lost cs + lost ds := List.count_append

theorem encode_eq_nil {cs : List Char} (h : encode cs = []) : cs = [] := by
  have := decode_encode cs
  rw [h, decode_nil] at this
  exact this.symm

/-- Chunk by chunk, a text and the tail `q` of a cut character before it are read with at least its own U+FFFD and one
for every byte of `q`; with no more than its own only if no character is cut. -/
theorem lost_chunks {chunks : List (List UInt8)} {q : List UInt8} {t : List Char} (hq : ∀ b ∈ q, IsTail b)
    (h : chunks.flatten = q ++ encode t) : q.length + lost t ≤ lost (chunks.map decode).flatten ∧
      (lost (chunks.map decode).flatten ≤ lost t → ∀ chunk ∈ chunks, Aligned chunk) := by
  induction chunks generalizing q t with
  | nil =>
    obtain ⟨rfl, he⟩ := List.append_eq_nil_iff.mp h.symm
    rw [encode_eq_nil he]
    exact ⟨le_rfl, fun _ _ hc => nomatch hc⟩
  | cons c cs ih =>
    rw [List.flatten_cons] at h
    rw [List.map_cons, List.flatten_cons, lost_append]
    rcases List.append_eq_append_iff.mp h with ⟨q', rfl, hr⟩ | ⟨c', rfl, he⟩
    · -- the chunk ends within the tail
      obtain ⟨h1, h2⟩ := ih (fun b hb => hq b (List.mem_append_right c hb)) hr
      have hc : lost (decode c) = c.length := by
        have := decode_tails (fun b hb => hq b (List.mem_append_left q' hb)) []
        rw [List.append_nil, decode_nil, List.append_nil] at this
        rw [this, lost, List.count_replicate_self]
      rw [List.length_append, hc]
      refine ⟨by omega, fun hle chunk hm => ?_⟩
      rcases List.mem_cons.mp hm with rfl | hm
      · have : chunk = [] := List.length_eq_zero_iff.mp (by omega)
        rw [this, Aligned, decode_nil]
        rfl
      · exact h2 (by omega) chunk hm
    · have hc : lost (decode (q ++ c')) = q.length + lost (decode c') := by
        rw [decode_tails hq, lost_append, lost, List.count_replicate_self]
      rw [hc]
      rcases cut_encode he.symm with ⟨t1, t2, rfl, rfl, hr⟩ | ⟨t1, x, t2, p, q', rfl, rfl, hr, hq', hne, hp⟩
      · -- the chunk ends between two characters
        obtain ⟨h1, h2⟩ := ih (q := []) (fun b hb => nomatch hb) hr
        rw [decode_encode, lost_append]
        refine ⟨by simp only [List.length_nil] at h1; omega, fun hle chunk hm => ?_⟩
        rcases List.mem_cons.mp hm with rfl | hm
        · have : q = [] := List.length_eq_zero_iff.mp (by simp only [List.length_nil] at h1; omega)
          rw [this]
          exact aligned_encode t1
        · exact h2 (by omega) chunk hm
      · -- the chunk ends inside a character
        obtain ⟨h1, -⟩ := ih hq' hr
        have hpos : 0 < lost (decode p) := List.count_pos_iff.mpr hp
        have hlen := List.length_pos_iff.mpr hne
        have hx : lost [x] ≤ 1 := List.count_le_length
        have ht : lost (x :: t2) = lost [x] + lost t2 := by rw [← List.singleton_append, lost_append]
        rw [decode_encode_append, lost_append, lost_append, ht]
        exact ⟨by omega, fun hle => by omega⟩

/-- A newline is read as one, whatever comes before it. -/
theorem follow_newline {n lo hi cp : ℕ} (h : 0x80 ≤ lo) (bs : List UInt8) :
    follow n lo hi cp (bs ++ [0x0A]) = ((follow n lo hi cp bs).1, (follow n lo hi cp bs).2 ++ [0x0A]) := by
  induction n generalizing lo hi cp bs with
  | zero => rfl
  | succ n ih =>
    cases bs with
    | nil =>
      have hn : ¬(lo ≤ (0x0A : UInt8).toNat ∧ (0x0A : UInt8).toNat ≤ hi) := by
        rintro ⟨hl, -⟩
        exact absurd (h.trans hl) (by decide)
      rw [List.nil_append, follow, follow, if_neg hn, List.nil_append]
    | cons b bs =>
      rw [List.cons_append, follow, follow]
      split
      · exact ih (by omega) bs
      · rfl

theorem first_newline (b : ℕ) (bs : List UInt8) :
    first b (bs ++ [0x0A]) = ((first b bs).1, (first b bs).2 ++ [0x0A]) := by
  unfold first
  split_ifs
  all_goals first | rfl | exact follow_newline (by omega) bs

theorem decode_newline (bs : List UInt8) : decode (bs ++ [0x0A]) = decode bs ++ ['\n'] := by
  induction bs using decode.induct with
  | case1 =>
    have hf : first (0x0A : UInt8).toNat [] = ('\n', []) := by decide
    rw [List.nil_append, decode_cons, hf, decode_nil]
    rfl
  | case2 b bs ih =>
    rw [List.cons_append, decode_cons, decode_cons, first_newline, List.cons_append, ih]

theorem chunks_newline {chunks : List (List UInt8)} {bs : List UInt8} (h : chunks.flatten = bs ++ [0x0A]) :
    ∃ cs, (chunks.map decode).flatten = cs ++ ['\n'] := by
  induction chunks generalizing bs with
  | nil => simp at h
  | cons c cs ih =>
    rw [List.flatten_cons] at h
    rw [List.map_cons, List.flatten_cons]
    rcases List.eq_nil_or_concat cs.flatten with hn | ⟨init, last, hl⟩
    · -- the newline is the chunk's own, and what follows it is empty
      have hempty : (cs.map decode).flatten = [] := by
        rw [List.flatten_eq_nil_iff] at hn ⊢
        intro ds hds
        obtain ⟨d, hd, rfl⟩ := List.mem_map.mp hds
        rw [hn d hd, decode_nil]
      rw [hn, List.append_nil] at h
      exact ⟨decode bs, by rw [h, decode_newline, hempty, List.append_nil]⟩
    · rw [hl, List.concat_eq_append, ← List.append_assoc] at h
      obtain ⟨-, hlast⟩ := List.append_inj' h rfl
      rw [List.concat_eq_append, List.singleton_inj.mp hlast] at hl
      obtain ⟨ds, hds⟩ := ih hl
      exact ⟨decode c ++ ds, by rw [hds, List.append_assoc]⟩

end Lib.Utf8
