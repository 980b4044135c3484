import Adn.Lib.Quoting
/-!
# Bytes as hexadecimal text

`hexLower` is `bytes.hex()`. `fromHex` is `bytes.fromhex`, which also takes
upper-case digits and skips whitespace between bytes.
-/

namespace Lib.Hex

/-- Python's `bytes.hex`. -/
def hexLower (bs : List UInt8) : Str :=
  bs.flatMap fun b => [Text.hexDigit (b.toNat / 0x10), Text.hexDigit (b.toNat % 0x10)]

def digitValue (u : UInt16) : Option ℕ :=
  if 0x30 ≤ u.toNat ∧ u.toNat < 0x3A then some (u.toNat - 0x30)
  else if 0x41 ≤ u.toNat ∧ u.toNat < 0x47 then some (u.toNat - 0x37)
  else if 0x61 ≤ u.toNat ∧ u.toNat < 0x67 then some (u.toNat - 0x57)
  else none

/-- The whitespace `bytes.fromhex` skips. -/
def isAsciiSpace (u : UInt16) : Bool := u = 0x20 || (0x09 ≤ u.toNat && u.toNat ≤ 0x0D)

/-- Python's `bytes.fromhex`; `none` stands for its `ValueError`. -/
def fromHex : Str → Option (List UInt8)
  | [] => some []
  | [u] => if isAsciiSpace u then some [] else none
  | u :: v :: s =>
    if isAsciiSpace u then fromHex (v :: s)
    else
      match digitValue u, digitValue v, fromHex s with
      | some hi, some lo, some bs => some ((hi * 0x10 + lo).toUInt8 :: bs)
      | _, _, _ => none

theorem digitValue_lt {u : UInt16} {x : ℕ} (h : digitValue u = some x) : x < 16 := by
  unfold digitValue at h
  split_ifs at h <;> (cases h; omega)

theorem digitValue_ascii {u : UInt16} {x : ℕ} (h : digitValue u = some x) : u.toNat < 0x80 := by
  unfold digitValue at h
  split_ifs at h <;> omega

theorem digitValue_hexDigit {n : ℕ} (h : n < 16) : digitValue (Text.hexDigit n) = some n := by
  have hall : ∀ n < 16, digitValue (Text.hexDigit n) = some n := by decide
  exact hall n h

theorem hexDigit_not_space {n : ℕ} (h : n < 16) : isAsciiSpace (Text.hexDigit n) = false := by
  have hall : ∀ n < 16, isAsciiSpace (Text.hexDigit n) = false := by decide
  exact hall n h

theorem hexLower_cons (b : UInt8) (bs : List UInt8) : hexLower (b :: bs) =
    Text.hexDigit (b.toNat / 0x10) :: Text.hexDigit (b.toNat % 0x10) :: hexLower bs := rfl

theorem fromHex_hexLower (bs : List UInt8) : fromHex (hexLower bs) = some bs := by
  induction bs with
  | nil => rfl
  | cons b bs ih =>
    have hb := b.toNat_lt
    have hhi : b.toNat / 0x10 < 16 := by omega
    have hlo : b.toNat % 0x10 < 16 := by omega
    rw [hexLower, List.flatMap_cons, ← hexLower, List.cons_append, List.cons_append, List.nil_append, fromHex,
      hexDigit_not_space hhi, digitValue_hexDigit hhi, digitValue_hexDigit hlo, ih]
    simp only [Bool.false_eq_true, if_false, Option.some.injEq, List.cons.injEq, and_true]
    rw [Nat.div_add_mod', Nat.toUInt8_eq, UInt8.ofNat_toNat]

theorem hexLower_inj {a b : List UInt8} (h : hexLower a = hexLower b) : a = b := by
  have := congrArg fromHex h
  rwa [fromHex_hexLower, fromHex_hexLower, Option.some.injEq] at this

theorem length_hexLower (bs : List UInt8) : (hexLower bs).length = 2 * bs.length := by
  induction bs with
  | nil => rfl
  | cons b bs ih =>
    rw [hexLower, List.flatMap_cons, ← hexLower, List.length_append, ih, List.length_cons]
    simp only [List.length_cons, List.length_nil]
    omega

theorem hexLower_ne {bs : List UInt8} (h : bs ≠ []) : hexLower bs ≠ [] := by
  rw [← List.length_pos_iff, length_hexLower]
  have := List.length_pos_iff.2 h
  omega

theorem plain_hexLower (bs : List UInt8) : Text.Plain (hexLower bs) := by
  have hd : ∀ n < 16, (Text.hexDigit n).toNat < 0x7F := by decide
  intro u hu
  obtain ⟨b, -, hb⟩ := List.mem_flatMap.1 hu
  have hlt := b.toNat_lt
  rcases List.mem_cons.1 hb with rfl | hb
  · exact hd _ (by omega)
  · rw [List.mem_singleton.1 hb]
    exact hd _ (by omega)

end Lib.Hex
