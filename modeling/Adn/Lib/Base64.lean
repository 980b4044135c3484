import Adn.Lib.Text
/-!
# Base64 for URLs

Three bytes are four of 64 symbols; one or two bytes at the end are two or three,
and nothing is padded. A reader takes only texts that are written so, in which the
bits that stand for no byte are zero.
-/

namespace Lib.Base64

/-- The symbol of a number below 64. -/
def symbol (n : ℕ) : UInt16 :=
  if n < 26 then (0x41 + n).toUInt16
  else if n < 52 then (0x61 + (n - 26)).toUInt16
  else if n < 62 then (0x30 + (n - 52)).toUInt16
  else if n = 62 then 0x2D else 0x5F

def value (u : UInt16) : Option ℕ :=
  if 0x41 ≤ u.toNat ∧ u.toNat ≤ 0x5A then some (u.toNat - 0x41)
  else if 0x61 ≤ u.toNat ∧ u.toNat ≤ 0x7A then some (u.toNat - 0x61 + 26)
  else if 0x30 ≤ u.toNat ∧ u.toNat ≤ 0x39 then some (u.toNat - 0x30 + 52)
  else if u = 0x2D then some 62
  else if u = 0x5F then some 63
  else none

def encode : List UInt8 → Str
  | x :: y :: z :: bs =>
    symbol (x.toNat / 4) :: symbol (x.toNat % 4 * 16 + y.toNat / 16) :: symbol (y.toNat % 16 * 4 + z.toNat / 64) ::
      symbol (z.toNat % 64) :: encode bs
  | [x, y] => [symbol (x.toNat / 4), symbol (x.toNat % 4 * 16 + y.toNat / 16), symbol (y.toNat % 16 * 4)]
  | [x] => [symbol (x.toNat / 4), symbol (x.toNat % 4 * 16)]
  | [] => []

def decode : Str → Option (List UInt8)
  | s :: t :: u :: v :: rest => do
    let a ← value s
    let b ← value t
    let c ← value u
    let d ← value v
    return (a * 4 + b / 16).toUInt8 :: (b % 16 * 16 + c / 4).toUInt8 :: (c % 4 * 64 + d).toUInt8 :: (← decode rest)
  | [s, t, u] => do
    let a ← value s
    let b ← value t
    let c ← value u
    if c % 4 = 0 then some [(a * 4 + b / 16).toUInt8, (b % 16 * 16 + c / 4).toUInt8] else none
  | [s, t] => do
    let a ← value s
    let b ← value t
    if b % 16 = 0 then some [(a * 4 + b / 16).toUInt8] else none
  | [_] => none
  | [] => some []

theorem value_symbol {n : ℕ} (h : n < 64) : value (symbol n) = some n := by
  have hall : ∀ n < 64, value (symbol n) = some n := by decide
  exact hall n h

theorem toUInt8_eq {n : ℕ} {x : UInt8} (h : n = x.toNat) : n.toUInt8 = x := by
  rw [h, Nat.toUInt8_eq, UInt8.ofNat_toNat]

/-- What is written is read back. -/
theorem decode_encode (bs : List UInt8) : decode (encode bs) = some bs := by
  induction bs using encode.induct with
  | case1 x y z bs ih =>
    have hx := x.toNat_lt
    have hy := y.toNat_lt
    have hz := z.toNat_lt
    rw [encode, decode, value_symbol (by omega), value_symbol (by omega), value_symbol (by omega), value_symbol (by omega), ih]
    simp only [Option.bind_eq_bind, Option.bind_some, Option.pure_def, Option.some.injEq]
    rw [toUInt8_eq (x := x) (by omega), toUInt8_eq (x := y) (by omega), toUInt8_eq (x := z) (by omega)]
  | case2 x y =>
    have hx := x.toNat_lt
    have hy := y.toNat_lt
    rw [encode, decode, value_symbol (by omega), value_symbol (by omega), value_symbol (by omega)]
    simp only [Option.bind_eq_bind, Option.bind_some]
    rw [if_pos (by omega), toUInt8_eq (x := x) (by omega), toUInt8_eq (x := y) (by omega)]
  | case3 x =>
    have hx := x.toNat_lt
    rw [encode, decode, value_symbol (by omega), value_symbol (by omega)]
    simp only [Option.bind_eq_bind, Option.bind_some]
    rw [if_pos (by omega), toUInt8_eq (x := x) (by omega)]
  | case4 => rfl

end Lib.Base64
