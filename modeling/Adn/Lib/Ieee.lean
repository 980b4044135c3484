import Adn.Lib.Json
import Mathlib.Algebra.Order.Floor.Defs
import Mathlib.Data.Rat.Floor
/-!
# Floating-point arithmetic

Arithmetic on floats, where `rnd` rounds an exact result to a float. With an
`rnd` that rounds nothing it is the arithmetic of rationals.
-/

namespace Lib

namespace PyFloat

def isFinite : PyFloat → Bool
  | .finite _ => true
  | .negZero => true
  | _ => false

/-- The number a finite float is. -/
def rat : PyFloat → ℚ
  | .finite q => q
  | _ => 0

/-- The sign bit; that of a `NaN` is not looked at. -/
def isNegative : PyFloat → Bool
  | .finite q => q < 0
  | .negZero => true
  | .negInf => true
  | _ => false

def zero (negative : Bool) : PyFloat := if negative then .negZero else .finite 0

def infinity (negative : Bool) : PyFloat := if negative then .negInf else .posInf

def neg : PyFloat → PyFloat
  | .finite q => if q = 0 then .negZero else .finite (-q)
  | .negZero => .finite 0
  | .posInf => .negInf
  | .negInf => .posInf
  | .nan => .nan

section
variable (rnd : ℚ → PyFloat)

/-- A rounded result; an exact zero is positive. -/
def rounded (q : ℚ) : PyFloat := if q = 0 then .finite 0 else rnd q

/-- `n as f64` -/
def ofNat (n : ℕ) : PyFloat := rounded rnd n

def add : PyFloat → PyFloat → PyFloat
  | .nan, _ => .nan
  | _, .nan => .nan
  | .posInf, .negInf => .nan
  | .negInf, .posInf => .nan
  | .posInf, _ => .posInf
  | _, .posInf => .posInf
  | .negInf, _ => .negInf
  | _, .negInf => .negInf
  | .negZero, .negZero => .negZero
  | x, y => rounded rnd (x.rat + y.rat)

def sub (x y : PyFloat) : PyFloat := add rnd x y.neg

def mul (x y : PyFloat) : PyFloat :=
  let negative := x.isNegative != y.isNegative
  if x = .nan ∨ y = .nan then .nan
  else if x.isFinite && y.isFinite then
    if x.rat = 0 ∨ y.rat = 0 then zero negative else rnd (x.rat * y.rat)
  else if (x.isFinite && x.rat = 0) || (y.isFinite && y.rat = 0) then .nan
  else infinity negative

def div (x y : PyFloat) : PyFloat :=
  let negative := x.isNegative != y.isNegative
  if x = .nan ∨ y = .nan then .nan
  else if y.isFinite then
    if x.isFinite then
      if y.rat = 0 then if x.rat = 0 then .nan else infinity negative
      else if x.rat = 0 then zero negative else rnd (x.rat / y.rat)
    else infinity negative
  else if x.isFinite then zero negative else .nan

/-- `xs.iter().sum()` -/
def sum (xs : List PyFloat) : PyFloat := xs.foldl (add rnd) (.finite 0)

end

/-- `x.round()`: halves away from zero. -/
def round : PyFloat → PyFloat
  | .finite q =>
    let n : ℤ := if q < 0 then -⌊-q + 1 / 2⌋ else ⌊q + 1 / 2⌋
    if n = 0 then zero (q < 0) else .finite n
  | x => x

/-- `x.partial_cmp(&y)` -/
def partialCmp : PyFloat → PyFloat → Option Ordering
  | .nan, _ => none
  | _, .nan => none
  | .negInf, .negInf => some .eq
  | .posInf, .posInf => some .eq
  | .negInf, _ => some .lt
  | _, .posInf => some .lt
  | .posInf, _ => some .gt
  | _, .negInf => some .gt
  | x, y => some (compare x.rat y.rat)

def lt (x y : PyFloat) : Bool := partialCmp x y = some .lt

def le (x y : PyFloat) : Bool := partialCmp x y = some .lt || partialCmp x y = some .eq

def eq (x y : PyFloat) : Bool := partialCmp x y = some .eq

/-- `f64::min`, which a `NaN` does not count in -/
def min (x y : PyFloat) : PyFloat :=
  match partialCmp x y with
  | none => if x = .nan then y else x
  | some .gt => y
  | some _ => x

def max (x y : PyFloat) : PyFloat :=
  match partialCmp x y with
  | none => if x = .nan then y else x
  | some .lt => y
  | some _ => x

/-- Finite floats are comparable. -/
theorem partialCmp_finite {x y : PyFloat} (hx : x.isFinite = true) (hy : y.isFinite = true) :
    ∃ o, partialCmp x y = some o := by
  have number : ∀ z : PyFloat, z.isFinite = true → (∃ q, z = .finite q) ∨ z = .negZero := by
    intro z hz
    cases z with
    | finite q => exact .inl ⟨q, rfl⟩
    | negZero => exact .inr rfl
    | _ => cases hz
  rcases number x hx with ⟨p, rfl⟩ | rfl <;> rcases number y hy with ⟨q, rfl⟩ | rfl <;> exact ⟨_, rfl⟩

end PyFloat

/-- A float that is a number. -/
abbrev Finite64 := {x : PyFloat // x.isFinite = true}

end Lib
