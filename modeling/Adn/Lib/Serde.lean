import Adn.Lib.Ieee
import Adn.Lib.JsonText
/-!
# Deserializing structs

What derived deserializers read from a JSON value: the fields of a struct by
name, or by position from an array, with defaults, options and errors; and the
compact text that a struct is written as.
-/

namespace Lib.Serde

/-- Why a value is not a struct of the type asked for. -/
inductive DecodeError where
  | malformed
  | invalidType
  | outOfRange
  | invalidLength
  | missing (field : Str)
  | duplicate (field : Str)
deriving DecidableEq

abbrev Decoder (α : Type) := Json → Except DecodeError α

/-! ## Values -/

def string : Decoder Str
  | .str s => .ok s
  | _ => .error .invalidType

def bool : Decoder Bool
  | .bool b => .ok b
  | _ => .error .invalidType

/-- An unsigned integer of `bits` bits. -/
def unsigned (bits : ℕ) : Decoder ℕ
  | .int n => if 0 ≤ n ∧ n < 2 ^ bits then .ok n.toNat else .error .invalidType
  | _ => .error .invalidType

def u32 : Decoder UInt32 := fun v => (unsigned 32 v).map UInt32.ofNat

def u64 : Decoder UInt64 := fun v => (unsigned 64 v).map UInt64.ofNat

/-- A float; a number that is not finite as a float is out of range. -/
def f64 (rnd : ℚ → PyFloat) (v : Json) : Except DecodeError Finite64 :=
  let finite (x : PyFloat) : Except DecodeError Finite64 :=
    if h : x.isFinite = true then .ok ⟨x, h⟩ else .error .outOfRange
  match v with
  | .int n => finite (PyFloat.rounded rnd n)
  | .float x => finite x
  | _ => .error .invalidType

def list {α : Type} (item : Decoder α) : Decoder (List α)
  | .arr xs => xs.mapM item
  | _ => .error .invalidType

/-- A map from texts to texts, with its entries in order. -/
def stringMap : Decoder (List (Str × Str))
  | .obj fs => fs.mapM fun f => do return (f.1, ← string f.2)
  | _ => .error .invalidType

/-- `map.get(k)`, where a later entry replaces an earlier one -/
def lookup (k : Str) (entries : List (Str × Str)) : Option Str := (entries.reverse.find? (·.1 = k)).map (·.2)

/-! ## Structs -/

/-- The values that a document has for a field. -/
structure Fields where
  named : Bool
  values : Str → List Json

/-- The fields of an object, or of an array that has them in order. -/
def fields (names : List Str) : Decoder Fields
  | .obj fs => .ok ⟨true, fun k => (fs.filter (·.1 = k)).map (·.2)⟩
  | .arr xs =>
    if xs.length ≤ names.length then .ok ⟨false, fun k => xs[names.idxOf k]?.toList⟩ else .error .invalidLength
  | _ => .error .invalidType

namespace Fields

variable {α : Type}

def absent (fs : Fields) (k : Str) : DecodeError := if fs.named then .missing k else .invalidLength

def get (fs : Fields) (k : Str) (item : Decoder α) : Except DecodeError α :=
  match fs.values k with
  | [] => .error (fs.absent k)
  | [v] => item v
  | _ => .error (.duplicate k)

/-- `#[serde(default)]` -/
def getOr (fs : Fields) (k : Str) (default : α) (item : Decoder α) : Except DecodeError α :=
  match fs.values k with
  | [] => .ok default
  | [v] => item v
  | _ => .error (.duplicate k)

/-- A field of type `Option`, which a named struct may leave out. -/
def getOption (fs : Fields) (k : Str) (item : Decoder α) : Except DecodeError (Option α) :=
  match fs.values k with
  | [] => if fs.named then .ok none else .error (fs.absent k)
  | [.null] => .ok none
  | [v] => (item v).map some
  | _ => .error (.duplicate k)

end Fields

/-! ## Reading a struct from an object -/

theorem map_eq_ok {ε α β : Type} {x : Except ε α} {f : α → β} {b : β} : x.map f = .ok b ↔ ∃ a, x = .ok a ∧ b = f a := by
  cases x <;> simp [Except.map, eq_comm]

theorem u64_int {n : ℤ} {u : UInt64} : u64 (.int n) = .ok u ↔ (0 ≤ n ∧ n < 2 ^ 64) ∧ u = UInt64.ofNat n.toNat := by
  rw [u64, map_eq_ok]
  simp only [unsigned]
  split <;> simp_all

theorem string_ok {v : Json} {s : Str} : string v = .ok s ↔ v = .str s := by
  cases v <;> simp [string]

section
variable {fs : Dict} (hn : (fs.map (·.1)).Nodup)

/-- The fields of an object. -/
def objFields (fs : Dict) : Fields := ⟨true, fun k => (fs.filter (·.1 = k)).map (·.2)⟩

include hn

/-- A name is there once. -/
theorem values_eq (k : Str) : (objFields fs).values k = (fs.get? k).toList := by
  unfold objFields
  dsimp only
  induction fs with
  | nil => rfl
  | cons f fs ih =>
    obtain ⟨j, v⟩ := f
    rw [List.map_cons, List.nodup_cons] at hn
    rw [Dict.get?_cons]
    by_cases hj : j = k
    · subst hj
      have hnone : fs.filter (·.1 = j) = [] := by
        rw [List.filter_eq_nil_iff]
        intro g hg hgj
        exact hn.1 (of_decide_eq_true hgj ▸ List.mem_map_of_mem (f := (·.1)) hg)
      rw [List.filter_cons_of_pos (by simp), hnone, if_pos rfl]
      rfl
    · rw [List.filter_cons_of_neg (by simpa using hj), if_neg hj, ih hn.2]

theorem get_ok {α : Type} {k : Str} {item : Decoder α} {a : α} :
    (objFields fs).get k item = .ok a ↔ ∃ v, fs.get? k = some v ∧ item v = .ok a := by
  unfold Fields.get
  rw [values_eq hn]
  cases Dict.get? fs k <;> simp

theorem getOr_ok {α : Type} {k : Str} {default : α} {item : Decoder α} {a : α} :
    (objFields fs).getOr k default item = .ok a ↔
      (∃ v, fs.get? k = some v ∧ item v = .ok a) ∨ (fs.get? k = none ∧ a = default) := by
  unfold Fields.getOr
  rw [values_eq hn]
  cases Dict.get? fs k <;> simp [eq_comm]

theorem get_string {k s : Str} : (objFields fs).get k string = .ok s ↔ fs.get? k = some (.str s) := by
  rw [get_ok hn]
  constructor
  · rintro ⟨v, hv, hs⟩
    rw [hv, string_ok.1 hs]
  · intro h
    exact ⟨_, h, rfl⟩

theorem getOr_string {k s default : Str} : (objFields fs).getOr k default string = .ok s ↔
    fs.get? k = some (.str s) ∨ (fs.get? k = none ∧ s = default) := by
  rw [getOr_ok hn]
  constructor
  · rintro (⟨v, hv, hs⟩ | h)
    · exact .inl (by rw [hv, string_ok.1 hs])
    · exact .inr h
  · rintro (h | h)
    · exact .inl ⟨_, h, rfl⟩
    · exact .inr h

end

/-! ## Writing -/

section
variable (floatText : PyFloat → Str)

mutual

/-- `serde_json::to_string`, where `floatText` writes a finite float -/
def text : Json → Str
  | .null => "null"
  | .bool b => if b then "true" else "false"
  | .int n => Numerals.intText n
  | .float x => if x.isFinite then floatText x else "null"
  | .str s => Text.quoteUnicode s
  | .arr xs => openBracket :: joinComma (textList xs) ++ [closeBracket]
  | .obj fs => openBrace :: joinComma (textFields fs) ++ [closeBrace]

def textList : List Json → List Str
  | [] => []
  | x :: xs => text x :: textList xs

def textFields : Dict → List Str
  | [] => []
  | (k, v) :: fs => (Text.quoteUnicode k ++ colon :: text v) :: textFields fs

end

/-- `serde_json::to_vec` -/
def toVec (v : Json) : List UInt8 := Lib.Text.utf8 (text floatText v)

end

end Lib.Serde
