import Adn.Lib.Text
import Mathlib.Data.Rat.Defs
/-!
# JSON values as Python holds them

What `json.loads` returns: an object is a `dict`, kept here as its fields in
insertion order (Python gives a `dict` distinct keys). A finite float is the
value of its shortest decimal.

`Json.pyEq` is Python's `==`: `True`, `1` and `1.0` are equal, and the order of
a `dict`'s keys does not count.
-/

namespace Lib

inductive PyFloat where
  | finite (q : ℚ)
  | negZero
  | posInf
  | negInf
  | nan
deriving DecidableEq

inductive Json where
  | null
  | bool (b : Bool)
  | int (n : ℤ)
  | float (x : PyFloat)
  | str (s : Str)
  | arr (xs : List Json)
  | obj (fs : List (Str × Json))

/-- The fields of a `dict`. -/
abbrev Dict := List (Str × Json)

namespace Dict

/-- `d[k]`, where it is there. -/
def get? : Dict → Str → Option Json
  | [], _ => none
  | (k', v) :: d, k => if k' = k then some v else get? d k

/-- `k in d` -/
def has (d : Dict) (k : Str) : Bool := (d.get? k).isSome

/-- `d.get(k, default)` -/
def getD (d : Dict) (k : Str) (default : Json) : Json := (d.get? k).getD default

/-- `d.get(k)` -/
def get (d : Dict) (k : Str) : Json := d.getD k .null

/-- A `dict` display. -/
def ofList (fs : List (String × Json)) : Dict := fs.map fun f => (Str.ofString f.1, f.2)

@[simp]
theorem get?_nil (k : Str) : get? [] k = none := rfl

theorem get?_cons (k' : Str) (v : Json) (d : Dict) (k : Str) :
    get? ((k', v) :: d) k = if k' = k then some v else get? d k := rfl

theorem get?_append (d e : Dict) (k : Str) : get? (d ++ e) k = (get? d k).or (get? e k) := by
  induction d with
  | nil => rfl
  | cons f d ih =>
    rw [List.cons_append, get?_cons, get?_cons, ih]
    split <;> rfl

@[simp]
theorem get?_ofList_nil (k : Str) : get? (ofList []) k = none := rfl

@[simp]
theorem get?_ofList_cons (k' : String) (v : Json) (fs : List (String × Json)) (k : String) :
    get? (ofList ((k', v) :: fs)) k = if k' = k then some v else get? (ofList fs) k := by
  rw [ofList, List.map_cons, get?_cons, ← ofList]
  simp only [Text.ofString_inj]

/-- The `dict` that gives each of some keys its value. -/
theorem get?_map {f : Str → Json} {ks : List Str} {k : Str} (hk : k ∈ ks) :
    get? (ks.map fun k => (k, f k)) k = some (f k) := by
  induction ks with
  | nil => cases hk
  | cons k' ks ih =>
    rw [List.map_cons, get?_cons]
    split
    · subst_vars; rfl
    · rename_i hne
      rcases List.mem_cons.1 hk with rfl | hk
      · exact absurd rfl hne
      · exact ih hk

theorem get?_map_of_notMem {f : Str → Json} {ks : List Str} {k : Str} (hk : k ∉ ks) :
    get? (ks.map fun k => (k, f k)) k = none := by
  induction ks with
  | nil => rfl
  | cons k' ks ih =>
    rw [List.mem_cons, not_or] at hk
    rw [List.map_cons, get?_cons, if_neg (Ne.symm hk.1), ih hk.2]

theorem get?_map_value (g : Json → Json) (d : Dict) (k : Str) :
    get? (d.map fun f => (f.1, g f.2)) k = (get? d k).map g := by
  induction d with
  | nil => rfl
  | cons f d ih =>
    rw [List.map_cons, get?_cons, get?_cons, ih]
    split <;> rfl

theorem get_of_get? {d : Dict} {k : Str} {v : Json} (h : d.get? k = some v) : d.get k = v := by
  rw [get, getD, h, Option.getD_some]

/-- A value other than `None` was there. -/
theorem get?_of_get {d : Dict} {k : Str} {v : Json} (h : d.get k = v) (hv : v ≠ .null) : d.get? k = some v := by
  unfold get getD at h
  cases hg : d.get? k with
  | none => rw [hg, Option.getD_none] at h; exact absurd h.symm hv
  | some w => rw [hg, Option.getD_some] at h; rw [h]

/-- `{**d, k: v}`, up to the order of the keys. -/
def set (d : Dict) (k : Str) (v : Json) : Dict := d.filter (·.1 ≠ k) ++ [(k, v)]

theorem get?_filter_ne (d : Dict) {k k' : Str} (h : k' ≠ k) : get? (d.filter (·.1 ≠ k)) k' = get? d k' := by
  induction d with
  | nil => rfl
  | cons f d ih =>
    obtain ⟨j, w⟩ := f
    by_cases hj : j = k
    · subst hj
      rw [List.filter_cons_of_neg (by simp), ih, get?_cons, if_neg (Ne.symm h)]
    · rw [List.filter_cons_of_pos (by simpa using hj), get?_cons, get?_cons, ih]

theorem get?_filter_self (d : Dict) (k : Str) : get? (d.filter (·.1 ≠ k)) k = none := by
  induction d with
  | nil => rfl
  | cons f d ih =>
    obtain ⟨j, w⟩ := f
    by_cases hj : j = k
    · rw [List.filter_cons_of_neg (by simpa using hj), ih]
    · rw [List.filter_cons_of_pos (by simpa using hj), get?_cons, if_neg hj, ih]

theorem get?_set_self (d : Dict) (k : Str) (v : Json) : get? (d.set k v) k = some v := by
  rw [set, get?_append, get?_filter_self, Option.none_or, get?_cons, if_pos rfl]

theorem get?_set_ne (d : Dict) {k k' : Str} (v : Json) (h : k' ≠ k) : get? (d.set k v) k' = get? d k' := by
  rw [set, get?_append, get?_filter_ne d h, get?_cons, if_neg (Ne.symm h), get?_nil, Option.or_none]

theorem mem_of_get? {d : Dict} {k : Str} {v : Json} (h : d.get? k = some v) : (k, v) ∈ d := by
  induction d with
  | nil => cases h
  | cons f d ih =>
    obtain ⟨k', v'⟩ := f
    rw [get?_cons] at h
    split at h
    · subst_vars; cases h; exact List.mem_cons_self
    · exact List.mem_cons_of_mem _ (ih h)

/-- A field is found under its name, where names are distinct. -/
theorem get?_of_mem {d : Dict} (hn : (d.map (·.1)).Nodup) {k : Str} {v : Json} (h : (k, v) ∈ d) : d.get? k = some v := by
  induction d with
  | nil => cases h
  | cons f d ih =>
    obtain ⟨k', v'⟩ := f
    rw [List.map_cons, List.nodup_cons] at hn
    rw [get?_cons]
    rcases List.mem_cons.mp h with heq | h
    · cases heq
      exact if_pos rfl
    · have hne : k' ≠ k := by
        rintro rfl
        exact hn.1 (List.mem_map_of_mem (f := (·.1)) h)
      rw [if_neg hne, ih hn.2 h]

end Dict

namespace Json

/-- Induction over a document: a list or an object is reached once every
element or field value is. -/
theorem ind {P : Json → Prop} (null : P .null) (bool : ∀ b, P (.bool b)) (int : ∀ n, P (.int n))
    (float : ∀ x, P (.float x)) (str : ∀ s, P (.str s)) (arr : ∀ xs, (∀ x ∈ xs, P x) → P (.arr xs))
    (obj : ∀ fs : Dict, (∀ f ∈ fs, P f.2) → P (.obj fs)) (v : Json) : P v :=
  Json.rec (motive_1 := P) (motive_2 := fun xs => ∀ x ∈ xs, P x) (motive_3 := fun fs => ∀ f ∈ fs, P f.2)
    (motive_4 := fun f => P f.2) null bool int float str arr obj (by simp) (fun _ _ hx hxs => by simpa using ⟨hx, hxs⟩)
    (by simp) (fun _ _ hf hfs => by simpa using ⟨hf, by simpa using hfs⟩) (fun _ _ hv => hv) v

/-- `bool(v)` -/
def truthy : Json → Bool
  | .null => false
  | .bool b => b
  | .int n => n ≠ 0
  | .float x => x ≠ .finite 0 ∧ x ≠ .negZero
  | .str s => s ≠ []
  | .arr xs => !xs.isEmpty
  | .obj fs => !fs.isEmpty

/-- `v or w` -/
def orElse (v w : Json) : Json := if v.truthy then v else w

/-- The number a value is in arithmetic and comparisons. -/
def number? : Json → Option PyFloat
  | .bool b => some (.finite (if b then 1 else 0))
  | .int n => some (.finite n)
  | .float .negZero => some (.finite 0)
  | .float x => some x
  | _ => none

def numberEq : Option PyFloat → Option PyFloat → Bool
  | some .nan, _ => false
  | some x, some y => x = y
  | _, _ => false

mutual

/-- `a == b` -/
def pyEq : Json → Json → Bool
  | .null, w => match w with
    | .null => true
    | _ => false
  | .str s, w => match w with
    | .str t => s = t
    | _ => false
  | .arr xs, w => match w with
    | .arr ys => eqList xs ys
    | _ => false
  | .obj fs, w => match w with
    | .obj gs => fs.length = gs.length ∧ eqFields fs gs
    | _ => false
  | .bool b, w => numberEq (number? (.bool b)) w.number?
  | .int n, w => numberEq (number? (.int n)) w.number?
  | .float x, w => numberEq (number? (.float x)) w.number?

def eqList : List Json → List Json → Bool
  | [], [] => true
  | x :: xs, y :: ys => pyEq x y && eqList xs ys
  | _, _ => false

/-- Every field is in the other `dict`, with an equal value. -/
def eqFields : Dict → Dict → Bool
  | [], _ => true
  | (k, v) :: fs, gs => (match gs.get? k with
    | some w => pyEq v w
    | none => false) && eqFields fs gs

end

theorem pyEq_str {v : Json} {s : Str} : pyEq v (.str s) = true ↔ v = .str s := by
  cases v with
  | float x => cases x <;> simp [pyEq, number?, numberEq]
  | _ => simp [pyEq, number?, numberEq]

end Json

end Lib
