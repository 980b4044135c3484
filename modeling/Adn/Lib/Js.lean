import Adn.Lib.JsonText
/-!
# JavaScript values

The values that JSON documents and object literals are made of: an object is its
own properties, in property order and with distinct names, and an array its
elements. `undefined` is a value, and reading a property that is not there gives it.

What is thrown is an error, by its message.

- `read` is `v.k`, which throws on `undefined` and `null`.
- `toText` is `String(v)`, which throws on an object whose `toString` is no function.
- `stringify` is `JSON.stringify(v)`.
-/

namespace Lib

inductive Js where
  | undefined
  | null
  | bool (b : Bool)
  | num (x : PyFloat)
  | str (s : Str)
  | arr (xs : List Js)
  | obj (fs : List (Str × Js))

/-- The properties of an object. -/
abbrev Props := List (Str × Js)

namespace Props

def get? : Props → Str → Option Js
  | [], _ => none
  | (k', v) :: o, k => if k' = k then some v else get? o k

/-- `o.k` -/
def get (o : Props) (k : Str) : Js := (o.get? k).getD .undefined

/-- An object literal. -/
def ofList (fs : List (String × Js)) : Props := fs.map fun f => (Str.ofString f.1, f.2)

/-- `{ ...o, [k]: v }` -/
def set : Props → Str → Js → Props
  | [], k, v => [(k, v)]
  | (k', w) :: o, k, v => if k' = k then (k', v) :: o else (k', w) :: set o k v

/-- `{ ...o, ...o' }` -/
def spread (o o' : Props) : Props := o'.foldl (fun o f => o.set f.1 f.2) o

/-- `const { k: _, ...rest } = o` -/
def without (o : Props) (k : Str) : Props := o.filter (·.1 ≠ k)

@[simp]
theorem get?_nil (k : Str) : get? [] k = none := rfl

theorem get?_cons (k' : Str) (v : Js) (o : Props) (k : Str) :
    get? ((k', v) :: o) k = if k' = k then some v else get? o k := rfl

@[simp]
theorem get?_ofList_nil (k : Str) : get? (ofList []) k = none := rfl

@[simp]
theorem get?_ofList_cons (k' : String) (v : Js) (fs : List (String × Js)) (k : String) :
    get? (ofList ((k', v) :: fs)) k = if k' = k then some v else get? (ofList fs) k := by
  rw [ofList, List.map_cons, get?_cons, ← ofList]
  simp only [Text.ofString_inj]

theorem get?_append (o o' : Props) (k : Str) : get? (o ++ o') k = (o.get? k).or (get? o' k) := by
  induction o with
  | nil => rfl
  | cons f o ih =>
    rw [List.cons_append, get?_cons, get?_cons, ih]
    split <;> rfl

theorem get?_set (o : Props) (k : Str) (v : Js) (j : Str) : (o.set k v).get? j = if k = j then some v else o.get? j := by
  induction o with
  | nil => simp [set, get?_cons]
  | cons f o ih =>
    obtain ⟨k', w⟩ := f
    unfold set
    split
    · subst_vars
      simp only [get?_cons]
      split <;> rfl
    · rename_i hne
      simp only [get?_cons, ih]
      by_cases hj : k' = j
      · subst hj
        simp [Ne.symm hne]
      · simp [hj]

theorem get?_without (o : Props) {k j : Str} (h : j ≠ k) : (o.without k).get? j = o.get? j := by
  unfold without
  induction o with
  | nil => rfl
  | cons f o ih =>
    obtain ⟨k', w⟩ := f
    by_cases hk : k' = k
    · rw [List.filter_cons_of_neg (by simpa using hk), get?_cons, if_neg (hk ▸ Ne.symm h), ih]
    · rw [List.filter_cons_of_pos (by simpa using hk), get?_cons, get?_cons, ih]

theorem get?_spread (o o' : Props) {j : Str} (h : ∀ f ∈ o', f.1 ≠ j) : (o.spread o').get? j = o.get? j := by
  unfold spread
  induction o' generalizing o with
  | nil => rfl
  | cons f o' ih =>
    rw [List.foldl_cons, ih _ fun g hg => h g (List.mem_cons_of_mem f hg), get?_set, if_neg (h f List.mem_cons_self)]

theorem mem_of_get? {o : Props} {k : Str} {v : Js} (h : o.get? k = some v) : (k, v) ∈ o := by
  induction o with
  | nil => cases h
  | cons f o ih =>
    obtain ⟨k', v'⟩ := f
    rw [get?_cons] at h
    split at h
    · subst_vars; cases h; exact List.mem_cons_self
    · exact List.mem_cons_of_mem _ (ih h)

theorem get?_of_mem {o : Props} (hn : (o.map (·.1)).Nodup) {k : Str} {v : Js} (h : (k, v) ∈ o) : o.get? k = some v := by
  induction o with
  | nil => cases h
  | cons f o ih =>
    obtain ⟨k', v'⟩ := f
    rw [List.map_cons, List.nodup_cons] at hn
    rw [get?_cons]
    rcases List.mem_cons.mp h with heq | h
    · cases heq
      exact if_pos rfl
    · have hne : k' ≠ k := by
        rintro rfl
        exact hn.1 (List.mem_map_of_mem (f := (·.1)) h)
      rw [if_neg hne, ih hn.2 h]

end Props

namespace Js

open Numerals

def cannotRead (what : String) (k : Str) : Str :=
  Str.ofString "Cannot read properties of " ++ Str.ofString what ++ Str.ofString " (reading '" ++ k ++ Str.ofString "')"

/-- `v.k`. A name that arrays and texts have of their own is not read here. -/
def read (v : Js) (k : Str) : Except Str Js :=
  match v with
  | .undefined => .error (cannotRead "undefined" k)
  | .null => .error (cannotRead "null" k)
  | .obj fs => .ok (Props.get fs k)
  | _ => .ok .undefined

/-- `v` is falsy. -/
def falsy : Js → Bool
  | .undefined | .null => true
  | .bool b => !b
  | .num x => x = .finite 0 || x = .negZero || x = .nan
  | .str s => s = []
  | .arr _ | .obj _ => false

def truthy (v : Js) : Bool := !v.falsy

/-- `v === undefined || v === null` -/
def isNullish : Js → Bool
  | .undefined | .null => true
  | _ => false

/-- `v ?? w` -/
def orElse (v w : Js) : Js := if v.isNullish then w else v

/-- `v === s` for a text `s` -/
def isText (v : Js) (s : Str) : Bool :=
  match v with
  | .str t => t = s
  | _ => false

/-- `v === b` for a boolean `b` -/
def isBool (v : Js) (b : Bool) : Bool :=
  match v with
  | .bool c => c = b
  | _ => false

theorem isText_iff {v : Js} {s : Str} : v.isText s = true ↔ v = .str s := by
  cases v <;> simp [isText]

theorem isBool_iff {v : Js} {b : Bool} : v.isBool b = true ↔ v = .bool b := by
  cases v <;> simp [isBool]

/-! ## Texts -/

/-- White space and line terminators. -/
def isWhiteSpace (u : UInt16) : Bool :=
  (0x09 ≤ u.toNat && u.toNat ≤ 0x0D) || u = 0x20 || u = 0xA0 || u = 0x1680 || (0x2000 ≤ u.toNat && u.toNat ≤ 0x200A) ||
    u = 0x2028 || u = 0x2029 || u = 0x202F || u = 0x205F || u = 0x3000 || u = 0xFEFF

/-- `s.trim()` -/
def trim (s : Str) : Str := (s.dropWhile isWhiteSpace).rdropWhile isWhiteSpace

/-- A text is its trimmed part between blanks. -/
theorem trim_split (s : Str) : ∃ before after, s = before ++ trim s ++ after ∧ (∀ u ∈ before, isWhiteSpace u = true) ∧
    ∀ u ∈ after, isWhiteSpace u = true := by
  refine ⟨s.takeWhile isWhiteSpace, (s.dropWhile isWhiteSpace).rtakeWhile isWhiteSpace, ?_, fun u hu => ?_, fun u hu => ?_⟩
  · rw [trim, List.append_assoc, List.rdropWhile_append_rtakeWhile, List.takeWhile_append_dropWhile]
  · exact List.mem_takeWhile_imp hu
  · exact List.mem_rtakeWhile_imp hu

theorem trim_head {s : Str} (h : trim s ≠ []) : isWhiteSpace ((trim s).head h) = false := by
  have hne : s.dropWhile isWhiteSpace ≠ [] := by
    intro he
    exact h (by rw [trim, he, List.rdropWhile_nil])
  obtain ⟨t, ht⟩ := List.rdropWhile_prefix isWhiteSpace (s.dropWhile isWhiteSpace)
  have hhead : (trim s).head h = (s.dropWhile isWhiteSpace).head hne := by
    have := congrArg List.head? ht
    rw [← trim, List.head?_append_of_ne_nil _ h, List.head?_eq_some_head h, List.head?_eq_some_head hne] at this
    exact Option.some.inj this
  rw [hhead]
  exact List.head_dropWhile_not isWhiteSpace hne

theorem trim_last {s : Str} (h : trim s ≠ []) : isWhiteSpace ((trim s).getLast h) = false :=
  Bool.eq_false_iff.mpr (List.rdropWhile_last_not isWhiteSpace _ h)

/-- Blanks before a text that starts with none are no blanks at all. -/
theorem blanks_nil_of_head {before s t : Str} (hb : ∀ u ∈ before, isWhiteSpace u = true) (hs : s ≠ [])
    (hh : isWhiteSpace (s.head hs) = false) (h : s = before ++ t) : before = [] := by
  cases before with
  | nil => rfl
  | cons u before =>
    subst h
    rw [List.head_append_left (List.cons_ne_nil _ _), List.head_cons, hb u List.mem_cons_self] at hh
    cases hh

theorem blanks_nil_of_last {after s t : Str} (ha : ∀ u ∈ after, isWhiteSpace u = true) (hs : s ≠ [])
    (hl : isWhiteSpace (s.getLast hs) = false) (h : s = t ++ after) : after = [] := by
  by_contra hne
  subst h
  rw [List.getLast_append_of_ne_nil _ hne, ha _ (List.getLast_mem hne)] at hl
  cases hl

/-- A trimmed text up to a mark, and an untrimmed one up to the same mark. -/
theorem trim_cancel_left {mark : UInt16} (hm : isWhiteSpace mark = false) {a s t : Str} (ha : trim a ≠ [])
    (h : trim a ++ mark :: s = a ++ mark :: t) : trim a = a ∧ s = t := by
  obtain ⟨before, after, hsplit, hbefore, hafter⟩ := trim_split a
  have hb : before = [] := by
    refine blanks_nil_of_head hbefore (s := trim a ++ mark :: s) (t := trim a ++ after ++ mark :: t) (by simp) ?_ ?_
    · rw [List.head_append_left ha]
      exact trim_head ha
    · rw [h]
      conv_lhs => rw [hsplit]
      simp
  have hrest : mark :: s = after ++ mark :: t := by
    have : trim a ++ mark :: s = trim a ++ (after ++ mark :: t) := by
      rw [h]
      conv_lhs => rw [hsplit, hb]
      simp
    exact List.append_cancel_left this
  have hn : after = [] := blanks_nil_of_head hafter (List.cons_ne_nil mark s) hm hrest
  subst hb hn
  simp only [List.nil_append, List.append_nil] at hsplit
  simp only [List.nil_append, List.cons.injEq, true_and] at hrest
  exact ⟨hsplit.symm, hrest⟩

/-- An untrimmed text after a mark, and a trimmed one after the same mark. -/
theorem trim_cancel_right {mark : UInt16} (hm : isWhiteSpace mark = false) {a s t : Str} (ha : trim a ≠ [])
    (h : s ++ mark :: trim a = t ++ mark :: a) : trim a = a ∧ s = t := by
  obtain ⟨before, after, hsplit, hbefore, hafter⟩ := trim_split a
  have hn : after = [] := by
    refine blanks_nil_of_last hafter (s := s ++ mark :: trim a) (t := t ++ mark :: (before ++ trim a)) (by simp) ?_ ?_
    · rw [List.getLast_append_of_ne_nil _ (List.cons_ne_nil _ _), List.getLast_cons ha]
      exact trim_last ha
    · rw [h]
      conv_lhs => rw [hsplit]
      simp
  have hrest : s ++ [mark] = t ++ [mark] ++ before := by
    have : s ++ [mark] ++ trim a = t ++ [mark] ++ before ++ trim a := by
      rw [List.append_assoc, List.singleton_append, h]
      conv_lhs => rw [hsplit, hn]
      simp
    exact List.append_cancel_right this
  have hb : before = [] := blanks_nil_of_last hbefore (by simp) (by simpa using hm) hrest
  subst hb hn
  simp only [List.nil_append, List.append_nil] at hsplit hrest
  exact ⟨hsplit.symm, List.append_cancel_right hrest⟩

/-- `Number::toString` -/
def numberText : PyFloat → Str
  | .finite q =>
    match Sci.ofRat q with
    | some s => (jsNumeral (q < 0) s).text false
    | none => intText q.num ++ 0x2F :: natText q.den
  | .negZero => "0"
  | .posInf => "Infinity"
  | .negInf => "-Infinity"
  | .nan => "NaN"

mutual

/-- `String(v)`; an object's own `toString` or `valueOf` is data here, and cannot be called. -/
def toText : Js → Except Str Str
  | .undefined => .ok "undefined"
  | .null => .ok "null"
  | .bool b => .ok (if b then "true" else "false")
  | .num x => .ok (numberText x)
  | .str s => .ok s
  | .arr xs => (joined xs).map joinComma
  | .obj fs =>
    if (Props.get? fs "toString").isSome then .error "Cannot convert object to primitive value" else .ok "[object Object]"

/-- The texts that `join` puts together. -/
def joined : List Js → Except Str (List Str)
  | [] => .ok []
  | x :: xs => do
    let t ← match x with
      | .undefined | .null => .ok []
      | x => toText x
    let ts ← joined xs
    return t :: ts

end

/-! ## Characters -/

/-- `Array.from(s)`: the iterator of a string keeps a pair of surrogates together. -/
def arrayFrom : Str → List Str
  | [] => []
  | [u] => [[u]]
  | u :: v :: rest =>
    if Text.isHigh u && Text.isLow v then [u, v] :: arrayFrom rest else [u] :: arrayFrom (v :: rest)

/-- `s.codePointAt(0)` -/
def codePointAtZero : Str → Option ℕ
  | [] => none
  | [u] => some u.toNat
  | u :: v :: _ => some (if Text.isHigh u && Text.isLow v then Text.joinPair u v else u.toNat)

/-- Character by character, a string is read as its code points. -/
theorem arrayFrom_codePoints (s : Str) :
    (arrayFrom s).map (fun char => (codePointAtZero char).getD 0) = Text.codePoints s := by
  induction s using arrayFrom.induct with
  | case1 => rfl
  | case2 u => simp [arrayFrom, codePointAtZero, Text.codePoints]
  | case3 u v rest hp ih =>
    rw [arrayFrom, if_pos hp, Text.codePoints, if_pos hp, List.map_cons, ih, codePointAtZero, if_pos hp, Option.getD_some]
  | case4 u v rest hp ih =>
    rw [arrayFrom, if_neg hp, Text.codePoints, if_neg hp, List.map_cons, ih, codePointAtZero, Option.getD_some]

/-! ## Objects -/

/-- The order of two properties' names, by code units. -/
def propLe {α : Type} (f g : Str × α) : Prop := Text.codeUnits f.1 ≤ Text.codeUnits g.1

instance {α : Type} : DecidableRel (propLe (α := α)) := fun f g =>
  inferInstanceAs (Decidable (Text.codeUnits f.1 ≤ Text.codeUnits g.1))

instance {α : Type} : Std.Total (propLe (α := α)) := ⟨fun f g => le_total (Text.codeUnits f.1) (Text.codeUnits g.1)⟩

instance {α : Type} : IsTrans (Str × α) propLe := ⟨fun _ _ _ h h' => le_trans (α := List ℕ) h h'⟩

/-- `Object.keys(o).sort()`, with the values. -/
def sortProps {α : Type} (fs : List (Str × α)) : List (Str × α) := fs.insertionSort propLe

/-- One property's text. -/
def propText (f : Str × Str) : Str := Text.quoteUnicode f.1 ++ colon :: f.2

/-- A number in JSON. -/
def numberJson : PyFloat → Str
  | .posInf | .negInf | .nan => "null"
  | x => numberText x

mutual

/-- `JSON.stringify(v)`, `none` for `undefined` -/
def stringify : Js → Option Str
  | .undefined => none
  | .null => some "null"
  | .bool b => some (if b then "true" else "false")
  | .num x => some (numberJson x)
  | .str s => some (Text.quoteUnicode s)
  | .arr xs => some (openBracket :: joinComma (stringifyList xs) ++ [closeBracket])
  | .obj fs => some (openBrace :: joinComma ((stringifyProps fs).map propText) ++ [closeBrace])

def stringifyList : List Js → List Str
  | [] => []
  | x :: xs => (stringify x).getD "null" :: stringifyList xs

/-- Properties that are `undefined` are left out. -/
def stringifyProps : Props → List (Str × Str)
  | [] => []
  | (k, v) :: fs =>
    match stringify v with
    | none => stringifyProps fs
    | some t => (k, t) :: stringifyProps fs

end

end Js

end Lib
