import Adn.Lib.Parsed
import Adn.Lib.Reordered
/-!
# Readings of a document

A document in Python and the value JavaScript has for it, up to what the two
languages make of a number. `Parsed` is one case: both have read a text. The
other is `Js.loaded`: Python reads what `JSON.stringify` has written. Strings and
scalars can be restricted, to those that both languages write alike.
-/

namespace Lib

/-! ## Scalars -/

/-- A scalar in Python and in JavaScript. A number that JSON does not have is written as `null`, and a value that is
missing is `None`. -/
inductive Scalar : Json → Js → Prop where
  | null : Scalar .null .null
  | bool (b : Bool) : Scalar (.bool b) (.bool b)
  | int {n : ℤ} {x : PyFloat} (h : AsDouble n x) : Scalar (.int n) (.num x)
  | float (x : PyFloat) : Scalar (.float x) (.num x)
  | lost {x : PyFloat} (h : Js.numberJson x = Str.ofString "null") : Scalar .null (.num x)
  | missing : Scalar .null .undefined

/-- A scalar that both languages write alike. A number is whole and below `10 ^ 21` or keeps its fraction or its
exponent. -/
inductive ScalarAlike : Json → Js → Prop where
  | null : ScalarAlike .null .null
  | bool (b : Bool) : ScalarAlike (.bool b) (.bool b)
  | whole {n : ℤ} (h : n.natAbs < 10 ^ 21) : ScalarAlike (.int n) (.num (.finite n))
  | zero : ScalarAlike (.int 0) (.num .negZero)
  | float {q : ℚ} (h : Js.PrintsAlike q) : ScalarAlike (.float (.finite q)) (.num (.finite q))
  | lost {x : PyFloat} (h : Js.numberJson x = Str.ofString "null") : ScalarAlike .null (.num x)

namespace Js

theorem scalarUnit_numberJson (x : PyFloat) : ∀ u ∈ numberJson x, Json.isScalarUnit u = true := by
  have hnumber : ∀ q, ∀ u ∈ numberText (.finite q), Json.isNumberUnit u = true := by
    intro q u hu
    rw [numberText] at hu
    cases hs : Numerals.Sci.ofRat q with
    | some s =>
      rw [hs] at hu
      exact Json.number_numeral (Numerals.jsNumeral_ok hs _) false u hu
    | none =>
      rw [hs] at hu
      rcases List.mem_append.1 hu with hu | hu
      · exact Json.number_intText _ u hu
      · rcases List.mem_cons.1 hu with rfl | hu
        · decide
        · exact Json.number_natText _ u hu
  cases x with
  | finite q => exact fun u hu => Json.scalarUnit_of_number (hnumber q u hu)
  | negZero => exact List.all_eq_true.1 (show (Str.ofString "0").all Json.isScalarUnit = true by decide +kernel)
  | posInf | negInf | nan =>
    exact List.all_eq_true.1 (show (Str.ofString "null").all Json.isScalarUnit = true by decide +kernel)

/-- A word is no number. -/
theorem null_ne_number {s : Str} (h : ∀ u ∈ s, Json.isNumberUnit u = true) : Str.ofString "null" ≠ s := by
  rintro rfl
  exact absurd (h 0x6E (by decide)) (by decide)

theorem int_agrees_iff (n : ℤ) (x : PyFloat) : numberJson x = Numerals.intText n ↔ ScalarAlike (.int n) (.num x) := by
  constructor
  · intro h
    cases x with
    | finite q =>
      obtain ⟨rfl, hn⟩ := (numberText_eq_intText_iff q n).1 h
      exact .whole hn
    | negZero =>
      obtain rfl : 0 = n := Numerals.intText_inj h
      exact .zero
    | posInf | negInf | nan => exact absurd h (null_ne_number (Json.number_intText n))
  · intro h
    cases h with
    | whole hn => exact numberText_int hn
    | zero => rfl

theorem float_agrees_iff (x : PyFloat) : numberJson x = Json.floatDumps x ↔ ScalarAlike (.float x) (.num x) := by
  constructor
  · intro h
    cases x with
    | finite q => exact .float ((numberText_eq_floatText_iff q).1 h)
    | negZero | posInf | negInf | nan => exact absurd h (by decide +kernel)
  · intro h
    cases h with
    | float hq => exact (numberText_eq_floatText_iff _).2 hq

end Js

/-! ## Documents -/

/-- A document in both languages, with strings in `S` and scalars in `A`. -/
inductive Reading (S : Str → Prop) (A : Json → Js → Prop) : Json → Js → Prop where
  | scalar {v : Json} {w : Js} (h : A v w) : Reading S A v w
  | str {s : Str} (h : S s) : Reading S A (.str s) (.str s)
  | arr {qs : List (Json × Js)} (hd : ∀ q ∈ qs, q.2 ≠ .undefined) (h : ∀ q ∈ qs, Reading S A q.1 q.2) :
      Reading S A (.arr (qs.map (·.1))) (.arr (qs.map (·.2)))
  | obj {qs : List (Str × Json × Js)} {o : Props} (hs : ∀ q ∈ qs, S q.1) (hn : (qs.map (·.1)).Nodup)
      (h : ∀ q ∈ qs, Reading S A q.2.1 q.2.2) (ho : (qs.map fun q => (q.1, q.2.2)).Perm o) :
      Reading S A (.obj (qs.map fun q => (q.1, q.2.1))) (.obj o)

/-- Any strings, and any scalars. -/
abbrev Read : Json → Js → Prop := Reading (fun _ => True) Scalar

/-- Strings and scalars that both languages write alike. -/
abbrev Alike : Json → Js → Prop := Reading Text.Portable ScalarAlike

theorem Parsed.ne_undefined {v : Json} {w : Js} (h : Parsed v w) : w ≠ .undefined := by
  rintro rfl
  cases h

theorem zip_names {α β : Type} : ∀ {fs : List (Str × α)} {gs : List (Str × β)}, fs.map (·.1) = gs.map (·.1) →
    ∀ p ∈ fs.zip gs, p.1.1 = p.2.1
  | [], _, _, _, hp => by simp at hp
  | _ :: _, [], _, _, hp => by simp at hp
  | f :: fs, g :: gs, hk, p, hp => by
    rw [List.map_cons, List.map_cons, List.cons.injEq] at hk
    rcases List.mem_cons.1 hp with rfl | hp
    · exact hk.1
    · exact zip_names hk.2 p hp

/-- What both languages have read is a reading. -/
theorem Parsed.read {v : Json} {w : Js} (h : Parsed v w) : Read v w := by
  induction h with
  | null => exact .scalar .null
  | bool b => exact .scalar (.bool b)
  | int h => exact .scalar (.int h)
  | float x => exact .scalar (.float x)
  | str s => exact .str trivial
  | @arr xs ys hl h ih =>
    have hr : Read (.arr ((xs.zip ys).map (·.1))) (.arr ((xs.zip ys).map (·.2))) :=
      .arr (fun q hq => (h q hq).ne_undefined) ih
    rwa [List.map_fst_zip hl.le, List.map_snd_zip hl.ge] at hr
  | @obj fs gs o hk hn h ho ih =>
    have hl : fs.length = gs.length := by simpa using congrArg List.length hk
    let qs := (fs.zip gs).map fun p => (p.1.1, p.1.2, p.2.2)
    have hfs : qs.map (fun q => (q.1, q.2.1)) = fs := by
      rw [List.map_map]
      exact List.map_fst_zip hl.le
    have hgs : qs.map (fun q => (q.1, q.2.2)) = gs := by
      rw [List.map_map]
      conv_rhs => rw [← List.map_snd_zip hl.ge]
      refine List.map_congr_left fun p hp => Prod.ext ?_ rfl
      exact zip_names hk p hp
    have hr : Read (.obj (qs.map fun q => (q.1, q.2.1))) (.obj o) := by
      refine .obj (fun _ _ => trivial) ?_ ?_ (hgs ▸ ho)
      · have hnames : qs.map (·.1) = fs.map (·.1) := by
          conv_rhs => rw [← hfs, List.map_map]
          rfl
        rw [hnames]
        exact hn
      · rw [List.forall_mem_map]
        exact ih
    rwa [hfs] at hr

/-! ## The fields of a document -/

/-- Objects are alike if their names are portable and their values alike. -/
theorem alike_obj_iff {qs : List (Str × Json × Js)} (hn : (qs.map (·.1)).Nodup) :
    Alike (.obj (qs.map fun q => (q.1, q.2.1))) (.obj (qs.map fun q => (q.1, q.2.2))) ↔
      ∀ q ∈ qs, Text.Portable q.1 ∧ Alike q.2.1 q.2.2 := by
  constructor
  · intro h q hq
    generalize hv : Json.obj (qs.map fun q => (q.1, q.2.1)) = v at h
    generalize hw : Js.obj (qs.map fun q => (q.1, q.2.2)) = w at h
    cases h with
    | scalar hs => subst hv; cases hs
    | str _ => cases hv
    | arr _ _ => cases hv
    | @obj ps o hs _ hp ho =>
      have hfs := Json.obj.inj hv
      have hgs := Js.obj.inj hw
      have hleft : (q.1, q.2.1) ∈ ps.map fun p => (p.1, p.2.1) :=
        hfs ▸ List.mem_map_of_mem (f := fun q : Str × Json × Js => (q.1, q.2.1)) hq
      obtain ⟨p, hmem, hpq⟩ := List.mem_map.1 hleft
      have hright := ho.mem_iff.1 (List.mem_map_of_mem (f := fun p : Str × Json × Js => (p.1, p.2.2)) hmem)
      rw [← hgs] at hright
      obtain ⟨q', hq', hpq'⟩ := List.mem_map.1 hright
      simp only [Prod.mk.injEq] at hpq hpq'
      -- both are the field of the one name
      obtain rfl := List.inj_on_of_nodup_map hn hq' hq (hpq'.1.trans hpq.1)
      rw [← hpq.1, ← hpq.2, hpq'.2]
      exact ⟨hs p hmem, hp p hmem⟩
  · intro h
    exact .obj (fun q hq => (h q hq).1) hn (fun q hq => (h q hq).2) (.refl _)

theorem alike_str_iff {s : Str} : Alike (.str s) (.str s) ↔ Text.Portable s := by
  refine ⟨fun h => ?_, .str⟩
  cases h with
  | scalar hs => cases hs
  | str hs => exact hs

theorem not_alike_undefined (v : Json) : ¬Alike v .undefined := by
  intro h
  cases h with
  | scalar hs => cases hs

/-! ## Sorted properties -/

/-- Portable names are in the same order in both languages. -/
theorem Js.sortProps_portable {α : Type} {fs gs : List (Str × α)} (hp : fs.Perm gs) (hs : ∀ f ∈ fs, Text.Portable f.1)
    (hn : (gs.map (·.1)).Nodup) : Js.sortProps fs = sortFields gs := by
  have hperm : (Js.sortProps fs).Perm fs := List.perm_insertionSort Js.propLe fs
  refine eq_sortFields (hperm.trans hp) ?_ hn
  refine (List.pairwise_insertionSort Js.propLe fs).imp_of_mem fun {f g} hf hg hle => ?_
  rw [Js.propLe, ← (hs f (hperm.mem_iff.1 hf)).codePoints, ← (hs g (hperm.mem_iff.1 hg)).codePoints] at hle
  exact hle

/-! ## What Python reads back -/

namespace Js

/-- `json.loads` of the text of a number. -/
def loadedNumber : PyFloat → Json
  | .finite q => if q.den = 1 ∧ q.num.natAbs < 10 ^ 21 then .int q.num else .float (.finite q)
  | .negZero => .int 0
  | _ => .null

mutual

/-- `json.loads(JSON.stringify(v))`, and `None` for what is missing -/
def loaded : Js → Json
  | .undefined => .null
  | .null => .null
  | .bool b => .bool b
  | .num x => loadedNumber x
  | .str s => .str s
  | .arr xs => .arr (loadedList xs)
  | .obj fs => .obj (loadedProps fs)

def loadedList : List Js → List Json
  | [] => []
  | x :: xs => loaded x :: loadedList xs

def loadedProps : Props → Dict
  | [] => []
  | (_, .undefined) :: fs => loadedProps fs
  | (k, v) :: fs => (k, loaded v) :: loadedProps fs

end

theorem loadedList_eq (xs : List Js) : loadedList xs = xs.map loaded := by
  induction xs with
  | nil => rfl
  | cons x xs ih => rw [loadedList, ih, List.map_cons]

theorem loadedProps_cons {k : Str} {v : Js} (h : v ≠ .undefined) (fs : Props) :
    loadedProps ((k, v) :: fs) = (k, loaded v) :: loadedProps fs := by
  rw [loadedProps]
  exact h

theorem loadedProps_eq {fs : Props} (h : ∀ f ∈ fs, f.2 ≠ .undefined) : loadedProps fs = fs.map fun f => (f.1, loaded f.2) := by
  induction fs with
  | nil => rfl
  | cons f fs ih =>
    rw [List.forall_mem_cons] at h
    rw [loadedProps_cons h.1, ih h.2, List.map_cons]

/-- A field that is not missing is read back. -/
theorem has_loadedProps {fs : Props} {k : Str} {v : Js} (h : (k, v) ∈ fs) (hv : v ≠ .undefined) :
    (loadedProps fs).has k = true := by
  induction fs with
  | nil => cases h
  | cons f fs ih =>
    obtain ⟨j, w⟩ := f
    by_cases hw : w = .undefined
    · subst hw
      rcases List.mem_cons.1 h with h | h
      · cases h
        exact absurd rfl hv
      · rw [loadedProps]
        exact ih h
    · rw [loadedProps_cons hw, Dict.has, Dict.get?_cons]
      split
      · rfl
      · rename_i hj
        rcases List.mem_cons.1 h with h | h
        · cases h
          exact absurd rfl hj
        · exact ih h

/-- A field is read back under its name. -/
theorem get_loadedProps {fs : Props} (hn : (fs.map (·.1)).Nodup) (k : Str) :
    (loadedProps fs).get k = loaded (fs.get k) := by
  induction fs with
  | nil => rfl
  | cons f fs ih =>
    obtain ⟨j, v⟩ := f
    rw [List.map_cons, List.nodup_cons] at hn
    have ih := ih hn.2
    rw [Dict.get, Dict.getD] at ih ⊢
    rw [Props.get] at ih ⊢
    rw [Props.get?_cons]
    by_cases hd : v = .undefined
    · subst hd
      rw [loadedProps]
      by_cases hk : j = k
      · have hnone : Props.get? fs k = none := by
          cases hg : Props.get? fs k with
          | none => rfl
          | some w => exact absurd (List.mem_map_of_mem (f := (·.1)) (Props.mem_of_get? hg)) (hk ▸ hn.1)
        rw [hnone] at ih
        rw [if_pos hk, ih]
        rfl
      · rw [if_neg hk, ih]
    · rw [loadedProps_cons hd, Dict.get?_cons]
      by_cases hk : j = k
      · rw [if_pos hk, if_pos hk]
        rfl
      · rw [if_neg hk, if_neg hk, ih]

theorem ten_pow_lt_doubleOverflow : 10 ^ 21 < doubleOverflow := by
  have hpow : ∀ k, 84 ≤ k → 2 ^ 84 ≤ 2 ^ k := fun k hk => Nat.pow_le_pow_right (by decide) hk
  have hsmall : 10 ^ 21 < 2 ^ 84 := by decide
  have hsplit : ∀ k, 2 ^ (54 + k) = 2 ^ 54 * 2 ^ k := fun k => Nat.pow_add 2 54 k
  have hlarge := hpow 970 (by decide)
  have hwhole := hsplit 970
  rw [doubleOverflow]
  omega

theorem scalar_loadedNumber (x : PyFloat) : Scalar (loadedNumber x) (.num x) := by
  cases x with
  | finite q =>
    rw [loadedNumber]
    split
    · rename_i h
      obtain ⟨n, rfl⟩ : ∃ n : ℤ, q = n := ⟨q.num, (Rat.coe_int_num_of_den_eq_one h.1).symm⟩
      simp only [Rat.num_intCast] at h ⊢
      refine .int ?_
      by_cases hexact : n.natAbs ≤ 2 ^ 53
      · exact .exact hexact
      · exact .rounded (by omega) (h.2.trans ten_pow_lt_doubleOverflow) (by omega) rfl
    · exact .float _
  | negZero => exact .int (.negZero rfl)
  | posInf | negInf | nan => exact .lost rfl

end Js

/-- What Python reads back of a document is a reading of it. -/
theorem Parsed.read_loaded {v : Json} {w : Js} (h : Parsed v w) : Read w.loaded w := by
  induction h with
  | null => exact .scalar .null
  | bool b => exact .scalar (.bool b)
  | int _ => exact .scalar (Js.scalar_loadedNumber _)
  | float x => exact .scalar (Js.scalar_loadedNumber x)
  | str s => exact .str trivial
  | @arr xs ys hl h ih =>
    have hmem : ∀ y ∈ ys, Read y.loaded y ∧ y ≠ .undefined := by
      intro y hy
      rw [← List.map_snd_zip hl.ge] at hy
      obtain ⟨p, hp, rfl⟩ := List.mem_map.1 hy
      exact ⟨ih p hp, (h p hp).ne_undefined⟩
    have hr : Read (.arr ((ys.map fun y => (y.loaded, y)).map (·.1))) (.arr ((ys.map fun y => (y.loaded, y)).map (·.2))) := by
      refine .arr ?_ ?_ <;> rw [List.forall_mem_map]
      · exact fun y hy => (hmem y hy).2
      · exact fun y hy => (hmem y hy).1
    rw [List.map_map, List.map_map] at hr
    rw [Js.loaded, Js.loadedList_eq]
    simpa [Function.comp_def] using hr
  | @obj fs gs o hk hn h ho ih =>
    have hmem : ∀ g ∈ o, Read g.2.loaded g.2 ∧ g.2 ≠ .undefined := by
      intro g hg
      obtain ⟨v, -, hr⟩ := zip_right (P := fun _ w => Read w.loaded w ∧ w ≠ .undefined) hk
        (fun p hp => ⟨ih p hp, (h p hp).ne_undefined⟩) g (ho.mem_iff.2 hg)
      exact hr
    let qs := o.map fun g => (g.1, g.2.loaded, g.2)
    have hr : Read (.obj (qs.map fun q => (q.1, q.2.1))) (.obj o) := by
      refine .obj (fun _ _ => trivial) ?_ ?_ ?_
      · rw [List.map_map]
        exact (ho.map (·.1)).nodup_iff.1 (hk ▸ hn)
      · rw [List.forall_mem_map]
        exact fun g hg => (hmem g hg).1
      · rw [List.map_map]
        simp [Function.comp_def]
    rw [List.map_map] at hr
    rw [Js.loaded, Js.loadedProps_eq fun g hg => (hmem g hg).2]
    exact hr

end Lib
