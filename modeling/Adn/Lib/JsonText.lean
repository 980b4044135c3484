import Adn.Lib.Json
import Adn.Lib.Quoting
import Adn.Lib.Floats
/-!
# Canonical JSON text

`Json.dumps` is `json.dumps(v, sort_keys=True, separators=(",", ":"))`. The text
determines the document: `dumps_inj` recovers it up to the order of the keys of
its objects, which `Json.normalize` sorts away.
-/

namespace Lib

/-! ## Separators -/

def comma : UInt16 := 0x2C
def colon : UInt16 := 0x3A
def openBracket : UInt16 := 0x5B
def closeBracket : UInt16 := 0x5D
def openBrace : UInt16 := 0x7B
def closeBrace : UInt16 := 0x7D

/-- The texts of a list, separated by commas. -/
def joinComma : List Str → Str
  | [] => []
  | [t] => t
  | t :: ts => t ++ comma :: joinComma ts

theorem joinComma_cons_cons (t t' : Str) (ts : List Str) :
    joinComma (t :: t' :: ts) = t ++ comma :: joinComma (t' :: ts) := rfl

/-- The order of two fields' keys, by code points. -/
def fieldLe {α : Type} (f g : Str × α) : Prop := Text.codePoints f.1 ≤ Text.codePoints g.1

instance {α : Type} : DecidableRel (fieldLe (α := α)) := fun f g =>
  inferInstanceAs (Decidable (Text.codePoints f.1 ≤ Text.codePoints g.1))

instance {α : Type} : Std.Total (α := Str × α) fieldLe := ⟨fun f g => le_total (Text.codePoints f.1) (Text.codePoints g.1)⟩

instance {α : Type} : IsTrans (Str × α) fieldLe := ⟨fun _ _ _ h h' => le_trans (α := List ℕ) h h'⟩

def sortFields {α : Type} (fs : List (Str × α)) : List (Str × α) := fs.insertionSort fieldLe

theorem sortFields_map {α β : Type} (g : α → β) (fs : List (Str × α)) :
    sortFields (fs.map fun f => (f.1, g f.2)) = (sortFields fs).map fun f => (f.1, g f.2) :=
  (List.map_insertionSort (r := fieldLe) (s := fieldLe) (fun f : Str × α => (f.1, g f.2)) fs
    fun _ _ _ _ => Iff.rfl).symm

theorem sortFields_sortFields {α : Type} (fs : List (Str × α)) : sortFields (sortFields fs) = sortFields fs :=
  (List.pairwise_insertionSort fieldLe fs).insertionSort_eq

theorem mem_sortFields {α : Type} {fs : List (Str × α)} {f : Str × α} : f ∈ sortFields fs ↔ f ∈ fs :=
  (List.perm_insertionSort _ fs).mem_iff

/-- One field's text. -/
def fieldText (f : Str × Str) : Str := Text.quoteAscii f.1 ++ colon :: f.2

namespace Json

def floatDumps : PyFloat → Str
  | .finite q => Numerals.floatText q
  | .negZero => "-0.0"
  | .posInf => "Infinity"
  | .negInf => "-Infinity"
  | .nan => "NaN"

mutual

/-- `json.dumps(v, sort_keys=True, separators=(",", ":"))` -/
def dumps : Json → Str
  | .null => "null"
  | .bool b => if b then "true" else "false"
  | .int n => Numerals.intText n
  | .float x => floatDumps x
  | .str s => Text.quoteAscii s
  | .arr xs => openBracket :: joinComma (dumpsList xs) ++ [closeBracket]
  | .obj fs => openBrace :: joinComma ((sortFields (dumpsFields fs)).map fieldText) ++ [closeBrace]

def dumpsList : List Json → List Str
  | [] => []
  | x :: xs => dumps x :: dumpsList xs

def dumpsFields : Dict → List (Str × Str)
  | [] => []
  | (k, v) :: fs => (k, dumps v) :: dumpsFields fs

end

mutual

/-- The document with the keys of every object sorted. -/
def normalize : Json → Json
  | .arr xs => .arr (normalizeList xs)
  | .obj fs => .obj (sortFields (normalizeFields fs))
  | v => v

def normalizeList : List Json → List Json
  | [] => []
  | x :: xs => normalize x :: normalizeList xs

def normalizeFields : Dict → Dict
  | [] => []
  | (k, v) :: fs => (k, normalize v) :: normalizeFields fs

end

/-- The same document, up to the order of the keys of its objects. -/
def Same (v w : Json) : Prop := v.normalize = w.normalize

theorem Same.refl (v : Json) : Same v v := rfl

theorem dumpsList_eq (xs : List Json) : dumpsList xs = xs.map dumps := by
  induction xs with
  | nil => rfl
  | cons x xs ih => rw [dumpsList, ih, List.map_cons]

theorem dumpsFields_eq (fs : Dict) : dumpsFields fs = fs.map fun f => (f.1, dumps f.2) := by
  induction fs with
  | nil => rfl
  | cons f fs ih => rw [dumpsFields, ih, List.map_cons]

theorem normalizeList_eq (xs : List Json) : normalizeList xs = xs.map normalize := by
  induction xs with
  | nil => rfl
  | cons x xs ih => rw [normalizeList, ih, List.map_cons]

theorem normalizeFields_eq (fs : Dict) : normalizeFields fs = fs.map fun f => (f.1, normalize f.2) := by
  induction fs with
  | nil => rfl
  | cons f fs ih => rw [normalizeFields, ih, List.map_cons]

theorem dumps_arr (xs : List Json) : dumps (.arr xs) = openBracket :: joinComma (xs.map dumps) ++ [closeBracket] := by
  rw [dumps, dumpsList_eq]

theorem dumps_obj (fs : Dict) : dumps (.obj fs) =
    openBrace :: joinComma ((sortFields fs).map fun f => fieldText (f.1, dumps f.2)) ++ [closeBrace] := by
  rw [dumps, dumpsFields_eq, sortFields_map, List.map_map]
  rfl

theorem normalize_arr (xs : List Json) : normalize (.arr xs) = .arr (xs.map normalize) := by
  rw [normalize, normalizeList_eq]

theorem normalize_obj (fs : Dict) : normalize (.obj fs) = .obj ((sortFields fs).map fun f => (f.1, normalize f.2)) := by
  rw [normalize, normalizeFields_eq, sortFields_map]

section
variable (quote : Str → Str)

mutual

/-- The text of a document whose strings are written by `quote`. -/
def textWith : Json → Str
  | .str s => quote s
  | .arr xs => openBracket :: joinComma (textsWith xs) ++ [closeBracket]
  | .obj fs => openBrace :: joinComma ((sortFields (fieldTextsWith fs)).map fun f => quote f.1 ++ colon :: f.2) ++ [closeBrace]
  | .null => dumps .null
  | .bool b => dumps (.bool b)
  | .int n => dumps (.int n)
  | .float x => dumps (.float x)

def textsWith : List Json → List Str
  | [] => []
  | x :: xs => textWith x :: textsWith xs

def fieldTextsWith : Dict → List (Str × Str)
  | [] => []
  | (k, v) :: fs => (k, textWith v) :: fieldTextsWith fs

end

theorem textsWith_eq (xs : List Json) : textsWith quote xs = xs.map (textWith quote) := by
  induction xs with
  | nil => rfl
  | cons x xs ih => rw [textsWith, ih, List.map_cons]

theorem fieldTextsWith_eq (fs : Dict) : fieldTextsWith quote fs = fs.map fun f => (f.1, textWith quote f.2) := by
  induction fs with
  | nil => rfl
  | cons f fs ih => rw [fieldTextsWith, ih, List.map_cons]

theorem textWith_arr (xs : List Json) :
    textWith quote (.arr xs) = openBracket :: joinComma (xs.map (textWith quote)) ++ [closeBracket] := by
  rw [textWith, textsWith_eq]

theorem textWith_obj (fs : Dict) : textWith quote (.obj fs) = openBrace ::
    joinComma ((sortFields fs).map fun f => quote f.1 ++ colon :: textWith quote f.2) ++ [closeBrace] := by
  rw [textWith, fieldTextsWith_eq, sortFields_map, List.map_map]
  rfl

theorem textWith_normalize (v : Json) : textWith quote (normalize v) = textWith quote v := by
  induction v using Json.ind with
  | arr xs ih =>
    rw [normalize_arr, textWith_arr, textWith_arr, List.map_map]
    rw [show xs.map (textWith quote ∘ normalize) = xs.map (textWith quote) from List.map_congr_left ih]
  | obj fs ih =>
    rw [normalize_obj, textWith_obj, textWith_obj, sortFields_map, sortFields_sortFields, List.map_map]
    have : ∀ f ∈ sortFields fs, quote f.1 ++ colon :: textWith quote (normalize f.2) = quote f.1 ++ colon :: textWith quote f.2 :=
      fun f hf => by rw [ih f (mem_sortFields.1 hf)]
    rw [← List.map_congr_left this]
    rfl
  | _ => rfl

end

/-- `json.dumps` writes ASCII literals. -/
theorem textWith_quoteAscii (v : Json) : textWith Text.quoteAscii v = dumps v := by
  induction v using Json.ind with
  | arr xs ih => rw [textWith_arr, dumps_arr, List.map_congr_left ih]
  | obj fs ih =>
    have : ∀ f ∈ sortFields fs, Text.quoteAscii f.1 ++ colon :: textWith Text.quoteAscii f.2 = fieldText (f.1, dumps f.2) :=
      fun f hf => by rw [ih f (mem_sortFields.1 hf), fieldText]
    rw [textWith_obj, dumps_obj, List.map_congr_left this]
  | _ => rfl

/-- Same objects have the same fields. -/
theorem Same.field {fs gs : Dict} (h : Same (.obj fs) (.obj gs)) {k : Str} {v : Json} (hk : (k, v) ∈ fs) :
    ∃ w, (k, w) ∈ gs ∧ Same v w := by
  rw [Same, normalize_obj, normalize_obj, Json.obj.injEq] at h
  have hm : (k, v.normalize) ∈ (sortFields gs).map fun f => (f.1, normalize f.2) := by
    rw [← h]
    exact List.mem_map.2 ⟨(k, v), mem_sortFields.2 hk, rfl⟩
  obtain ⟨⟨k', w⟩, hw, he⟩ := List.mem_map.1 hm
  obtain ⟨rfl, hv⟩ := Prod.mk.inj he
  exact ⟨w, mem_sortFields.1 hw, hv.symm⟩

theorem get?_orderedInsert (f : Str × Json) (fs : Dict) (k : Str) :
    Dict.get? (fs.orderedInsert fieldLe f) k = Dict.get? (f :: fs) k := by
  induction fs with
  | nil => rfl
  | cons g fs ih =>
    rw [List.orderedInsert]
    split
    · rfl
    · rename_i hlt
      have hne : f.1 ≠ g.1 := fun he => hlt (by rw [fieldLe, he])
      rw [Dict.get?_cons, ih, Dict.get?_cons, Dict.get?_cons, Dict.get?_cons]
      by_cases hk : g.1 = k
      · rw [if_pos hk, if_neg (hk ▸ hne), if_pos hk]
      · rw [if_neg hk, if_neg hk]

/-- Sorting keeps the first of two fields with one name first. -/
theorem get?_sortFields (fs : Dict) (k : Str) : Dict.get? (sortFields fs) k = Dict.get? fs k := by
  induction fs with
  | nil => rfl
  | cons f fs ih =>
    rw [sortFields, List.insertionSort_cons, get?_orderedInsert, Dict.get?_cons, Dict.get?_cons, ← sortFields, ih]

/-- Same objects have the same value under each name. -/
theorem Same.get {fs gs : Dict} (h : Same (.obj fs) (.obj gs)) (k : Str) : Same (fs.get k) (gs.get k) := by
  rw [Same, normalize_obj, normalize_obj, Json.obj.injEq] at h
  have hk := congrArg (fun d => Dict.get? d k) h
  simp only [Dict.get?_map_value, get?_sortFields] at hk
  rw [Dict.get, Dict.get, Dict.getD, Dict.getD]
  cases hf : Dict.get? fs k with
  | none =>
    rw [hf, Option.map_none, eq_comm, Option.map_eq_none_iff] at hk
    rw [hk]
    rfl
  | some v =>
    rw [hf, Option.map_some, eq_comm, Option.map_eq_some_iff] at hk
    obtain ⟨w, hw, hs⟩ := hk
    rw [hw]
    exact hs.symm

/-- Objects with the same values under the same names, in one order. -/
theorem Same.of_fields {fs gs : Dict} (h : List.Forall₂ (fun f g => f.1 = g.1 ∧ Same f.2 g.2) fs gs) :
    Same (.obj fs) (.obj gs) := by
  rw [Same, normalize, normalize, normalizeFields_eq, normalizeFields_eq]
  refine congrArg (fun d => Json.obj (sortFields d)) ?_
  induction h with
  | nil => rfl
  | cons hf _ ih => rw [List.map_cons, List.map_cons, ih, hf.1, hf.2]

theorem truthy_normalize (v : Json) : v.normalize.truthy = v.truthy := by
  cases v with
  | arr xs => cases xs <;> rfl
  | obj fs =>
    have hl : (sortFields fs).length = fs.length := (List.perm_insertionSort _ fs).length_eq
    rw [normalize_obj, truthy, truthy, List.isEmpty_map, Bool.eq_iff_iff]
    simp only [Bool.not_eq_true', List.isEmpty_eq_false_iff, ← List.length_pos_iff, hl]
  | _ => rfl

theorem Same.truthy {v w : Json} (h : Same v w) : v.truthy = w.truthy := by
  rw [← truthy_normalize v, ← truthy_normalize w, h]

theorem Same.eq_null {v : Json} (h : Same v .null) : v = .null := by
  cases v with
  | null => rfl
  | _ => cases h

end Json

/-! ## Reading a list of texts back -/

/-- A character that separates or ends values. -/
def isEnder (u : UInt16) : Bool := u = comma || u = closeBracket || u = closeBrace

/-- The text after a value: the end, or a separator. -/
def Ends (r : Str) : Prop := ∀ u ∈ r.head?, isEnder u = true

theorem ends_nil : Ends [] := by intro u hu; cases hu

theorem ends_cons {u : UInt16} {r : Str} (h : isEnder u = true) : Ends (u :: r) := by
  intro v hv
  cases hv
  exact h

/-- A text that starts like a value does. -/
def Starts (t : Str) : Prop := ∃ u ∈ t.head?, isEnder u = false

theorem Starts.append {t : Str} (h : Starts t) (r : Str) : Starts (t ++ r) := by
  obtain ⟨u, hu, he⟩ := h
  cases t with
  | nil => cases hu
  | cons v t => exact ⟨u, hu, he⟩

theorem Starts.ne_ends {t r : Str} (h : Starts t) (hr : Ends r) : t ≠ r := by
  rintro rfl
  obtain ⟨u, hu, he⟩ := h
  rw [hr u hu] at he
  cases he

theorem joinComma_cons (t : Str) (ts : List Str) :
    joinComma (t :: ts) = t ++ (if ts = [] then [] else comma :: joinComma ts) := by
  cases ts with
  | nil => simp [joinComma]
  | cons t' ts => rw [joinComma_cons_cons, if_neg (List.cons_ne_nil _ _)]

theorem ends_rest (ts : List Str) {c : UInt16} (hc : isEnder c = true) (r : Str) :
    Ends ((if ts = [] then [] else comma :: joinComma ts) ++ c :: r) := by
  split
  · exact ends_cons hc
  · exact ends_cons (by decide)

/-- If the text of each element of `xs` can be read back, so can the text of the
list, up to the closing character `c`. -/
theorem joinComma_cancel {α β : Type} {t : α → Str} {n : α → β} {c : UInt16} (hc : isEnder c = true) (hcc : c ≠ comma)
    (hs : ∀ x, Starts (t x)) : ∀ {xs ys : List α} {r r' : Str},
      (∀ x ∈ xs, ∀ y s s', Ends s → Ends s' → t x ++ s = t y ++ s' → n x = n y ∧ s = s') →
      joinComma (xs.map t) ++ c :: r = joinComma (ys.map t) ++ c :: r' → xs.map n = ys.map n ∧ r = r'
  | [], [], _, _, _, h => ⟨rfl, (List.cons.inj h).2⟩
  | [], y :: ys, _, _, _, h => by
    rw [List.map_cons, joinComma_cons, List.append_assoc] at h
    exact absurd h.symm (((hs y).append _).ne_ends (ends_cons hc))
  | x :: xs, [], _, _, _, h => by
    rw [List.map_cons, joinComma_cons, List.append_assoc] at h
    exact absurd h (((hs x).append _).ne_ends (ends_cons hc))
  | x :: xs, y :: ys, r, r', hx, h => by
    rw [List.map_cons, List.map_cons, joinComma_cons, joinComma_cons, List.append_assoc, List.append_assoc] at h
    obtain ⟨hn, h'⟩ := hx x List.mem_cons_self y _ _ (ends_rest _ hc r) (ends_rest _ hc r') h
    have hrest : xs.map n = ys.map n ∧ r = r' := by
      cases xs with
      | nil =>
        cases ys with
        | nil => exact ⟨rfl, (List.cons.inj h').2⟩
        | cons y' ys => exact absurd (List.cons.inj h').1 hcc
      | cons x' xs =>
        cases ys with
        | nil => exact absurd (List.cons.inj h').1.symm hcc
        | cons y' ys => exact joinComma_cancel hc hcc hs (fun z hz => hx z (List.mem_cons_of_mem _ hz)) (List.cons.inj h').2
    exact ⟨by rw [List.map_cons, List.map_cons, hn, hrest.1], hrest.2⟩

/-- Two texts of one list that agree agree element by element. -/
theorem joinComma_parallel {α : Type} {t t' : α → Str} {P : α → Prop} {c : UInt16} (hc : isEnder c = true) :
    ∀ {xs : List α} {r r' : Str}, (∀ x ∈ xs, ∀ s s', Ends s → Ends s' → t x ++ s = t' x ++ s' → P x ∧ s = s') →
      joinComma (xs.map t) ++ c :: r = joinComma (xs.map t') ++ c :: r' → (∀ x ∈ xs, P x) ∧ r = r'
  | [], _, _, _, h => ⟨by simp, (List.cons.inj h).2⟩
  | x :: xs, r, r', hx, h => by
    rw [List.map_cons, List.map_cons, joinComma_cons, joinComma_cons, List.append_assoc, List.append_assoc] at h
    obtain ⟨hp, h'⟩ := hx x List.mem_cons_self _ _ (ends_rest _ hc r) (ends_rest _ hc r') h
    have hrest : (∀ y ∈ xs, P y) ∧ r = r' := by
      cases xs with
      | nil => exact ⟨by simp, (List.cons.inj h').2⟩
      | cons y ys => exact joinComma_parallel hc (fun z hz => hx z (List.mem_cons_of_mem _ hz)) (List.cons.inj h').2
    exact ⟨List.forall_mem_cons.2 ⟨hp, hrest.1⟩, hrest.2⟩

/-! ## Scalars -/

namespace Json

/-- A value that is neither a string nor a container. -/
def isScalar : Json → Bool
  | .str _ => false
  | .arr _ => false
  | .obj _ => false
  | _ => true

/-- The scalars written as words. -/
def word? : Json → Option String
  | .null => some "null"
  | .bool b => some (if b then "true" else "false")
  | .float .posInf => some "Infinity"
  | .float .negInf => some "-Infinity"
  | .float .nan => some "NaN"
  | _ => none

def isNumberUnit (u : UInt16) : Bool :=
  Numerals.isDigit u || u = 0x2D || u = 0x2B || u = 0x2E || u = 0x65 || u = 0x2F

/-- The characters of a scalar: not a quote, an opening bracket or a separator. -/
def isScalarUnit (u : UInt16) : Bool :=
  !isEnder u && !(u = Text.quotationMark || u = openBracket || u = openBrace)

theorem scalarUnit_of_number {u : UInt16} (h : isNumberUnit u = true) : isScalarUnit u = true := by
  by_contra hn
  have hu : u = comma ∨ u = closeBracket ∨ u = closeBrace ∨ u = Text.quotationMark ∨ u = openBracket ∨ u = openBrace := by
    simp only [isScalarUnit, isEnder, Bool.and_eq_true, Bool.not_eq_true', Bool.or_eq_false_iff,
      decide_eq_false_iff_not, not_and_or, not_not] at hn
    tauto
  rcases hu with rfl | rfl | rfl | rfl | rfl | rfl <;> exact absurd h (by decide)

theorem number_digitsText {ds : List ℕ} (hd : Numerals.Digits ds) : ∀ u ∈ Numerals.digitsText ds, isNumberUnit u = true := by
  intro u hu
  rw [isNumberUnit, Numerals.isDigit_digitsText hd u hu]
  rfl

theorem number_natText (n : ℕ) : ∀ u ∈ Numerals.natText n, isNumberUnit u = true :=
  number_digitsText (Numerals.digits_natDigits n)

theorem number_intText (n : ℤ) : ∀ u ∈ Numerals.intText n, isNumberUnit u = true := by
  intro u hu
  unfold Numerals.intText at hu
  split at hu
  · rcases List.mem_cons.1 hu with rfl | hu
    · decide
    · exact number_natText _ u hu
  · exact number_natText _ u hu

theorem number_numeral {t : Numerals.Numeral} (h : t.Ok) (pad : Bool) : ∀ u ∈ t.text pad, isNumberUnit u = true := by
  intro u hu
  simp only [Numerals.Numeral.text, List.mem_append] at hu
  rcases hu with hu | hu | hu | hu
  · unfold Numerals.Numeral.signText at hu
    split at hu
    · rw [List.mem_singleton.1 hu]; decide
    · cases hu
  · exact number_digitsText h.int u hu
  · unfold Numerals.Numeral.fracText at hu
    split at hu
    · cases hu
    · rcases List.mem_cons.1 hu with rfl | hu
      · decide
      · exact number_digitsText h.frac u hu
  · cases he : t.exp with
    | none => rw [he] at hu; cases hu
    | some e =>
      rw [he, Numerals.Numeral.expText, List.mem_cons, List.mem_cons] at hu
      rcases hu with rfl | rfl | hu
      · decide
      · split <;> decide
      · split at hu
        · exact number_digitsText (Numerals.Numeral.digits_padTwo _) u hu
        · exact number_natText _ u hu

theorem number_floatText (q : ℚ) : ∀ u ∈ Numerals.floatText q, isNumberUnit u = true := by
  unfold Numerals.floatText
  split
  · exact number_numeral (Numerals.pyNumeral_ok ‹_› _) true
  · intro u hu
    rcases List.mem_append.1 hu with hu | hu
    · exact number_intText _ u hu
    · rcases List.mem_cons.1 hu with rfl | hu
      · decide
      · exact number_natText _ u hu

theorem dumps_word {v : Json} {w : String} (h : word? v = some w) : dumps v = w := by
  cases v with
  | null => cases h; rfl
  | bool b => cases h; cases b <;> rfl
  | float x => cases x <;> first | (cases h; rfl) | cases h
  | _ => cases h

theorem word_unit {v : Json} {w : String} (h : word? v = some w) :
    (∃ u ∈ dumps v, isNumberUnit u = false) ∧ ∀ u ∈ dumps v, isScalarUnit u = true := by
  have hw : (Str.ofString w).any (fun u => !isNumberUnit u) = true ∧ (Str.ofString w).all isScalarUnit = true := by
    cases v with
    | null => cases h; decide +kernel
    | bool b => cases b <;> (cases h; decide +kernel)
    | float x => cases x <;> first | (cases h; decide +kernel) | cases h
    | _ => cases h
  simpa only [dumps_word h, List.any_eq_true, List.all_eq_true, Bool.not_eq_true'] using hw

theorem number_of_not_word {v : Json} (hs : v.isScalar = true) (hw : word? v = none) :
    ∀ u ∈ dumps v, isNumberUnit u = true := by
  cases v with
  | int n => exact number_intText n
  | float x =>
    cases x with
    | finite q => exact number_floatText q
    | negZero => exact List.all_eq_true.1 (show (Str.ofString "-0.0").all isNumberUnit = true by decide +kernel)
    | _ => cases hw
  | null | bool => cases hw
  | str | arr | obj => cases hs

theorem scalar_units {v : Json} (hs : v.isScalar = true) : ∀ u ∈ dumps v, isScalarUnit u = true := by
  cases hw : word? v with
  | some w => exact (word_unit hw).2
  | none => exact fun u hu => scalarUnit_of_number (number_of_not_word hs hw u hu)

theorem floatText_ne_negZero (q : ℚ) : Numerals.floatText q ≠ Str.ofString "-0.0" := by
  intro h
  unfold Numerals.floatText at h
  split at h
  · rename_i s hs
    have ht : (⟨true, [0], [0], none⟩ : Numerals.Numeral).text true = Str.ofString "-0.0" := by decide
    have he := Numerals.Numeral.text_inj (Numerals.pyNumeral_ok hs _)
      (t := ⟨true, [0], [0], none⟩) ⟨by simp, by simp [Numerals.Digits], by simp [Numerals.Digits]⟩ (h.trans ht.symm)
    have hv := Numerals.pyNumeral_value hs
    have hn : (Numerals.pyNumeral (decide (q < 0)) s).neg = decide (q < 0) := by
      unfold Numerals.pyNumeral Numerals.fixed Numerals.expo
      split_ifs <;> rfl
    rw [he] at hv hn
    have h0 : q = 0 := by rw [← hv]; decide +kernel
    rw [h0] at hn
    exact absurd hn (by decide)
  · exact absurd (by rw [← h]; simp) (show (0x2F : UInt16) ∉ Str.ofString "-0.0" by decide)

theorem int_ne_float (n : ℤ) {x : PyFloat} (hw : word? (.float x) = none) : Numerals.intText n ≠ floatDumps x := by
  cases x with
  | finite q => exact (Numerals.floatText_ne_intText q n).symm
  | negZero =>
    intro h
    have := Numerals.intText_unmarked n 0x2E (by rw [h]; decide)
    exact absurd this (by decide)
  | _ => cases hw

/-- The scalar a word stands for. -/
def ofWord (w : String) : Json :=
  if w = "null" then .null
  else if w = "true" then .bool true
  else if w = "false" then .bool false
  else if w = "Infinity" then .float .posInf
  else if w = "-Infinity" then .float .negInf
  else .float .nan

theorem ofWord_word {v : Json} {w : String} (h : word? v = some w) : v = ofWord w := by
  cases v with
  | null => cases h; rfl
  | bool b => cases b <;> (cases h; rfl)
  | float x => cases x <;> first | (cases h; rfl) | cases h
  | _ => cases h

theorem number_inj {v w : Json} (hv : v.isScalar = true) (hw : w.isScalar = true) (hwv : word? v = none)
    (hww : word? w = none) (h : dumps v = dumps w) : v = w := by
  cases v with
  | int n =>
    cases w with
    | int m => rw [Numerals.intText_inj h]
    | float y => exact absurd h (int_ne_float n hww)
    | null | bool => cases hww
    | str | arr | obj => cases hw
  | float x =>
    cases w with
    | int m => exact absurd h.symm (int_ne_float m hwv)
    | float y =>
      cases x with
      | finite p =>
        cases y with
        | finite q => rw [Numerals.floatText_inj h]
        | negZero => exact absurd h (floatText_ne_negZero p)
        | _ => cases hww
      | negZero =>
        cases y with
        | finite q => exact absurd h.symm (floatText_ne_negZero q)
        | negZero => rfl
        | _ => cases hww
      | _ => cases hwv
    | null | bool => cases hww
    | str | arr | obj => cases hw
  | null | bool => cases hwv
  | str | arr | obj => cases hv

/-- Scalars with the same text are the same. -/
theorem scalar_inj {v w : Json} (hv : v.isScalar = true) (hw : w.isScalar = true) (h : dumps v = dumps w) : v = w := by
  cases hwv : word? v with
  | some a =>
    cases hww : word? w with
    | some b =>
      rw [dumps_word hwv, dumps_word hww, Text.ofString_inj] at h
      rw [ofWord_word hwv, ofWord_word hww, h]
    | none =>
      obtain ⟨u, hu, hn⟩ := (word_unit hwv).1
      rw [h] at hu
      rw [number_of_not_word hw hww u hu] at hn
      cases hn
  | none =>
    cases hww : word? w with
    | some b =>
      obtain ⟨u, hu, hn⟩ := (word_unit hww).1
      rw [← h] at hu
      rw [number_of_not_word hv hwv u hu] at hn
      cases hn
    | none => exact number_inj hv hw hwv hww h

/-! ## Reading a document back -/

theorem dumps_ne_nil {v : Json} (hv : v.isScalar = true) : dumps v ≠ [] := by
  cases v with
  | null => simp only [dumps]; decide
  | bool b => cases b <;> (simp only [dumps]; decide)
  | int n => exact Numerals.intText_ne_nil n
  | float x =>
    cases x with
    | finite q => exact Numerals.floatText_ne_nil q
    | _ => simp only [dumps, floatDumps]; decide +kernel
  | str | arr | obj => cases hv

theorem scalar_head {v : Json} (hv : v.isScalar = true) : ∃ u ∈ (dumps v).head?, isScalarUnit u = true := by
  have hu := scalar_units hv
  cases hd : dumps v with
  | nil => exact absurd hd (dumps_ne_nil hv)
  | cons u t => exact ⟨u, rfl, hu u (by rw [hd]; exact List.mem_cons_self)⟩

/-- A scalar's text does not start like a string, a list or an object. -/
theorem scalar_ne_cons {v : Json} (hv : v.isScalar = true) {c : UInt16} (hc : isScalarUnit c = false) (r t : Str) :
    dumps v ++ r ≠ c :: t := by
  intro h
  obtain ⟨u, hu, hs⟩ := scalar_head hv
  cases hd : dumps v with
  | nil => exact dumps_ne_nil hv hd
  | cons w ws =>
    rw [hd] at h hu
    cases hu
    rw [(List.cons.inj h).1, hc] at hs
    cases hs

theorem stops_of_ends {s : Str} (h : Ends s) : Numerals.Stops isScalarUnit s := by
  intro u hu
  have := h u hu
  simp only [isScalarUnit, this, Bool.not_true, Bool.false_and]

theorem textWith_scalar {quote : Str → Str} {v : Json} (hv : v.isScalar = true) : textWith quote v = dumps v := by
  cases v with
  | str | arr | obj => cases hv
  | _ => rfl

section
variable {quote : Str → Str} (hopen : ∀ s, ∃ t, quote s = Text.quotationMark :: t)

include hopen

/-- The opening character of a value that is not a scalar. -/
theorem scalar_or_opens (v : Json) :
    v.isScalar = true ∨ ∃ c t, textWith quote v = c :: t ∧ isScalarUnit c = false ∧ isEnder c = false := by
  cases v with
  | str s =>
    obtain ⟨t, ht⟩ := hopen s
    exact .inr ⟨Text.quotationMark, t, ht, by decide, by decide⟩
  | arr xs => exact .inr ⟨openBracket, _, by rw [textWith]; rfl, by decide, by decide⟩
  | obj fs => exact .inr ⟨openBrace, _, by rw [textWith]; rfl, by decide, by decide⟩
  | _ => exact .inl rfl

theorem starts_textWith (v : Json) : Starts (textWith quote v) := by
  rcases scalar_or_opens hopen v with hv | ⟨c, t, ht, -, hc⟩
  · obtain ⟨u, hu, h⟩ := scalar_head hv
    rw [textWith_scalar hv]
    refine ⟨u, hu, ?_⟩
    simp only [isScalarUnit, Bool.and_eq_true, Bool.not_eq_true'] at h
    exact h.1
  · exact ⟨c, by rw [ht]; rfl, hc⟩

theorem scalar_cancel {v w : Json} {r r' : Str} (hv : v.isScalar = true) (hr : Ends r) (hr' : Ends r')
    (h : textWith quote v ++ r = textWith quote w ++ r') : v = w ∧ r = r' := by
  have hw : w.isScalar = true := by
    rcases scalar_or_opens hopen w with hw | ⟨c, t, hd, hc, -⟩
    · exact hw
    · rw [textWith_scalar hv, hd] at h
      exact absurd h (scalar_ne_cons hv hc _ _)
  rw [textWith_scalar hv, textWith_scalar hw] at h
  obtain ⟨h1, h2⟩ := Numerals.run_cancel (scalar_units hv) (scalar_units hw) (stops_of_ends hr) (stops_of_ends hr') h
  exact ⟨scalar_inj hv hw h1, h2⟩

variable (hquote : ∀ {s t r r'}, quote s ++ r = quote t ++ r' → s = t ∧ r = r')

include hquote

/-- A document's text ends where the document does, and determines it, if the literals of its strings do. -/
theorem textWith_cancel (v : Json) : ∀ w r r', Ends r → Ends r' → textWith quote v ++ r = textWith quote w ++ r' →
    normalize v = normalize w ∧ r = r' := by
  have scalar : ∀ {v : Json}, v.isScalar = true → ∀ w r r', Ends r → Ends r' →
      textWith quote v ++ r = textWith quote w ++ r' → normalize v = normalize w ∧ r = r' := by
    intro v hv w r r' hr hr' h
    obtain ⟨rfl, h2⟩ := scalar_cancel hopen hv hr hr' h
    exact ⟨rfl, h2⟩
  -- a scalar on the other side has another first character
  have opens : ∀ {v w : Json} {c : UInt16} {t r r' : Str}, textWith quote v = c :: t → isScalarUnit c = false →
      w.isScalar = true → textWith quote v ++ r ≠ textWith quote w ++ r' := by
    intro v w c t r r' hv hc hw h
    rw [hv, textWith_scalar hw] at h
    exact scalar_ne_cons hw hc _ _ h.symm
  induction v using Json.ind with
  | null => exact scalar rfl
  | bool b => exact scalar rfl
  | int n => exact scalar rfl
  | float x => exact scalar rfl
  | str s =>
    intro w r r' _ _ h
    obtain ⟨t, ht⟩ := hopen s
    cases w with
    | str u =>
      obtain ⟨rfl, h2⟩ := hquote h
      exact ⟨rfl, h2⟩
    | arr | obj =>
      simp only [textWith, ht, List.cons_append] at h
      exact absurd (List.cons.inj h).1 (by decide)
    | _ => exact absurd h (opens ht (by decide) rfl)
  | arr xs ih =>
    intro w r r' hr hr' h
    cases w with
    | arr ys =>
      rw [textWith_arr, textWith_arr] at h
      simp only [List.cons_append, List.append_assoc, List.nil_append, List.cons.injEq, true_and] at h
      obtain ⟨h1, h2⟩ := joinComma_cancel (by decide) (by decide) (starts_textWith hopen) ih h
      exact ⟨by rw [normalize_arr, normalize_arr, h1], h2⟩
    | str u =>
      obtain ⟨t, ht⟩ := hopen u
      simp only [textWith, ht, List.cons_append] at h
      exact absurd (List.cons.inj h).1 (by decide)
    | obj =>
      simp only [textWith, List.cons_append] at h
      exact absurd (List.cons.inj h).1 (by decide)
    | _ => exact absurd h (opens (textWith_arr quote xs) (by decide) rfl)
  | obj fs ih =>
    intro w r r' hr hr' h
    cases w with
    | obj gs =>
      rw [textWith_obj, textWith_obj] at h
      simp only [List.cons_append, List.append_assoc, List.nil_append, List.cons.injEq, true_and] at h
      obtain ⟨h1, h2⟩ := joinComma_cancel (t := fun f : Str × Json => quote f.1 ++ colon :: textWith quote f.2)
        (n := fun f => (f.1, normalize f.2)) (by decide) (by decide)
        (fun f => by
          obtain ⟨t, ht⟩ := hopen f.1
          exact ⟨Text.quotationMark, by rw [ht]; rfl, by decide⟩)
        (fun f hf g s s' hs hs' hfg => by
          simp only [List.append_assoc, List.cons_append] at hfg
          obtain ⟨hk, hfg⟩ := hquote hfg
          obtain ⟨hv, hrest⟩ := ih f (mem_sortFields.1 hf) g.2 s s' hs hs' (List.cons.inj hfg).2
          exact ⟨by rw [hk, hv], hrest⟩) h
      exact ⟨by rw [normalize_obj, normalize_obj, h1], h2⟩
    | str u =>
      obtain ⟨t, ht⟩ := hopen u
      simp only [textWith, ht, List.cons_append] at h
      exact absurd (List.cons.inj h).1 (by decide)
    | arr =>
      simp only [textWith, List.cons_append] at h
      exact absurd (List.cons.inj h).1 (by decide)
    | _ => exact absurd h (opens (textWith_obj quote fs) (by decide) rfl)

/-- The text of a document determines it, up to the order of its objects' keys. -/
theorem textWith_inj {v w : Json} (h : textWith quote v = textWith quote w) : Same v w :=
  (textWith_cancel hopen hquote v w [] [] ends_nil ends_nil (by rw [h])).1

end

theorem textWith_congr (quote : Str → Str) {v w : Json} (h : Same v w) : textWith quote v = textWith quote w := by
  rw [← textWith_normalize, h, textWith_normalize]

theorem dumps_congr {v w : Json} (h : Same v w) : dumps v = dumps w := by
  rw [← textWith_quoteAscii, textWith_congr _ h, textWith_quoteAscii]

/-- So does the text that `json.dumps` writes. -/
theorem dumps_inj {v w : Json} (h : dumps v = dumps w) : Same v w := by
  rw [← textWith_quoteAscii, ← textWith_quoteAscii] at h
  exact textWith_inj (fun s => ⟨_, rfl⟩) Text.quoteAscii_cancel h

/-! ## Plain text -/

theorem plain_joinComma : ∀ {ts : List Str}, (∀ t ∈ ts, Text.Plain t) → Text.Plain (joinComma ts)
  | [], _ => Text.plain_nil
  | [t], h => h t List.mem_cons_self
  | t :: t' :: ts, h => by
    rw [joinComma_cons_cons]
    exact Text.Plain.append.2 ⟨h t List.mem_cons_self,
      Text.Plain.cons.2 ⟨by decide, plain_joinComma fun s hs => h s (List.mem_cons_of_mem _ hs)⟩⟩

theorem plain_of_joinComma : ∀ {ts : List Str}, Text.Plain (joinComma ts) → ∀ t ∈ ts, Text.Plain t
  | [], _, _, ht => nomatch ht
  | [t], h, _, ht => by rw [List.mem_singleton.1 ht]; exact h
  | t :: t' :: ts, h, u, hu => by
    rw [joinComma_cons_cons, Text.Plain.append, Text.Plain.cons] at h
    rcases List.mem_cons.1 hu with rfl | hu
    · exact h.1
    · exact plain_of_joinComma h.2.2 u hu

theorem plain_number {s : Str} (h : ∀ u ∈ s, isNumberUnit u = true) : Text.Plain s := by
  intro u hu
  have hn := h u hu
  simp only [isNumberUnit, Numerals.isDigit, Bool.or_eq_true, Bool.and_eq_true, decide_eq_true_eq] at hn
  rcases hn with ((((hn | rfl) | rfl) | rfl) | rfl) | rfl <;> first | omega | decide

theorem plain_word {v : Json} {w : String} (h : word? v = some w) : Text.Plain (dumps v) := by
  have hw : (Str.ofString w).all (fun u => u.toNat < 0x7F) = true := by
    cases v with
    | null => cases h; decide +kernel
    | bool b => cases b <;> (cases h; decide +kernel)
    | float x => cases x <;> first | (cases h; decide +kernel) | cases h
    | _ => cases h
  simpa only [dumps_word h, Text.Plain, List.all_eq_true, decide_eq_true_eq] using hw

theorem plain_scalar {v : Json} (hv : v.isScalar = true) : Text.Plain (dumps v) := by
  cases hw : word? v with
  | some w => exact plain_word hw
  | none => exact plain_number (number_of_not_word hv hw)

/-- `json.dumps` writes printable ASCII only. -/
theorem plain_dumps (v : Json) : Text.Plain (dumps v) := by
  induction v using Json.ind with
  | str s => exact Text.plain_quoteAscii s
  | arr xs ih =>
    rw [dumps_arr]
    refine Text.Plain.append.2 ⟨Text.Plain.cons.2 ⟨by decide, plain_joinComma fun t ht => ?_⟩,
      Text.Plain.cons.2 ⟨by decide, Text.plain_nil⟩⟩
    obtain ⟨x, hx, rfl⟩ := List.mem_map.1 ht
    exact ih x hx
  | obj fs ih =>
    rw [dumps_obj]
    refine Text.Plain.append.2 ⟨Text.Plain.cons.2 ⟨by decide, plain_joinComma fun t ht => ?_⟩,
      Text.Plain.cons.2 ⟨by decide, Text.plain_nil⟩⟩
    obtain ⟨f, hf, rfl⟩ := List.mem_map.1 ht
    exact Text.Plain.append.2 ⟨Text.plain_quoteAscii _, Text.Plain.cons.2 ⟨by decide, ih f (mem_sortFields.1 hf)⟩⟩
  | _ => exact plain_scalar rfl

/-- The bytes a document is hashed as determine it. -/
theorem utf8_dumps_inj {v w : Json} (h : Text.utf8 (dumps v) = Text.utf8 (dumps w)) : Same v w :=
  dumps_inj (Text.utf8_eq_ascii (plain_dumps w).ascii h)

end Json

end Lib
