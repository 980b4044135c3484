import Adn.Lib.JsonGrammar
import Adn.Lib.Readings
/-!
# Writing JSON

`write` is Python's `json.dumps` with the white space of a layout, and `Js.stringify` is
`JSON.stringify`. The texts of both are in the grammar, so they are read back:
`loads_write` for any layout, `loads_dumps` for the canonical text, `loads_stringify` for what
JavaScript wrote.
-/

namespace Lib.JsonReader

open Numerals

/-! ## Layouts -/

/-- The white space that a writer puts inside a container, by its level. -/
structure Layout where
  opening : ℕ → Str
  between : ℕ → Str
  closing : ℕ → Str
  colonGap : Str
  blank_opening : ∀ n, Blank (opening n)
  blank_between : ∀ n, Blank (between n)
  blank_closing : ∀ n, Blank (closing n)
  blank_colonGap : Blank colonGap

theorem blank_space : Blank [0x20] := blank_cons (by decide) blank_nil

/-- A new line, and `width` spaces for each level. -/
def newline (width n : ℕ) : Str := 0x0A :: List.replicate (width * n) 0x20

theorem blank_newline (width n : ℕ) : Blank (newline width n) := by
  refine blank_cons (by decide) ?_
  intro u hu
  rw [List.eq_of_mem_replicate hu]
  decide

/-- `separators=(",", ":")` -/
def compact : Layout where
  opening _ := []
  between _ := []
  closing _ := []
  colonGap := []
  blank_opening _ := blank_nil
  blank_between _ := blank_nil
  blank_closing _ := blank_nil
  blank_colonGap := blank_nil

/-- `json.dumps` as it is called without arguments. -/
def spaced : Layout where
  opening _ := []
  between _ := [0x20]
  closing _ := []
  colonGap := [0x20]
  blank_opening _ := blank_nil
  blank_between _ := blank_space
  blank_closing _ := blank_nil
  blank_colonGap := blank_space

/-- `indent=width` -/
def indented (width : ℕ) : Layout where
  opening n := newline width (n + 1)
  between n := newline width (n + 1)
  closing n := newline width n
  colonGap := [0x20]
  blank_opening n := blank_newline width (n + 1)
  blank_between n := blank_newline width (n + 1)
  blank_closing n := blank_newline width n
  blank_colonGap := blank_space

/-- The items of a container, each with the white space before and after it. -/
def around {α : Type} (opening between closing : Str) : List α → List (Str × α × Str)
  | [] => []
  | [x] => [(opening, x, closing)]
  | x :: y :: xs => (opening, x, []) :: around between between closing (y :: xs)

section
variable {α β : Type} {opening between closing : Str}

theorem around_map (f : α → β) (xs : List α) : around opening between closing (xs.map f) =
    (around opening between closing xs).map fun p => (p.1, f p.2.1, p.2.2) := by
  induction xs generalizing opening with
  | nil => rfl
  | cons x xs ih =>
    cases xs with
    | nil => rfl
    | cons y ys =>
      have htail := @ih between
      rw [List.map_cons] at htail
      rw [List.map_cons, List.map_cons, around, htail]
      rfl

theorem around_items (opening between closing : Str) (xs : List α) : (around opening between closing xs).map (·.2.1) = xs := by
  induction xs generalizing opening with
  | nil => rfl
  | cons x xs ih =>
    cases xs with
    | nil => rfl
    | cons y ys => rw [around, List.map_cons, ih]

theorem around_ne_nil {xs : List α} (h : xs ≠ []) : around opening between closing xs ≠ [] := by
  intro hnil
  apply h
  rw [← around_items opening between closing xs, hnil]
  rfl

theorem mem_around {xs : List α} {p : Str × α × Str} (h : p ∈ around opening between closing xs) : p.2.1 ∈ xs := by
  rw [← around_items opening between closing xs]
  exact List.mem_map_of_mem (f := fun p : Str × α × Str => p.2.1) h

theorem blank_around {xs : List α} (ho : Blank opening) (hb : Blank between) (hc : Blank closing) :
    ∀ p ∈ around opening between closing xs, Blank p.1 ∧ Blank p.2.2 := by
  induction xs generalizing opening with
  | nil => simp [around]
  | cons x xs ih =>
    cases xs with
    | nil =>
      intro p hp
      obtain rfl := List.mem_singleton.1 hp
      exact ⟨ho, hc⟩
    | cons y ys =>
      rw [around]
      exact List.forall_mem_cons.2 ⟨⟨ho, blank_nil⟩, ih hb⟩

end

/-! ## The writer of Python -/

section
variable (quote : Str → Str) (l : Layout)

/-- The texts of a container's items, with the white space around them. -/
def laidOut (n : ℕ) (ts : List Str) : List Str :=
  (around (l.opening n) (l.between n) (l.closing n) ts).map fun p => p.1 ++ (p.2.1 ++ p.2.2)

mutual

/-- `json.dumps` of a document inside so many containers. -/
def write (n : ℕ) : Json → Str
  | .str s => quote s
  | .arr xs => openBracket :: (joinComma (laidOut l n (writeList (n + 1) xs)) ++ [closeBracket])
  | .obj fs => openBrace :: (joinComma (laidOut l n (writeFields (n + 1) fs)) ++ [closeBrace])
  | .null => "null"
  | .bool b => if b then "true" else "false"
  | .int m => intText m
  | .float x => Json.floatDumps x

def writeList (n : ℕ) : List Json → List Str
  | [] => []
  | x :: xs => write n x :: writeList n xs

def writeFields (n : ℕ) : Dict → List Str
  | [] => []
  | (k, v) :: fs => (quote k ++ colon :: (l.colonGap ++ write n v)) :: writeFields n fs

end

theorem writeList_eq (n : ℕ) (xs : List Json) : writeList quote l n xs = xs.map (write quote l n) := by
  induction xs with
  | nil => rfl
  | cons x xs ih => rw [writeList, ih, List.map_cons]

theorem writeFields_eq (n : ℕ) (fs : Dict) :
    writeFields quote l n fs = fs.map fun f => quote f.1 ++ colon :: (l.colonGap ++ write quote l n f.2) := by
  induction fs with
  | nil => rfl
  | cons f fs ih => rw [writeFields, ih, List.map_cons]

end

/-- The interpreter reads the text of a float as the float. -/
def Interpreter.ReadsBack (i : Interpreter) : PyFloat → Prop
  | .finite q => (Sci.ofRat q).isSome ∧ i.float (floatText q) = .finite q
  | .negZero => i.float "-0.0" = .negZero
  | _ => True

/-- The interpreter converts the digits of a whole number. -/
def Interpreter.Holds (i : Interpreter) (n : ℤ) : Prop := ∀ m ∈ i.maxDigits, (natDigits n.natAbs).length ≤ m

/-- A document that the interpreter can read back. -/
inductive Readable (i : Interpreter) : ℕ → Json → Prop where
  | null {depth : ℕ} : Readable i depth .null
  | bool {depth : ℕ} (b : Bool) : Readable i depth (.bool b)
  | int {depth : ℕ} {n : ℤ} (h : i.Holds n) : Readable i depth (.int n)
  | float {depth : ℕ} {x : PyFloat} (h : i.ReadsBack x) : Readable i depth (.float x)
  | str {depth : ℕ} (s : Str) : Readable i depth (.str s)
  | arr {depth : ℕ} {xs : List Json} (h : ∀ x ∈ xs, Readable i depth x) : Readable i (depth + 1) (.arr xs)
  | obj {depth : ℕ} {fs : Dict} (hn : (fs.map (·.1)).Nodup) (h : ∀ f ∈ fs, Readable i depth f.2) :
    Readable i (depth + 1) (.obj fs)

/-- A way of writing strings that the reader understands. -/
def Quotes (quote : Str → Str) : Prop := ∀ s, ∃ b, quote s = Text.quotationMark :: b ∧ scanString b = some (s, [])

theorem quotes_ascii : Quotes Text.quoteAscii := by
  intro s
  refine ⟨Text.asciiBody s ++ [Text.quotationMark], rfl, ?_⟩
  have hprintable : ∀ u : UInt16, Text.isPrintable u = true → 0x20 ≤ u.toNat := by
    intro u hu
    rw [Text.isPrintable, Bool.and_eq_true] at hu
    exact of_decide_eq_true hu.1
  induction s with
  | nil => exact scanString_quote []
  | cons u s ih =>
    rw [Text.asciiBody, List.flatMap_cons, List.append_assoc, scanString_escapeUnit (hprintable u), ← Text.asciiBody, ih]
    rfl

theorem quotes_unicode : Quotes Text.quoteUnicode := fun s => ⟨_, rfl, scanString_unicodeBody s []⟩

section
variable {i : Interpreter} {depth : ℕ}

/-! ## Numbers -/

def intNumeral (n : ℤ) : Numeral := ⟨n < 0, natDigits n.natAbs, [], none⟩

theorem proper_intNumeral (n : ℤ) : Proper (intNumeral n) := by
  refine ⟨⟨natDigits_ne_nil _, digits_natDigits _, by simp [intNumeral, Digits]⟩, ?_⟩
  by_cases hz : n.natAbs = 0
  · left
    simp [intNumeral, hz, natDigits]
  · right
    simp only [intNumeral, natDigits, if_neg hz, List.head_reverse]
    exact Nat.getLast_digit_ne_zero 10 hz

theorem text_intNumeral (n : ℤ) (pad : Bool) : (intNumeral n).text pad = intText n := by
  by_cases hn : n < 0
  · simp [intNumeral, Numeral.text, Numeral.signText, Numeral.fracText, Numeral.expText, intText, natText, hn]
  · simp [intNumeral, Numeral.text, Numeral.signText, Numeral.fracText, Numeral.expText, intText, natText, hn]

theorem spells_int {n : ℤ} (h : i.Holds n) : Spells i depth (intText n) (.int n) := by
  have hspell : Spells i depth _ _ := .numeral true (proper_intNumeral n) (fun _ _ => h)
  have hvalue : numeralValue i true (intNumeral n) = .int n := by
    rw [numeralValue, if_pos ⟨rfl, rfl⟩]
    simp only [intNumeral, digitsValue_natDigits, decide_eq_true_eq]
    congr 1
    split <;> omega
  rwa [text_intNumeral, hvalue] at hspell

theorem proper_fixed {whole : List ℕ} (hw : Digits whole) {q : ℚ} {s : Sci} (h : Sci.ofRat q = some s) (neg : Bool) :
    Proper (fixed whole neg s) := by
  refine ⟨fixed_ok hw neg (Sci.ofRat_digits h), ?_⟩
  by_cases hd : s.digits = []
  · obtain rfl := Sci.ofRat_nil h hd
    exact .inl rfl
  · obtain ⟨d, ds, hds⟩ := List.exists_cons_of_ne_nil hd
    have hhead := Sci.ofRat_head h hd
    simp only [hds, List.head_cons] at hhead
    simp only [fixed, hds]
    split_ifs with hp hl
    · exact .inl rfl
    · exact .inr hhead
    · right
      obtain ⟨n, hn⟩ : ∃ n, s.point.toNat = n + 1 := ⟨s.point.toNat - 1, by omega⟩
      simpa only [hn, List.take_succ_cons, List.head_cons] using hhead

theorem proper_expo {q : ℚ} {s : Sci} (h : Sci.ofRat q = some s) (hd : s.digits ≠ []) (neg : Bool) : Proper (expo neg s) := by
  refine ⟨expo_ok neg (Sci.ofRat_digits h), .inr ?_⟩
  obtain ⟨d, ds, hds⟩ := List.exists_cons_of_ne_nil hd
  have hhead := Sci.ofRat_head h hd
  simpa only [expo, hds, List.head_cons, List.headD_cons] using hhead

theorem proper_pyNumeral {q : ℚ} {s : Sci} (h : Sci.ofRat q = some s) (neg : Bool) : Proper (pyNumeral neg s) := by
  unfold pyNumeral
  split
  · exact proper_fixed (by simp [Digits]) h neg
  · exact proper_expo h (digits_ne_nil h (by omega)) neg

theorem spells_float {x : PyFloat} (h : i.ReadsBack x) : Spells i depth (Json.floatDumps x) (.float x) := by
  cases x with
  | finite q =>
    obtain ⟨hs, hread⟩ := h
    obtain ⟨s, hs⟩ := Option.isSome_iff_exists.1 hs
    have htext : floatText q = (pyNumeral (q < 0) s).text true := by rw [floatText, hs]
    have hmarked := pyNumeral_marked hs (q < 0)
    have hfloat : ¬((pyNumeral (q < 0) s).frac = [] ∧ (pyNumeral (q < 0) s).exp = none) := by
      rintro ⟨hfrac, hexp⟩
      rcases hmarked with hm | hm
      · exact hm hfrac
      · exact hm hexp
    have hspell : Spells i depth _ _ := .numeral true (proper_pyNumeral hs (q < 0)) (fun hf he => absurd ⟨hf, he⟩ hfloat)
    rw [numeralValue, if_neg hfloat, ← htext, hread] at hspell
    exact hspell
  | negZero =>
    have hproper : Proper ⟨true, [0], [0], none⟩ := ⟨⟨by simp, by simp [Digits], by simp [Digits]⟩, .inl rfl⟩
    have hspell : Spells i depth _ _ := .numeral true hproper (fun hf => absurd hf (by simp))
    have hvalue : numeralValue i true ⟨true, [0], [0], none⟩ = .float .negZero := by
      rw [numeralValue, if_neg (by simp)]
      exact congrArg Json.float h
    rw [hvalue] at hspell
    exact hspell
  | posInf | negInf | nan => exact .constant (by simp [constants, Json.floatDumps])

/-! ## Reading back -/

/-- What is written is in the grammar, in any layout. -/
theorem spells_write {quote : Str → Str} (hq : Quotes quote) (l : Layout) {v : Json} (h : Readable i depth v) (n : ℕ) :
    Spells i depth (write quote l n v) v := by
  induction h generalizing n with
  | null => exact .constant (by simp [constants, write])
  | bool b => cases b <;> exact .constant (by simp [constants, write])
  | int h => exact spells_int h
  | float h => exact spells_float h
  | str s =>
    obtain ⟨b, hb, hs⟩ := hq s
    rw [write, hb]
    exact .string hs
  | @arr depth xs h ih =>
    by_cases hne : xs = []
    · subst hne
      exact .emptyArr blank_nil
    · let items := (around (l.opening n) (l.between n) (l.closing n) xs).map fun p =>
        Item.mk p.1 (write quote l (n + 1) p.2.1) p.2.2 p.2.1
      have htexts : laidOut l n (writeList quote l (n + 1) xs) = items.map Item.full := by
        rw [laidOut, writeList_eq, around_map, List.map_map, List.map_map]
        rfl
      have hvalues : items.map Item.value = xs := by
        rw [List.map_map]
        exact around_items _ _ _ xs
      have hspell : Spells i (depth + 1) (openBracket :: (joinComma (items.map Item.full) ++ [closeBracket]))
          (.arr (items.map Item.value)) := by
        refine .arr ?_ ?_ ?_
        · simpa [items] using around_ne_nil hne
        · rw [List.forall_mem_map]
          intro p hp
          obtain ⟨hb, ha⟩ := blank_around (l.blank_opening n) (l.blank_between n) (l.blank_closing n) p hp
          exact ⟨hb, ha⟩
        · rw [List.forall_mem_map]
          exact fun p hp => ih _ (mem_around hp) (n + 1)
      rw [write, htexts]
      rwa [hvalues] at hspell
  | @obj depth fs hn h ih =>
    by_cases hne : fs = []
    · subst hne
      exact .emptyObj blank_nil
    · choose body hbody hscan using hq
      let ms := (around (l.opening n) (l.between n) (l.closing n) fs).map fun p =>
        Member.mk ⟨l.colonGap, write quote l (n + 1) p.2.1.2, p.2.2, p.2.1.2⟩ p.1 (body p.2.1.1) p.2.1.1 []
      have htexts : laidOut l n (writeFields quote l (n + 1) fs) = ms.map Member.full := by
        rw [laidOut, writeFields_eq, around_map, List.map_map, List.map_map]
        refine List.map_congr_left fun p _ => ?_
        simp [Member.full, Item.full, hbody]
      have hfields : fieldsFrom [] ms = fs := by
        have hnames : ms.map Member.name = fs.map (·.1) := by
          rw [List.map_map, ← around_items (l.opening n) (l.between n) (l.closing n) fs,
            List.map_map, around_items]
          rfl
        rw [fieldsFrom_nodup (by rw [hnames]; exact hn), List.nil_append, List.map_map]
        exact around_items _ _ _ fs
      have hspell : Spells i (depth + 1) (openBrace :: (joinComma (ms.map Member.full) ++ [closeBrace]))
          (.obj (fieldsFrom [] ms)) := by
        refine .obj ?_ ?_ ?_
        · simpa [ms] using around_ne_nil hne
        · rw [List.forall_mem_map]
          intro p hp
          obtain ⟨hb, ha⟩ := blank_around (l.blank_opening n) (l.blank_between n) (l.blank_closing n) p hp
          exact ⟨⟨l.blank_colonGap, ha⟩, hb, blank_nil, hscan _⟩
        · rw [List.forall_mem_map]
          exact fun p hp => ih _ (mem_around hp) (n + 1)
      rw [write, htexts]
      rwa [hfields] at hspell

/-- What Python wrote, in any layout, Python reads back. -/
theorem loads_write {quote : Str → Str} (hq : Quotes quote) (l : Layout) {v : Json} (h : Readable i i.depth v) :
    loads i (write quote l 0 v) = .ok v := by
  have hloads := loads_spelled blank_nil blank_nil (spells_write hq l h 0)
  rwa [List.nil_append, List.append_nil] at hloads

/-! ## The canonical text -/

theorem laidOut_compact (n : ℕ) (ts : List Str) : laidOut compact n ts = ts := by
  have hblank : ∀ p ∈ around [] [] [] ts, p.1 ++ (p.2.1 ++ p.2.2) = p.2.1 := by
    induction ts with
    | nil => simp [around]
    | cons t ts ih =>
      cases ts with
      | nil => simp [around]
      | cons t' ts =>
        rw [around]
        exact List.forall_mem_cons.2 ⟨by simp, ih⟩
  have hitems := around_items [] [] [] ts
  rw [← List.map_congr_left hblank] at hitems
  exact hitems

/-- `json.dumps(v, sort_keys=True, separators=(",", ":"))` in the compact layout. -/
theorem dumps_eq_write (v : Json) (n : ℕ) : Json.dumps v = write Text.quoteAscii compact n v.normalize := by
  induction v using Json.ind generalizing n with
  | arr xs ih =>
    rw [Json.dumps_arr, Json.normalize_arr, write, laidOut_compact, writeList_eq, List.map_map]
    rw [List.map_congr_left fun x hx => ih x hx (n + 1)]
    rfl
  | obj fs ih =>
    have hfields : ∀ f ∈ sortFields fs, fieldText (f.1, Json.dumps f.2) =
        Text.quoteAscii f.1 ++ colon :: ([] ++ write Text.quoteAscii compact (n + 1) f.2.normalize) := by
      intro f hf
      rw [fieldText, ih f (mem_sortFields.1 hf) (n + 1)]
      rfl
    rw [Json.dumps_obj, Json.normalize_obj, write, laidOut_compact, writeFields_eq, List.map_map,
      List.map_congr_left hfields]
    rfl
  | _ => rfl

theorem Readable.normalize {v : Json} (h : Readable i depth v) : Readable i depth v.normalize := by
  induction h with
  | arr h ih =>
    rw [Json.normalize_arr]
    exact .arr (List.forall_mem_map.2 ih)
  | @obj depth fs hn h ih =>
    have hperm : (sortFields fs).Perm fs := List.perm_insertionSort fieldLe fs
    rw [Json.normalize_obj]
    refine .obj ?_ ?_
    · rw [List.map_map]
      exact (hperm.map (·.1)).nodup_iff.2 hn
    · exact List.forall_mem_map.2 fun f hf => ih f (mem_sortFields.1 hf)
  | null => exact .null
  | bool b => exact .bool b
  | int h => exact .int h
  | float h => exact .float h
  | str s => exact .str s

/-- The canonical text is read as the document with its keys sorted. -/
theorem loads_dumps {v : Json} (h : Readable i i.depth v) : loads i (Json.dumps v) = .ok v.normalize := by
  rw [dumps_eq_write v 0]
  exact loads_write quotes_ascii compact h.normalize

/-! ## The writer of JavaScript -/

/-- The interpreter reads the text that JavaScript writes of a number as that number. -/
def Interpreter.Takes (i : Interpreter) (x : PyFloat) : Prop :=
  match Js.loadedNumber x with
  | .int n => i.Holds n
  | .float (.finite q) => (Sci.ofRat q).isSome ∧ i.float (Js.numberText (.finite q)) = .finite q
  | _ => True

/-- A value whose JSON the interpreter can read. -/
inductive JsReadable (i : Interpreter) : ℕ → Js → Prop where
  | undefined {depth : ℕ} : JsReadable i depth .undefined
  | null {depth : ℕ} : JsReadable i depth .null
  | bool {depth : ℕ} (b : Bool) : JsReadable i depth (.bool b)
  | num {depth : ℕ} {x : PyFloat} (h : i.Takes x) : JsReadable i depth (.num x)
  | str {depth : ℕ} (s : Str) : JsReadable i depth (.str s)
  | arr {depth : ℕ} {xs : List Js} (h : ∀ x ∈ xs, JsReadable i depth x) : JsReadable i (depth + 1) (.arr xs)
  | obj {depth : ℕ} {fs : Props} (hn : (fs.map (·.1)).Nodup) (h : ∀ f ∈ fs, JsReadable i depth f.2) :
    JsReadable i (depth + 1) (.obj fs)

theorem proper_jsNumeral {q : ℚ} {s : Sci} (h : Sci.ofRat q = some s) (neg : Bool) : Proper (jsNumeral neg s) := by
  unfold jsNumeral
  split
  · exact proper_fixed (by simp [Digits]) h neg
  · exact proper_expo h (digits_ne_nil h (by omega)) neg

/-- A numeral without a fraction and an exponent has none of the characters of a float. -/
theorem text_unmarked {t : Numeral} (h : t.Ok) (hfrac : t.frac = []) (hexp : t.exp = none) (pad : Bool) :
    ∀ u ∈ t.text pad, isFloatMark u = false := by
  intro u hu
  simp only [Numeral.text, hfrac, hexp, Numeral.fracText, Numeral.expText, if_true, List.append_nil, List.mem_append] at hu
  rcases hu with hu | hu
  · unfold Numeral.signText at hu
    split at hu
    · rw [List.mem_singleton.1 hu]
      decide
    · cases hu
  · have hdigit := isDigit_digitsText h.int u hu
    cases hmark : isFloatMark u with
    | false => rfl
    | true =>
      simp only [isFloatMark, Bool.or_eq_true, decide_eq_true_eq] at hmark
      rcases hmark with (rfl | rfl) | rfl <;> exact absurd hdigit (by decide)

theorem spells_number {x : PyFloat} (h : i.Takes x) : Spells i depth (Js.numberJson x) (Js.loadedNumber x) := by
  cases x with
  | finite q =>
    by_cases hwhole : q.den = 1 ∧ q.num.natAbs < 10 ^ 21
    · have hloaded : Js.loadedNumber (.finite q) = .int q.num := if_pos hwhole
      rw [Interpreter.Takes, hloaded] at h
      have htext : Js.numberText (.finite q) = intText q.num := by
        rw [Js.numberText_eq_intText_iff]
        exact ⟨(Rat.coe_int_num_of_den_eq_one hwhole.1).symm, hwhole.2⟩
      rw [hloaded, Js.numberJson, htext]
      · exact spells_int h
      all_goals exact fun hx => PyFloat.noConfusion hx
    · have hloaded : Js.loadedNumber (.finite q) = .float (.finite q) := if_neg hwhole
      rw [Interpreter.Takes, hloaded] at h
      obtain ⟨hs, hread⟩ := h
      obtain ⟨s, hs⟩ := Option.isSome_iff_exists.1 hs
      have htext : Js.numberText (.finite q) = (jsNumeral (q < 0) s).text false := by
        simp only [Js.numberText, hs]
      have hfloat : ¬((jsNumeral (q < 0) s).frac = [] ∧ (jsNumeral (q < 0) s).exp = none) := by
        rintro ⟨hfrac, hexp⟩
        have hunmarked := text_unmarked (jsNumeral_ok hs (q < 0)) hfrac hexp false
        rw [← htext] at hunmarked
        obtain ⟨n, rfl, hn⟩ := Js.numberText_whole hunmarked
        exact hwhole ⟨rfl, hn⟩
      have hspell : Spells i depth _ _ :=
        .numeral false (proper_jsNumeral hs (q < 0)) (fun hf he => absurd ⟨hf, he⟩ hfloat)
      rw [numeralValue, if_neg hfloat, ← htext, hread] at hspell
      rw [hloaded]
      exact hspell
  | negZero =>
    have hzero : i.Holds 0 := h
    exact spells_int (n := 0) hzero
  | posInf | negInf | nan => exact .constant (by simp [constants, Js.numberJson, Js.loadedNumber])

theorem stringify_isSome {w : Js} (h : w ≠ .undefined) : w.stringify.isSome = true := by
  cases w with
  | undefined => exact absurd rfl h
  | _ => simp [Js.stringify]

theorem loadedProps_filter (fs : Props) :
    Js.loadedProps fs = (fs.filter fun f => f.2.stringify.isSome).map fun f => (f.1, f.2.loaded) := by
  induction fs with
  | nil => rfl
  | cons f fs ih =>
    obtain ⟨k, v⟩ := f
    by_cases hv : v = .undefined
    · subst hv
      simpa [Js.loadedProps, Js.stringify] using ih
    · rw [Js.loadedProps_cons hv, ih, List.filter_cons_of_pos (by exact stringify_isSome hv), List.map_cons]

/-- What `JSON.stringify` writes of a value; what is missing in an array is written as `null`. -/
theorem spells_stringify {w : Js} (h : JsReadable i depth w) : Spells i depth ((Js.stringify w).getD "null") w.loaded := by
  induction h with
  | undefined => exact .constant (by simp [constants, Js.stringify, Js.loaded])
  | null => exact .constant (by simp [constants, Js.stringify, Js.loaded])
  | bool b => cases b <;> exact .constant (by simp [constants, Js.stringify, Js.loaded])
  | num h =>
    rw [Js.stringify, Js.loaded]
    exact spells_number h
  | str s =>
    obtain ⟨b, hb, hs⟩ := quotes_unicode s
    rw [Js.stringify, Js.loaded, Option.getD_some, hb]
    exact .string hs
  | @arr depth xs h ih =>
    rw [Js.stringify, Js.loaded, Option.getD_some]
    by_cases hne : xs = []
    · subst hne
      exact .emptyArr blank_nil
    · let items := xs.map fun x => Item.mk [] ((Js.stringify x).getD "null") [] x.loaded
      have htexts : Js.stringifyList xs = items.map Item.full := by
        rw [List.map_map]
        clear h ih hne
        induction xs with
        | nil => rfl
        | cons x xs ih => simp [Js.stringifyList, ih, Item.full]
      have hvalues : Js.loadedList xs = items.map Item.value := by
        rw [Js.loadedList_eq, List.map_map]
        rfl
      rw [htexts, hvalues]
      refine .arr (by simpa [items] using hne) ?_ ?_
      · exact List.forall_mem_map.2 fun x _ => ⟨blank_nil, blank_nil⟩
      · exact List.forall_mem_map.2 fun x hx => ih x hx
  | @obj depth fs hn h ih =>
    rw [Js.stringify, Js.loaded, Option.getD_some]
    choose body hbody hscan using quotes_unicode
    -- a property that is missing is left out by both
    let ms := (fs.filter fun f => f.2.stringify.isSome).map fun f =>
      Member.mk ⟨[], (Js.stringify f.2).getD "null", [], f.2.loaded⟩ [] (body f.1) f.1 []
    have htexts : (Js.stringifyProps fs).map Js.propText = ms.map Member.full := by
      rw [List.map_map]
      clear h ih hn
      induction fs with
      | nil => rfl
      | cons f fs ih =>
        obtain ⟨k, v⟩ := f
        cases hv : Js.stringify v with
        | none => simpa [Js.stringifyProps, hv] using ih
        | some t => simpa [Js.stringifyProps, hv, Js.propText, Member.full, Item.full, hbody] using ih
    have hfields : Js.loadedProps fs = fieldsFrom [] ms := by
      have hnames : (ms.map Member.name).Nodup := by
        rw [List.map_map]
        exact (List.filter_sublist.map _).nodup hn
      rw [fieldsFrom_nodup (by rwa [List.map_nil, List.nil_append]), List.nil_append, List.map_map, loadedProps_filter]
      rfl
    rw [htexts, hfields]
    by_cases hne : ms = []
    · rw [hne]
      exact .emptyObj blank_nil
    · refine .obj hne ?_ ?_
      · exact List.forall_mem_map.2 fun f _ => ⟨⟨blank_nil, blank_nil⟩, blank_nil, blank_nil, hscan f.1⟩
      · exact List.forall_mem_map.2 fun f hf => ih f (List.mem_of_mem_filter hf)

/-- What JavaScript wrote, Python reads as `Js.loaded` says. -/
theorem loads_stringify {w : Js} {t : Str} (h : JsReadable i i.depth w) (ht : Js.stringify w = some t) :
    loads i t = .ok w.loaded := by
  have hspell := spells_stringify h
  rw [ht] at hspell
  have hloads := loads_spelled blank_nil blank_nil hspell
  rwa [List.nil_append, List.append_nil] at hloads

end

end Lib.JsonReader
