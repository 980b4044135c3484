import Adn.Lib.JsonReader
import Adn.Lib.Reordered
/-!
# The texts of a JSON document

`Spells` is a grammar: which texts stand for which document, with white space between the
tokens and with the numerals that Python and JavaScript write. The reader takes every
such text for its document, whatever stands behind it (`scanOnce_spelled`), so a writer is
read back as soon as its texts are in the grammar (`loads_spelled`). Whatever is read has
every key once (`loads_distinct`).
-/

namespace Lib.JsonReader

open Numerals

/-! ## White space -/

/-- Nothing but white space. -/
def Blank (s : Str) : Prop := ∀ u ∈ s, isBlank u = true

theorem blank_nil : Blank [] := by
  intro u hu
  cases hu

theorem blank_cons {u : UInt16} (hu : isBlank u = true) {s : Str} (hs : Blank s) : Blank (u :: s) :=
  List.forall_mem_cons.2 ⟨hu, hs⟩

theorem skip_blank {b : Str} (hb : Blank b) (s : Str) : skip (b ++ s) = skip s := by
  induction b with
  | nil => rfl
  | cons u b ih =>
    obtain ⟨hu, hb⟩ := List.forall_mem_cons.1 hb
    rw [List.cons_append, skip, List.dropWhile_cons_of_pos hu]
    exact ih hb

theorem skip_length (s : Str) : (skip s).length ≤ s.length := (List.dropWhile_sublist _).length_le

/-- What may stand behind a value. -/
def isDelimiter (u : UInt16) : Bool := isBlank u || u = comma || u = closeBracket || u = closeBrace

def Delimited (r : Str) : Prop := Stops (fun u => !isDelimiter u) r

theorem delimited_nil : Delimited [] := stops_nil _

theorem delimited_cons {u : UInt16} (h : isDelimiter u = true) (r : Str) : Delimited (u :: r) :=
  stops_cons (by simp only [h, Bool.not_true])

theorem delimited_blank {b : Str} (hb : Blank b) {r : Str} (hr : Delimited r) : Delimited (b ++ r) := by
  cases b with
  | nil => exact hr
  | cons u b => exact delimited_cons (by simp [isDelimiter, hb u List.mem_cons_self]) _

/-- A delimiter ends every run of characters that has none. -/
theorem Delimited.stops {r : Str} (hr : Delimited r) {p : UInt16 → Bool} (hp : ∀ u, isDelimiter u = true → p u = false) :
    Stops p r := by
  intro u hu
  apply hp
  simpa only [Bool.not_eq_eq_eq_not, Bool.not_false] using hr u hu

/-- What holds of each delimiter. -/
theorem all_delimiters (p : UInt16 → Bool) (hp : [0x20, 0x09, 0x0A, 0x0D, comma, closeBracket, closeBrace].all p = true)
    {u : UInt16} (h : isDelimiter u = true) : p u = true := by
  apply List.all_eq_true.1 hp
  simpa only [isDelimiter, isBlank, Bool.or_eq_true, decide_eq_true_eq, List.mem_cons, List.not_mem_nil, or_false, or_assoc]
    using h

theorem digit_not_delimiter (u : UInt16) (h : isDelimiter u = true) : isDigit u = false := by
  have hall : (!isDigit u) = true := all_delimiters (fun v => !isDigit v) (by decide) h
  simpa only [Bool.not_eq_true'] using hall

/-! ## Numerals -/

/-- A numeral without a leading zero. -/
structure Proper (t : Numeral) : Prop extends t.Ok where
  lead : t.int = [0] ∨ t.int.head int_ne ≠ 0

/-- What a numeral is read as: a whole number, or a float where it has a fraction or an exponent. -/
def numeralValue (i : Interpreter) (pad : Bool) (t : Numeral) : Json :=
  if t.frac = [] ∧ t.exp = none then .int (if t.neg then -(digitsValue t.int : ℤ) else digitsValue t.int)
  else .float (i.float (t.text pad))

/-- The interpreter converts as many digits. -/
def Interpreter.Converts (i : Interpreter) (t : Numeral) : Prop :=
  t.frac = [] → t.exp = none → ∀ n ∈ i.maxDigits, t.int.length ≤ n

theorem takeWhile_run {p : UInt16 → Bool} {a r : Str} (ha : ∀ u ∈ a, p u = true) (hr : Stops p r) :
    (a ++ r).takeWhile p = a := by
  rw [List.takeWhile_append_of_pos ha]
  cases r with
  | nil => simp
  | cons u r => rw [List.takeWhile_cons_of_neg (by rw [hr u rfl]; exact Bool.false_ne_true), List.append_nil]

theorem head_digitsText {ds : List ℕ} (hd : Digits ds) (hne : ds ≠ []) (r : Str) :
    (digitsText ds ++ r).head?.any isDigit = true := by
  cases ds with
  | nil => exact absurd rfl hne
  | cons d ds => exact isDigit_digitUnit (hd d List.mem_cons_self)

theorem fracPart_text {ds : List ℕ} (hd : Digits ds) {s : Str} (hs : Stops isDigit s) (hdot : s.head? ≠ some 0x2E) :
    fracPart (Numeral.fracText ds ++ s) = Numeral.fracText ds := by
  unfold Numeral.fracText
  by_cases hne : ds = []
  · rw [if_pos hne]
    cases s with
    | nil => rfl
    | cons u s =>
      have hu : u ≠ 0x2E := fun h => hdot (congrArg some h)
      simp [fracPart, hu]
  · rw [if_neg hne, List.cons_append, fracPart, head_digitsText hd hne s, takeWhile_run (isDigit_digitsText hd) hs]
    rfl

theorem exponentDigits_ne (pad : Bool) (n : ℕ) : (if pad then Numeral.padTwo n else natDigits n) ≠ [] := by
  cases pad with
  | false => exact natDigits_ne_nil n
  | true =>
    rw [if_pos rfl, Numeral.padTwo]
    split
    · exact List.cons_ne_nil _ _
    · exact natDigits_ne_nil n

theorem exponentDigits (pad : Bool) (n : ℕ) : Digits (if pad then Numeral.padTwo n else natDigits n) := by
  cases pad with
  | false => exact digits_natDigits n
  | true => exact Numeral.digits_padTwo n

theorem digitsText_ne_nil {ds : List ℕ} (h : ds ≠ []) : digitsText ds ≠ [] := by
  simpa only [digitsText, ne_eq, List.map_eq_nil_iff] using h

theorem expPart_text (pad : Bool) (e : Option ℤ) {r : Str} (hr : Delimited r) :
    expPart (Numeral.expText pad e ++ r) = Numeral.expText pad e := by
  cases e with
  | none =>
    cases r with
    | nil => rfl
    | cons u r =>
      have hdelim : isDelimiter u = true := by simpa using hr u rfl
      have he : (u != 0x65) = true := all_delimiters (fun v => v != 0x65) (by decide) hdelim
      have hE : (u != 0x45) = true := all_delimiters (fun v => v != 0x45) (by decide) hdelim
      rw [bne_iff_ne] at he hE
      simp [Numeral.expText, expPart, he, hE]
  | some e =>
    have hrun := takeWhile_run (isDigit_digitsText (exponentDigits pad e.natAbs)) (hr.stops digit_not_delimiter)
    have hne := digitsText_ne_nil (exponentDigits_ne pad e.natAbs)
    rw [Numeral.expText, List.cons_append, List.cons_append, expPart, expDigits, if_pos]
    · simp only [List.take_succ_cons, List.take_zero, List.tail_cons, hrun]
      simp [hne]
    · rw [List.head?_cons, Option.any_some]
      split <;> decide

theorem expText_head (pad : Bool) (e : Option ℤ) {r : Str} (hr : Delimited r) :
    (Numeral.expText pad e ++ r).head? ≠ some 0x2E ∧ Stops isDigit (Numeral.expText pad e ++ r) := by
  cases e with
  | none =>
    refine ⟨fun h => ?_, hr.stops digit_not_delimiter⟩
    have hdot := hr.stops (p := fun u => decide (u = 0x2E)) ?_ 0x2E h
    · exact absurd hdot (by decide)
    · intro u hu
      have hne : (u != 0x2E) = true := all_delimiters (fun v => v != 0x2E) (by decide) hu
      simpa only [decide_eq_false_iff_not, bne_iff_ne] using hne
  | some e =>
    refine ⟨fun h => absurd (Option.some.inj h) (by decide), stops_cons (by decide)⟩

/-- The digits in front of the point, as the reader takes them. -/
theorem intDigits_text {t : Numeral} (h : Proper t) {s : Str} (hs : Stops isDigit s) :
    (if (digitsText t.int ++ s).head? = some 0x30 then [0x30] else (digitsText t.int ++ s).takeWhile isDigit) =
      digitsText t.int := by
  rcases h.lead with hzero | hlead
  · rw [hzero]
    exact if_pos rfl
  · rw [takeWhile_run (isDigit_digitsText h.int) hs]
    apply if_neg
    cases hint : t.int with
    | nil => exact absurd hint h.int_ne
    | cons d ds =>
      simp only [hint, List.head_cons] at hlead
      have hd : d < 10 := h.int d (by rw [hint]; exact List.mem_cons_self)
      have hunit := digitUnit_toNat hd
      rintro heq
      rw [Option.some.inj heq] at hunit
      have hsixteen : (0x30 : UInt16).toNat = 0x30 := rfl
      omega

theorem digitsText_values {ds : List ℕ} (hd : Digits ds) : (digitsText ds).map (fun u => u.toNat - 0x30) = ds := by
  rw [digitsText, List.map_map]
  conv_rhs => rw [← List.map_id ds]
  refine List.map_congr_left fun d hm => ?_
  simp only [Function.comp_apply, digitUnit_toNat (hd d hm), id_eq]
  omega

/-- A numeral is read as what it stands for. -/
theorem scanNumber_numeral {i : Interpreter} {t : Numeral} (h : Proper t) (hc : i.Converts t) (pad : Bool) {r : Str}
    (hr : Delimited r) : scanNumber i (t.text pad ++ r) = .ok (numeralValue i pad t, r) := by
  obtain ⟨hdot, hexp⟩ := expText_head pad t.exp hr
  have hfrac : Stops isDigit (Numeral.fracText t.frac ++ (Numeral.expText pad t.exp ++ r)) := by
    unfold Numeral.fracText
    split
    · exact hexp
    · exact stops_cons (by decide)
  have hsign : (if (t.text pad ++ r).head? = some 0x2D then [0x2D] else []) = Numeral.signText t.neg := by
    cases hneg : t.neg with
    | true => simp [Numeral.text, Numeral.signText, hneg]
    | false =>
      apply if_neg
      simp only [Numeral.text, Numeral.signText, hneg, Bool.false_eq_true, if_false, List.nil_append, List.append_assoc]
      intro heq
      obtain ⟨s, hs⟩ := List.head?_eq_some_iff.1 heq
      exact Numeral.unsigned_ne_minus h.toOk _ _ hs
  have hbody : (t.text pad ++ r).drop (Numeral.signText t.neg).length =
      digitsText t.int ++ (Numeral.fracText t.frac ++ (Numeral.expText pad t.exp ++ r)) := by
    simp only [Numeral.text, List.append_assoc, List.drop_left]
  have hdrop : ∀ a b c s : Str, (a ++ (b ++ (c ++ s))).drop a.length = b ++ (c ++ s) ∧
      (a ++ (b ++ (c ++ s))).drop (a.length + b.length) = c ++ s ∧
      (a ++ (b ++ (c ++ s))).drop (a.length + b.length + c.length) = s := by
    intro a b c s
    refine ⟨List.drop_left, ?_, ?_⟩
    · rw [← List.append_assoc, ← List.length_append, List.drop_left]
    · rw [← List.append_assoc, ← List.append_assoc, ← List.length_append, ← List.length_append, List.drop_left]
  obtain ⟨hdrop₁, hdrop₂, hdrop₃⟩ :=
    hdrop (digitsText t.int) (Numeral.fracText t.frac) (Numeral.expText pad t.exp) r
  unfold scanNumber
  simp only [hsign, hbody, intDigits_text h hfrac, hdrop₁, fracPart_text h.frac hexp hdot, hdrop₂, expPart_text pad t.exp hr,
    hdrop₃]
  rw [if_neg (digitsText_ne_nil h.int_ne)]
  by_cases hwhole : t.frac = [] ∧ t.exp = none
  · obtain ⟨hfracNil, hexpNone⟩ := hwhole
    have hlength : ¬(i.maxDigits.any (· < (digitsText t.int).length) = true) := by
      simp only [Option.any_eq_true, not_exists, not_and, decide_eq_true_eq, digitsText, List.length_map]
      intro n hn
      have := hc hfracNil hexpNone n hn
      omega
    have hvalue : numeralValue i pad t = .int (if t.neg then -(digitsValue t.int : ℤ) else digitsValue t.int) :=
      if_pos ⟨hfracNil, hexpNone⟩
    rw [if_neg (by simp [hfracNil, hexpNone, Numeral.fracText, Numeral.expText]), if_neg hlength, hvalue,
      digitsText_values h.int]
    cases t.neg <;> rfl
  · have htail : Numeral.fracText t.frac ++ Numeral.expText pad t.exp ≠ [] := by
      intro hnil
      obtain ⟨hf, he⟩ := List.append_eq_nil_iff.1 hnil
      apply hwhole
      constructor
      · unfold Numeral.fracText at hf
        split at hf
        · assumption
        · cases hf
      · cases hexpo : t.exp with
        | none => rfl
        | some e =>
          rw [hexpo] at he
          cases he
    rw [if_pos htail, numeralValue, if_neg hwhole]
    simp only [Numeral.text, List.append_assoc]

theorem numeral_head {t : Numeral} (h : Proper t) (pad : Bool) : ∃ u s, t.text pad = u :: s ∧ (u = 0x2D ∨ isDigit u = true) ∧
    (u = 0x2D → ∃ v r, s = v :: r ∧ isDigit v = true) := by
  have hhead : ∃ v r, digitsText t.int ++ (Numeral.fracText t.frac ++ Numeral.expText pad t.exp) = v :: r ∧ isDigit v = true := by
    cases hint : t.int with
    | nil => exact absurd hint h.int_ne
    | cons d ds => exact ⟨_, _, rfl, isDigit_digitUnit (h.int d (by rw [hint]; exact List.mem_cons_self))⟩
  obtain ⟨v, r, htext, hv⟩ := hhead
  unfold Numeral.text Numeral.signText
  rw [htext]
  cases t.neg with
  | true => exact ⟨_, _, rfl, .inl rfl, fun _ => ⟨v, r, rfl, hv⟩⟩
  | false =>
    refine ⟨_, _, rfl, .inr hv, ?_⟩
    rintro rfl
    exact absurd hv (by decide)

/-! ## The grammar -/

/-- An element, with the white space around it. -/
structure Item where
  before : Str
  text : Str
  after : Str
  value : Json

def Item.full (x : Item) : Str := x.before ++ (x.text ++ x.after)

structure Item.Spaced (x : Item) : Prop where
  before : Blank x.before
  after : Blank x.after

/-- A member: the white space around its name, the literal the name is written as, and its value. -/
structure Member extends Item where
  lead : Str
  body : Str
  name : Str
  gap : Str

def Member.full (m : Member) : Str :=
  m.lead ++ Text.quotationMark :: (m.body ++ (m.gap ++ colon :: m.toItem.full))

structure Member.Spaced (m : Member) : Prop extends m.toItem.Spaced where
  lead : Blank m.lead
  gap : Blank m.gap
  name : scanString m.body = some (m.name, [])

/-- The object that some members are read as: the last of a name counts. -/
def fieldsFrom (d : Dict) (ms : List Member) : Dict := ms.foldl (fun d m => d.set m.name m.value) d

/-- A text of a document that is nested so deep at most. -/
inductive Spells (i : Interpreter) : ℕ → Str → Json → Prop where
  | constant {depth : ℕ} {t : Str} {v : Json} (h : (t, v) ∈ constants) : Spells i depth t v
  | numeral {depth : ℕ} {t : Numeral} (pad : Bool) (h : Proper t) (hc : i.Converts t) :
    Spells i depth (t.text pad) (numeralValue i pad t)
  | string {depth : ℕ} {b s : Str} (h : scanString b = some (s, [])) : Spells i depth (Text.quotationMark :: b) (.str s)
  | emptyArr {depth : ℕ} {b : Str} (hb : Blank b) : Spells i (depth + 1) (openBracket :: (b ++ [closeBracket])) (.arr [])
  | arr {depth : ℕ} {xs : List Item} (hne : xs ≠ []) (hs : ∀ x ∈ xs, x.Spaced) (h : ∀ x ∈ xs, Spells i depth x.text x.value) :
    Spells i (depth + 1) (openBracket :: (joinComma (xs.map Item.full) ++ [closeBracket])) (.arr (xs.map Item.value))
  | emptyObj {depth : ℕ} {b : Str} (hb : Blank b) : Spells i (depth + 1) (openBrace :: (b ++ [closeBrace])) (.obj [])
  | obj {depth : ℕ} {ms : List Member} (hne : ms ≠ []) (hs : ∀ m ∈ ms, m.Spaced)
    (h : ∀ m ∈ ms, Spells i depth m.text m.value) :
    Spells i (depth + 1) (openBrace :: (joinComma (ms.map Member.full) ++ [closeBrace])) (.obj (fieldsFrom [] ms))

/-- Distinct names are all there, in their order. -/
theorem fieldsFrom_nodup {ms : List Member} {d : Dict} (h : (d.map (·.1) ++ ms.map Member.name).Nodup) :
    fieldsFrom d ms = d ++ ms.map fun m => (m.name, m.value) := by
  induction ms generalizing d with
  | nil => simp [fieldsFrom]
  | cons m ms ih =>
    have hnew : m.name ∉ d.map (·.1) := by
      intro hmem
      exact (List.nodup_append.1 h).2.2 _ hmem _ List.mem_cons_self rfl
    rw [fieldsFrom, List.foldl_cons, set_new hnew, ← fieldsFrom, ih]
    · simp
    · simpa using h

/-! ## Reading what is spelled -/

section
variable {i : Interpreter} {depth : ℕ}

/-- The first character of a text. -/
theorem Spells.head {t : Str} {v : Json} (h : Spells i depth t v) : ∃ u s, t = u :: s ∧ isBlank u = false ∧
    u ≠ closeBracket ∧ u ≠ 0xFEFF := by
  cases h with
  | constant h =>
    have hall : ∀ c ∈ constants, (c.1.head?.any fun u => !isBlank u && u ≠ closeBracket && u ≠ 0xFEFF) = true := by decide +kernel
    have hhead := hall _ h
    cases t with
    | nil => cases hhead
    | cons u s =>
      simp only [List.head?_cons, Option.any_some, Bool.and_eq_true, Bool.not_eq_true', decide_eq_true_eq, ne_eq] at hhead
      exact ⟨u, s, rfl, hhead.1.1, hhead.1.2, hhead.2⟩
  | numeral pad h hc =>
    obtain ⟨u, s, htext, hu, -⟩ := numeral_head h pad
    refine ⟨u, s, htext, ?_⟩
    rcases hu with rfl | hu
    · decide
    · simp only [isDigit, Bool.and_eq_true, decide_eq_true_eq] at hu
      refine ⟨?_, ?_, ?_⟩
      · cases hb : isBlank u with
        | false => rfl
        | true =>
          simp only [isBlank, Bool.or_eq_true, decide_eq_true_eq] at hb
          rcases hb with ((rfl | rfl) | rfl) | rfl <;> exact absurd hu.1 (by decide)
      · rintro rfl
        revert hu
        decide
      · rintro rfl
        revert hu
        decide
  | string h => exact ⟨_, _, rfl, by decide⟩
  | emptyArr hb => exact ⟨_, _, rfl, by decide⟩
  | arr hne hs h => exact ⟨_, _, rfl, by decide⟩
  | emptyObj hb => exact ⟨_, _, rfl, by decide⟩
  | obj hne hs h => exact ⟨_, _, rfl, by decide⟩

theorem Spells.skip {t : Str} {v : Json} (h : Spells i depth t v) (s : Str) : skip (t ++ s) = t ++ s := by
  obtain ⟨u, r, rfl, hu, -⟩ := h.head
  exact skip_cons hu _

/-- The reader takes the text for the value, whatever stands behind it. -/
def Reads (value : Str → Except ReadError (Json × Str)) (t : Str) (v : Json) : Prop :=
  ∀ r, Delimited r → value (t ++ r) = .ok (v, r)

/-- Up to the next character that counts. -/
theorem separator_skip (close : UInt16) {b : Str} (hb : Blank b) (u : UInt16) (hu : isBlank u = false) (s : Str) :
    separator close (skip (b ++ u :: s)) = separator close (u :: s) := by
  rw [skip_blank hb, skip_cons hu]

theorem separator_next {close : UInt16} (h : comma ≠ close) (s : Str) : separator close (comma :: s) = .ok (false, skip s) := by
  rw [separator, if_neg h, if_pos rfl]

theorem item_read {value : Str → Except ReadError (Json × Str)} {x : Item} (hs : x.Spaced) (hx : Spells i depth x.text x.value)
    (hr : Reads value x.text x.value) {s : Str} (hd : Delimited s) :
    skip (x.full ++ s) = x.text ++ (x.after ++ s) ∧ value (skip (x.full ++ s)) = .ok (x.value, x.after ++ s) := by
  have hskip : skip (x.full ++ s) = x.text ++ (x.after ++ s) := by
    rw [Item.full, List.append_assoc, List.append_assoc, skip_blank hs.before, hx.skip]
  refine ⟨hskip, ?_⟩
  rw [hskip]
  exact hr _ (delimited_blank hs.after hd)

/-- The elements of an array. -/
theorem elements_read {value : Str → Except ReadError (Json × Str)} {xs : List Item} (hne : xs ≠ [])
    (hs : ∀ x ∈ xs, x.Spaced) (hx : ∀ x ∈ xs, Spells i depth x.text x.value) (hr : ∀ x ∈ xs, Reads value x.text x.value)
    {n : ℕ} {vs : List Json} {r : Str} (hn : (skip (joinComma (xs.map Item.full) ++ closeBracket :: r)).length ≤ n) :
    elements value n vs (skip (joinComma (xs.map Item.full) ++ closeBracket :: r)) = .ok (vs ++ xs.map Item.value, r) := by
  induction xs generalizing n vs with
  | nil => exact absurd rfl hne
  | cons x xs ih =>
    obtain ⟨hsx, hs⟩ := List.forall_mem_cons.1 hs
    obtain ⟨hxx, hx⟩ := List.forall_mem_cons.1 hx
    obtain ⟨hrx, hr⟩ := List.forall_mem_cons.1 hr
    obtain ⟨u, t, htext, -⟩ := hxx.head
    cases xs with
    | nil =>
      obtain ⟨hskip, hvalue⟩ := item_read hsx hxx hrx (delimited_cons (by decide) r) (s := closeBracket :: r)
      simp only [List.map_cons, List.map_nil, joinComma] at hn ⊢
      cases n with
      | zero =>
        rw [hskip, htext] at hn
        cases hn
      | succ n =>
        rw [elements, hvalue, ok_bind]
        dsimp only
        rw [separator_skip _ hsx.after _ (by decide), separator_close]
        rfl
    | cons y ys =>
      have hsplit : joinComma ((x :: y :: ys).map Item.full) ++ closeBracket :: r =
          x.full ++ comma :: (joinComma ((y :: ys).map Item.full) ++ closeBracket :: r) := by
        simp only [List.map_cons, joinComma, List.append_assoc, List.cons_append]
      rw [hsplit] at hn ⊢
      obtain ⟨hskip, hvalue⟩ := item_read hsx hxx hrx (delimited_cons (u := comma) (by decide) _)
      cases n with
      | zero =>
        rw [hskip, htext] at hn
        cases hn
      | succ n =>
        rw [elements, hvalue, ok_bind]
        dsimp only
        rw [separator_skip _ hsx.after _ (by decide), separator_next (by decide), ok_bind]
        dsimp only
        rw [if_neg Bool.false_ne_true, ih (List.cons_ne_nil _ _) hs hx hr]
        · simp
        · have hlength := skip_length (joinComma ((y :: ys).map Item.full) ++ closeBracket :: r)
          rw [hskip, htext] at hn
          simp only [List.length_append, List.length_cons] at hn hlength ⊢
          omega

/-- A member from its first character on. -/
theorem member_skip {m : Member} (hs : m.Spaced) (s : Str) :
    skip (m.full ++ s) = Text.quotationMark :: (m.body ++ (m.gap ++ colon :: (m.toItem.full ++ s))) := by
  rw [Member.full, List.append_assoc, skip_blank hs.lead]
  simp only [List.cons_append, List.append_assoc]
  exact skip_cons rfl _

/-- One member and what stands behind it. -/
theorem member_read {m : Member} (hs : m.Spaced) (hm : Spells i depth m.text m.value) {n : ℕ} {d : Dict}
    {value : Str → Except ReadError (Json × Str)} (hr : Reads value m.text m.value) {s : Str} (hd : Delimited s) :
    members value (n + 1) d (skip (m.full ++ s)) = (do
      let (last, s) ← separator closeBrace (skip (m.after ++ s))
      if last then return (d.set m.name m.value, s) else members value n (d.set m.name m.value) s) := by
  obtain ⟨-, hvalue⟩ := item_read hs.toSpaced hm hr hd
  have hname : string (m.body ++ (m.gap ++ colon :: (m.toItem.full ++ s))) = .ok (m.name, m.gap ++ colon :: (m.toItem.full ++ s)) := by
    rw [string, scanString_append hs.name]
    rfl
  have hgap : skip (m.gap ++ colon :: (m.toItem.full ++ s)) = colon :: (m.toItem.full ++ s) := by
    rw [skip_blank hs.gap, skip_cons rfl]
  rw [members, member_skip hs, expect_self, ok_bind, hname, ok_bind]
  dsimp only
  rw [hgap, expect_self, ok_bind, hvalue, ok_bind]

/-- The members of an object. -/
theorem members_read {value : Str → Except ReadError (Json × Str)} {ms : List Member} (hne : ms ≠ [])
    (hs : ∀ m ∈ ms, m.Spaced) (hm : ∀ m ∈ ms, Spells i depth m.text m.value) (hr : ∀ m ∈ ms, Reads value m.text m.value)
    {n : ℕ} {d : Dict} {r : Str} (hn : (skip (joinComma (ms.map Member.full) ++ closeBrace :: r)).length ≤ n) :
    members value n d (skip (joinComma (ms.map Member.full) ++ closeBrace :: r)) = .ok (fieldsFrom d ms, r) := by
  induction ms generalizing n d with
  | nil => exact absurd rfl hne
  | cons m ms ih =>
    obtain ⟨hsm, hs⟩ := List.forall_mem_cons.1 hs
    obtain ⟨hmm, hm⟩ := List.forall_mem_cons.1 hm
    obtain ⟨hrm, hr⟩ := List.forall_mem_cons.1 hr
    cases ms with
    | nil =>
      simp only [List.map_cons, List.map_nil, joinComma] at hn ⊢
      cases n with
      | zero =>
        rw [member_skip hsm] at hn
        cases hn
      | succ n =>
        rw [member_read hsm hmm hrm (delimited_cons (by decide) r), separator_skip _ hsm.after _ (by decide), separator_close]
        rfl
    | cons m' ms =>
      have hsplit : joinComma ((m :: m' :: ms).map Member.full) ++ closeBrace :: r =
          m.full ++ comma :: (joinComma ((m' :: ms).map Member.full) ++ closeBrace :: r) := by
        simp only [List.map_cons, joinComma, List.append_assoc, List.cons_append]
      rw [hsplit] at hn ⊢
      cases n with
      | zero =>
        rw [member_skip hsm] at hn
        cases hn
      | succ n =>
        rw [member_read hsm hmm hrm (delimited_cons (by decide) _), separator_skip _ hsm.after _ (by decide),
          separator_next (by decide), ok_bind]
        dsimp only
        rw [if_neg Bool.false_ne_true, ih (List.cons_ne_nil _ _) hs hm hr]
        · rfl
        · have hlength := skip_length (joinComma ((m' :: ms).map Member.full) ++ closeBrace :: r)
          rw [member_skip hsm] at hn
          simp only [List.length_append, List.length_cons] at hn hlength ⊢
          omega

theorem scanOnce_open {u : UInt16} (h : u = openBrace ∨ u = openBracket) (s : Str) : scanOnce i (depth + 1) (u :: s) =
    if u = openBrace then do
      let (d, s) ← object (scanOnce i depth) s
      return (.obj d, s)
    else do
      let (xs, s) ← array (scanOnce i depth) s
      return (.arr xs, s) := by
  have hquote : u ≠ Text.quotationMark := by
    rintro rfl
    revert h
    decide
  rw [scanOnce.eq_def]
  dsimp only
  rw [if_neg hquote, if_pos h]

theorem scanOnce_arr (s : Str) : scanOnce i (depth + 1) (openBracket :: s) = (do
    let (xs, s) ← array (scanOnce i depth) s
    return (.arr xs, s)) := by
  rw [scanOnce_open (.inr rfl), if_neg (by decide)]

theorem scanOnce_obj (s : Str) : scanOnce i (depth + 1) (openBrace :: s) = (do
    let (d, s) ← object (scanOnce i depth) s
    return (.obj d, s)) := by
  rw [scanOnce_open (.inl rfl), if_pos rfl]

/-- A value that does not open a literal or a container. -/
theorem scanOnce_token {u : UInt16} (hquote : u ≠ Text.quotationMark) (hopen : ¬(u = openBrace ∨ u = openBracket)) (s : Str) :
    scanOnce i depth (u :: s) = (scanConstant (u :: s)).elim (scanNumber i (u :: s)) .ok := by
  rw [scanOnce.eq_def]
  dsimp only
  rw [if_neg hquote, if_neg hopen]
  cases scanConstant (u :: s) <;> rfl

theorem scanConstant_constant {t : Str} {v : Json} (h : (t, v) ∈ constants) (r : Str) :
    scanConstant (t ++ r) = some (v, r) := by
  simp only [constants, List.mem_cons, List.not_mem_nil, or_false, Prod.mk.injEq] at h
  rcases h with ⟨rfl, rfl⟩ | ⟨rfl, rfl⟩ | ⟨rfl, rfl⟩ | ⟨rfl, rfl⟩ | ⟨rfl, rfl⟩ | ⟨rfl, rfl⟩ <;> rfl

/-- A constant does not start like a numeral. -/
def startsApart : Str → Bool
  | a :: b :: _ => !isDigit a && (a ≠ 0x2D || !isDigit b)
  | _ => false

theorem scanConstant_numeral {t : Numeral} (h : Proper t) (pad : Bool) (r : Str) : scanConstant (t.text pad ++ r) = none := by
  have hall : ∀ c ∈ constants, startsApart c.1 = true := by decide +kernel
  obtain ⟨u, s, htext, hu, hminus⟩ := numeral_head h pad
  rw [scanConstant, Option.map_eq_none_iff, List.find?_eq_none, htext]
  intro c hc hprefix
  have hapart := hall c hc
  rcases hcs : c.1 with _ | ⟨a, _ | ⟨b, cs⟩⟩
  · rw [hcs] at hapart
    cases hapart
  · rw [hcs] at hapart
    cases hapart
  · simp only [hcs, startsApart, Bool.and_eq_true, Bool.not_eq_true', Bool.or_eq_true, decide_eq_true_eq] at hapart
    obtain ⟨ha, hb⟩ := hapart
    rw [hcs, List.cons_append, List.isPrefixOf_cons_cons, Bool.and_eq_true, beq_iff_eq] at hprefix
    obtain ⟨rfl, hprefix⟩ := hprefix
    rcases hu with hu | hu
    · obtain ⟨v, s, rfl, hv⟩ := hminus hu
      rw [List.cons_append, List.isPrefixOf_cons_cons, Bool.and_eq_true, beq_iff_eq] at hprefix
      obtain ⟨rfl, -⟩ := hprefix
      rcases hb with hb | hb
      · exact hb hu
      · rw [hv] at hb
        cases hb
    · rw [ha] at hu
      cases hu

/-- What opens no literal and no container. -/
theorem token_head {u : UInt16} (h : u = 0x2D ∨ isDigit u = true) : u ≠ Text.quotationMark ∧ ¬(u = openBrace ∨ u = openBracket) := by
  rcases h with rfl | h
  · decide
  · refine ⟨?_, ?_⟩
    · rintro rfl
      revert h
      decide
    · rintro (rfl | rfl) <;> (revert h; decide)

/-- A text is read as its document. -/
theorem scanOnce_spelled {t : Str} {v : Json} (h : Spells i depth t v) : Reads (scanOnce i depth) t v := by
  induction h with
  | @constant depth t v h =>
    intro r _
    have hall : ∀ c ∈ constants, (c.1.head?.any fun u => u ≠ Text.quotationMark && u ≠ openBrace && u ≠ openBracket) = true := by
      decide +kernel
    have hhead := hall _ h
    cases t with
    | nil => cases hhead
    | cons u s =>
      simp only [List.head?_cons, Option.any_some, Bool.and_eq_true, decide_eq_true_eq, ne_eq] at hhead
      have hconstant := scanConstant_constant h r
      rw [List.cons_append] at hconstant ⊢
      rw [scanOnce_token hhead.1.1 (not_or.2 ⟨hhead.1.2, hhead.2⟩), hconstant, Option.elim_some]
  | numeral pad h hc =>
    intro r hr
    obtain ⟨u, s, htext, hu, -⟩ := numeral_head h pad
    obtain ⟨hquote, hopen⟩ := token_head hu
    have hconstant := scanConstant_numeral h pad r
    have hnumber := scanNumber_numeral h hc pad hr
    rw [htext, List.cons_append] at hconstant hnumber ⊢
    rw [scanOnce_token hquote hopen, hconstant, Option.elim_none]
    exact hnumber
  | string h =>
    intro r _
    rw [List.cons_append, scanOnce_string, string, scanString_append h]
    rfl
  | emptyArr hb =>
    intro r _
    rw [List.cons_append, List.append_assoc, List.singleton_append, scanOnce_arr, array, skip_blank hb, skip_cons (by decide)]
    rfl
  | @arr depth xs hne hs h ih =>
    intro r _
    obtain ⟨x, ys, rfl⟩ := List.exists_cons_of_ne_nil hne
    obtain ⟨u, s, htext, -, hu, -⟩ := (h x List.mem_cons_self).head
    have hhead : (skip (joinComma ((x :: ys).map Item.full) ++ closeBracket :: r)).head? ≠ some closeBracket := by
      rw [List.map_cons, joinComma_cons, List.append_assoc, Item.full, List.append_assoc,
        skip_blank (hs x List.mem_cons_self).before, List.append_assoc, (h x List.mem_cons_self).skip, htext]
      exact fun heq => hu (Option.some.inj heq)
    rw [List.cons_append, List.append_assoc, List.singleton_append, scanOnce_arr, array, if_neg hhead,
      elements_read hne hs h ih le_rfl]
    rfl
  | emptyObj hb =>
    intro r _
    rw [List.cons_append, List.append_assoc, List.singleton_append, scanOnce_obj, object, skip_blank hb, skip_cons (by decide)]
    rfl
  | @obj depth ms hne hs h ih =>
    intro r _
    obtain ⟨m, ms', rfl⟩ := List.exists_cons_of_ne_nil hne
    have hhead : (skip (joinComma ((m :: ms').map Member.full) ++ closeBrace :: r)).head? ≠ some closeBrace := by
      rw [List.map_cons, joinComma_cons, List.append_assoc, member_skip (hs m List.mem_cons_self)]
      exact fun heq => absurd (Option.some.inj heq) (by decide)
    rw [List.cons_append, List.append_assoc, List.singleton_append, scanOnce_obj, object, if_neg hhead,
      members_read hne hs h ih le_rfl]
    rfl

/-- A text with white space around it is read as its document. -/
theorem loads_spelled {b t a : Str} {v : Json} (hb : Blank b) (ha : Blank a) (h : Spells i i.depth t v) :
    loads i (b ++ (t ++ a)) = .ok v := by
  obtain ⟨u, s, htext, hblank, -, hmark⟩ := h.head
  have hhead : (b ++ (t ++ a)).head? ≠ some 0xFEFF := by
    cases b with
    | nil =>
      rw [htext]
      exact fun heq => hmark (Option.some.inj heq)
    | cons w b =>
      intro heq
      obtain rfl := Option.some.inj heq
      exact absurd (hb _ List.mem_cons_self) (by decide)
  have hend : skip a = [] := by
    have hskip := skip_blank ha []
    rwa [List.append_nil] at hskip
  have hdelim : Delimited a := by
    have hblank := delimited_blank ha delimited_nil
    rwa [List.append_nil] at hblank
  rw [loads, if_neg hhead, skip_blank hb, h.skip, scanOnce_spelled h a hdelim, ok_bind]
  dsimp only
  rw [if_pos hend]
  rfl

/-! ## What is read -/

/-- An object under construction. -/
structure Sound (d : Dict) : Prop where
  names : (d.map (·.1)).Nodup
  values : ∀ f ∈ d, Json.DistinctKeys f.2

theorem set_names {d : Dict} (h : (d.map (·.1)).Nodup) (k : Str) (v : Json) : ((d.set k v).map (·.1)).Nodup := by
  rw [Dict.set, List.map_append, List.nodup_append]
  refine ⟨(List.filter_sublist.map _).nodup h, List.nodup_singleton _, ?_⟩
  rintro a ha b hb rfl
  obtain ⟨f, hf, rfl⟩ := List.mem_map.1 ha
  have hne := (List.mem_filter.1 hf).2
  simp only [List.map_cons, List.map_nil, List.mem_singleton] at hb
  simp [hb] at hne

theorem sound_nil : Sound [] := ⟨List.nodup_nil, by simp⟩

theorem Sound.set {d : Dict} (h : Sound d) (k : Str) {v : Json} (hv : Json.DistinctKeys v) : Sound (d.set k v) := by
  constructor
  · exact set_names h.names k v
  · intro f hf
    rcases List.mem_append.1 hf with hf | hf
    · exact h.values f (List.mem_of_mem_filter hf)
    · rw [List.mem_singleton.1 hf]
      exact hv

/-- Every value that is read has its keys once. -/
def Distinct (value : Str → Except ReadError (Json × Str)) : Prop := ∀ s v r, value s = .ok (v, r) → Json.DistinctKeys v

theorem bind_read {α β : Type} {x : Except ReadError α} {f : α → Except ReadError β} {b : β} (h : (x >>= f) = .ok b) :
    ∃ a, x = .ok a ∧ f a = .ok b := by
  cases x with
  | error e => cases h
  | ok a => exact ⟨a, rfl, h⟩

section
variable {value : Str → Except ReadError (Json × Str)} (hv : Distinct value)
include hv

theorem members_distinct {n : ℕ} {d d' : Dict} {s r : Str} (hd : Sound d) (h : members value n d s = .ok (d', r)) :
    Sound d' := by
  induction n generalizing d s with
  | zero => cases h
  | succ n ih =>
    obtain ⟨s₁, -, h⟩ := bind_read h
    obtain ⟨⟨k, s₂⟩, -, h⟩ := bind_read h
    obtain ⟨s₃, -, h⟩ := bind_read h
    obtain ⟨⟨v, s₄⟩, hvalue, h⟩ := bind_read h
    obtain ⟨⟨last, s₅⟩, -, h⟩ := bind_read h
    have hset := hd.set k (hv _ _ _ hvalue)
    cases last with
    | true =>
      cases h
      exact hset
    | false => exact ih hset h

theorem elements_distinct {n : ℕ} {xs xs' : List Json} {s r : Str} (hx : ∀ x ∈ xs, Json.DistinctKeys x)
    (h : elements value n xs s = .ok (xs', r)) : ∀ x ∈ xs', Json.DistinctKeys x := by
  induction n generalizing xs s with
  | zero => cases h
  | succ n ih =>
    obtain ⟨⟨v, s₁⟩, hvalue, h⟩ := bind_read h
    obtain ⟨⟨last, s₂⟩, -, h⟩ := bind_read h
    have hnext : ∀ x ∈ xs ++ [v], Json.DistinctKeys x := by
      intro x hmem
      rcases List.mem_append.1 hmem with hmem | hmem
      · exact hx x hmem
      · rw [List.mem_singleton.1 hmem]
        exact hv _ _ _ hvalue
    cases last with
    | true =>
      cases h
      exact hnext
    | false => exact ih hnext h

end

theorem scanNumber_scalar {s r : Str} {v : Json} (h : scanNumber i s = .ok (v, r)) : v.isScalar = true := by
  unfold scanNumber at h
  dsimp only at h
  split_ifs at h <;> cases h <;> rfl

theorem scanConstant_scalar {s r : Str} {v : Json} (h : scanConstant s = some (v, r)) : v.isScalar = true := by
  obtain ⟨c, hfind, heq⟩ := Option.map_eq_some_iff.1 h
  have hall : ∀ c ∈ constants, c.2.isScalar = true := by decide +kernel
  cases heq
  exact hall c (List.mem_of_find?_eq_some hfind)

theorem scanOnce_distinct : Distinct (scanOnce i depth) := by
  induction depth with
  | zero =>
    intro s v r h
    cases s with
    | nil => rw [scanOnce_nil] at h; cases h
    | cons u s =>
      rw [scanOnce.eq_def] at h
      dsimp only at h
      split_ifs at h
      · obtain ⟨⟨t, s'⟩, -, h⟩ := bind_read h
        cases h
        exact .str t
      · split at h
        · cases h
          exact .scalar (scanConstant_scalar ‹_›)
        · exact .scalar (scanNumber_scalar h)
  | succ depth ih =>
    intro s v r h
    cases s with
    | nil => rw [scanOnce_nil] at h; cases h
    | cons u s =>
      rw [scanOnce.eq_def] at h
      dsimp only at h
      split_ifs at h
      · obtain ⟨⟨t, s'⟩, -, h⟩ := bind_read h
        cases h
        exact .str t
      · obtain ⟨⟨d, s'⟩, hobject, h⟩ := bind_read h
        cases h
        unfold object at hobject
        split_ifs at hobject
        · cases hobject
          exact .obj List.nodup_nil (by simp)
        · obtain ⟨hnames, hvalues⟩ := members_distinct ih sound_nil hobject
          exact .obj hnames hvalues
      · obtain ⟨⟨xs, s'⟩, harray, h⟩ := bind_read h
        cases h
        unfold array at harray
        split_ifs at harray
        · cases harray
          exact .arr (by simp)
        · exact .arr (elements_distinct ih (by simp) harray)
      · split at h
        · cases h
          exact .scalar (scanConstant_scalar ‹_›)
        · exact .scalar (scanNumber_scalar h)

/-- A document that was read has every key once. -/
theorem loads_distinct {t : Str} {v : Json} (h : loads i t = .ok v) : Json.DistinctKeys v := by
  unfold loads at h
  split_ifs at h
  obtain ⟨⟨w, s⟩, hscan, h⟩ := bind_read h
  dsimp only at h
  split_ifs at h
  cases h
  exact scanOnce_distinct _ _ _ hscan

end

end Lib.JsonReader
