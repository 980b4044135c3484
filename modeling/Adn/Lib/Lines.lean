import Mathlib.Data.List.Basic
/-!
# Lines of a text

Splitting a text at its line breaks, and joining lines that end with a continuation
character. What separates two lines and what continues one are parameters.

- `lines_append`: a text is cut at a break.
- `logical_append`: a line that is not continued ends a logical line.
- `cutPairs`: a text cut at each pair of one character (`str.split` of a text of two).
-/

namespace Lib.Lines

variable {α : Type}

/-! ## Physical lines -/

/-- The lines of a text, where a break ends a line: the last line is there if it is not empty. -/
def lines (isBreak : α → Bool) : List α → List (List α)
  | [] => []
  | c :: s =>
    if isBreak c then [] :: lines isBreak s
    else
      match lines isBreak s with
      | [] => [[c]]
      | l :: ls => (c :: l) :: ls

section
variable {isBreak : α → Bool}

theorem lines_break {c : α} (h : isBreak c = true) (s : List α) : lines isBreak (c :: s) = [] :: lines isBreak s := by
  rw [lines, if_pos h]

theorem lines_cons {c : α} (h : isBreak c = false) {s l : List α} {ls : List (List α)} (hs : lines isBreak s = l :: ls) :
    lines isBreak (c :: s) = (c :: l) :: ls := by
  rw [lines, h, hs]
  rfl

theorem lines_last {c : α} (h : isBreak c = false) {s : List α} (hs : lines isBreak s = []) :
    lines isBreak (c :: s) = [[c]] := by
  rw [lines, h, hs]
  rfl

/-- A text is cut at each of its breaks. -/
theorem lines_append {c : α} (h : isBreak c = true) (s t : List α) :
    lines isBreak (s ++ c :: t) = lines isBreak (s ++ [c]) ++ lines isBreak t := by
  induction s with
  | nil => simp only [List.nil_append, lines_break h, lines, List.singleton_append]
  | cons d s ih =>
    cases hd : isBreak d with
    | true => simp only [List.cons_append, lines_break hd, ih]
    | false =>
      obtain ⟨l, ls, hl⟩ : ∃ l ls, lines isBreak (s ++ [c]) = l :: ls := by
        cases hs : lines isBreak (s ++ [c]) with
        | cons l ls => exact ⟨l, ls, rfl⟩
        | nil =>
          cases s with
          | nil => simp [lines, h] at hs
          | cons e s =>
            exfalso
            rw [List.cons_append, lines] at hs
            split at hs
            · cases hs
            · split at hs <;> cases hs
      rw [List.cons_append, List.cons_append, lines_cons hd hl, lines_cons hd (by rw [ih, hl]; rfl)]
      rfl

/-- A break at the end of a text ends its last line, or adds an empty one. -/
theorem lines_snoc {c : α} (h : isBreak c = true) (s : List α) :
    lines isBreak (s ++ [c]) = lines isBreak s ∨ lines isBreak (s ++ [c]) = lines isBreak s ++ [[]] := by
  induction s with
  | nil => exact .inr (lines_break h [])
  | cons d s ih =>
    cases hd : isBreak d with
    | true =>
      rw [List.cons_append, lines_break hd, lines_break hd]
      rcases ih with ih | ih
      · exact .inl (by rw [ih])
      · exact .inr (by rw [ih, List.cons_append])
    | false =>
      rw [List.cons_append]
      cases hs : lines isBreak s with
      | nil =>
        rw [hs] at ih
        refine .inl ?_
        rw [lines_last hd hs]
        rcases ih with ih | ih
        · exact lines_last hd ih
        · exact lines_cons hd ih
      | cons l ls =>
        rw [hs] at ih
        rw [lines_cons hd hs]
        rcases ih with ih | ih
        · exact .inl (lines_cons hd ih)
        · exact .inr (lines_cons hd ih)

/-- The first line of a text that starts with no break. -/
theorem lines_head {p t : List α} (hp : p ≠ []) (h : ∀ c ∈ p, isBreak c = false) :
    ∃ r ls, lines isBreak (p ++ t) = (p ++ r) :: ls := by
  induction p with
  | nil => exact absurd rfl hp
  | cons c p ih =>
    have hc := h c List.mem_cons_self
    rw [List.cons_append]
    by_cases hnil : p = []
    · subst hnil
      rw [List.nil_append]
      cases ht : lines isBreak t with
      | nil => exact ⟨[], [], lines_last hc ht⟩
      | cons l ls => exact ⟨l, ls, lines_cons hc ht⟩
    · obtain ⟨r, ls, hr⟩ := ih hnil fun d hd => h d (List.mem_cons_of_mem c hd)
      exact ⟨r, ls, lines_cons hc hr⟩

end

/-! ## Logical lines -/

section
variable (isContinued : List α → Bool)

/-- A line that is continued is joined with the next one, without its last character. -/
def logical : List (List α) → List (List α)
  | [] => []
  | l :: ls =>
    if isContinued l then
      match logical ls with
      | [] => [l.dropLast]
      | m :: ms => (l.dropLast ++ m) :: ms
    else l :: logical ls

end

section
variable {isContinued : List α → Bool}

theorem logical_ended {l : List α} (h : isContinued l = false) (ls : List (List α)) :
    logical isContinued (l :: ls) = l :: logical isContinued ls := by
  rw [logical, h]
  rfl

theorem logical_continued {l m : List α} {ls ms : List (List α)} (h : isContinued l = true)
    (hls : logical isContinued ls = m :: ms) : logical isContinued (l :: ls) = (l.dropLast ++ m) :: ms := by
  rw [logical, if_pos h, hls]

theorem logical_open {l : List α} {ls : List (List α)} (h : isContinued l = true) (hls : logical isContinued ls = []) :
    logical isContinued (l :: ls) = [l.dropLast] := by
  rw [logical, if_pos h, hls]

/-- There is a logical line where there is a line. -/
theorem logical_cons (l : List α) (ls : List (List α)) : ∃ m ms, logical isContinued (l :: ls) = m :: ms := by
  cases h : isContinued l with
  | false => exact ⟨_, _, logical_ended h ls⟩
  | true =>
    cases hls : logical isContinued ls with
    | nil => exact ⟨_, _, logical_open h hls⟩
    | cons m ms => exact ⟨_, _, logical_continued h hls⟩

/-- A line that is not continued ends a logical line. -/
theorem logical_append {l : List α} (h : isContinued l = false) (before after : List (List α)) :
    logical isContinued (before ++ l :: after) = logical isContinued (before ++ [l]) ++ logical isContinued after := by
  induction before with
  | nil => rw [List.nil_append, List.nil_append, logical_ended h, logical_ended h]; rfl
  | cons b before ih =>
    rw [List.cons_append, List.cons_append]
    cases hb : isContinued b with
    | false => rw [logical_ended hb, logical_ended hb, ih, List.cons_append]
    | true =>
      obtain ⟨m, ms, hm⟩ : ∃ m ms, logical isContinued (before ++ [l]) = m :: ms := by
        cases before with
        | nil => exact logical_cons l []
        | cons c before => exact logical_cons c (before ++ [l])
      rw [hm, List.cons_append] at ih
      rw [logical_continued hb ih, logical_continued hb hm, List.cons_append]

/-- An empty line at the end adds nothing but itself. -/
theorem logical_snoc_nil (h : isContinued [] = false) (ls : List (List α)) :
    logical isContinued (ls ++ [[]]) = logical isContinued ls ∨
      logical isContinued (ls ++ [[]]) = logical isContinued ls ++ [[]] := by
  induction ls with
  | nil => exact .inr (logical_ended h [])
  | cons l ls ih =>
    rw [List.cons_append]
    cases hl : isContinued l with
    | false =>
      rw [logical_ended hl, logical_ended hl]
      rcases ih with ih | ih
      · exact .inl (by rw [ih])
      · exact .inr (by rw [ih, List.cons_append])
    | true =>
      cases hls : logical isContinued ls with
      | nil =>
        rw [hls] at ih
        refine .inl ?_
        rw [logical_open hl hls]
        rcases ih with ih | ih
        · exact logical_open hl ih
        · rw [logical_continued hl ih, List.append_nil]
      | cons m ms =>
        rw [hls] at ih
        rw [logical_continued hl hls]
        rcases ih with ih | ih
        · exact .inl (logical_continued hl ih)
        · exact .inr (logical_continued hl ih)

/-- The first logical line is the first line, or starts with it without its last character. -/
theorem logical_head (l : List α) (ls : List (List α)) : ∃ m ms, logical isContinued (l :: ls) = m :: ms ∧
    (isContinued l = false ∧ m = l ∨ isContinued l = true ∧ l.dropLast <+: m) := by
  cases h : isContinued l with
  | false => exact ⟨_, _, logical_ended h ls, .inl ⟨rfl, rfl⟩⟩
  | true =>
    cases hls : logical isContinued ls with
    | nil => exact ⟨_, _, logical_open h hls, .inr ⟨rfl, List.prefix_rfl⟩⟩
    | cons m ms => exact ⟨_, _, logical_continued h hls, .inr ⟨rfl, List.prefix_append _ _⟩⟩

/-- The first logical line has every line up to the first that is not continued, each continued one without its last
character. -/
theorem logical_uncons {ls : List (List α)} (h : ls ≠ []) :
    ∃ m, logical isContinued ls = m :: logical isContinued (ls.dropWhile isContinued).tail ∧
      ∀ line ∈ ls, line ∈ (ls.dropWhile isContinued).tail ∨ (isContinued line = false ∧ line <:+: m) ∨
        (isContinued line = true ∧ line.dropLast <:+: m) := by
  induction ls with
  | nil => exact absurd rfl h
  | cons l ls ih =>
    cases hl : isContinued l with
    | false =>
      have hdrop : (l :: ls).dropWhile isContinued = l :: ls := List.dropWhile_cons_of_neg (by simp [hl])
      refine ⟨l, ?_, ?_⟩
      · rw [hdrop, List.tail_cons, logical_ended hl]
      · intro line hline
        rw [hdrop, List.tail_cons]
        rcases List.mem_cons.1 hline with rfl | hline
        · exact .inr (.inl ⟨hl, List.infix_rfl⟩)
        · exact .inl hline
    | true =>
      rw [List.dropWhile_cons_of_pos hl]
      by_cases hls : ls = []
      · subst hls
        refine ⟨l.dropLast, logical_open hl rfl, ?_⟩
        intro line hline
        obtain rfl := List.mem_singleton.1 hline
        exact .inr (.inr ⟨hl, List.infix_rfl⟩)
      · obtain ⟨m, hm, hlines⟩ := ih hls
        refine ⟨l.dropLast ++ m, logical_continued hl hm, ?_⟩
        intro line hline
        rcases List.mem_cons.1 hline with rfl | hline
        · exact .inr (.inr ⟨hl, (List.prefix_append _ _).isInfix⟩)
        · have hinfix : m <:+: l.dropLast ++ m := (List.suffix_append _ _).isInfix
          rcases hlines line hline with hlater | ⟨hended, hpart⟩ | ⟨hcontinued, hpart⟩
          · exact .inl hlater
          · exact .inr (.inl ⟨hended, hpart.trans hinfix⟩)
          · exact .inr (.inr ⟨hcontinued, hpart.trans hinfix⟩)

end

/-! ## Cutting at a pair -/

/-- The parts of a text between the pairs of `c`, leftmost first. -/
def cutPairs [DecidableEq α] (c : α) : List α → List (List α)
  | [] => [[]]
  | [a] => [[a]]
  | a :: b :: s =>
    if a = c ∧ b = c then [] :: cutPairs c s
    else
      match cutPairs c (b :: s) with
      | [] => [[a]]
      | p :: ps => (a :: p) :: ps

/-- A text is one part, or is cut at its first pair. -/
theorem cutPairs_cases [DecidableEq α] (c : α) (s : List α) :
    cutPairs c s = [s] ∨ ∃ p t, s = p ++ c :: c :: t ∧ cutPairs c s = p :: cutPairs c t := by
  induction s using cutPairs.induct c with
  | case1 => exact .inl (by rw [cutPairs])
  | case2 a => exact .inl (by rw [cutPairs])
  | case3 a b s hpair ih =>
    obtain ⟨rfl, rfl⟩ := hpair
    exact .inr ⟨[], s, rfl, by rw [cutPairs, if_pos ⟨rfl, rfl⟩]⟩
  | case4 a b s hpair hnil ih =>
    exfalso
    rcases ih with ih | ⟨p, t, -, ih⟩
    · rw [hnil] at ih
      cases ih
    · rw [hnil] at ih
      cases ih
  | case5 a b s hpair p ps hcut ih =>
    have hfirst : cutPairs c (a :: b :: s) = (a :: p) :: ps := by
      rw [cutPairs, if_neg hpair, hcut]
    rw [hfirst]
    rcases ih with ih | ⟨p', t, hs, ih⟩
    · rw [hcut] at ih
      cases ih
      exact .inl rfl
    · rw [hcut] at ih
      cases ih
      exact .inr ⟨a :: p, t, by rw [hs, List.cons_append], rfl⟩

end Lib.Lines
