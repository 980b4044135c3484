import Adn.Lib.Floats
import Adn.Lib.Hex
import Adn.Lib.JsonText
import Adn.Lib.UnicodeQuoting
/-!
# Reading JSON

`loads` is Python's `json.loads` of a text, with the errors it can end in. A text that an
object of strings is written as (`flatText`) is read back (`loads_flat`); a part of it is no
document (`loads_part`), and neither is the text with something behind it (`loads_followed`).
-/

namespace Lib.JsonReader

/-- What `json.loads` raises. -/
inductive ReadError where
  /-- `JSONDecodeError` -/
  | decode
  /-- `ValueError`: an integer with more digits than Python converts -/
  | tooManyDigits
  /-- `RecursionError` -/
  | tooDeep
deriving DecidableEq

/-- The interpreter that runs the reader. -/
structure Interpreter where
  /-- `float(text)` -/
  float : Str → PyFloat
  /-- `sys.get_int_max_str_digits()`, `none` for no limit -/
  maxDigits : Option ℕ
  /-- How deep objects and arrays can be nested. -/
  depth : ℕ
  depth_pos : 0 < depth

/-! ## Strings -/

/-- A character that may follow a backslash, other than `u`. -/
def isEscape (e : UInt16) : Bool :=
  e = 0x22 || e = 0x5C || e = 0x2F || e = 0x62 || e = 0x66 || e = 0x6E || e = 0x72 || e = 0x74

def hex4Value (a b c d : UInt16) : Option UInt16 := do
  let a ← Hex.digitValue a
  let b ← Hex.digitValue b
  let c ← Hex.digitValue c
  let d ← Hex.digitValue d
  return (((a * 0x10 + b) * 0x10 + c) * 0x10 + d).toUInt16

def push (u : UInt16) (r : Option (Str × Str)) : Option (Str × Str) := r.map fun r => (u :: r.1, r.2)

/-- `scanstring`: what a literal stands for and what comes behind it, after the opening quote. -/
def scanString : Str → Option (Str × Str)
  | [] => none
  | u :: s =>
    if u = Text.quotationMark then some ([], s)
    else if u = Text.backslash then
      match s with
      | [] => none
      | e :: s =>
        if e = 0x75 then
          match s with
          | a :: b :: c :: d :: s =>
            match hex4Value a b c d with
            | some v => push v (scanString s)
            | none => none
          | _ => none
        else if isEscape e then push (Text.shortUnescape e) (scanString s) else none
    else if u.toNat < 0x20 then none
    else push u (scanString s)

def string (s : Str) : Except ReadError (Str × Str) :=
  match scanString s with
  | some r => .ok r
  | none => .error .decode

/-! ## Numbers -/

/-- `s[idx] == "."` and a digit, and the digits that follow. -/
def fracPart : Str → Str
  | u :: s => if u = 0x2E && s.head?.any Numerals.isDigit then u :: s.takeWhile Numerals.isDigit else []
  | [] => []

/-- The sign and the digits of an exponent. -/
def expDigits (s : Str) : Str × Str :=
  if s.head?.any (fun u => u = 0x2B || u = 0x2D) then (s.take 1, s.tail.takeWhile Numerals.isDigit)
  else ([], s.takeWhile Numerals.isDigit)

def expPart : Str → Str
  | u :: s =>
    let (sign, digits) := expDigits s
    if (u = 0x65 || u = 0x45) && digits ≠ [] then u :: sign ++ digits else []
  | [] => []

/-- `_match_number` -/
def scanNumber (i : Interpreter) (s : Str) : Except ReadError (Json × Str) :=
  let sign : Str := if s.head? = some 0x2D then [0x2D] else []
  let body := s.drop sign.length
  let digits := if body.head? = some 0x30 then [0x30] else body.takeWhile Numerals.isDigit
  let frac := fracPart (body.drop digits.length)
  let exp := expPart (body.drop (digits.length + frac.length))
  let rest := body.drop (digits.length + frac.length + exp.length)
  if digits = [] then .error .decode
  else if frac ++ exp ≠ [] then .ok (.float (i.float (sign ++ digits ++ frac ++ exp)), rest)
  else if i.maxDigits.any (· < digits.length) then .error .tooManyDigits
  else
    let value : ℤ := Numerals.digitsValue (digits.map fun u => u.toNat - 0x30)
    .ok (.int (if sign = [] then value else -value), rest)

/-! ## Values -/

/-- The constants, and what they stand for. -/
def constants : List (Str × Json) := [("null", .null), ("true", .bool true), ("false", .bool false), ("NaN", .float .nan),
  ("Infinity", .float .posInf), ("-Infinity", .float .negInf)]

def scanConstant (s : Str) : Option (Json × Str) :=
  (constants.find? fun c => c.1.isPrefixOf s).map fun c => (c.2, s.drop c.1.length)

/-- `WHITESPACE` -/
def isBlank (u : UInt16) : Bool := u = 0x20 || u = 0x09 || u = 0x0A || u = 0x0D

def skip (s : Str) : Str := s.dropWhile isBlank

/-- The next character, which has to be there. -/
def expect (u : UInt16) : Str → Except ReadError Str
  | c :: s => if c = u then .ok s else .error .decode
  | [] => .error .decode

/-- What ends an item: `true` if it is the last one. -/
def separator (close : UInt16) : Str → Except ReadError (Bool × Str)
  | c :: s => if c = close then .ok (true, s) else if c = comma then .ok (false, skip s) else .error .decode
  | [] => .error .decode

section
variable (value : Str → Except ReadError (Json × Str))

/-- The members of an object, after the brace or a comma. Each takes characters, so the length of the text is enough. -/
def members : ℕ → Dict → Str → Except ReadError (Dict × Str)
  | 0, _, _ => .error .decode
  | n + 1, d, s => do
    let s ← expect Text.quotationMark s
    let (k, s) ← string s
    let s ← expect colon (skip s)
    let (v, s) ← value (skip s)
    let (last, s) ← separator closeBrace (skip s)
    if last then return (d.set k v, s) else members n (d.set k v) s

/-- The elements of an array. -/
def elements : ℕ → List Json → Str → Except ReadError (List Json × Str)
  | 0, _, _ => .error .decode
  | n + 1, xs, s => do
    let (v, s) ← value s
    let (last, s) ← separator closeBracket (skip s)
    if last then return (xs ++ [v], s) else elements n (xs ++ [v]) s

/-- `JSONObject` -/
def object (s : Str) : Except ReadError (Dict × Str) :=
  if (skip s).head? = some closeBrace then .ok ([], (skip s).tail) else members value (skip s).length [] (skip s)

/-- `JSONArray` -/
def array (s : Str) : Except ReadError (List Json × Str) :=
  if (skip s).head? = some closeBracket then .ok ([], (skip s).tail) else elements value (skip s).length [] (skip s)

end

/-- `scan_once`, with the levels of nesting that are left. -/
def scanOnce (i : Interpreter) (depth : ℕ) : Str → Except ReadError (Json × Str)
  | [] => .error .decode
  | u :: s =>
    if u = Text.quotationMark then do
      let (t, s) ← string s
      return (.str t, s)
    else if u = openBrace ∨ u = openBracket then
      match depth with
      | 0 => .error .tooDeep
      | depth + 1 =>
        if u = openBrace then do
          let (d, s) ← object (scanOnce i depth) s
          return (.obj d, s)
        else do
          let (xs, s) ← array (scanOnce i depth) s
          return (.arr xs, s)
    else
      match scanConstant (u :: s) with
      | some r => .ok r
      | none => scanNumber i (u :: s)

/-- `json.loads(s)` -/
def loads (i : Interpreter) (s : Str) : Except ReadError Json :=
  if s.head? = some 0xFEFF then .error .decode
  else do
    let (v, s) ← scanOnce i i.depth (skip s)
    if skip s = [] then return v else .error .decode

/-! ## Literals that were written -/

theorem ok_bind {ε α γ : Type} (a : α) (f : α → Except ε γ) : (Except.ok a >>= f) = f a := rfl

theorem error_bind {ε α γ : Type} (e : ε) (f : α → Except ε γ) : (Except.error e >>= f) = .error e := rfl

theorem scanString_quote (r : Str) : scanString (Text.quotationMark :: r) = some ([], r) := by
  rw [scanString.eq_def]
  exact if_pos rfl

/-- A code unit that is written out is read as it is. -/
theorem scanString_raw {u : UInt16} (hq : u ≠ Text.quotationMark) (hb : u ≠ Text.backslash) (hu : 0x20 ≤ u.toNat) (s : Str) :
    scanString (u :: s) = push u (scanString s) := by
  rw [scanString.eq_def]
  dsimp only
  rw [if_neg hq, if_neg hb, if_neg (by omega)]

theorem scanString_short {e : UInt16} (hu : e ≠ 0x75) (he : isEscape e = true) (s : Str) :
    scanString (Text.backslash :: e :: s) = push (Text.shortUnescape e) (scanString s) := by
  rw [scanString.eq_def]
  dsimp only
  rw [if_neg (by decide), if_pos rfl, if_neg hu, if_pos he]

theorem scanString_u {a b c d v : UInt16} (h : hex4Value a b c d = some v) (s : Str) :
    scanString (Text.backslash :: 0x75 :: a :: b :: c :: d :: s) = push v (scanString s) := by
  rw [scanString.eq_def]
  dsimp only
  rw [if_neg (by decide), if_pos rfl, if_pos rfl, h]

theorem push_append {u : UInt16} {o o' : Option (Str × Str)} {q t r : Str}
    (ho : ∀ {t r}, o = some (t, r) → o' = some (t, r ++ q)) (h : push u o = some (t, r)) : push u o' = some (t, r ++ q) := by
  obtain ⟨⟨t, r⟩, hsome, heq⟩ := Option.map_eq_some_iff.1 h
  cases heq
  rw [ho hsome]
  rfl

/-- What comes behind a literal does not change it. -/
theorem scanString_append {p t r : Str} (h : scanString p = some (t, r)) (q : Str) :
    scanString (p ++ q) = some (t, r ++ q) := by
  fun_induction scanString p generalizing t r with
  | case2 s =>
    cases h
    exact scanString_quote _
  | case4 a b c d s v hv _ ih =>
    simp only [List.cons_append]
    rw [scanString_u hv]
    exact push_append ih h
  | case7 e s hu he _ ih =>
    simp only [List.cons_append]
    rw [scanString_short hu he]
    exact push_append ih h
  | case10 u s hq hb hu ih =>
    rw [List.cons_append, scanString_raw hq hb (by omega)]
    exact push_append ih h
  | case1 | case3 | case5 | case6 | case8 | case9 => cases h

theorem hex4Value_hex4 {u a b c d : UInt16} (h : Text.hex4 u = [a, b, c, d]) : hex4Value a b c d = some u := by
  have hu := u.toNat_lt
  simp only [Text.hex4, List.cons.injEq, and_true] at h
  obtain ⟨rfl, rfl, rfl, rfl⟩ := h
  have hvalue : ((u.toNat / 0x1000 * 0x10 + u.toNat / 0x100 % 0x10) * 0x10 + u.toNat / 0x10 % 0x10) * 0x10 +
      u.toNat % 0x10 = u.toNat := by omega
  rw [hex4Value, Hex.digitValue_hexDigit (by omega), Hex.digitValue_hexDigit (by omega),
    Hex.digitValue_hexDigit (by omega), Hex.digitValue_hexDigit (by omega)]
  simp only [Option.bind_eq_bind, Option.bind_some, hvalue, Nat.toUInt16_eq, UInt16.ofNat_toNat]
  rfl

theorem scanString_hex (u : UInt16) (s : Str) :
    scanString (Text.backslash :: 0x75 :: Text.hex4 u ++ s) = push u (scanString s) :=
  scanString_u (hex4Value_hex4 rfl) s

theorem isEscape_shortEscape {u e : UInt16} (h : Text.shortEscape? u = some e) : isEscape e = true := by
  unfold Text.shortEscape? at h
  split_ifs at h <;> cases h <;> rfl

/-- A code unit, however it was written. -/
theorem scanString_escapeUnit {raw : UInt16 → Bool} {u : UInt16} (hraw : raw u = true → 0x20 ≤ u.toNat) (s : Str) :
    scanString (Text.escapeUnit raw u ++ s) = push u (scanString s) := by
  unfold Text.escapeUnit
  cases hu : Text.shortEscape? u with
  | some e =>
    obtain ⟨hshort, he, -⟩ := Text.shortEscape_some hu
    dsimp only
    rw [List.cons_append, List.singleton_append, scanString_short he (isEscape_shortEscape hu), hshort]
  | none =>
    obtain ⟨hq, hb⟩ := Text.ne_of_shortEscape_none hu
    dsimp only
    split
    · rename_i h
      exact scanString_raw hq hb (hraw h) s
    · exact scanString_hex u s

/-- A character, however it was written. -/
theorem scanString_codePoint {c : ℕ} (hc : c < 0x110000) {s t r : Str} (h : scanString s = some (t, r)) :
    scanString (Text.unicodeCodePoint c ++ s) = some (Str.ofCodePoint c ++ t, r) := by
  by_cases hlow : c < 0x10000
  · rw [Text.unicodeCodePoint, if_pos hlow, scanString_escapeUnit, h, Str.ofCodePoint, if_pos hlow]
    · rfl
    · intro hraw
      rw [Bool.and_eq_true] at hraw
      exact of_decide_eq_true hraw.1
  · -- both surrogates are written out
    obtain ⟨hi, lo, htext, -, hhi, hlo⟩ := Text.unicodeCodePoint_high (Nat.le_of_not_lt hlow) hc
    have hpair : Str.ofCodePoint c = [hi, lo] := by rw [← htext, Text.unicodeCodePoint, if_neg hlow]
    have hraw : ∀ u : UInt16, 0xD800 ≤ u.toNat → ∀ s, scanString (u :: s) = push u (scanString s) := by
      intro u hu s
      apply scanString_raw
      · rintro rfl
        revert hu
        decide
      · rintro rfl
        revert hu
        decide
      · omega
    rw [htext, hpair, List.cons_append, List.singleton_append, hraw hi (by omega), hraw lo (by omega), h]
    rfl

/-- A literal is read as the string it was written for. -/
theorem scanString_unicodeBody (t r : Str) : scanString (Text.unicodeBody t ++ Text.quotationMark :: r) = some (t, r) := by
  have hbody : ∀ cs : List ℕ, (∀ c ∈ cs, c < 0x110000) →
      scanString (cs.flatMap Text.unicodeCodePoint ++ Text.quotationMark :: r) = some (cs.flatMap Str.ofCodePoint, r) := by
    intro cs hcs
    induction cs with
    | nil => exact scanString_quote r
    | cons c cs ih =>
      obtain ⟨hc, hcs⟩ := List.forall_mem_cons.1 hcs
      rw [List.flatMap_cons, List.append_assoc, scanString_codePoint hc (ih hcs), List.flatMap_cons]
  rw [Text.unicodeBody, hbody _ Text.codePoints_lt, Text.flatMap_ofCodePoint]

theorem string_written (t r : Str) : string (Text.unicodeBody t ++ Text.quotationMark :: r) = .ok (t, r) := by
  rw [string, scanString_unicodeBody]

/-- A part of a literal is none. -/
theorem string_part {t p q : Str} (h : p ++ q = Text.unicodeBody t ++ [Text.quotationMark]) (hq : q ≠ []) :
    string p = .error .decode := by
  rw [string]
  cases hp : scanString p with
  | none => rfl
  | some r =>
    have hwhole := scanString_append hp q
    rw [h, scanString_unicodeBody, Option.some.injEq, Prod.mk.injEq] at hwhole
    exact absurd (List.append_eq_nil_iff.1 hwhole.2.symm).2 hq

/-! ## Objects of strings -/

/-- A member whose value is a string, as it is written. -/
def flatMember (f : Str × Str) : Str := Text.quoteUnicode f.1 ++ colon :: Text.quoteUnicode f.2

/-- An object of strings, as it is written. -/
def flatText (fs : List (Str × Str)) : Str := openBrace :: joinComma (fs.map flatMember) ++ [closeBrace]

/-- The object itself. -/
def flatDict (fs : List (Str × Str)) : Dict := fs.map fun f => (f.1, .str f.2)

/-- What comes behind the brace, or behind a comma. -/
def flatRest (fs : List (Str × Str)) : Str := joinComma (fs.map flatMember) ++ [closeBrace]

/-- What comes behind a member. -/
def flatEnd : List (Str × Str) → Str
  | [] => [closeBrace]
  | f :: fs => comma :: flatRest (f :: fs)

/-- A member, and what comes behind it. -/
def memberText (f : Str × Str) (s : Str) : Str :=
  Text.quotationMark :: (Text.unicodeBody f.1 ++ [Text.quotationMark] ++
    colon :: Text.quotationMark :: (Text.unicodeBody f.2 ++ [Text.quotationMark] ++ s))

theorem memberText_append (f : Str × Str) (s r : Str) : memberText f s ++ r = memberText f (s ++ r) := by
  simp [memberText]

theorem flatRest_cons (f : Str × Str) (fs : List (Str × Str)) : flatRest (f :: fs) = memberText f (flatEnd fs) := by
  cases fs with
  | nil => simp [flatRest, flatMember, flatEnd, joinComma, Text.quoteUnicode, memberText]
  | cons g gs => simp [flatRest, flatMember, flatEnd, joinComma, Text.quoteUnicode, memberText]

theorem flatText_eq (fs : List (Str × Str)) : flatText fs = openBrace :: flatRest fs := rfl

theorem skip_cons {u : UInt16} (h : isBlank u = false) (s : Str) : skip (u :: s) = u :: s :=
  List.dropWhile_cons_of_neg (by rw [h]; exact Bool.false_ne_true)

theorem skip_flatRest (fs : List (Str × Str)) (s : Str) : skip (flatRest fs ++ s) = flatRest fs ++ s := by
  cases fs with
  | nil => exact skip_cons rfl s
  | cons f fs =>
    rw [flatRest_cons, memberText_append]
    exact skip_cons rfl _

theorem expect_self (u : UInt16) (s : Str) : expect u (u :: s) = .ok s := if_pos rfl

theorem scanOnce_string (i : Interpreter) (depth : ℕ) (s : Str) :
    scanOnce i depth (Text.quotationMark :: s) = (do let (t, s) ← string s; return (.str t, s)) := by
  rw [scanOnce.eq_def]
  exact if_pos rfl

theorem scanOnce_nil (i : Interpreter) (depth : ℕ) : scanOnce i depth [] = .error .decode := by
  rw [scanOnce.eq_def]

theorem separator_close (close : UInt16) (s : Str) : separator close (close :: s) = .ok (true, s) := if_pos rfl

theorem separator_comma (s : Str) : separator closeBrace (comma :: s) = .ok (false, skip s) := by
  rw [separator, if_neg (by decide), if_pos rfl]

/-- A key that is not there yet is added behind the others. -/
theorem set_new {d : Dict} {k : Str} (h : k ∉ d.map (·.1)) (v : Json) : d.set k v = d ++ [(k, v)] := by
  have hfilter : d.filter (·.1 ≠ k) = d := by
    rw [List.filter_eq_self]
    intro f hf
    refine decide_eq_true ?_
    rintro rfl
    exact h (List.mem_map_of_mem hf)
  rw [Dict.set, hfilter]

section
variable {i : Interpreter} {depth : ℕ}

/-- One member that was written, and what comes behind it. -/
theorem members_member (n : ℕ) (d : Dict) (f : Str × Str) (s : Str) :
    members (scanOnce i depth) (n + 1) d (memberText f s) = (do
        let (last, s) ← separator closeBrace (skip s)
        if last then return (d.set f.1 (.str f.2), s)
        else members (scanOnce i depth) n (d.set f.1 (.str f.2)) s) := by
  simp only [members, memberText, List.append_assoc, List.singleton_append, expect_self, ok_bind, string_written, skip_cons (u := colon) rfl,
    skip_cons (u := Text.quotationMark) rfl, scanOnce_string, pure, Except.pure]

/-- The members that were written are read back. -/
theorem members_written {n : ℕ} {d : Dict} {fs : List (Str × Str)} {r : Str} (hn : fs.length ≤ n) (hne : fs ≠ [])
    (hkeys : ((d ++ flatDict fs).map (·.1)).Nodup) :
    members (scanOnce i depth) n d (flatRest fs ++ r) = .ok (d ++ flatDict fs, r) := by
  induction fs generalizing n d with
  | nil => exact absurd rfl hne
  | cons f fs ih =>
    cases n with
    | zero => cases hn
    | succ n =>
      have hsplit : d ++ flatDict (f :: fs) = d ++ [(f.1, .str f.2)] ++ flatDict fs := by
        rw [List.append_assoc]
        rfl
      have hset : d.set f.1 (.str f.2) = d ++ [(f.1, .str f.2)] := by
        apply set_new
        intro hmem
        rw [List.map_append, List.nodup_append] at hkeys
        exact hkeys.2.2 _ hmem _ List.mem_cons_self rfl
      rw [flatRest_cons, memberText_append, members_member, hset]
      cases fs with
      | nil =>
        rw [flatEnd, List.singleton_append, skip_cons rfl, separator_close]
        rfl
      | cons g gs =>
        rw [flatEnd, List.cons_append, skip_cons rfl, separator_comma, skip_flatRest, ok_bind]
        rw [hsplit] at hkeys ⊢
        exact ih (Nat.le_of_succ_le_succ hn) (List.cons_ne_nil g gs) hkeys

/-- A part of a text ends in its first half, or later. -/
theorem part_append {p q a b : Str} (h : p ++ q = a ++ b) :
    (∃ r, r ≠ [] ∧ p ++ r = a) ∨ ∃ p', p = a ++ p' ∧ p' ++ q = b := by
  rcases List.append_eq_append_iff.1 h with ⟨r, rfl, rfl⟩ | ⟨p', rfl, rfl⟩
  · by_cases hr : r = []
    · subst hr
      exact .inr ⟨[], by simp, rfl⟩
    · exact .inl ⟨r, hr, rfl⟩
  · exact .inr ⟨p', rfl, rfl⟩

theorem cons_part {u v : UInt16} {p q t : Str} (h : u :: p ++ q = v :: t) : u = v ∧ p ++ q = t := List.cons.inj h

/-- What comes behind the brace starts with a member, or with the other brace. -/
theorem flatRest_head (fs : List (Str × Str)) : ∃ u s, flatRest fs = u :: s ∧ isBlank u = false ∧
    (fs ≠ [] → u ≠ closeBrace) := by
  cases fs with
  | nil => exact ⟨closeBrace, [], rfl, rfl, fun h => absurd rfl h⟩
  | cons f fs =>
    refine ⟨Text.quotationMark, _, flatRest_cons f fs, rfl, fun _ => ?_⟩
    decide

theorem skip_part {fs : List (Str × Str)} {p q : Str} (h : p ++ q = flatRest fs) : skip p = p := by
  cases p with
  | nil => rfl
  | cons u p =>
    obtain ⟨v, s, hrest, hv, -⟩ := flatRest_head fs
    rw [hrest] at h
    obtain ⟨rfl, -⟩ := cons_part h
    exact skip_cons hv p

theorem members_nil (n : ℕ) (d : Dict) : members (scanOnce i depth) n d [] = .error .decode := by
  cases n <;> rfl

/-- A part of a member is none. -/
theorem member_part {n : ℕ} {d : Dict} {f : Str × Str} {p q s : Str} (h : p ++ q = memberText f s) :
    members (scanOnce i depth) (n + 1) d p = .error .decode ∨ ∃ p', p = memberText f p' ∧ p' ++ q = s := by
  rw [memberText] at h
  cases p with
  | nil => exact .inl (members_nil _ d)
  | cons u p =>
    obtain ⟨rfl, hkey⟩ := cons_part h
    rcases part_append hkey with ⟨r, hr, hpart⟩ | ⟨p, rfl, hcolon⟩
    · left
      simp only [members, expect_self, ok_bind, string_part hpart hr, error_bind]
    cases p with
    | nil =>
      left
      simp only [members, List.append_assoc, List.singleton_append, expect_self, ok_bind, string_written]
      rfl
    | cons u p =>
      obtain ⟨rfl, hquote⟩ := cons_part hcolon
      cases p with
      | nil =>
        left
        have hnil : skip [] = [] := rfl
        simp only [members, List.append_assoc, List.singleton_append, expect_self, ok_bind, string_written,
          skip_cons (u := colon) rfl, hnil, scanOnce_nil, error_bind]
      | cons u p =>
        obtain ⟨rfl, hvalue⟩ := cons_part hquote
        rcases part_append hvalue with ⟨r, hr, hpart⟩ | ⟨p, rfl, hrest⟩
        · left
          simp only [members, List.append_assoc, List.singleton_append, expect_self, ok_bind, string_written,
            skip_cons (u := colon) rfl, skip_cons (u := Text.quotationMark) rfl, scanOnce_string, string_part hpart hr,
            error_bind]
        · exact .inr ⟨p, rfl, hrest⟩

/-- A part of the members does not end. -/
theorem members_part {n : ℕ} {d : Dict} {fs : List (Str × Str)} {p q : Str} (h : p ++ q = flatRest fs) (hq : q ≠ []) :
    members (scanOnce i depth) n d p = .error .decode := by
  induction fs generalizing n d p with
  | nil =>
    cases p with
    | nil => exact members_nil n d
    | cons u p => exact absurd (List.append_eq_nil_iff.1 (cons_part h).2).2 hq
  | cons f fs ih =>
    cases n with
    | zero => rfl
    | succ n =>
      rw [flatRest_cons] at h
      rcases member_part h with herror | ⟨p, rfl, hend⟩
      · exact herror
      rw [members_member]
      cases p with
      | nil => rfl
      | cons u p =>
        cases fs with
        | nil => exact absurd (List.append_eq_nil_iff.1 (cons_part hend).2).2 hq
        | cons g gs =>
          obtain ⟨rfl, hrest⟩ := cons_part hend
          rw [skip_cons rfl, separator_comma, ok_bind, skip_part hrest]
          exact ih hrest

end

/-! ## Whole texts -/

section
variable (i : Interpreter) {fs : List (Str × Str)}

theorem loads_brace (s : Str) : ∃ depth, loads i (openBrace :: s) = (do
    let (d, s) ← object (scanOnce i depth) s
    if skip s = [] then return .obj d else .error .decode) := by
  obtain ⟨depth, hdepth⟩ := Nat.exists_eq_add_one_of_ne_zero (Nat.pos_iff_ne_zero.1 i.depth_pos)
  refine ⟨depth, ?_⟩
  have hmark : (openBrace :: s).head? ≠ some 0xFEFF := fun h => absurd (Option.some.inj h) (by decide)
  rw [loads, if_neg hmark, skip_cons rfl, hdepth, scanOnce.eq_def]
  dsimp only
  rw [if_neg (by decide), if_pos (.inl rfl), if_pos rfl]
  cases object (scanOnce i depth) s with
  | error e => rfl
  | ok r => rfl

theorem length_flatRest (fs : List (Str × Str)) : fs.length ≤ (flatRest fs).length := by
  induction fs with
  | nil => exact Nat.zero_le _
  | cons f fs ih =>
    have hend : fs.length ≤ (flatEnd fs).length := by
      cases fs with
      | nil => exact Nat.zero_le _
      | cons g gs => exact Nat.le_succ_of_le ih
    rw [flatRest_cons, memberText]
    simp only [List.length_cons, List.length_append]
    omega

theorem object_written (depth : ℕ) (hkeys : (fs.map (·.1)).Nodup) (r : Str) :
    object (scanOnce i depth) (flatRest fs ++ r) = .ok (flatDict fs, r) := by
  rw [object, skip_flatRest]
  by_cases hfs : fs = []
  · subst hfs
    exact if_pos rfl
  · obtain ⟨u, s, hrest, -, hu⟩ := flatRest_head fs
    have hlength : fs.length ≤ (flatRest fs ++ r).length := by
      rw [List.length_append]
      exact Nat.le_add_right_of_le (length_flatRest fs)
    have hhead : (flatRest fs ++ r).head? ≠ some closeBrace := by
      rw [hrest]
      exact fun h => hu hfs (Option.some.inj h)
    have hnames : (([] ++ flatDict fs : Dict).map (·.1)).Nodup := by
      rw [List.nil_append, flatDict, List.map_map]
      exact hkeys
    rw [if_neg hhead]
    exact members_written hlength hfs hnames

/-- An object of strings is read back. -/
theorem loads_flat (hkeys : (fs.map (·.1)).Nodup) : loads i (flatText fs) = .ok (.obj (flatDict fs)) := by
  obtain ⟨depth, h⟩ := loads_brace i (flatRest fs)
  have hobject := object_written i depth hkeys []
  rw [List.append_nil] at hobject
  rw [flatText_eq, h, hobject]
  rfl

/-- With something behind it, it is no document. -/
theorem loads_followed (hkeys : (fs.map (·.1)).Nodup) {u : UInt16} (hu : isBlank u = false) (r : Str) :
    loads i (flatText fs ++ u :: r) = .error .decode := by
  obtain ⟨depth, h⟩ := loads_brace i (flatRest fs ++ u :: r)
  have hskip : skip (u :: r) ≠ [] := by
    rw [skip_cons hu]
    exact List.cons_ne_nil u r
  rw [flatText_eq, List.cons_append, h, object_written i depth hkeys, ok_bind]
  exact if_neg hskip

/-- A part of it is none either. -/
theorem loads_part {p q : Str} (h : p ++ q = flatText fs) (hq : q ≠ []) : loads i p = .error .decode := by
  cases p with
  | nil =>
    have hnil : skip [] = [] := rfl
    rw [loads, hnil, scanOnce_nil]
    rfl
  | cons u p =>
    rw [flatText_eq] at h
    obtain ⟨rfl, hrest⟩ := cons_part h
    obtain ⟨depth, hloads⟩ := loads_brace i p
    have hhead : p.head? ≠ some closeBrace := by
      cases p with
      | nil => simp
      | cons u p =>
        intro hclose
        obtain ⟨v, s, hv, -, hother⟩ := flatRest_head fs
        obtain rfl := Option.some.inj hclose
        by_cases hfs : fs = []
        · subst hfs
          exact hq (List.append_eq_nil_iff.1 (cons_part hrest).2).2
        · rw [hv] at hrest
          exact hother hfs (cons_part hrest).1.symm
    rw [hloads, object, skip_part hrest, if_neg hhead, members_part hrest hq]
    rfl

end

end Lib.JsonReader
