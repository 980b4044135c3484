import Adn.Platform
import Adn.Lib.Lines
/-!
# The gate on dependency locks

`assert_python_dependencies_are_hash_locked` cuts a lock text at its blank lines and looks
at the parts that start with a pinned requirement, each part as a whole. What a part has
after its first requirement, and a part that starts with anything else, goes unchecked
(`commented_block_passes`). Where every part has one requirement at most and starts with
it, what passes is locked (`lock_sound_of_standalone`).
-/

open Lib Lib.Lines

namespace Adn

namespace ReleaseGate

/-! ## Texts -/

/-- The line ends of a text file, as `read_text` gives them. -/
def universalNewlines : Str → Str
  | [] => []
  | c :: s =>
    if c = 0x0D ∧ s.head? = some 0x0A then universalNewlines s
    else (if c = 0x0D then 0x0A else c) :: universalNewlines s

/-- A line break of `str.splitlines`. -/
def isLineBreak (u : UInt16) : Bool :=
  (0x0A ≤ u.toNat && u.toNat ≤ 0x0D) || (0x1C ≤ u.toNat && u.toNat ≤ 0x1E) || u = 0x85 || u = 0x2028 || u = 0x2029

/-- `part in text` -/
def contains (part text : Str) : Bool := text.tails.any part.isPrefixOf

def isNameChar (u : UInt16) : Bool :=
  (0x41 ≤ u.toNat && u.toNat ≤ 0x5A) || (0x61 ≤ u.toNat && u.toNat ≤ 0x7A) || (0x30 ≤ u.toNat && u.toNat ≤ 0x39) ||
    u = 0x5F || u = 0x2E || u = 0x2D

/-- A character of `[^\s\\]` -/
def isVersionChar (u : UInt16) : Bool := !isSpace u && u != 0x5C

/-- `REQUIREMENT_LINE_PATTERN.match(text)`, which is what `search` finds too. -/
def startsPinned (text : Str) : Bool :=
  let rest := text.dropWhile isNameChar
  (text.head?.any isNameChar) && rest.take 2 = "==" && (rest.drop 2).head?.any isVersionChar

/-- `line.strip() and not line.lstrip().startswith("#")` -/
def isCode (line : Str) : Bool := strip line ≠ [] && (line.dropWhile isSpace).head? ≠ some 0x23

def hasHash (line : Str) : Bool := contains "--hash=sha256:" line

/-! ## The gate -/

/-- `PYTHON_REQUIREMENT_LOCKS` -/
def pythonRequirementLocks : List Str := ["requirements-ci.lock", "requirements-release.lock"]

/-- The lines of a block that are looked at. -/
def codeLines (block : Str) : List Str := ((lines isLineBreak block).filter isCode).map (·.rdropWhile isSpace)

def lockMessage (lockPath : Str) (message : String) : Str :=
  Str.ofString "release gate Python lock " ++ lockPath ++ Str.ofString message

def blockErrors (lockPath block : Str) : List Str :=
  match codeLines block with
  | [] => []
  | first :: rest =>
    (if startsPinned first then [] else [lockMessage lockPath " has unpinned requirement: " ++ first]) ++
      if (first :: rest).any hasHash then [] else [lockMessage lockPath " requirement missing hash: " ++ first]

/-- The errors for one lock file. -/
def lockErrors (lockPath content : Str) : List Str :=
  let options := contains "--require-hashes" content || contains "-r " content
  let blocks := (cutPairs 0x0A content).filter startsPinned
  (if options then [lockMessage lockPath " must contain only pinned packages, not pip options"] else []) ++
    if blocks = [] then [lockMessage lockPath " has no pinned packages"] else blocks.flatMap (blockErrors lockPath)

/-- The part of `assert_python_dependencies_are_hash_locked` that is about locks, where `read` gives the text of a file. -/
def assertLocks (read : Str → Str) : List Str :=
  pythonRequirementLocks.flatMap fun lockPath => lockErrors lockPath (universalNewlines (read lockPath))

/-! ## Requirements -/

/-- The line goes on with the next one. -/
def isContinued (line : Str) : Bool := line.getLast? = some 0x5C

/-- The logical lines of a lock text that are neither blank nor comments. -/
def requirements (text : Str) : List Str := (logical isContinued (lines isLineBreak text)).filter isCode

/-- Pinned to a version, with a hash of its own. -/
def isLocked (requirement : Str) : Bool := startsPinned requirement && hasHash requirement

/-! ## Where the pattern matches -/

section
variable {text : Str}

theorem equals_units : Str.ofString "==" = [0x3D, 0x3D] := rfl

theorem startsPinned_iff : startsPinned text = true ↔ ∃ name c rest, name ≠ [] ∧ (∀ u ∈ name, isNameChar u = true) ∧
    isVersionChar c = true ∧ text = name ++ Str.ofString "==" ++ c :: rest := by
  have hequals : ¬isNameChar 0x3D = true := by decide
  unfold startsPinned
  simp only [Bool.and_eq_true, decide_eq_true_eq, Option.any_eq_true]
  constructor
  · rintro ⟨⟨⟨u, hu, hname⟩, htwo⟩, c, hc, hversion⟩
    obtain ⟨rest, hrest⟩ := List.head?_eq_some_iff.1 hc
    refine ⟨text.takeWhile isNameChar, c, rest, ?_, ?_, hversion, ?_⟩
    · obtain ⟨more, rfl⟩ := List.head?_eq_some_iff.1 hu
      rw [List.takeWhile_cons_of_pos hname]
      simp
    · intro v hv
      exact List.mem_takeWhile_imp hv
    · rw [← hrest, ← htwo, List.append_assoc, List.take_append_drop, List.takeWhile_append_dropWhile]
  · rintro ⟨name, c, rest, hne, hname, hc, rfl⟩
    have hdrop : (name ++ Str.ofString "==" ++ c :: rest).dropWhile isNameChar = Str.ofString "==" ++ c :: rest := by
      rw [List.append_assoc, List.dropWhile_append_of_pos hname, equals_units]
      exact List.dropWhile_cons_of_neg hequals
    rw [hdrop]
    obtain ⟨u, name, rfl⟩ := List.exists_cons_of_ne_nil hne
    exact ⟨⟨⟨u, rfl, hname u List.mem_cons_self⟩, rfl⟩, c, rfl, hc⟩

theorem startsPinned_append (h : startsPinned text = true) (more : Str) : startsPinned (text ++ more) = true := by
  obtain ⟨name, c, rest, hne, hname, hc, rfl⟩ := startsPinned_iff.1 h
  exact startsPinned_iff.2 ⟨name, c, rest ++ more, hne, hname, hc, by simp⟩

theorem isSpace_nameChar {u : UInt16} (h : isNameChar u = true) : isSpace u = false ∧ u ≠ 0x23 := by
  rw [← Bool.not_eq_true]
  simp only [isNameChar, isSpace, Bool.or_eq_true, Bool.and_eq_true, decide_eq_true_eq, ne_eq,
    ← UInt16.toNat_inj, UInt16.reduceToNat] at h ⊢
  omega

theorem isSpace_lineBreak {u : UInt16} (h : isSpace u = false) : isLineBreak u = false := by
  rw [← Bool.not_eq_true] at h ⊢
  simp only [isLineBreak, isSpace, Bool.or_eq_true, Bool.and_eq_true, decide_eq_true_eq,
    ← UInt16.toNat_inj, UInt16.reduceToNat] at h ⊢
  omega

theorem isVersionChar_iff {u : UInt16} : isVersionChar u = true ↔ isSpace u = false ∧ u ≠ 0x5C := by
  simp [isVersionChar]

/-- What matches is in the first line. -/
theorem firstLine_pinned (h : startsPinned text = true) :
    ∃ line ls, lines isLineBreak text = line :: ls ∧ startsPinned line = true := by
  obtain ⟨name, c, rest, hne, hname, hc, rfl⟩ := startsPinned_iff.1 h
  have hbreaks : ∀ u ∈ name ++ Str.ofString "==" ++ [c], isLineBreak u = false := by
    intro u hu
    apply isSpace_lineBreak
    rcases List.mem_append.1 hu with hu | hu
    · rcases List.mem_append.1 hu with hu | hu
      · exact (isSpace_nameChar (hname u hu)).1
      · rw [equals_units, List.mem_cons, List.mem_singleton, or_self] at hu
        subst hu
        rfl
    · rw [List.mem_singleton] at hu
      subst hu
      exact (isVersionChar_iff.1 hc).1
  obtain ⟨r, ls, hlines⟩ := @lines_head _ isLineBreak _ rest (by simp) hbreaks
  rw [List.append_assoc, List.singleton_append] at hlines
  refine ⟨_, ls, hlines, ?_⟩
  exact startsPinned_iff.2 ⟨name, c, r, hne, hname, hc, by simp⟩

/-- It is neither blank nor a comment. -/
theorem isCode_pinned (h : startsPinned text = true) : isCode text = true := by
  obtain ⟨name, c, rest, hne, hname, -, rfl⟩ := startsPinned_iff.1 h
  obtain ⟨u, name, rfl⟩ := List.exists_cons_of_ne_nil hne
  obtain ⟨hspace, hcomment⟩ := isSpace_nameChar (hname u List.mem_cons_self)
  have hlstrip : ((u :: name) ++ Str.ofString "==" ++ c :: rest).dropWhile isSpace =
      (u :: name) ++ Str.ofString "==" ++ c :: rest :=
    List.dropWhile_cons_of_neg (by rw [hspace]; simp)
  rw [isCode, strip, hlstrip, Bool.and_eq_true, decide_eq_true_eq, decide_eq_true_eq, ne_eq, List.rdropWhile_eq_nil_iff]
  refine ⟨?_, ?_⟩
  · intro hblank
    have hu := hblank u List.mem_cons_self
    rw [hspace] at hu
    cases hu
  · intro heq
    exact hcomment (Option.some.inj heq)

/-- The blanks at the end are after the last character that is none. -/
theorem rdropWhile_append {p : UInt16 → Bool} {c : UInt16} (hc : ¬p c = true) (before after : Str) :
    (before ++ c :: after).rdropWhile p = before ++ c :: after.rdropWhile p := by
  have hreverse : (before ++ c :: after).reverse = after.reverse ++ c :: before.reverse := by simp
  rw [List.rdropWhile, hreverse, List.dropWhile_append, List.dropWhile_cons_of_neg hc]
  split
  · rename_i hempty
    rw [List.rdropWhile, List.isEmpty_iff.1 hempty]
    simp
  · rw [List.rdropWhile]
    simp

theorem rstrip_pinned (h : startsPinned text = true) : startsPinned (text.rdropWhile isSpace) = true := by
  obtain ⟨name, c, rest, hne, hname, hc, rfl⟩ := startsPinned_iff.1 h
  refine startsPinned_iff.2 ⟨name, c, rest.rdropWhile isSpace, hne, hname, hc, ?_⟩
  exact rdropWhile_append (by rw [(isVersionChar_iff.1 hc).1]; simp) _ rest

/-- The line without the backslash at its end is pinned too. -/
theorem dropLast_pinned (h : startsPinned text = true) (hcontinued : isContinued text = true) :
    startsPinned text.dropLast = true := by
  obtain ⟨name, c, rest, hne, hname, hc, rfl⟩ := startsPinned_iff.1 h
  rw [isContinued, decide_eq_true_eq] at hcontinued
  have hrest : rest ≠ [] := by
    rintro rfl
    rw [List.getLast?_concat] at hcontinued
    exact (isVersionChar_iff.1 hc).2 (Option.some.inj hcontinued)
  refine startsPinned_iff.2 ⟨name, c, rest.dropLast, hne, hname, hc, ?_⟩
  obtain ⟨d, rest, rfl⟩ := List.exists_cons_of_ne_nil hrest
  rw [List.dropLast_append_cons, List.dropLast_cons_cons]

end

/-! ## Requirements of a block -/

section
variable {text block : Str}

theorem isContinued_nil : isContinued [] = false := rfl

theorem isCode_nil : isCode [] = false := rfl

/-- An empty line at the end is no requirement. -/
theorem requirements_snoc (ls : List Str) :
    (logical isContinued (ls ++ [[]])).filter isCode = (logical isContinued ls).filter isCode := by
  rcases logical_snoc_nil isContinued_nil ls with h | h
  · rw [h]
  · rw [h, List.filter_append, List.filter_cons_of_neg (by rw [isCode_nil]; simp), List.filter_nil, List.append_nil]

/-- No logical line goes on after an empty line. -/
theorem requirements_cut (p t : Str) : requirements (p ++ 0x0A :: 0x0A :: t) = requirements p ++ requirements t := by
  have hbreak : isLineBreak 0x0A = true := rfl
  unfold requirements
  rw [lines_append hbreak, lines_break hbreak, logical_append isContinued_nil, List.filter_append, requirements_snoc]
  rcases lines_snoc hbreak p with h | h
  · rw [h]
  · rw [h, requirements_snoc]

/-- The requirements of a text are those of its blocks. -/
theorem requirements_blocks (text : Str) : requirements text = (cutPairs 0x0A text).flatMap requirements := by
  rcases cutPairs_cases 0x0A text with h | ⟨p, t, htext, h⟩
  · rw [h]
    simp
  · rw [h, List.flatMap_cons, htext, requirements_cut, requirements_blocks t]
termination_by text.length
decreasing_by
  rw [htext]
  simp only [List.length_append, List.length_cons]
  omega

/-- A block that starts like a requirement starts with a requirement, which is pinned. -/
theorem requirements_pinned (h : startsPinned block = true) :
    ∃ first rest, requirements block = first :: rest ∧ startsPinned first = true := by
  obtain ⟨line, ls, hlines, hline⟩ := firstLine_pinned h
  obtain ⟨m, ms, hlogical, hm⟩ := @logical_head _ isContinued line ls
  have hpinned : startsPinned m = true := by
    rcases hm with ⟨-, rfl⟩ | ⟨hcontinued, more, rfl⟩
    · exact hline
    · exact startsPinned_append (dropLast_pinned hline hcontinued) more
  refine ⟨m, ms.filter isCode, ?_, hpinned⟩
  rw [requirements, hlines, hlogical, List.filter_cons_of_pos (isCode_pinned hpinned)]

/-- The first line that is looked at is pinned, so that the gate never finds an unpinned one. -/
theorem codeLines_pinned (h : startsPinned block = true) :
    ∃ first rest, codeLines block = first :: rest ∧ startsPinned first = true := by
  obtain ⟨line, ls, hlines, hline⟩ := firstLine_pinned h
  refine ⟨line.rdropWhile isSpace, (ls.filter isCode).map (·.rdropWhile isSpace), ?_, rstrip_pinned hline⟩
  rw [codeLines, hlines, List.filter_cons_of_pos (isCode_pinned hline), List.map_cons]

theorem blockErrors_nil {lockPath : Str} (h : startsPinned block = true) :
    blockErrors lockPath block = [] ↔ (codeLines block).any hasHash = true := by
  obtain ⟨first, rest, hlines, hfirst⟩ := codeLines_pinned h
  unfold blockErrors
  rw [hlines]
  dsimp only
  rw [hfirst, if_pos rfl, List.nil_append]
  cases (first :: rest).any hasHash <;> simp

end

/-! ## What passes -/

/-- What the gate looks for in a text. -/
structure Passes (content : Str) : Prop where
  options : contains "--require-hashes" content = false ∧ contains "-r " content = false
  pinned : ∃ block ∈ cutPairs 0x0A content, startsPinned block = true
  hashed : ∀ block ∈ cutPairs 0x0A content, startsPinned block = true → (codeLines block).any hasHash = true

theorem lockErrors_nil {lockPath content : Str} : lockErrors lockPath content = [] ↔ Passes content := by
  have hblocks : (cutPairs 0x0A content).filter startsPinned = [] ↔
      ¬∃ block ∈ cutPairs 0x0A content, startsPinned block = true := by
    rw [List.filter_eq_nil_iff]
    simp
  have herrors : ((cutPairs 0x0A content).filter startsPinned).flatMap (blockErrors lockPath) = [] ↔
      ∀ block ∈ cutPairs 0x0A content, startsPinned block = true → (codeLines block).any hasHash = true := by
    rw [List.flatMap_eq_nil_iff]
    constructor
    · intro h block hblock hpinned
      exact (blockErrors_nil hpinned).1 (h block (List.mem_filter.2 ⟨hblock, hpinned⟩))
    · intro h block hblock
      obtain ⟨hblock, hpinned⟩ := List.mem_filter.1 hblock
      exact (blockErrors_nil hpinned).2 (h block hblock hpinned)
  unfold lockErrors
  dsimp only
  rw [List.append_eq_nil_iff]
  constructor
  · rintro ⟨hoptions, hrest⟩
    by_cases hnone : (cutPairs 0x0A content).filter startsPinned = []
    · rw [if_pos hnone] at hrest
      cases hrest
    · rw [if_neg hnone, herrors] at hrest
      refine ⟨?_, not_not.1 (mt hblocks.2 hnone), hrest⟩
      split at hoptions
      · cases hoptions
      · rename_i hno
        rwa [Bool.not_eq_true, Bool.or_eq_false_iff] at hno
  · rintro ⟨⟨hrequire, hfile⟩, hpinned, hhashed⟩
    have hsome : (cutPairs 0x0A content).filter startsPinned ≠ [] := fun hnone => hblocks.1 hnone hpinned
    rw [hrequire, hfile, if_neg hsome, herrors]
    exact ⟨rfl, hhashed⟩

/-! ## One requirement a block -/

/-- The physical lines of a block after its first logical one. -/
def laterLines (block : Str) : List Str := ((lines isLineBreak block).dropWhile isContinued).tail

/-- A block of comments and blank lines, or one that starts with a pinned requirement and has only comments and blank lines
after it. -/
def Standalone (block : Str) : Prop :=
  (∀ line ∈ lines isLineBreak block, isCode line = false) ∨
    startsPinned block = true ∧ ∀ line ∈ laterLines block, isCode line = false

instance : DecidablePred Standalone := fun block =>
  inferInstanceAs (Decidable ((∀ line ∈ lines isLineBreak block, isCode line = false) ∨
    startsPinned block = true ∧ ∀ line ∈ laterLines block, isCode line = false))

section
variable {line part text block : Str}

theorem contains_iff : contains part text = true ↔ part <:+: text := by
  rw [contains, List.any_eq_true, List.infix_iff_prefix_suffix]
  simp only [List.mem_tails, List.isPrefixOf_iff_prefix, and_comm]

/-- A comment that is continued stays a comment. -/
theorem isCode_joined (h : isCode line = false) (hcontinued : isContinued line = true) (more : Str) :
    isCode (line.dropLast ++ more) = false := by
  rw [isContinued, decide_eq_true_eq] at hcontinued
  have hlast : (0x5C : UInt16) ∈ line := List.mem_of_getLast? hcontinued
  have hblank : strip line ≠ [] := by
    intro hempty
    rw [strip, List.rdropWhile_eq_nil_iff] at hempty
    have hall : ∀ u ∈ line, isSpace u = true := by
      intro u hu
      rw [← List.takeWhile_append_dropWhile (p := isSpace) (l := line), List.mem_append] at hu
      rcases hu with hu | hu
      · exact List.mem_takeWhile_imp hu
      · exact hempty u hu
    exact absurd (hall _ hlast) (by decide)
  rw [isCode, decide_eq_true hblank, Bool.true_and, decide_eq_false_iff_not, not_not] at h
  obtain ⟨rest, hrest⟩ := List.head?_eq_some_iff.1 h
  have hline : line = line.takeWhile isSpace ++ 0x23 :: rest := by
    rw [← hrest, List.takeWhile_append_dropWhile]
  have hne : rest ≠ [] := by
    rintro rfl
    rw [hline, List.getLast?_concat] at hcontinued
    cases hcontinued
  have hjoined : line.dropLast ++ more = line.takeWhile isSpace ++ 0x23 :: (rest.dropLast ++ more) := by
    obtain ⟨u, rest, rfl⟩ := List.exists_cons_of_ne_nil hne
    conv_lhs => rw [hline]
    rw [List.dropLast_append_cons, List.dropLast_cons_cons]
    simp
  have hcomment : ((line.dropLast ++ more).dropWhile isSpace).head? = some 0x23 := by
    rw [hjoined, List.dropWhile_append_of_pos fun u hu => List.mem_takeWhile_imp hu]
    rfl
  rw [isCode, hcomment]
  simp

/-- Lines without code have no requirement. -/
theorem requirements_none {ls : List Str} (h : ∀ line ∈ ls, isCode line = false) :
    (logical isContinued ls).filter isCode = [] := by
  induction ls with
  | nil => rfl
  | cons line ls ih =>
    obtain ⟨hline, hls⟩ := List.forall_mem_cons.1 h
    have hrest := ih hls
    cases hcontinued : isContinued line with
    | false =>
      rw [logical_ended hcontinued, List.filter_cons_of_neg (by rw [hline]; simp)]
      exact hrest
    | true =>
      cases hlogical : logical isContinued ls with
      | nil =>
        rw [logical_open hcontinued hlogical, List.filter_cons_of_neg, List.filter_nil]
        rw [← List.append_nil line.dropLast, isCode_joined hline hcontinued]
        simp
      | cons m ms =>
        rw [logical_continued hcontinued hlogical, List.filter_cons_of_neg]
        · rw [hlogical] at hrest
          rw [List.filter_eq_nil_iff] at hrest ⊢
          exact fun r hr => hrest r (List.mem_cons_of_mem m hr)
        · rw [isCode_joined hline hcontinued]
          simp

/-- The backslash at the end of a line is no part of a hash option. -/
theorem hasHash_dropLast (h : hasHash line = true) (hcontinued : isContinued line = true) : hasHash line.dropLast = true := by
  rw [hasHash, contains_iff] at h ⊢
  obtain ⟨before, after, rfl⟩ := h
  rw [isContinued, decide_eq_true_eq] at hcontinued
  by_cases hafter : after = []
  · subst hafter
    rw [List.append_nil, List.getLast?_append_of_ne_nil _ (by simp)] at hcontinued
    exact absurd hcontinued (by decide)
  · rw [List.dropLast_append_of_ne_nil hafter]
    exact ⟨before, after.dropLast, rfl⟩

/-- Of a block with one requirement the gate sees its hash. -/
theorem standalone_hashed (hpinned : startsPinned block = true) (hlater : ∀ line ∈ laterLines block, isCode line = false)
    (hhash : (codeLines block).any hasHash = true) : ∀ requirement ∈ requirements block, isLocked requirement = true := by
  obtain ⟨first, rest, hrequirements, hfirst⟩ := requirements_pinned hpinned
  have hne : lines isLineBreak block ≠ [] := by
    obtain ⟨line, ls, hblock, -⟩ := firstLine_pinned hpinned
    rw [hblock]
    simp
  obtain ⟨m, hm, hlines⟩ := @logical_uncons _ isContinued _ hne
  have hnone := requirements_none hlater
  -- the first logical line is the requirement, and there is no other
  have hone : requirements block = [m] := by
    rw [requirements, hm, List.filter_cons, ← laterLines, hnone] at hrequirements ⊢
    split at hrequirements
    · rename_i hcode
      rw [if_pos hcode]
    · cases hrequirements
  rw [hone] at hrequirements
  obtain ⟨rfl, -⟩ := List.cons.inj hrequirements
  -- the line with the hash is code, so it belongs to that logical line
  obtain ⟨stripped, hstripped, hhash⟩ := List.any_eq_true.1 hhash
  obtain ⟨line, hline, rfl⟩ := List.mem_map.1 hstripped
  obtain ⟨hline, hcode⟩ := List.mem_filter.1 hline
  have hlineHash : hasHash line = true := by
    rw [hasHash, contains_iff] at hhash ⊢
    exact hhash.trans (List.rdropWhile_prefix isSpace line).isInfix
  have hown : hasHash m = true := by
    rcases hlines line hline with hlaterLine | ⟨-, hpart⟩ | ⟨hcontinued, hpart⟩
    · have hcomment := hlater line hlaterLine
      rw [hcode] at hcomment
      cases hcomment
    · rw [hasHash, contains_iff] at hlineHash ⊢
      exact hlineHash.trans hpart
    · have hdropped := hasHash_dropLast hlineHash hcontinued
      rw [hasHash, contains_iff] at hdropped ⊢
      exact hdropped.trans hpart
  rw [hone]
  intro requirement hrequirement
  rw [List.mem_singleton.1 hrequirement, isLocked, hfirst, hown]
  rfl

end

/-- In a text whose every block is standalone, no error means that every requirement is locked. -/
theorem lock_sound_of_standalone (lockPath content : Str) (h : ∀ block ∈ cutPairs 0x0A content, Standalone block)
    (hpasses : lockErrors lockPath content = []) : ∀ requirement ∈ requirements content, isLocked requirement = true := by
  have hhashed := (lockErrors_nil.1 hpasses).hashed
  rw [requirements_blocks]
  intro requirement hrequirement
  obtain ⟨block, hblock, hrequirement⟩ := List.mem_flatMap.1 hrequirement
  rcases h block hblock with hnone | ⟨hpinned, hlater⟩
  · rw [requirements, requirements_none hnone] at hrequirement
    cases hrequirement
  · exact standalone_hashed hpinned hlater (hhashed block hblock hpinned) requirement hrequirement

end ReleaseGate

/-! ### A requirement under a comment -/

namespace Sample

open ReleaseGate

/-- A locked package, and one under a comment. -/
def lockText : Str := "a==1 --hash=sha256:0\n\n#\nb"

/-- Two locked packages under a comment, laid out as the repository's own locks are. -/
def laidOutText : Str := "# locks\n\na==1 \\\n    --hash=sha256:0\n\nb==2 \\\n    --hash=sha256:1\n"

theorem laidOut_locked : requirements laidOutText ≠ [] ∧
    ∀ requirement ∈ requirements laidOutText, isLocked requirement = true :=
  ⟨by decide, lock_sound_of_standalone "requirements-ci.lock" laidOutText (by decide) (by decide)⟩

theorem commented_block_passes : ¬∀ lockPath content, lockErrors lockPath content = [] →
    ∀ requirement ∈ requirements content, isLocked requirement = true := by
  intro h
  have hpasses : lockErrors "requirements-ci.lock" lockText = [] := by decide
  have hb : Str.ofString "b" ∈ requirements lockText := by decide
  have hlocked := h _ _ hpasses _ hb
  revert hlocked
  decide

end Sample

end Adn
