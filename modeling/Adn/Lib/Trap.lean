import Adn.Lib.Text
import Mathlib.Algebra.Ring.Nat
import Mathlib.Data.List.Basic
/-!
# Computations that may panic

An `Outcome` is what a function of a language with panics ends with: a value, an
error or a panic. `Runs` says that it does not panic; `runs_bind` takes a
sequence of computations apart. Slices, indices and `unwrap` panic as in Rust,
where a text is sliced between bytes.

- `sliceText_runs`: a text is sliced at the boundaries of its characters.
- `minBy_runs`: a minimum panics only if a comparison does.
-/

namespace Lib

inductive Outcome (α : Type) where
  | ok (a : α)
  | err (e : Str)
  | panic
deriving DecidableEq

namespace Outcome

variable {α β : Type}

protected def bind : Outcome α → (α → Outcome β) → Outcome β
  | ok a, f => f a
  | err e, _ => err e
  | panic, _ => panic

instance : Monad Outcome where
  pure := ok
  bind := Outcome.bind

/-- A result of a function that does not panic, with its error mapped. -/
def ofExcept {ε : Type} (f : ε → Str) : Except ε α → Outcome α
  | .ok a => ok a
  | .error e => err (f e)

/-- `x.map_err(f)` -/
def mapErr (f : Str → Str) : Outcome α → Outcome α
  | err e => err (f e)
  | x => x

/-- `x.ok_or(message)?` -/
def okOr (x : Option α) (message : Str) : Outcome α :=
  match x with
  | some a => ok a
  | none => err message

/-- `if refused { return Err(message); }` -/
def refuseIf (refused : Bool) (message : Str) : Outcome Unit := if refused then err message else ok ()

/-- `x.unwrap()` -/
def unwrap : Option α → Outcome α
  | some a => ok a
  | none => panic

/-- It does not panic. -/
def Runs (x : Outcome α) : Prop := x ≠ panic

@[simp]
theorem runs_ok (a : α) : (ok a).Runs := nofun

@[simp]
theorem runs_err (e : Str) : (err e : Outcome α).Runs := nofun

@[simp]
theorem runs_panic : ¬(panic : Outcome α).Runs := fun h => h rfl

@[simp]
theorem runs_pure (a : α) : (pure a : Outcome α).Runs := nofun

@[simp]
theorem runs_ofExcept {ε : Type} (f : ε → Str) (x : Except ε α) : (ofExcept f x).Runs := by
  cases x <;> simp [ofExcept]

@[simp]
theorem runs_mapErr {f : Str → Str} {x : Outcome α} : (mapErr f x).Runs ↔ x.Runs := by
  cases x <;> simp [mapErr]

@[simp]
theorem runs_okOr (x : Option α) (message : Str) : (okOr x message).Runs := by
  cases x <;> simp [okOr]

@[simp]
theorem runs_refuseIf (refused : Bool) (message : Str) : (refuseIf refused message).Runs := by
  cases refused <;> simp [refuseIf]

theorem runs_unwrap {x : Option α} : (unwrap x).Runs ↔ ∃ a, x = some a := by
  cases x <;> simp [unwrap]

theorem runs_bind {x : Outcome α} {f : α → Outcome β} : (x >>= f).Runs ↔ x.Runs ∧ ∀ a, x = ok a → (f a).Runs := by
  cases x with
  | ok a => exact ⟨fun h => ⟨runs_ok a, fun b hb => by cases hb; exact h⟩, fun h => h.2 a rfl⟩
  | err e => exact ⟨fun _ => ⟨runs_err e, nofun⟩, fun _ => runs_err e⟩
  | panic => exact ⟨fun h => absurd rfl h, fun h => absurd rfl h.1⟩

/-- What a computation runs that runs whatever the first part yields. -/
theorem runs_bind_of {x : Outcome α} {f : α → Outcome β} (hx : x.Runs) (hf : ∀ a, (f a).Runs) : (x >>= f).Runs :=
  runs_bind.2 ⟨hx, fun a _ => hf a⟩

theorem runs_map {x : Outcome α} {f : α → β} : (f <$> x).Runs ↔ x.Runs := by
  cases x with
  | ok a => exact ⟨fun _ => runs_ok a, fun _ => runs_ok (f a)⟩
  | err e => exact ⟨fun _ => runs_err e, fun _ => runs_err e⟩
  | panic => exact ⟨fun h => absurd rfl h, fun h => absurd rfl h⟩

theorem bind_eq_ok {x : Outcome α} {f : α → Outcome β} {b : β} : x >>= f = ok b ↔ ∃ a, x = ok a ∧ f a = ok b := by
  cases x with
  | ok a => exact ⟨fun h => ⟨a, rfl, h⟩, fun ⟨_, ha, h⟩ => by cases ha; exact h⟩
  | err e => exact ⟨nofun, nofun⟩
  | panic => exact ⟨nofun, nofun⟩

theorem ofExcept_eq_ok {ε : Type} {f : ε → Str} {x : Except ε α} {a : α} : ofExcept f x = ok a ↔ x = .ok a := by
  cases x <;> simp [ofExcept]

theorem okOr_eq_ok {x : Option α} {message : Str} {a : α} : okOr x message = ok a ↔ x = some a := by
  cases x <;> simp [okOr]

theorem refuseIf_eq_ok {refused : Bool} {message : Str} {u : Unit} :
    refuseIf refused message = ok u ↔ refused = false := by
  cases refused <;> simp [refuseIf]

/-- Two continuations that agree on what the first part yields. -/
theorem bind_congr {x : Outcome α} {f g : α → Outcome β} (h : ∀ a, x = ok a → f a = g a) : x >>= f = x >>= g := by
  cases x with
  | ok a => exact h a rfl
  | err e => rfl
  | panic => rfl

/-! ## Arithmetic that may overflow -/

/-- `a + b` in a build that checks for overflow -/
def checkedAdd (a b : UInt64) : Outcome UInt64 := if a.toNat + b.toNat < 2 ^ 64 then ok (a + b) else panic

/-- `a - b` in such a build -/
def checkedSub (a b : UInt64) : Outcome UInt64 := if b.toNat ≤ a.toNat then ok (a - b) else panic

theorem checkedAdd_of_lt {a b : UInt64} (h : a.toNat + b.toNat < 2 ^ 64) : checkedAdd a b = ok (a + b) := if_pos h

theorem checkedSub_of_le {a b : UInt64} (h : b.toNat ≤ a.toNat) : checkedSub a b = ok (a - b) := if_pos h

/-! ## Lists -/

/-- `&xs[a..b]` -/
def slice (xs : List α) (a b : ℕ) : Outcome (List α) :=
  if a ≤ b ∧ b ≤ xs.length then ok ((xs.take b).drop a) else panic

/-- `xs[i]` -/
def index (xs : List α) (i : ℕ) : Outcome α := unwrap xs[i]?

/-- `a.copy_from_slice(src)` into an array of `n` elements -/
def copyFromSlice (n : ℕ) (src : List α) : Outcome (List α) := if src.length = n then ok src else panic

theorem runs_slice {xs : List α} {a b : ℕ} : (slice xs a b).Runs ↔ a ≤ b ∧ b ≤ xs.length := by
  unfold slice
  split <;> simp_all

theorem slice_eq_ok {xs ys : List α} {a b : ℕ} :
    slice xs a b = ok ys ↔ (a ≤ b ∧ b ≤ xs.length) ∧ (xs.take b).drop a = ys := by
  unfold slice
  split <;> simp_all

theorem runs_index {xs : List α} {i : ℕ} : (index xs i).Runs ↔ i < xs.length := by
  rw [index, runs_unwrap]
  constructor
  · rintro ⟨a, ha⟩
    exact (List.getElem?_eq_some_iff.1 ha).1
  · intro h
    exact ⟨xs[i], List.getElem?_eq_getElem h⟩

theorem runs_copyFromSlice {n : ℕ} {src : List α} : (copyFromSlice n src).Runs ↔ src.length = n := by
  unfold copyFromSlice
  split <;> simp_all

/-- The first minimum, by a comparison that may panic. -/
def minBy (cmp : α → α → Outcome Ordering) : List α → Outcome (Option α)
  | [] => ok none
  | x :: xs => do
    let least ← xs.foldlM (fun x y => do
      match ← cmp x y with
      | .gt => return y
      | _ => return x) x
    return some least

theorem foldlM_runs {f : β → α → Outcome β} (hf : ∀ b a, (f b a).Runs) (xs : List α) (b : β) : (xs.foldlM f b).Runs := by
  induction xs generalizing b with
  | nil => exact runs_pure b
  | cons x xs ih => exact runs_bind_of (hf b x) ih

theorem minBy_runs {cmp : α → α → Outcome Ordering} (h : ∀ x y, (cmp x y).Runs) (xs : List α) : (minBy cmp xs).Runs := by
  cases xs with
  | nil => exact runs_ok none
  | cons x xs =>
    refine runs_bind_of (foldlM_runs (fun x y => runs_bind_of (h x y) fun o => ?_) xs x) fun _ => runs_pure _
    cases o <;> exact runs_pure _

/-- A list that is not empty has a minimum. -/
theorem minBy_some {cmp : α → α → Outcome Ordering} {xs : List α} {o : Option α} (hne : xs ≠ []) (h : minBy cmp xs = ok o) :
    ∃ a, o = some a := by
  cases xs with
  | nil => exact absurd rfl hne
  | cons x xs =>
    obtain ⟨least, -, h⟩ := bind_eq_ok.1 h
    cases h
    exact ⟨least, rfl⟩

/-! ## Texts -/

end Outcome

namespace Text

/-- The code points before and after a number of UTF-8 bytes, if it is not inside one. -/
def splitBytes : List ℕ → ℕ → Option (List ℕ × List ℕ)
  | ps, 0 => some ([], ps)
  | [], _ + 1 => none
  | p :: ps, n + 1 =>
    if (utf8CodePoint p).length ≤ n + 1 then
      (splitBytes ps (n + 1 - (utf8CodePoint p).length)).map fun r => (p :: r.1, r.2)
    else none

/-- `s.is_char_boundary(n)` -/
def isCharBoundary (s : Str) (n : ℕ) : Bool := (splitBytes (codePoints s) n).isSome

/-- `s.len()` -/
def byteLen (s : Str) : ℕ := (utf8 s).length

end Text

namespace Outcome

/-- `&s[a..b]` -/
def sliceText (s : Str) (a b : ℕ) : Outcome Str :=
  match Text.splitBytes (Text.codePoints s) b with
  | none => panic
  | some (before, _) =>
    match Text.splitBytes before a with
    | none => panic
    | some (_, middle) => ok (middle.flatMap Str.ofCodePoint)

end Outcome

namespace Text

theorem splitBytes_zero (ps : List ℕ) : splitBytes ps 0 = some ([], ps) := by
  cases ps <;> rfl

/-- A split is a split of the list, after that many bytes. -/
theorem splitBytes_some {ps before after : List ℕ} {n : ℕ} (h : splitBytes ps n = some (before, after)) :
    ps = before ++ after ∧ (before.flatMap utf8CodePoint).length = n := by
  induction ps, n using splitBytes.induct generalizing before after with
  | case1 ps => rw [splitBytes_zero] at h; cases h; exact ⟨rfl, rfl⟩
  | case2 => cases h
  | case3 p ps n hle ih =>
    rw [splitBytes, if_pos hle] at h
    obtain ⟨⟨b, a⟩, hr, he⟩ := Option.map_eq_some_iff.1 h
    cases he
    obtain ⟨rfl, hlen⟩ := ih hr
    refine ⟨rfl, ?_⟩
    rw [List.flatMap_cons, List.length_append, hlen]
    omega
  | case4 p ps n hgt => rw [splitBytes, if_neg hgt] at h; cases h

theorem utf8CodePoint_pos (p : ℕ) : 0 < (utf8CodePoint p).length := by
  unfold utf8CodePoint
  split_ifs <;> simp

/-- Two bytes are two ASCII characters or one that is not. -/
theorem two_bytes {ps : List ℕ} (h : (ps.flatMap utf8CodePoint).length = 2) :
    (∃ c, ps = [c] ∧ 0x80 ≤ c ∧ c < 0x800) ∨ ∃ c d, ps = [c, d] ∧ c < 0x80 ∧ d < 0x80 := by
  have hone : ∀ c, (utf8CodePoint c).length = 1 → c < 0x80 := by
    intro c hc
    by_contra hge
    unfold utf8CodePoint at hc
    split_ifs at hc <;> simp at hc
  have htwo : ∀ c, (utf8CodePoint c).length = 2 → 0x80 ≤ c ∧ c < 0x800 := by
    intro c hc
    unfold utf8CodePoint at hc
    split_ifs at hc <;> first | omega | (simp at hc)
  match ps with
  | [] => cases h
  | [c] => exact .inl ⟨c, rfl, htwo c (by simpa using h)⟩
  | [c, d] =>
    have hc := utf8CodePoint_pos c
    have hd := utf8CodePoint_pos d
    simp only [List.flatMap_cons, List.flatMap_nil, List.append_nil, List.length_append] at h
    exact .inr ⟨c, d, rfl, hone c (by omega), hone d (by omega)⟩
  | c :: d :: e :: ps =>
    have hc := utf8CodePoint_pos c
    have hd := utf8CodePoint_pos d
    have he := utf8CodePoint_pos e
    simp only [List.flatMap_cons, List.length_append] at h
    omega

theorem splitBytes_append (before after : List ℕ) :
    splitBytes (before ++ after) (before.flatMap utf8CodePoint).length = some (before, after) := by
  induction before with
  | nil => exact splitBytes_zero after
  | cons p ps ih =>
    have hp := utf8CodePoint_pos p
    rw [List.flatMap_cons, List.length_append]
    obtain ⟨n, hn⟩ := Nat.exists_eq_add_of_lt (Nat.add_pos_left hp (ps.flatMap utf8CodePoint).length)
    rw [Nat.zero_add] at hn
    rw [hn, List.cons_append, splitBytes, if_pos (by omega), ← hn, Nat.add_sub_cancel_left, ih]
    rfl

theorem splitBytes_isSome {ps : List ℕ} {n : ℕ} : (splitBytes ps n).isSome = true ↔
    ∃ before after, ps = before ++ after ∧ (before.flatMap utf8CodePoint).length = n := by
  rw [Option.isSome_iff_exists]
  constructor
  · rintro ⟨⟨before, after⟩, h⟩
    exact ⟨before, after, splitBytes_some h⟩
  · rintro ⟨before, after, rfl, rfl⟩
    exact ⟨_, splitBytes_append before after⟩

/-- The end of a text is a boundary. -/
theorem isCharBoundary_end (s : Str) : isCharBoundary s (byteLen s) = true :=
  splitBytes_isSome.2 ⟨codePoints s, [], (List.append_nil _).symm, rfl⟩

end Text

namespace Outcome

theorem sliceText_runs {s : Str} {b : ℕ} : (sliceText s 0 b).Runs ↔ Text.isCharBoundary s b = true := by
  unfold sliceText Text.isCharBoundary
  cases h : Text.splitBytes (Text.codePoints s) b with
  | none => simp
  | some r => simp [Text.splitBytes_zero]

/-- A slice between two boundaries runs. -/
theorem sliceText_runs_iff {s : Str} {a b : ℕ} (hab : a ≤ b) :
    (sliceText s a b).Runs ↔ Text.isCharBoundary s a = true ∧ Text.isCharBoundary s b = true := by
  unfold sliceText Text.isCharBoundary
  cases h : Text.splitBytes (Text.codePoints s) b with
  | none => simp
  | some r =>
    obtain ⟨before, after⟩ := r
    obtain ⟨hs, hlen⟩ := Text.splitBytes_some h
    have hboth : (Text.splitBytes before a).isSome = true ↔ (Text.splitBytes (Text.codePoints s) a).isSome = true := by
      rw [Text.splitBytes_isSome, Text.splitBytes_isSome]
      constructor
      · rintro ⟨x, y, rfl, hx⟩
        exact ⟨x, y ++ after, by rw [hs, List.append_assoc], hx⟩
      · rintro ⟨x, y, hxy, hx⟩
        rw [hs] at hxy
        -- the shorter of two beginnings is a beginning of the other
        rcases List.append_eq_append_iff.1 hxy with ⟨z, hz, -⟩ | ⟨z, hz, -⟩
        · have hz0 : z = [] := by
            cases z with
            | nil => rfl
            | cons p z =>
              have := Text.utf8CodePoint_pos p
              simp only [hz, List.flatMap_append, List.length_append, List.flatMap_cons] at hx
              omega
          rw [hz0, List.append_nil] at hz
          exact ⟨before, [], (List.append_nil _).symm, by rw [← hz]; exact hx⟩
        · exact ⟨x, z, hz, hx⟩
    cases ha : Text.splitBytes before a with
    | none => simpa [ha] using hboth.not.1
    | some q => simpa [ha] using hboth.1

theorem sliceText_append {s : Str} {before middle after : List ℕ} (h : Text.codePoints s = before ++ middle ++ after) :
    sliceText s (before.flatMap Text.utf8CodePoint).length ((before ++ middle).flatMap Text.utf8CodePoint).length =
      ok (middle.flatMap Str.ofCodePoint) := by
  rw [sliceText, h, Text.splitBytes_append]
  simp only [Text.splitBytes_append]

/-- A slice is what lies between two boundaries. -/
theorem sliceText_eq_ok {s t : Str} {a b : ℕ} (h : sliceText s a b = ok t) : ∃ before middle after,
    Text.codePoints s = before ++ middle ++ after ∧ (before.flatMap Text.utf8CodePoint).length = a ∧
      ((before ++ middle).flatMap Text.utf8CodePoint).length = b ∧ middle.flatMap Str.ofCodePoint = t := by
  unfold sliceText at h
  cases hb : Text.splitBytes (Text.codePoints s) b with
  | none =>
    rw [hb] at h
    cases h
  | some r =>
    obtain ⟨front, after⟩ := r
    simp only [hb] at h
    cases ha : Text.splitBytes front a with
    | none =>
      rw [ha] at h
      cases h
    | some q =>
      obtain ⟨before, middle⟩ := q
      simp only [ha] at h
      obtain ⟨hs, hbytes⟩ := Text.splitBytes_some hb
      obtain ⟨rfl, hbefore⟩ := Text.splitBytes_some ha
      exact ⟨before, middle, after, hs, hbefore, hbytes, ok.inj h⟩

/-- An ASCII text is cut anywhere inside it. -/
theorem sliceText_ascii {s : Str} (h : Text.IsAscii s) (b : ℕ) :
    sliceText s 0 b = if b ≤ s.length then ok (s.take b) else panic := by
  have hsplit : ∀ (s : Str), Text.IsAscii s → ∀ n, Text.splitBytes (Text.codeUnits s) n =
      if n ≤ s.length then some (Text.codeUnits (s.take n), Text.codeUnits (s.drop n)) else none := by
    intro s hs
    induction s with
    | nil =>
      intro n
      cases n <;> rfl
    | cons u s ih =>
      intro n
      have hu : (Text.utf8CodePoint u.toNat).length = 1 := by
        rw [Text.utf8CodePoint, if_pos (hs u List.mem_cons_self)]
        rfl
      cases n with
      | zero => simp [Text.splitBytes_zero, Text.codeUnits]
      | succ n =>
        rw [Text.codeUnits, List.map_cons, Text.splitBytes, hu, if_pos (by omega), Nat.add_sub_cancel, ← Text.codeUnits,
          ih hs.tail]
        by_cases hn : n ≤ s.length <;> simp [hn, Text.codeUnits]
  have hback : ∀ s : Str, Text.IsAscii s → (Text.codeUnits s).flatMap Str.ofCodePoint = s := by
    intro s hs
    induction s with
    | nil => rfl
    | cons u s ih =>
      have hu := hs u List.mem_cons_self
      rw [Text.codeUnits, List.map_cons, List.flatMap_cons, ← Text.codeUnits, ih hs.tail, Str.ofCodePoint, if_pos (by omega)]
      simp
  unfold sliceText
  rw [Text.codePoints_ascii h, hsplit s h b]
  by_cases hb : b ≤ s.length
  · rw [if_pos hb, if_pos hb]
    simp only [Text.splitBytes_zero]
    rw [hback _ fun u hu => h u ((List.take_subset _ _) hu)]
  · rw [if_neg hb, if_neg hb]

end Outcome

end Lib
