import Adn.Lib.Parsed
import Adn.ReleaseProof
import Adn.ReleasePublished
/-!
# One schema, two validators

The release verifier and the bridge check a manifest against the same schema, each with
code of its own. They agree on every field but two: `\d` is any decimal digit to Python
and an ASCII digit to JavaScript, and an integer is a literal without a point to Python
and a number without a fraction to JavaScript.
-/

open Lib

namespace Adn

namespace Release

/-! ## What a field has to be -/

/-- Three runs of digits. -/
def IsVersion (isDigit : ℕ → Bool) (s : Str) : Prop := Pattern.version.test isDigit (Text.codePoints s) = true

/-- `isinstance(value, int)`, of a value that is no boolean -/
def IsInt : Json → Prop
  | .int _ => True
  | _ => False

/-- `Number.isInteger(value)`, of what JavaScript reads. -/
def IsWhole : Json → Prop
  | .int n => n.natAbs < doubleOverflow
  | .float (.finite q) => q.den = 1
  | .float .negZero => True
  | _ => False

def MeetsPattern (version : Str → Prop) (s : Str) : Pattern → Prop
  | .version => version s
  | .hex n => (Pattern.hex n).test ReleaseProof.asciiDigit (Text.codePoints s) = true

/-- A value fits a rule, for a notion of a version and of an integer. -/
def Meets (version : Str → Prop) (integer : Json → Prop) (rule : Rule) (v : Json) : Prop :=
  match rule.type with
  | .integer => integer v
  | .string => ∃ s, v = .str s ∧ s ≠ [] ∧ (∀ c ∈ rule.const, s = c) ∧ (∀ cs ∈ rule.enum, s ∈ cs) ∧
      ∀ p ∈ rule.pattern, MeetsPattern version s p

/-- The required fields are there, and every field is one of the schema's and fits its rule. -/
structure Valid (version : Str → Prop) (integer : Json → Prop) (manifest : Dict) : Prop where
  required : ∀ k ∈ Schema.releaseProof.required, isMissing (manifest.get k) = false
  fields : ∀ f ∈ manifest, ∃ rule, Schema.releaseProof.rule? f.1 = some rule ∧ Meets version integer rule f.2

/-- A rule that asks for no length and no minimum, and of an integer nothing else. -/
def Simple (rule : Rule) : Prop :=
  rule.minLength = 0 ∧ rule.minimum = none ∧ (rule.type = .integer → rule.const = none ∧ rule.enum = none)

theorem simple_rule {k : Str} {rule : Rule} (h : Schema.releaseProof.rule? k = some rule) : Simple rule := by
  have hall : ∀ p ∈ Schema.releaseProof.properties, Simple p.2 := by simp [Schema.releaseProof, Simple]
  obtain ⟨before, after, hp, -⟩ := List.lookup_eq_some_iff.mp h
  exact hall (k, rule) (by simp [hp])

/-! ## The readings of a text -/

theorem test_ascii {isDigit : ℕ → Bool} (hd : ∀ c, isDigit c = true → c < 0x80) {p : Pattern} {s : List ℕ}
    (h : p.test isDigit s = true) : ∀ c ∈ s, c < 0x80 := by
  cases p with
  | hex n =>
    simp only [Pattern.test, Bool.and_eq_true, List.all_eq_true] at h
    intro c hc
    have := h.2 c hc
    simp only [isLowerHexDigit, Bool.or_eq_true, Bool.and_eq_true, decide_eq_true_eq] at this
    omega
  | version =>
    simp only [Pattern.test] at h
    split at h
    · rename_i a b c hs
      simp only [List.all_cons, List.all_nil, Bool.and_true, Bool.and_eq_true, List.all_eq_true] at h
      obtain ⟨⟨-, ha⟩, ⟨-, hb⟩, -, hc⟩ := h
      have hjoin : [0x2E].intercalate (s.splitOn 0x2E) = s := List.intercalate_splitOn 0x2E
      rw [hs] at hjoin
      intro x hx
      rw [← hjoin] at hx
      simp [List.intercalate] at hx
      rcases hx with hx | rfl | hx | rfl | hx
      · exact hd x (ha x hx)
      · decide
      · exact hd x (hb x hx)
      · decide
      · exact hd x (hc x hx)
    · cases h

theorem asciiDigit_lt {c : ℕ} (h : ReleaseProof.asciiDigit c = true) : c < 0x80 := by
  simp only [ReleaseProof.asciiDigit, Bool.and_eq_true, decide_eq_true_eq] at h
  omega

/-- A text that is of a pattern in one reading is so in the other. -/
theorem test_codeUnits (p : Pattern) (s : Str) :
    p.test ReleaseProof.asciiDigit (Text.codeUnits s) = p.test ReleaseProof.asciiDigit (Text.codePoints s) := by
  by_cases ha : Text.IsAscii s
  · rw [Text.codePoints_ascii ha]
  · rw [Bool.eq_iff_iff]
    constructor
    · intro h
      refine absurd (fun u hu => ?_) ha
      exact test_ascii (fun c => asciiDigit_lt) h _ (List.mem_map_of_mem hu)
    · intro h
      exact absurd (Text.ascii_of_codePoints (test_ascii (fun c => asciiDigit_lt) h)) ha

/-! ## Each validator's rule -/

theorem checkRule_iff (h : Host) {field : Str} {v : Json} {rule : Rule} (hs : Simple rule) :
    h.checkRule field v rule = .ok () ↔ Meets (IsVersion h.isDecimal) IsInt rule v := by
  obtain ⟨hl, hm, hi⟩ := hs
  have hconst : Host.checkConst field v rule.const = .ok () ↔ ∀ c ∈ rule.const, v = .str c := by
    cases hr : rule.const <;> simp [Host.checkConst, require_ok, Json.pyEq_str]
  have henum : Host.checkEnum field v rule.enum = .ok () ↔ ∀ cs ∈ rule.enum, ∃ c ∈ cs, v = .str c := by
    cases hr : rule.enum <;> simp [Host.checkEnum, require_ok, Json.pyEq_str]
  have hpattern (s : Str) : h.checkPattern field s rule.pattern = .ok () ↔
      ∀ p ∈ rule.pattern, MeetsPattern (IsVersion h.isDecimal) s p := by
    cases hr : rule.pattern with
    | none => simp [Host.checkPattern]
    | some p => cases p <;> simp [Host.checkPattern, require_ok, MeetsPattern, IsVersion, Pattern.test]
  rw [Host.checkRule, bind_ok]
  simp only [bind_ok, hconst, henum]
  unfold Host.checkType Meets
  cases ht : rule.type with
  | integer =>
    obtain ⟨hc, he⟩ := hi ht
    cases v <;> simp [hc, he, hm, IsInt, Host.checkMinimum]
  | string =>
    cases v with
    | str s =>
      simp only [bind_ok, require_ok, hpattern, hl]
      simp
      tauto
    | _ => simp

theorem integer_parsed {v : Json} {w : Js} (hp : Parsed v w) : (ReleaseProof.integer? w).isSome = true ↔ IsWhole v := by
  cases hp with
  | int hx =>
    have hb : doubleOverflow = 2 ^ 1024 - 2 ^ 970 := rfl
    cases hx <;> simp [ReleaseProof.integer?, IsWhole] <;> omega
  | float x =>
    cases x with
    | finite q => by_cases hq : q.den = 1 <;> simp [ReleaseProof.integer?, IsWhole, hq]
    | _ => simp [ReleaseProof.integer?, IsWhole]
  | _ => simp [ReleaseProof.integer?, IsWhole]

theorem ite_error_ok {ε α : Type} {c : Prop} [Decidable c] {e : ε} {x : Except ε α} {a : α} :
    (if c then .error e else x) = .ok a ↔ ¬c ∧ x = .ok a := by
  by_cases hc : c <;> simp [hc]

theorem ite_ok_error {ε α : Type} {c : Prop} [Decidable c] {e : ε} {x : Except ε α} {a : α} :
    (if c then x else .error e) = .ok a ↔ c ∧ x = .ok a := by
  by_cases hc : c <;> simp [hc]

theorem checkRule_parsed {key : Str} {v : Json} {w : Js} {rule : Rule} (hs : Simple rule) (hp : Parsed v w) :
    ReleaseProof.checkRule key w rule = .ok () ↔ Meets (IsVersion ReleaseProof.asciiDigit) IsWhole rule v := by
  obtain ⟨hl, hm, hi⟩ := hs
  unfold ReleaseProof.checkRule Meets
  cases ht : rule.type with
  | integer =>
    obtain ⟨hc, he⟩ := hi ht
    rw [← integer_parsed hp]
    cases hw : ReleaseProof.integer? w <;> simp [hc, he, hm, pure, Except.pure]
  | string =>
    have hpattern (s : Str) (p : Pattern) : MeetsPattern (IsVersion ReleaseProof.asciiDigit) s p ↔
        p.test ReleaseProof.asciiDigit (Text.codePoints s) = true := by
      cases p <;> rfl
    cases hp with
    | str s =>
      by_cases hne : s = [] <;> cases hc : rule.const <;> cases he : rule.enum <;> cases hpat : rule.pattern <;>
        simp [Js.isText, ReleaseProof.requireString, hl, hne, hpattern, test_codeUnits, ite_error_ok, ite_ok_error, bind,
          Except.bind, pure, Except.pure, throw, throwThe, MonadExceptOf.throw]
    | _ => cases hc : rule.const <;> cases he : rule.enum <;>
        simp [Js.isText, ReleaseProof.requireString, bind, Except.bind]

/-! ## Each validator -/

theorem forM_iff {ε α : Type} {f : α → Except ε Unit} {xs : List α} : xs.forM f = .ok () ↔ ∀ x ∈ xs, f x = .ok () := by
  induction xs with
  | nil => simp [pure, Except.pure]
  | cons x xs ih =>
    rw [List.forall_mem_cons, ← ih]
    constructor
    · intro h
      obtain ⟨⟨⟩, hx, hxs⟩ := bind_ok.mp h
      exact ⟨hx, hxs⟩
    · rintro ⟨hx, hxs⟩
      exact bind_ok.mpr ⟨(), hx, hxs⟩

/-- A search for a name, a search for an entry, and a check of each entry. -/
theorem scan_iff {ε α β : Type} {xs : List α} {ys : List β} {p : α → Bool} {q : β → Bool} {e : α → ε} {e' : β → ε}
    {f : β → Except ε Unit} :
    (xs.find? p).elim ((ys.find? q).elim (ys.forM f) fun y => .error (e' y)) (fun x => .error (e x)) = .ok () ↔
      (∀ x ∈ xs, p x = false) ∧ ∀ y ∈ ys, q y = false ∧ f y = .ok () := by
  cases hx : xs.find? p with
  | some x =>
    have hm := List.mem_of_find?_eq_some hx
    have ht := List.find?_some hx
    simp only [Option.elim_some, reduceCtorEq, false_iff, not_and]
    intro h
    rw [h x hm] at ht
    cases ht
  | none =>
    have hxs : ∀ x ∈ xs, p x = false := fun x hm => by simpa using List.find?_eq_none.mp hx x hm
    cases hy : ys.find? q with
    | some y =>
      have hm := List.mem_of_find?_eq_some hy
      have ht := List.find?_some hy
      simp only [Option.elim_none, Option.elim_some, reduceCtorEq, false_iff, not_and]
      intro _ h
      rw [(h y hm).1] at ht
      cases ht
    | none =>
      have hys : ∀ y ∈ ys, q y = false := fun y hm => by simpa using List.find?_eq_none.mp hy y hm
      simp only [Option.elim_none, forM_iff]
      exact ⟨fun h => ⟨hxs, fun y hm => ⟨hys y hm, h y hm⟩⟩, fun h y hm => (h.2 y hm).2⟩

theorem isMissing_iff {v : Json} : isMissing v = true ↔ v = .null ∨ v = .str [] := by
  have hnull : v.pyEq .null = true ↔ v = .null := by
    cases v with
    | float x => cases x <;> simp [Json.pyEq, Json.number?, Json.numberEq]
    | _ => simp [Json.pyEq, Json.number?, Json.numberEq]
  rw [isMissing, Bool.or_eq_true, hnull, Json.pyEq_str]

theorem isMissing_parsed {v : Json} {w : Js} (hp : Parsed v w) : isMissing v = ReleaseProof.isMissing w := by
  rw [Bool.eq_iff_iff, isMissing_iff]
  cases hp <;> simp [ReleaseProof.isMissing, Js.isNullish, Js.isText]

/-- A required field that one reading has, the other has too. -/
theorem isMissing_get {m : Dict} {o : Props} (hp : Parsed (.obj m) (.obj o)) (k : Str) :
    isMissing (m.get k) = ReleaseProof.isMissing (o.get k) := by
  rw [Dict.get, Dict.getD, Props.get]
  rcases hp.get? k with ⟨hm, ho⟩ | ⟨v, w, hm, ho, hvw⟩
  · rw [hm, ho]
    rfl
  · rw [hm, ho]
    exact isMissing_parsed hvw

theorem validateManifestSchema_eq (h : Host) (schema : Schema) (m : Dict) : h.validateManifestSchema schema m =
    (schema.required.find? fun field => isMissing (m.get field)).elim
      ((m.find? fun f => (schema.rule? f.1).isNone).elim (m.forM fun f => h.checkField schema f.1 f.2)
        fun f => .error (.runtime (schemaError (Str.ofString "additional property not allowed: " ++ f.1))))
      fun field => .error (.runtime (schemaError (Str.ofString "missing required field: " ++ field))) := by
  unfold Host.validateManifestSchema
  split
  · rename_i hr
    rw [hr, Option.elim_some]
  · rename_i hr
    rw [hr, Option.elim_none]
    split <;> (rename_i hf; rw [hf]; rfl)

theorem validateAgainst_eq (schema : Schema) (o : Props) : ReleaseProof.validateAgainst schema o =
    (schema.required.find? fun key => ReleaseProof.isMissing (o.get key)).elim
      ((o.find? fun f => (schema.rule? f.1).isNone).elim (o.forM fun f => ReleaseProof.checkEntry schema f.1 f.2)
        fun f => .error (ReleaseProof.schemaError (Str.ofString "additional property not allowed: " ++ f.1)))
      fun key => .error (ReleaseProof.schemaError (Str.ofString "missing required field: " ++ key)) := by
  unfold ReleaseProof.validateAgainst
  split
  · rename_i hr
    rw [hr, Option.elim_some]
  · rename_i hr
    rw [hr, Option.elim_none]
    split <;> (rename_i hf; rw [hf]; rfl)

theorem validate_iff (h : Host) {m : Dict} :
    h.validateManifestSchema .releaseProof m = .ok () ↔ Valid (IsVersion h.isDecimal) IsInt m := by
  have hfield (f : Str × Json) : ((Schema.releaseProof.rule? f.1).isNone = false ∧ h.checkField .releaseProof f.1 f.2 = .ok ()) ↔
      ∃ rule, Schema.releaseProof.rule? f.1 = some rule ∧ Meets (IsVersion h.isDecimal) IsInt rule f.2 := by
    rw [Host.checkField]
    cases hr : Schema.releaseProof.rule? f.1 with
    | none => simp
    | some rule => simp [checkRule_iff h (simple_rule hr)]
  rw [validateManifestSchema_eq, scan_iff]
  simp only [hfield]
  constructor
  · intro h
    exact ⟨h.1, h.2⟩
  · intro h
    exact ⟨h.required, h.fields⟩

theorem validateAgainst_iff {m : Dict} {o : Props} (hp : Parsed (.obj m) (.obj o)) :
    ReleaseProof.validateReleaseManifestAgainstSchema o = .ok () ↔ Valid (IsVersion ReleaseProof.asciiDigit) IsWhole m := by
  have hentry (k : Str) (v : Json) (w : Js) (hvw : Parsed v w) :
      (∃ rule, Schema.releaseProof.rule? k = some rule ∧ Meets (IsVersion ReleaseProof.asciiDigit) IsWhole rule v) ↔
        ((Schema.releaseProof.rule? k).isNone = false ∧ ReleaseProof.checkEntry .releaseProof k w = .ok ()) := by
    rw [ReleaseProof.checkEntry.eq_def]
    cases hr : Schema.releaseProof.rule? k with
    | none => simp
    | some rule =>
      simp only [Option.some.injEq, exists_eq_left', Option.isNone_some, true_and]
      rw [← checkRule_parsed (simple_rule hr) hvw]
      cases hvw <;> rfl
  rw [ReleaseProof.validateReleaseManifestAgainstSchema, validateAgainst_eq, scan_iff]
  simp only [← isMissing_get hp]
  rw [← hp.forall_iff hentry]
  exact ⟨fun ⟨hr, hf⟩ => ⟨hr, hf⟩, fun ⟨hr, hf⟩ => ⟨hr, hf⟩⟩

/-! ## Where they differ -/

theorem version_rule {k : Str} {rule : Rule} (h : Schema.releaseProof.rule? k = some rule)
    (hp : rule.pattern = some .version) : k = "contract_version" := by
  have hall : ∀ p ∈ Schema.releaseProof.properties, p.2.pattern = some .version → p.1 = "contract_version" := by
    simp [Schema.releaseProof]
  obtain ⟨before, after, hr, -⟩ := List.lookup_eq_some_iff.mp h
  exact hall (k, rule) (by simp [hr]) hp

theorem integer_rule {k : Str} {rule : Rule} (h : Schema.releaseProof.rule? k = some rule) (ht : rule.type = .integer) :
    k = "remote_contract_id" := by
  have hall : ∀ p ∈ Schema.releaseProof.properties, p.2.type = .integer → p.1 = "remote_contract_id" := by
    simp [Schema.releaseProof]
  obtain ⟨before, after, hr, -⟩ := List.lookup_eq_some_iff.mp h
  exact hall (k, rule) (by simp [hr]) ht

theorem Meets.imp {version version' : Str → Prop} {integer integer' : Json → Prop} {rule : Rule} {v : Json}
    (h : Meets version integer rule v) (hi : rule.type = .integer → integer v → integer' v)
    (hv : ∀ s, v = .str s → rule.pattern = some .version → version s → version' s) : Meets version' integer' rule v := by
  unfold Meets at h ⊢
  cases ht : rule.type with
  | integer =>
    rw [ht] at h
    exact hi ht h
  | string =>
    rw [ht] at h
    obtain ⟨s, rfl, hs, hc, he, hp⟩ := h
    refine ⟨s, rfl, hs, hc, he, fun p hpat => ?_⟩
    have := hp p hpat
    cases p with
    | version => exact hv s rfl hpat this
    | hex n => exact this

/-- A valid manifest, whatever a version and an integer are. -/
abbrev OtherwiseValid (manifest : Dict) : Prop := Valid (fun _ => True) (fun _ => True) manifest

theorem Valid.get? {version : Str → Prop} {integer : Json → Prop} {m : Dict} (hm : Valid version integer m) {k : Str}
    (hk : k ∈ Schema.releaseProof.required) (rule : Rule) (hr : Schema.releaseProof.rule? k = some rule) :
    ∃ v, m.get? k = some v ∧ Meets version integer rule v := by
  have hmissing := hm.required k hk
  cases hv : m.get? k with
  | none =>
    rw [Dict.get, Dict.getD, hv] at hmissing
    cases hmissing
  | some v =>
    obtain ⟨rule', hr', hmeets⟩ := hm.fields _ (Dict.mem_of_get? hv)
    rw [hr] at hr'
    exact ⟨v, rfl, Option.some.inj hr' ▸ hmeets⟩

/-- A manifest is valid when it is otherwise so and its version and its contract's number are what they have to be. -/
theorem valid_iff {version : Str → Prop} {integer : Json → Prop} {m : Dict} (hn : (m.map (·.1)).Nodup) :
    Valid version integer m ↔ OtherwiseValid m ∧
      (∃ s, m.get? "contract_version" = some (.str s) ∧ version s) ∧
      ∃ v, m.get? "remote_contract_id" = some v ∧ integer v := by
  constructor
  · intro hm
    refine ⟨⟨hm.required, fun f hf => ?_⟩, ?_, ?_⟩
    · obtain ⟨rule, hr, hmeets⟩ := hm.fields f hf
      exact ⟨rule, hr, hmeets.imp (fun _ _ => trivial) fun _ _ _ _ => trivial⟩
    · obtain ⟨v, hv, hmeets⟩ := hm.get? (k := Str.ofString "contract_version")
        (by simp [Schema.releaseProof]) { type := .string, pattern := some .version }
        (by simp [Schema.rule?, Schema.releaseProof, List.lookup_cons, beq_eq_decide])
      obtain ⟨s, rfl, -, -, -, hp⟩ := hmeets
      exact ⟨s, hv, hp .version rfl⟩
    · exact hm.get? (k := Str.ofString "remote_contract_id") (by simp [Schema.releaseProof])
        { type := .integer } (by simp [Schema.rule?, Schema.releaseProof, List.lookup_cons, beq_eq_decide])
  · rintro ⟨hm, ⟨s, hs, hversion⟩, v, hv, hinteger⟩
    refine ⟨hm.required, fun f hf => ?_⟩
    obtain ⟨rule, hr, hmeets⟩ := hm.fields f hf
    have hget : m.get? f.1 = some f.2 := Dict.get?_of_mem hn hf
    refine ⟨rule, hr, hmeets.imp (fun ht _ => ?_) fun t ht hp _ => ?_⟩
    · rw [integer_rule hr ht, hv] at hget
      exact Option.some.inj hget ▸ hinteger
    · rw [version_rule hr hp, hs, ht] at hget
      cases hget
      exact hversion

/-- A manifest that is otherwise valid, and whose version has a digit outside ASCII or whose contract's number is no
double, or is written with a point or an exponent. -/
def Divergent (isDecimal : ℕ → Bool) (m : Dict) : Prop :=
  OtherwiseValid m ∧ ∃ s v, m.get? "contract_version" = some (.str s) ∧ m.get? "remote_contract_id" = some v ∧
    ((IsVersion isDecimal s ∧ ∃ n, v = .int n ∧ (¬IsVersion ReleaseProof.asciiDigit s ∨ doubleOverflow ≤ n.natAbs)) ∨
      IsVersion ReleaseProof.asciiDigit s ∧ ∃ x, v = .float x ∧ IsWhole (.float x))

theorem IsVersion.imp {d d' : ℕ → Bool} (hd : ∀ c, d c = true → d' c = true) {s : Str} (h : IsVersion d s) :
    IsVersion d' s := by
  simp only [IsVersion, Pattern.test] at h ⊢
  split at h
  · simp only [List.all_eq_true, Bool.and_eq_true] at h ⊢
    exact fun part hpart => ⟨(h part hpart).1, fun c hc => hd c ((h part hpart).2 c hc)⟩
  · cases h

/-- The two validators agree on a manifest unless it is divergent. -/
theorem validators_agree_iff (h : Host) (hd : ∀ c, ReleaseProof.asciiDigit c = true → h.isDecimal c = true) {m : Dict}
    {o : Props} (hp : Parsed (.obj m) (.obj o)) :
    (h.validateManifestSchema .releaseProof m = .ok () ↔ ReleaseProof.validateReleaseManifestAgainstSchema o = .ok ()) ↔
      ¬Divergent h.isDecimal m := by
  rw [validate_iff, validateAgainst_iff hp, valid_iff hp.names_nodup.1, valid_iff hp.names_nodup.1]
  have hascii (s : Str) : IsVersion ReleaseProof.asciiDigit s → IsVersion h.isDecimal s := fun hs => hs.imp hd
  by_cases hm : OtherwiseValid m
  · obtain ⟨s, hs⟩ : ∃ s, m.get? "contract_version" = some (.str s) := by
      obtain ⟨-, ⟨s, hs, -⟩, -⟩ := (valid_iff hp.names_nodup.1).mp hm
      exact ⟨s, hs⟩
    obtain ⟨v, hv⟩ : ∃ v, m.get? "remote_contract_id" = some v := by
      obtain ⟨-, -, v, hv, -⟩ := (valid_iff hp.names_nodup.1).mp hm
      exact ⟨v, hv⟩
    simp only [Divergent, hm, hs, hv, Option.some.injEq, Json.str.injEq, true_and, exists_eq_left', exists_and_left]
    cases v with
    | int n =>
      simp only [IsInt, IsWhole, and_true, Json.int.injEq, exists_eq_left', reduceCtorEq, false_and, exists_false, and_false,
        or_false, not_and, not_or, not_not, not_le]
      exact ⟨fun h => h.mp, fun h => ⟨h, fun hb => hascii s hb.1⟩⟩
    | float x => simp [IsInt]
    | _ => simp [IsInt, IsWhole]
  · simp [Divergent, hm]

end Release

/-! ## The contract's number with a point -/

namespace Sample

open Release

/-- `n.0` -/
def pointed : Json → Json
  | .int n => .float (.finite n)
  | v => v

/-- What JavaScript reads. -/
def numbered : Json → Js
  | .int n => .num (.finite n)
  | .str s => .str s
  | _ => .null

def pointedFields : Dict := manifestFields.map fun f => (f.1, pointed f.2)

def numberedProps : Props := manifestFields.map fun f => (f.1, numbered f.2)

theorem manifest_values : ∀ f ∈ manifestFields, (∃ s, f.2 = .str s) ∨ f.2 = .int 991 := by
  simp [manifestFields, bodyFields, Dict.ofList]

theorem manifest_names : (manifestFields.map (·.1)).Nodup := by
  simp [manifestFields, bodyFields, Dict.ofList]

theorem pointed_parsed : Parsed (.obj pointedFields) (.obj numberedProps) := by
  have hnames : pointedFields.map (·.1) = numberedProps.map (·.1) := by
    rw [pointedFields, numberedProps, List.map_map, List.map_map]
    rfl
  refine .obj hnames ?_ ?_ (.refl _)
  · rw [pointedFields, List.map_map]
    exact manifest_names
  · rw [pointedFields, numberedProps, List.zip_map']
    refine List.forall_mem_map.mpr fun f hf => ?_
    rcases manifest_values f hf with ⟨s, hs⟩ | hs
    · rw [hs]
      exact .str s
    · rw [hs]
      exact .float _

theorem get?_pointed (m : Dict) (k : Str) :
    Dict.get? (m.map fun f => (f.1, pointed f.2)) k = (m.get? k).map pointed := by
  induction m with
  | nil => rfl
  | cons f m ih =>
    rw [List.map_cons, Dict.get?_cons, Dict.get?_cons, ih]
    split <;> rfl

/-- With its integers written so, a valid manifest is one for JavaScript. -/
theorem pointed_valid {version : Str → Prop} {m : Dict} (hm : Valid version IsInt m) :
    Valid version IsWhole (m.map fun f => (f.1, pointed f.2)) := by
  constructor
  · intro k hk
    have hmissing := hm.required k hk
    rw [Dict.get, Dict.getD] at hmissing ⊢
    rw [get?_pointed]
    cases hv : m.get? k with
    | none => rwa [hv] at hmissing
    | some v =>
      rw [hv] at hmissing
      cases v with
      | int n => simp [pointed, isMissing, Json.pyEq, Json.number?, Json.numberEq]
      | _ => exact hmissing
  · refine List.forall_mem_map.mpr fun f hf => ?_
    obtain ⟨rule, hr, hmeets⟩ := hm.fields f hf
    refine ⟨rule, hr, ?_⟩
    unfold Meets at hmeets ⊢
    cases ht : rule.type with
    | integer =>
      rw [ht] at hmeets
      cases hv : f.2 with
      | int n => simp [pointed, IsWhole]
      | _ => rw [hv] at hmeets; cases hmeets
    | string =>
      rw [ht] at hmeets
      obtain ⟨s, hs, hrest⟩ := hmeets
      exact ⟨s, by rw [hs]; rfl, hrest⟩

/-- The bridge accepts a manifest that the verifier refuses. -/
theorem validators_differ : Parsed (.obj pointedFields) (.obj numberedProps) ∧
    (verifierHost []).validateManifestSchema .releaseProof pointedFields ≠ .ok () ∧
    ReleaseProof.validateReleaseManifestAgainstSchema numberedProps = .ok () := by
  have hvalid := pointed_valid ((validate_iff (verifierHost [])).mp (manifest_accepted []))
  refine ⟨pointed_parsed, fun h => ?_, (validateAgainst_iff pointed_parsed).mpr hvalid⟩
  obtain ⟨-, -, v, hv, hint⟩ := (valid_iff pointed_parsed.names_nodup.1).mp ((validate_iff _).mp h)
  rw [pointedFields, get?_pointed, manifest_get? (k := "remote_contract_id") (v := .int 991) (by simp [bodyFields])] at hv
  cases hv
  exact hint

theorem pointed_divergent :
    ((verifierHost []).validateManifestSchema .releaseProof pointedFields = .ok () ↔
      ReleaseProof.validateReleaseManifestAgainstSchema numberedProps = .ok ()) ↔
    ¬Divergent (verifierHost []).isDecimal pointedFields :=
  validators_agree_iff (verifierHost []) (fun _ h => h) pointed_parsed

end Sample

end Adn
