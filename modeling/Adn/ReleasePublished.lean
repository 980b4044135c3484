import Adn.Lib.UnicodeQuoting
import Adn.Lib.Utf8
import Adn.ReleaseVerifier
/-!
# What a publisher makes

The converse of the release verifier's checks. A document without lone surrogates and
without numbers that are not finite can be encoded (`canonicalBytes_valid`), and proof
files with the right digests, signature and flags are accepted
(`verifyReleaseInputs_accepts`).
-/

open Lib

namespace Adn

namespace Release

/-! ## Documents that can be encoded -/

/-- A text without lone surrogates. -/
def IsString (s : Str) : Prop := ∃ t : String, s = Str.ofString t

@[simp]
theorem isString_ofString (t : String) : IsString (Str.ofString t) := ⟨t, rfl⟩

theorem isString_char (c : Char) : IsString (Str.ofCodePoint c.toNat) :=
  ⟨String.singleton c, by simp [Str.ofString]⟩

theorem IsString.append {s t : Str} (hs : IsString s) (ht : IsString t) : IsString (s ++ t) := by
  obtain ⟨a, rfl⟩ := hs
  obtain ⟨b, rfl⟩ := ht
  exact ⟨a ++ b, by simp [Str.ofString]⟩

theorem isString_flatMap {α : Type} {f : α → Str} {xs : List α} (h : ∀ x ∈ xs, IsString (f x)) :
    IsString (xs.flatMap f) := by
  induction xs with
  | nil => exact ⟨"", rfl⟩
  | cons x xs ih =>
    rw [List.flatMap_cons]
    exact (h x List.mem_cons_self).append (ih fun y hy => h y (List.mem_cons_of_mem x hy))

theorem isString_plain {s : Str} (h : Text.Plain s) : IsString s := by
  have hchar : ∀ n < 0x7F, (Char.ofNat n).toNat = n := by decide
  rw [← List.flatMap_singleton' s]
  refine isString_flatMap fun u hu => ?_
  have hlt := h u hu
  have hs := isString_char (Char.ofNat u.toNat)
  rwa [hchar _ hlt, Str.ofCodePoint, if_pos (by omega), Nat.toUInt16_eq, UInt16.ofNat_toNat] at hs

/-- Every code point is written with whole characters. -/
theorem isString_unicodeCodePoint {c : ℕ} (h : c < 0x110000) : IsString (Text.unicodeCodePoint c) := by
  have hchar : Nat.isValidChar c → IsString (Str.ofCodePoint c) := by
    intro hv
    exact isString_char (Char.ofNatAux c hv)
  rcases lt_or_ge c 0x10000 with hlt | hge
  · have hu : c.toUInt16.toNat = c := Text.toNat_toUInt16 hlt
    rw [Text.unicodeCodePoint, if_pos hlt, Text.escapeUnit]
    cases hs : Text.shortEscape? c.toUInt16 with
    | some e =>
      refine isString_plain (Text.Plain.cons.2 ⟨by decide, Text.Plain.cons.2 ⟨?_, Text.plain_nil⟩⟩)
      exact (Text.shortEscape_some hs).2.2.2
    | none =>
      dsimp only
      split
      · rename_i hraw
        have hval := hchar
        rw [Str.ofCodePoint, if_pos hlt] at hval
        apply hval
        rw [hu] at hraw
        simp only [Text.isSurrogate, Bool.and_eq_true, Bool.not_eq_true', Bool.and_eq_false_iff, decide_eq_true_eq,
          decide_eq_false_iff_not] at hraw
        unfold Nat.isValidChar
        omega
      · refine isString_plain (Text.Plain.cons.2 ⟨by decide, Text.Plain.cons.2 ⟨by decide, Text.plain_hex4 _⟩⟩)
  · rw [Text.unicodeCodePoint, if_neg (by omega)]
    apply hchar
    unfold Nat.isValidChar
    omega

theorem isString_cons {u : UInt16} {s : Str} (hu : u.toNat < 0x7F) (hs : IsString s) : IsString (u :: s) := by
  rw [← List.singleton_append]
  exact (isString_plain (Text.Plain.cons.2 ⟨hu, Text.plain_nil⟩)).append hs

/-- A literal has no lone surrogate, whatever the string has. -/
theorem isString_quoteUnicode (s : Str) : IsString (Text.quoteUnicode s) := by
  have hbody : IsString (Text.unicodeBody s) :=
    isString_flatMap fun c hc => isString_unicodeCodePoint (Text.codePoints_lt c hc)
  rw [Text.quoteUnicode, List.cons_append]
  exact isString_cons (by decide) (hbody.append (isString_cons (by decide) (isString_ofString "")))

theorem utf8_ofString (t : String) : Text.utf8 t = Utf8.encode t.toList := by
  rw [Text.utf8, Text.codePoints_ofString, List.flatMap_map]
  rfl

/-- The bytes of a text without lone surrogates determine it. -/
theorem utf8_inj {s t : Str} (hs : IsString s) (ht : IsString t) (h : Text.utf8 s = Text.utf8 t) : s = t := by
  obtain ⟨a, rfl⟩ := hs
  obtain ⟨b, rfl⟩ := ht
  rw [utf8_ofString, utf8_ofString] at h
  rw [String.toList_inj.1 (Utf8.encode_inj h)]

/-- A text without lone surrogates has none among its characters. -/
theorem encodeUtf8_isString {s : Str} (h : IsString s) : encodeUtf8 s = .ok (Text.utf8 s) := by
  obtain ⟨t, rfl⟩ := h
  rw [encodeUtf8, if_neg]
  rw [Text.codePoints_ofString]
  simp only [List.any_map, List.any_eq_true, Function.comp_apply, not_exists, not_and]
  rintro c -
  have hv : c.toNat < 0xD800 ∨ (0xDFFF < c.toNat ∧ c.toNat < 0x110000) := c.valid
  simp only [Text.isSurrogate, Bool.and_eq_true, decide_eq_true_eq]
  omega

/-- A unit that is no ASCII character is not escaped. -/
theorem escapeUnit_high {u : UInt16} (h : 0x7F ≤ u.toNat) : Text.escapeUnit (fun u => 0x20 ≤ u.toNat) u = [u] := by
  unfold Text.escapeUnit
  cases hs : Text.shortEscape? u with
  | some e =>
    have := (Text.shortEscape_some hs).2.2.1
    omega
  | none => exact if_pos (decide_eq_true (by omega))

theorem plain_escapeUnit {u : UInt16} (h : u.toNat < 0x7F) :
    Text.Plain (Text.escapeUnit (fun u => 0x20 ≤ u.toNat) u) := by
  unfold Text.escapeUnit
  cases hs : Text.shortEscape? u with
  | some e =>
    exact Text.Plain.cons.mpr ⟨by decide, Text.Plain.cons.mpr ⟨(Text.shortEscape_some hs).2.2.2, Text.plain_nil⟩⟩
  | none =>
    simp only
    split
    · exact Text.Plain.cons.mpr ⟨h, Text.plain_nil⟩
    · exact Text.Plain.cons.mpr ⟨by decide, Text.Plain.cons.mpr ⟨by decide, Text.plain_hex4 u⟩⟩

/-- The units of a character outside ASCII. -/
theorem units_high {c : Char} (hc : 0x7F ≤ c.toNat) : ∀ u ∈ Str.ofCodePoint c.toNat, 0x7F ≤ u.toNat := by
  have hv : c.toNat < 0xD800 ∨ (0xDFFF < c.toNat ∧ c.toNat < 0x110000) := c.valid
  intro u hu
  unfold Str.ofCodePoint at hu
  split at hu
  · rename_i hlt
    rw [List.mem_singleton.mp hu, Text.toNat_toUInt16 hlt]
    omega
  · rcases List.mem_cons.mp hu with rfl | hu
    · rw [Text.toNat_toUInt16 (by omega)]
      omega
    · rw [List.mem_singleton.mp hu, Text.toNat_toUInt16 (by omega)]
      omega

theorem escape_isString (c : Char) :
    IsString ((Str.ofCodePoint c.toNat).flatMap (Text.escapeUnit fun u => 0x20 ≤ u.toNat)) := by
  by_cases hc : c.toNat < 0x7F
  · have hu : c.toNat.toUInt16.toNat < 0x7F := by rwa [Text.toNat_toUInt16 (by omega)]
    rw [Str.ofCodePoint, if_pos (by omega), List.flatMap_singleton]
    exact isString_plain (plain_escapeUnit hu)
  · -- the units of another character are written out
    rw [List.flatMap_congr fun u hu => escapeUnit_high (units_high (by omega) u hu), List.flatMap_singleton']
    exact isString_char c

theorem quoteJsonString_isString {s : Str} (h : IsString s) : IsString (quoteJsonString s) := by
  have hq : IsString [Text.quotationMark] := isString_plain (Text.Plain.cons.mpr ⟨by decide, Text.plain_nil⟩)
  obtain ⟨t, rfl⟩ := h
  rw [quoteJsonString, ← List.singleton_append]
  refine IsString.append (hq.append ?_) hq
  rw [Str.ofString, List.flatMap_assoc]
  exact isString_flatMap fun c _ => escape_isString c

/-- A document without lone surrogates and without numbers that are not finite. -/
inductive Encodable : Json → Prop where
  | null : Encodable .null
  | bool (b : Bool) : Encodable (.bool b)
  | int (n : ℤ) : Encodable (.int n)
  | finite (q : ℚ) : Encodable (.float (.finite q))
  | negZero : Encodable (.float .negZero)
  | str {s : Str} (h : IsString s) : Encodable (.str s)
  | arr {xs : List Json} (h : ∀ x ∈ xs, Encodable x) : Encodable (.arr xs)
  | obj {fs : Dict} (hk : ∀ f ∈ fs, IsString f.1) (hv : ∀ f ∈ fs, Encodable f.2) : Encodable (.obj fs)

theorem joinComma_isString : ∀ {ts : List Str}, (∀ t ∈ ts, IsString t) → IsString (joinComma ts)
  | [], _ => ⟨"", rfl⟩
  | [t], h => h t List.mem_cons_self
  | t :: t' :: ts, h => by
    have hcomma : IsString [comma] := isString_plain (Text.Plain.cons.mpr ⟨by decide, Text.plain_nil⟩)
    rw [joinComma_cons_cons, ← List.singleton_append]
    exact (h t List.mem_cons_self).append
      (hcomma.append (joinComma_isString fun u hu => h u (List.mem_cons_of_mem t hu)))

/-- A document whose canonical text there is, without lone surrogates. -/
def HasText (v : Json) : Prop := ∃ t, canonicalJson v = some t ∧ IsString t

theorem canonicalList_hasText {xs : List Json} (h : ∀ x ∈ xs, HasText x) :
    ∃ ts, canonicalList xs = some ts ∧ ∀ t ∈ ts, IsString t := by
  induction xs with
  | nil => exact ⟨[], rfl, by simp⟩
  | cons x xs ih =>
    obtain ⟨t, ht, hst⟩ := h x List.mem_cons_self
    obtain ⟨ts, hts, hsts⟩ := ih fun y hy => h y (List.mem_cons_of_mem x hy)
    refine ⟨t :: ts, ?_, List.forall_mem_cons.mpr ⟨hst, hsts⟩⟩
    rw [canonicalList, ht, hts]
    rfl

theorem canonicalFields_hasText {fs : Dict} (hk : ∀ f ∈ fs, IsString f.1) (hv : ∀ f ∈ fs, HasText f.2) :
    ∃ ts, canonicalFields fs = some ts ∧ ∀ f ∈ ts, IsString f.1 ∧ IsString f.2 := by
  induction fs with
  | nil => exact ⟨[], rfl, by simp⟩
  | cons f fs ih =>
    obtain ⟨t, ht, hst⟩ := hv f List.mem_cons_self
    obtain ⟨ts, hts, hsts⟩ := ih (fun g hg => hk g (List.mem_cons_of_mem f hg)) fun g hg => hv g (List.mem_cons_of_mem f hg)
    refine ⟨(f.1, t) :: ts, ?_, List.forall_mem_cons.mpr ⟨⟨hk f List.mem_cons_self, hst⟩, hsts⟩⟩
    rw [canonicalFields, ht, hts]
    rfl

theorem hasText (v : Json) (h : Encodable v) : HasText v := by
  have hunit {u : UInt16} (hu : u.toNat < 0x7F) : IsString [u] :=
    isString_plain (Text.Plain.cons.mpr ⟨hu, Text.plain_nil⟩)
  induction h with
  | null => exact ⟨_, rfl, isString_ofString _⟩
  | bool b => exact ⟨_, rfl, by cases b <;> exact isString_ofString _⟩
  | int n => exact ⟨_, rfl, isString_plain (Json.plain_dumps (.int n))⟩
  | finite q => exact ⟨_, rfl, isString_plain (Json.plain_dumps (.float (.finite q)))⟩
  | negZero => exact ⟨_, rfl, isString_plain (Json.plain_dumps (.float .negZero))⟩
  | str hs => exact ⟨_, rfl, quoteJsonString_isString hs⟩
  | arr _ ih =>
    obtain ⟨ts, hts, hs⟩ := canonicalList_hasText ih
    refine ⟨openBracket :: joinComma ts ++ [closeBracket], by rw [canonicalJson, hts]; rfl, ?_⟩
    rw [← List.singleton_append]
    exact ((hunit (by decide)).append (joinComma_isString hs)).append (hunit (by decide))
  | obj hk _ ih =>
    obtain ⟨ts, hts, hs⟩ := canonicalFields_hasText hk ih
    refine ⟨openBrace :: joinComma ((sortFields ts).map entryText) ++ [closeBrace],
      by rw [canonicalJson, hts]; rfl, ?_⟩
    rw [← List.singleton_append]
    refine ((hunit (by decide)).append (joinComma_isString fun t ht => ?_)).append (hunit (by decide))
    obtain ⟨f, hf, rfl⟩ := List.mem_map.mp ht
    obtain ⟨h1, h2⟩ := hs f (mem_sortFields.mp hf)
    rw [entryText, ← List.singleton_append]
    exact (quoteJsonString_isString h1).append ((hunit (by decide)).append h2)

/-- A document without lone surrogates and without numbers that are not finite can be encoded. -/
theorem canonicalBytes_encodable {v : Json} (h : Encodable v) : ∃ bytes, canonicalBytes v = .ok bytes := by
  obtain ⟨t, ht, hs⟩ := hasText v h
  exact ⟨Text.utf8 t, by rw [canonicalBytes, ht]; exact encodeUtf8_isString hs⟩

/-! ## Proof files that are accepted -/

theorem requireFields_iff {label : Str} {payload : Dict} {fields : List Str} : requireFields label payload fields = .ok () ↔
    ∀ field ∈ fields, isMissing (payload.get field) = false := by
  rw [requireFields, require_ok, decide_eq_true_iff, List.filter_eq_nil_iff]
  simp only [Bool.not_eq_true]

theorem requireFiles_iff {dir : Files} {names : List Str} : requireFiles dir names = .ok () ↔
    ∀ name ∈ names, ∃ bytes, dir name = some bytes := by
  rw [requireFiles, require_ok, decide_eq_true_iff, List.filter_eq_nil_iff]
  simp only [Bool.not_eq_true, Option.isNone_eq_false_iff, Option.isSome_iff_exists]

theorem mapM_ok {α β : Type} {f : α → Except Failure β} {P : β → Prop} {xs : List α}
    (h : ∀ x ∈ xs, ∃ y, f x = .ok y ∧ P y) : ∃ ys, xs.mapM f = .ok ys ∧ ∀ y ∈ ys, P y := by
  induction xs with
  | nil => exact ⟨[], rfl, by simp⟩
  | cons x xs ih =>
    obtain ⟨y, hy, hp⟩ := h x List.mem_cons_self
    obtain ⟨ys, hys, hps⟩ := ih fun z hz => h z (List.mem_cons_of_mem x hz)
    refine ⟨y :: ys, ?_, List.forall_mem_cons.mpr ⟨hp, hps⟩⟩
    rw [List.mapM_cons]
    exact bind_ok.2 ⟨y, hy, bind_ok.2 ⟨ys, hys, rfl⟩⟩

theorem forM_accepts {α : Type} {f : α → Except Failure Unit} {xs : List α} (h : ∀ x ∈ xs, f x = .ok ()) :
    xs.forM f = .ok () := by
  induction xs with
  | nil => rfl
  | cons x xs ih =>
    exact bind_ok.2 ⟨(), h x List.mem_cons_self, ih fun y hy => h y (List.mem_cons_of_mem x hy)⟩

/-- The hexadecimal text of some bytes is of the pattern. -/
theorem hexLower_pattern (isDigit : ℕ → Bool) (bs : List UInt8) :
    (Pattern.hex (2 * bs.length)).test isDigit (Text.codePoints (Hex.hexLower bs)) = true := by
  have hdigit : ∀ n < 16, isLowerHexDigit (Text.hexDigit n).toNat = true := by decide
  rw [Text.codePoints_ascii (Hex.plain_hexLower bs).ascii, Pattern.test, Text.codeUnits, List.length_map,
    Hex.length_hexLower, decide_eq_true rfl, Bool.true_and, List.all_map, List.all_eq_true]
  intro u hu
  obtain ⟨b, -, hb⟩ := List.mem_flatMap.mp hu
  have hlt := b.toNat_lt
  rcases List.mem_cons.mp hb with rfl | hb
  · exact hdigit _ (by omega)
  · rw [List.mem_singleton.mp hb]
    exact hdigit _ (by omega)

/-- The retained documents. -/
structure Documents where
  manifest : Dict
  signatureDoc : Dict
  registration : Json
  receipt : Dict
  evidence : Json
  replayProof : Dict

namespace Host

variable (h : Host)

/-- The digest of a document, as its canonical text is hashed. -/
def canonicalDigest (v : Json) : Str :=
  match canonicalBytes v with
  | .ok bytes => h.digestHex bytes
  | .error _ => []

theorem requireDigest_accepts (label : Str) {v : Json} (hv : Encodable v) :
    h.requireDigest label (h.canonicalDigest v) v = .ok () := by
  obtain ⟨bytes, hb⟩ := canonicalBytes_encodable hv
  exact bind_ok.2 ⟨bytes, hb, require_ok.2 (by rw [canonicalDigest, hb]; exact decide_eq_true rfl)⟩

theorem textOf_str {payload : Dict} {field : String} {s : Str} (hs : payload.get? field = some (.str s)) :
    h.textOf payload field = s := by
  rw [textOf, Dict.getD, hs]
  rfl

/-- The documents are the ones in a directory. -/
structure Retains (dir : Files) (d : Documents) : Prop where
  manifest : h.readJson dir "deployment_manifest.json" = .ok (.obj d.manifest)
  signatureDoc : h.readJson dir "deployment_manifest.sig" = .ok (.obj d.signatureDoc)
  registration : h.readJson dir "registration_response.json" = .ok d.registration
  receipt : h.readJson dir "invocation_receipt.json" = .ok (.obj d.receipt)
  evidence : h.readJson dir "t3n_evidence.json" = .ok d.evidence
  replayProof : h.readJson dir "replay_restart_proof.json" = .ok (.obj d.replayProof)

variable {h} {dir : Files} {d : Documents}

theorem readJson_file {name : Str} {v : Json} (hr : h.readJson dir name = .ok v) : ∃ bytes, dir name = some bytes := by
  obtain ⟨bytes, hb, -⟩ := bind_ok.1 hr
  unfold readBytes at hb
  cases hd : dir name with
  | none => rw [hd] at hb; cases hb
  | some bytes => exact ⟨bytes, rfl⟩

theorem Retains.files (hd : h.Retains dir d) : ∀ name ∈ proofInputFiles, ∃ bytes, dir name = some bytes := by
  intro name hn
  simp only [proofInputFiles, List.mem_cons, List.not_mem_nil, or_false] at hn
  rcases hn with rfl | rfl | rfl | rfl | rfl | rfl
  · exact readJson_file hd.manifest
  · exact readJson_file hd.signatureDoc
  · exact readJson_file hd.registration
  · exact readJson_file hd.receipt
  · exact readJson_file hd.evidence
  · exact readJson_file hd.replayProof

/-- The digest of the retained inputs there is, whatever they hold. -/
theorem Retains.proofInputDigest (hd : h.Retains dir d) : ∃ digest, h.computeProofInputDigest dir = .ok digest := by
  have hfile : ∀ name ∈ proofInputFiles, ∃ v, h.fileDigest dir name = .ok v ∧ Encodable v := by
    intro name hn
    obtain ⟨bytes, hb⟩ := hd.files name hn
    refine ⟨_, bind_ok.2 ⟨bytes, by rw [readBytes, hb], rfl⟩, ?_⟩
    have hname : IsString name := by
      simp only [proofInputFiles, List.mem_cons, List.not_mem_nil, or_false] at hn
      rcases hn with rfl | rfl | rfl | rfl | rfl | rfl <;> exact isString_ofString _
    refine .obj (by simp [Dict.ofList]) ?_
    simp only [Dict.ofList, List.map_cons, List.map_nil, List.forall_mem_cons, List.not_mem_nil, false_imp_iff,
      implies_true, and_true]
    exact ⟨.str hname, .str (isString_plain (Hex.plain_hexLower _))⟩
  obtain ⟨files, hfiles, hencodable⟩ := mapM_ok hfile
  have hpayload : Encodable (.obj (Dict.ofList [("schema_version", .str "adn-release-proof-input-v1"),
      ("files", .arr files)])) := by
    refine .obj (by simp [Dict.ofList]) ?_
    simp only [Dict.ofList, List.map_cons, List.map_nil, List.forall_mem_cons, List.not_mem_nil, false_imp_iff,
      implies_true, and_true]
    exact ⟨.str (isString_ofString _), .arr hencodable⟩
  obtain ⟨bytes, hbytes⟩ := canonicalBytes_encodable hpayload
  exact ⟨_, bind_ok.2 ⟨files, bind_ok.2 ⟨(), requireFiles_iff.2 hd.files, hfiles⟩, bind_ok.2 ⟨bytes, hbytes, rfl⟩⟩⟩

/-- A text that is what its rule asks for. -/
theorem checkRule_text {field s : Str} {rule : Rule} (ht : rule.type = .string) (hs : s ≠ []) (hl : rule.minLength = 0)
    (hc : ∀ c ∈ rule.const, s = c) (he : ∀ cs ∈ rule.enum, s ∈ cs)
    (hp : ∀ p ∈ rule.pattern, p.test h.isDecimal (Text.codePoints s) = true) :
    isMissing (.str s) = false ∧ h.checkRule field (.str s) rule = .ok () := by
  have hconst : checkConst field (.str s) rule.const = .ok () := by
    cases hr : rule.const with
    | none => rfl
    | some c => exact require_ok.2 (Json.pyEq_str.mpr (by rw [hc c hr]))
  have henum : checkEnum field (.str s) rule.enum = .ok () := by
    cases hr : rule.enum with
    | none => rfl
    | some cs => exact require_ok.2 (List.any_eq_true.mpr ⟨s, he cs hr, Json.pyEq_str.mpr rfl⟩)
  have hpattern : h.checkPattern field s rule.pattern = .ok () := by
    cases hr : rule.pattern with
    | none => rfl
    | some p => exact require_ok.2 (hp p hr)
  refine ⟨by simp [isMissing, Json.pyEq, hs], bind_ok.2 ⟨(), hconst, bind_ok.2 ⟨(), henum, ?_⟩⟩⟩
  unfold checkType
  rw [ht]
  refine bind_ok.2 ⟨(), require_ok.2 (decide_eq_true hs), bind_ok.2 ⟨(), require_ok.2 ?_, hpattern⟩⟩
  rw [hl]
  exact decide_eq_true (Nat.zero_le _)

/-- A manifest that gives each property of the schema, in its order, a value that fits the property's rule. -/
def Fits (h : Host) (schema : Schema) (manifest : Dict) : Prop :=
  List.Forall₂ (fun p f => f.1 = p.1 ∧ isMissing f.2 = false ∧ h.checkRule p.1 f.2 p.2 = .ok ()) schema.properties manifest

theorem Fits.lookup {ps : List (Str × Rule)} {manifest : Dict} (hn : (ps.map (·.1)).Nodup)
    (hf : List.Forall₂ (fun p f => f.1 = p.1 ∧ isMissing f.2 = false ∧ h.checkRule p.1 f.2 p.2 = .ok ()) ps manifest) :
    (∀ p ∈ ps, isMissing (manifest.get p.1) = false) ∧
      ∀ f ∈ manifest, ∃ rule, ps.lookup f.1 = some rule ∧ h.checkRule f.1 f.2 rule = .ok () := by
  induction hf with
  | nil => exact ⟨by simp, by simp⟩
  | @cons p f ps fs hpf _ ih =>
    obtain ⟨p, rule⟩ := p
    obtain ⟨k, v⟩ := f
    obtain ⟨rfl, hv, hc⟩ := hpf
    rw [List.map_cons, List.nodup_cons] at hn
    obtain ⟨ih1, ih2⟩ := ih hn.2
    refine ⟨List.forall_mem_cons.mpr ⟨by simpa [Dict.get, Dict.getD, Dict.get?_cons] using hv, fun q hq => ?_⟩,
      List.forall_mem_cons.mpr ⟨⟨rule, List.lookup_cons_self, hc⟩, fun g hg => ?_⟩⟩
    · have hne : k ≠ q.1 := by
        rintro rfl
        exact hn.1 (List.mem_map.mpr ⟨q, hq, rfl⟩)
      rw [Dict.get, Dict.getD, Dict.get?_cons, if_neg hne]
      exact ih1 q hq
    · obtain ⟨rule', hrule', hc'⟩ := ih2 g hg
      have hne : g.1 ≠ k := by
        rintro rfl
        obtain ⟨_, _, rfl, -⟩ := List.lookup_eq_some_iff.mp hrule'
        exact hn.1 (by simp)
      exact ⟨rule', by rw [List.lookup_cons, beq_false_of_ne hne]; exact hrule', hc'⟩

/-- A manifest that fits is accepted. -/
theorem Fits.accepted {schema : Schema} {manifest : Dict} (hf : Fits h schema manifest)
    (hn : (schema.properties.map (·.1)).Nodup) (hr : ∀ k ∈ schema.required, k ∈ schema.properties.map (·.1)) :
    h.validateManifestSchema schema manifest = .ok () := by
  obtain ⟨hmissing, hrules⟩ := Fits.lookup hn hf
  have h1 : schema.required.find? (fun field => isMissing (manifest.get field)) = none := by
    refine List.find?_eq_none.mpr fun k hk => ?_
    obtain ⟨p, hp, rfl⟩ := List.mem_map.mp (hr k hk)
    simpa using hmissing p hp
  have h2 : manifest.find? (fun f => (schema.rule? f.1).isNone) = none := by
    refine List.find?_eq_none.mpr fun f hf => ?_
    obtain ⟨rule, hrule, -⟩ := hrules f hf
    simp [Schema.rule?, hrule]
  rw [validateManifestSchema, h1, h2]
  refine forM_accepts fun f hf => ?_
  obtain ⟨rule, hrule, hc⟩ := hrules f hf
  rw [checkField, Schema.rule?, hrule]
  exact hc

/-- A manifest that fits the schema misses none of the required fields. -/
theorem schema_fields {schema : Schema} {manifest : Dict} (hs : h.validateManifestSchema schema manifest = .ok ())
    {label : Str} {fields : List Str} (hf : ∀ field ∈ fields, field ∈ schema.required) :
    requireFields label manifest fields = .ok () := by
  unfold validateManifestSchema at hs
  cases hm : schema.required.find? fun field => isMissing (manifest.get field) with
  | some field => rw [hm] at hs; cases hs
  | none => exact requireFields_iff.2 fun field hk => by simpa using List.find?_eq_none.mp hm field (hf field hk)

theorem schema_version {manifest : Dict} (hs : h.validateManifestSchema .releaseProof manifest = .ok ()) :
    (manifest.get "schema_version").pyEq (.str "adn-release-proof-v1") = true := by
  obtain ⟨v, hv⟩ := h.schema_required hs (k := Str.ofString "schema_version") (by simp [Schema.releaseProof])
  have hc := h.schema_field hs (Dict.mem_of_get? hv)
  have hrule : Schema.releaseProof.rule? (Str.ofString "schema_version") =
      some { type := .string, const := some (Str.ofString "adn-release-proof-v1") } := by
    simp [Schema.rule?, Schema.releaseProof]
  rw [checkField, hrule] at hc
  obtain ⟨_, hconst, _⟩ := bind_ok.1 hc
  rw [Dict.get_of_get? hv]
  exact require_ok.1 hconst

/-- Proof files with the right digests, signature, configuration and flags are accepted. -/
theorem verifyReleaseInputs_accepts (hd : h.Retains dir d)
    (hschema : h.validateManifestSchema .releaseProof d.manifest = .ok ())
    (hself : h.requireDigest "manifest" (h.textOf d.manifest "manifest_digest") (.obj (manifestBody d.manifest)) = .ok ())
    (hregistration : h.requireDigest "registration response" (h.textOf d.manifest "raw_registration_response_digest")
      d.registration = .ok ())
    (hreceipt : h.requireDigest "first invocation" (h.textOf d.manifest "first_invocation_digest") (.obj d.receipt) = .ok ())
    (hevidence : h.requireDigest "T3N evidence" (h.textOf d.manifest "t3n_evidence_digest") d.evidence = .ok ())
    (hsigned : h.verifyManifestSignature d.manifest d.signatureDoc = .ok ())
    (hconfig : (d.receipt.get "build_config_id").pyEq (d.manifest.get "build_config_id") = true)
    (hproof : (d.replayProof.get "build_config_id").pyEq (d.manifest.get "build_config_id") = true)
    (hrequest : d.replayProof.get "request_replay_rejected" = .bool true)
    (hresult : d.replayProof.get "result_replay_rejected" = .bool true)
    (hrestart : d.replayProof.get "ledger_persisted_across_restart" = .bool true)
    {digest : Str} (hdigest : h.computeProofInputDigest dir = .ok digest) :
    h.verifyReleaseInputs dir = .ok ⟨d.manifest.get "build_commit", d.manifest.get "build_config_id", digest⟩ := by
  have hflag {v : Json} (hv : v = .bool true) {message : Str} : require (isTrue v) message = .ok () := by
    rw [hv]
    rfl
  -- in the order of the script: the files, the manifest's schema, the digests, the signature, the flags
  refine bind_ok.2 ⟨(), requireFiles_iff.2 hd.files, ?_⟩
  refine bind_ok.2 ⟨_, hd.manifest, bind_ok.2 ⟨_, hd.signatureDoc, bind_ok.2 ⟨_, hd.registration, ?_⟩⟩⟩
  refine bind_ok.2 ⟨_, hd.receipt, bind_ok.2 ⟨_, hd.evidence, bind_ok.2 ⟨_, hd.replayProof, ?_⟩⟩⟩
  refine bind_ok.2 ⟨d.manifest, rfl, bind_ok.2 ⟨(), hschema, ?_⟩⟩
  refine bind_ok.2 ⟨(), schema_fields hschema (by simp [Schema.releaseProof]), ?_⟩
  refine bind_ok.2 ⟨(), require_ok.2 (schema_version hschema), ?_⟩
  refine bind_ok.2 ⟨(), hself, bind_ok.2 ⟨(), hregistration, bind_ok.2 ⟨(), hreceipt, bind_ok.2 ⟨(), hevidence, ?_⟩⟩⟩⟩
  refine bind_ok.2 ⟨d.signatureDoc, rfl, bind_ok.2 ⟨(), hsigned, ?_⟩⟩
  refine bind_ok.2 ⟨d.receipt, rfl, bind_ok.2 ⟨(), require_ok.2 hconfig, ?_⟩⟩
  refine bind_ok.2 ⟨d.replayProof, rfl, bind_ok.2 ⟨(), require_ok.2 hproof, ?_⟩⟩
  refine bind_ok.2 ⟨(), hflag hrequest, bind_ok.2 ⟨(), hflag hresult, bind_ok.2 ⟨(), hflag hrestart, ?_⟩⟩⟩
  exact bind_ok.2 ⟨digest, hdigest, rfl⟩

end Host

end Release

/-! ## A directory that is accepted -/

namespace Sample

open Release

/-- A digest of 32 bytes, for texts as short as these. -/
def releaseHash (bs : List UInt8) : List UInt8 :=
  let n := bs.foldl (fun n b => (n * 257 + b.toNat + 1) % 0x100000000) 1
  List.replicate 28 0 ++ [(n / 0x1000000).toUInt8, (n / 0x10000).toUInt8, (n / 0x100).toUInt8, n.toUInt8]

def releasePlatform : Platform where
  sha256 := releaseHash
  hmacSha256 _ message := message
  publicKey key := key
  sign _ message := message
  verify _ _ _ := true
  fromisoformat _ := none
  isoformat _ := []
  reprJson _ := "None"
  errorText _ := []
  realText _ := []

def operatorKey : Str := List.replicate 64 0x37

def isAsciiDigit (c : ℕ) : Bool := 0x30 ≤ c && c ≤ 0x39

/-- What reads some documents: a document's file has as many blanks before its text as there are documents before
it. -/
def verifierHost (docs : List Json) : Host where
  platform := releasePlatform
  env k := if k = Str.ofString "ADN_RELEASE_OPERATOR_PUBLIC_KEY_HEX" then some operatorKey else none
  loads bs := docs[(bs.takeWhile (· = 0x20)).length]?
  isDecimal := isAsciiDigit
  isDigit := isAsciiDigit

def fileAt (i : ℕ) (v : Json) : List UInt8 := List.replicate i 0x20 ++ Text.utf8 v.dumps

theorem loads_fileAt {docs : List Json} {i : ℕ} {fs : Dict} (h : docs[i]? = some (.obj fs)) :
    (verifierHost docs).loads (fileAt i (.obj fs)) = some (.obj fs) := by
  have hblanks : ∀ b ∈ List.replicate i (0x20 : UInt8), decide (b = 0x20) = true := fun b hb => by
    rw [List.eq_of_mem_replicate hb]
    rfl
  have hbrace : (Text.utf8 (Json.dumps (.obj fs))).takeWhile (· = 0x20) = [] := by
    rw [Text.utf8_ascii (Json.plain_dumps _).ascii]
    rfl
  simp only [verifierHost, fileAt]
  rw [List.takeWhile_append_of_pos hblanks, hbrace, List.append_nil, List.length_replicate, h]

theorem readJson_fileAt {docs : List Json} {dir : Files} {name : Str} {i : ℕ} {fs : Dict}
    (hf : dir name = some (fileAt i (.obj fs))) (hd : docs[i]? = some (.obj fs)) :
    (verifierHost docs).readJson dir name = .ok (.obj fs) := by
  refine bind_ok.2 ⟨_, by rw [readBytes, hf], ?_⟩
  rw [loads_fileAt hd]
  rfl

def docDigest (fs : Dict) : Str := (verifierHost []).canonicalDigest (.obj fs)

/-- The digests do not depend on what is read. -/
theorem canonicalDigest_eq (docs : List Json) (fs : Dict) : (verifierHost docs).canonicalDigest (.obj fs) = docDigest fs := by
  rw [docDigest, Host.canonicalDigest, Host.canonicalDigest]
  rfl

def registrationFields : Dict := Dict.ofList [("contractId", .int 991)]

def receiptFields : Dict := Dict.ofList [("build_config_id", .str "adn-build-fixture")]

def replayFields : Dict := Dict.ofList [("build_config_id", .str "adn-build-fixture"),
  ("request_replay_rejected", .bool true), ("result_replay_rejected", .bool true),
  ("ledger_persisted_across_restart", .bool true)]

def signatureFields : Dict := Dict.ofList [("algorithm", .str "ed25519"), ("public_key_hex", .str operatorKey),
  ("signature_hex", .str (List.replicate 128 0x30))]

def buildCommit : Str := List.replicate 40 0x61

def bodyFields : Dict := Dict.ofList [("schema_version", .str "adn-release-proof-v1"),
  ("contract_tail", .str "adn-processor"), ("contract_version", .str "3.9.2"), ("build_commit", .str buildCommit),
  ("rustc_version", .str "rustc 1.85.0"), ("trusted_issuer", .str "58da"), ("tenant_did", .str "did:t3n:01"),
  ("build_config_id", .str "adn-build-fixture"), ("local_wasm_sha256", .str (List.replicate 64 0x61)),
  ("registration_status", .str "registered"), ("registered_at", .str "2026-06-28T10:10:36.104Z"),
  ("remote_contract_id", .int 991), ("raw_registration_response_digest", .str (docDigest registrationFields)),
  ("raw_registration_response_path", .str "registration_response.json"),
  ("first_invocation_digest", .str (docDigest receiptFields)), ("first_invocation_path", .str "invocation_receipt.json"),
  ("t3n_evidence_digest", .str (docDigest receiptFields)), ("t3n_evidence_path", .str "t3n_evidence.json"),
  ("operator_public_key", .str operatorKey)]

def manifestFields : Dict := bodyFields ++ Dict.ofList [("manifest_digest", .str (docDigest bodyFields))]

def proofDocs : List Json :=
  [.obj registrationFields, .obj receiptFields, .obj replayFields, .obj signatureFields, .obj manifestFields]

def retained : Documents where
  manifest := manifestFields
  signatureDoc := signatureFields
  registration := .obj registrationFields
  receipt := receiptFields
  evidence := .obj receiptFields
  replayProof := replayFields

def proofFiles : List (Str × List UInt8) := [("registration_response.json", fileAt 0 (.obj registrationFields)),
  ("invocation_receipt.json", fileAt 1 (.obj receiptFields)), ("t3n_evidence.json", fileAt 1 (.obj receiptFields)),
  ("replay_restart_proof.json", fileAt 2 (.obj replayFields)),
  ("deployment_manifest.sig", fileAt 3 (.obj signatureFields)),
  ("deployment_manifest.json", fileAt 4 (.obj manifestFields))]

def proofDir : Files := fun name => proofFiles.lookup name

theorem proofDir_retains (more : List Json) {dir : Files} (hdir : ∀ name ∈ proofInputFiles, dir name = proofDir name) :
    (verifierHost (proofDocs ++ more)).Retains dir retained := by
  have hfile {name : String} (i : ℕ) (fs : Dict) (hn : Str.ofString name ∈ proofInputFiles)
      (hl : proofFiles.lookup (Str.ofString name) = some (fileAt i (.obj fs)))
      (hd : (proofDocs ++ more)[i]? = some (.obj fs)) :
      (verifierHost (proofDocs ++ more)).readJson dir (Str.ofString name) = .ok (.obj fs) :=
    readJson_fileAt ((hdir _ hn).trans hl) hd
  constructor
  · exact hfile 4 manifestFields (by simp [proofInputFiles]) (by simp [proofFiles, List.lookup_cons, beq_eq_decide]) rfl
  · exact hfile 3 signatureFields (by simp [proofInputFiles]) (by simp [proofFiles, List.lookup_cons, beq_eq_decide]) rfl
  · exact hfile 0 registrationFields (by simp [proofInputFiles]) (by simp [proofFiles]) rfl
  · exact hfile 1 receiptFields (by simp [proofInputFiles]) (by simp [proofFiles, List.lookup_cons, beq_eq_decide]) rfl
  · exact hfile 1 receiptFields (by simp [proofInputFiles]) (by simp [proofFiles, List.lookup_cons, beq_eq_decide]) rfl
  · exact hfile 2 replayFields (by simp [proofInputFiles]) (by simp [proofFiles, List.lookup_cons, beq_eq_decide]) rfl

theorem isString_replicate (n : ℕ) {u : UInt16} (hu : u.toNat < 0x7F) : IsString (List.replicate n u) :=
  isString_plain fun w hw => by rwa [List.eq_of_mem_replicate hw]

theorem docDigest_hex {fs : Dict} (h : Encodable (.obj fs)) :
    ∃ bs : List UInt8, bs.length = 32 ∧ docDigest fs = Hex.hexLower bs := by
  obtain ⟨bytes, hb⟩ := canonicalBytes_encodable h
  exact ⟨releaseHash bytes, rfl, by rw [docDigest, Host.canonicalDigest, hb]; rfl⟩

theorem isString_docDigest {fs : Dict} (h : Encodable (.obj fs)) : IsString (docDigest fs) := by
  obtain ⟨bs, -, hd⟩ := docDigest_hex h
  rw [hd]
  exact isString_plain (Hex.plain_hexLower bs)

/-- The text of a document's digest is what the schema asks of a digest. -/
theorem checkRule_docDigest {field : Str} {fs : Dict} (h : Encodable (.obj fs)) (docs : List Json) :
    isMissing (.str (docDigest fs)) = false ∧
      (verifierHost docs).checkRule field (.str (docDigest fs)) { type := .string, pattern := some (.hex 64) } = .ok () := by
  obtain ⟨bs, hlen, hd⟩ := docDigest_hex h
  refine (verifierHost docs).checkRule_text rfl ?_ rfl (by simp) (by simp) fun p hp => ?_
  · rw [hd, ← List.length_pos_iff, Hex.length_hexLower, hlen]
    decide
  · obtain rfl := Option.some.inj hp
    rw [hd, ← hexLower_pattern (verifierHost docs).isDecimal bs, hlen]

theorem encodable_registration : Encodable (.obj registrationFields) := by
  refine .obj (by simp [registrationFields, Dict.ofList]) ?_
  simp only [registrationFields, Dict.ofList, List.map_cons, List.map_nil, List.forall_mem_singleton]
  exact .int 991

theorem encodable_receipt : Encodable (.obj receiptFields) := by
  refine .obj (by simp [receiptFields, Dict.ofList]) ?_
  simp only [receiptFields, Dict.ofList, List.map_cons, List.map_nil, List.forall_mem_singleton]
  exact .str (isString_ofString _)

theorem encodable_body : Encodable (.obj bodyFields) := by
  refine .obj (by simp [bodyFields, Dict.ofList]) fun f hf => ?_
  have htext (s : String) : Encodable (.str s) := .str (isString_ofString s)
  have hdigits (n : ℕ) {u : UInt16} (hu : u.toNat < 0x7F) : Encodable (.str (List.replicate n u)) :=
    .str (isString_replicate n hu)
  revert f
  simp only [bodyFields, Dict.ofList, List.map_cons, List.map_nil, List.forall_mem_cons, List.not_mem_nil, false_imp_iff,
    implies_true, and_true]
  exact ⟨htext _, htext _, htext _, hdigits 40 (by decide), htext _, htext _, htext _, htext _, hdigits 64 (by decide),
    htext _, htext _, .int 991, .str (isString_docDigest encodable_registration), htext _,
    .str (isString_docDigest encodable_receipt), htext _, .str (isString_docDigest encodable_receipt), htext _,
    hdigits 64 (by decide)⟩

theorem manifest_fits (docs : List Json) : Host.Fits (verifierHost docs) .releaseProof manifestFields := by
  have hchecked (k : Str) {s : Str} (rule : Rule) (ht : rule.type = .string) (hs : s ≠ []) (hl : rule.minLength = 0)
      (hc : ∀ c ∈ rule.const, s = c) (he : ∀ cs ∈ rule.enum, s ∈ cs)
      (hp : ∀ p ∈ rule.pattern, p.test isAsciiDigit (Text.codePoints s) = true) :
      k = k ∧ isMissing (.str s) = false ∧ (verifierHost docs).checkRule k (.str s) rule = .ok () :=
    ⟨rfl, (verifierHost docs).checkRule_text ht hs hl hc he hp⟩
  have htext {k s : Str} (hs : s ≠ []) := hchecked k { type := .string } rfl hs rfl (by simp) (by simp) (by simp)
  have hpattern {k s : Str} {p : Pattern} (hs : s ≠ []) (hp : p.test isAsciiDigit (Text.codePoints s) = true) :=
    hchecked k { type := .string, pattern := some p } rfl hs rfl (by simp) (by simp) (by simpa using hp)
  have hdigest {k : Str} {fs : Dict} (h : Encodable (.obj fs)) :=
    And.intro (rfl : k = k) (@checkRule_docDigest k fs h docs)
  refine .cons (hchecked _ _ rfl (by simp) rfl (by simp) (by simp) (by simp)) ?_
  refine .cons (htext (by simp)) (.cons (hpattern (by simp) (by decide +kernel)) ?_)
  refine .cons (hpattern (by simp [buildCommit]) (by decide +kernel)) (.cons (htext (by simp)) ?_)
  refine .cons (htext (by simp)) (.cons (htext (by simp)) (.cons (htext (by simp)) ?_))
  refine .cons (hpattern (by simp) (by decide +kernel)) ?_
  refine .cons (hchecked _ _ rfl (by simp) rfl (by simp) (by simp) (by simp)) ?_
  refine .cons (htext (by simp)) (.cons ⟨rfl, rfl, rfl⟩ ?_)
  refine .cons (hdigest encodable_registration) (.cons (htext (by simp)) ?_)
  refine .cons (hdigest encodable_receipt) (.cons (htext (by simp)) ?_)
  refine .cons (hdigest encodable_receipt) (.cons (htext (by simp)) ?_)
  exact .cons (htext (by simp [operatorKey])) (.cons (hdigest encodable_body) .nil)

theorem manifest_accepted (docs : List Json) :
    (verifierHost docs).validateManifestSchema .releaseProof manifestFields = .ok () :=
  (manifest_fits docs).accepted (by simp [Schema.releaseProof]) (by simp [Schema.releaseProof])

theorem manifestBody_manifest : manifestBody manifestFields = bodyFields := by
  have hkeys : ∀ f ∈ bodyFields, f.1 ≠ Str.ofString "manifest_digest" := by simp [bodyFields, Dict.ofList]
  rw [manifestBody, manifestFields, List.filter_append, List.filter_eq_self.mpr (by simpa using hkeys)]
  simp [Dict.ofList]

theorem manifest_get? {k : String} {v : Json} (h : bodyFields.get? k = some v) : manifestFields.get? k = some v := by
  rw [manifestFields, Dict.get?_append, h, Option.some_or]

theorem manifest_get {k : String} {v : Json} (h : bodyFields.get? k = some v) : manifestFields.get k = v :=
  Dict.get_of_get? (manifest_get? h)

theorem manifest_digest : manifestFields.get? "manifest_digest" = some (.str (docDigest bodyFields)) := by
  rw [manifestFields, Dict.get?_append]
  simp [bodyFields]

theorem pinned_operatorKey (docs : List Json) : (verifierHost docs).pinnedPublicKey = operatorKey := by
  have h : lower (strip operatorKey) = operatorKey := by decide +kernel
  rw [Host.pinnedPublicKey, Host.environ]
  simpa [verifierHost] using h

theorem manifest_signed (docs : List Json) :
    (verifierHost docs).verifyManifestSignature manifestFields signatureFields = .ok () := by
  have hlower : lower (strip operatorKey) = operatorKey := by decide +kernel
  have hmanifest : (verifierHost docs).textOf manifestFields "operator_public_key" = operatorKey   :=
    Host.textOf_str _ (manifest_get? (by simp [bodyFields]))
  have hdoc : (verifierHost docs).textOf signatureFields "public_key_hex" = operatorKey := by
    exact Host.textOf_str _ (by simp [signatureFields])
  have hsignature : (verifierHost docs).textOf signatureFields "signature_hex" = List.replicate 128 0x30 := by
    exact Host.textOf_str _ (by simp [signatureFields])
  have hkey : Host.fromHex operatorKey = .ok (List.replicate 32 0x77) := by decide +kernel
  have hbytes : Host.fromHex (List.replicate 128 0x30) = .ok (List.replicate 64 0x00) := by decide +kernel
  obtain ⟨message, hmessage⟩ := canonicalBytes_encodable encodable_body
  have hpinned := pinned_operatorKey docs
  refine bind_ok.2 ⟨(), Release.require_ok.2 (by simp [signatureFields, Dict.get, Dict.getD, Json.pyEq]), ?_⟩
  refine bind_ok.2 ⟨(), Release.require_ok.2 (by rw [hpinned]; rfl), ?_⟩
  refine bind_ok.2 ⟨(), Release.require_ok.2 (by rw [hmanifest, hpinned, hlower]; exact decide_eq_true rfl), ?_⟩
  refine bind_ok.2 ⟨(), Release.require_ok.2 (by rw [hdoc, hpinned, hlower]; exact decide_eq_true rfl), ?_⟩
  refine bind_ok.2 ⟨_, by rw [hpinned, hkey], bind_ok.2 ⟨_, by rw [hsignature, hbytes], ?_⟩⟩
  refine bind_ok.2 ⟨message, by rw [manifestBody_manifest, hmessage], ?_⟩
  rfl

theorem proofDir_accepted (more : List Json) {dir : Files} (hdir : ∀ name ∈ proofInputFiles, dir name = proofDir name)
    {digest : Str} (hdigest : (verifierHost (proofDocs ++ more)).computeProofInputDigest dir = .ok digest) :
    (verifierHost (proofDocs ++ more)).verifyReleaseInputs dir =
      .ok ⟨.str buildCommit, .str "adn-build-fixture", digest⟩ := by
  have hcommit : manifestFields.get "build_commit" = .str buildCommit := manifest_get (by simp [bodyFields])
  have hconfig : manifestFields.get "build_config_id" = .str "adn-build-fixture" := manifest_get (by simp [bodyFields])
  have hdoc {label : Str} {k : String} (fs : Dict) (hk : manifestFields.get? k = some (.str (docDigest fs)))
      (he : Encodable (.obj fs)) : (verifierHost (proofDocs ++ more)).requireDigest label
        ((verifierHost (proofDocs ++ more)).textOf manifestFields k) (.obj fs) = .ok () := by
    rw [Host.textOf_str _ hk, ← canonicalDigest_eq]
    exact Host.requireDigest_accepts _ label he
  have hself := @hdoc (Str.ofString "manifest") _ bodyFields manifest_digest encodable_body
  rw [← manifestBody_manifest] at hself
  have hflag {flag : String} (hf : replayFields.get? flag = some (.bool true)) : replayFields.get flag = .bool true :=
    Dict.get_of_get? hf
  have h := Host.verifyReleaseInputs_accepts (proofDir_retains more hdir) (manifest_accepted _) hself
    (hdoc registrationFields (manifest_get? (by simp [bodyFields])) encodable_registration)
    (hdoc receiptFields (manifest_get? (by simp [bodyFields])) encodable_receipt)
    (hdoc receiptFields (manifest_get? (by simp [bodyFields])) encodable_receipt) (manifest_signed _)
    (by rw [show retained.manifest = manifestFields from rfl, hconfig, Json.pyEq_str]
        exact Dict.get_of_get? (by simp [retained, receiptFields]))
    (by rw [show retained.manifest = manifestFields from rfl, hconfig, Json.pyEq_str]
        exact Dict.get_of_get? (by simp [retained, replayFields]))
    (hflag (by simp [replayFields])) (hflag (by simp [replayFields])) (hflag (by simp [replayFields])) hdigest
  rw [h, show retained.manifest = manifestFields from rfl, hcommit, hconfig]

theorem proofDir_isAccepted : ∃ r, (verifierHost proofDocs).verifyReleaseInputs proofDir = .ok r := by
  rw [← List.append_nil proofDocs]
  obtain ⟨digest, hd⟩ := (proofDir_retains [] fun _ _ => rfl).proofInputDigest
  exact ⟨_, proofDir_accepted [] (fun _ _ => rfl) hd⟩

theorem proofDir_manifest : (verifierHost proofDocs).readJson proofDir "deployment_manifest.json" =
    .ok (.obj manifestFields) := by
  rw [← List.append_nil proofDocs]
  exact (proofDir_retains [] fun _ _ => rfl).manifest

end Sample

end Adn
