import Adn.Lib.Parsed
import Adn.Lib.Reordered
import Adn.ReleaseProof
import Adn.ReleasePublished
/-!
# One canonical text

The bridge and the release verifier escape, sort and print with code of their own: the
bridge compares keys by a loop over the characters that it puts together from UTF-16
(`compareJsonKeys_nonpos`). On the documents that both languages can hold exactly the
two canonical texts are the same (`canonicalJson_agrees`), so the verifier hashes and
checks the bytes that the bridge has hashed and signed.
-/

open Lib

namespace Adn

namespace Release

/-! ## Texts -/

/-- The escapes of one character are the same. -/
theorem unicodeCodePoint_char (c : Char) : Text.unicodeCodePoint c.toNat =
    (Str.ofCodePoint c.toNat).flatMap (Text.escapeUnit fun u => 0x20 ≤ u.toNat) := by
  have hv : c.toNat < 0xD800 ∨ (0xDFFF < c.toNat ∧ c.toNat < 0x110000) := c.valid
  by_cases hlow : c.toNat < 0x10000
  · -- one unit, and no surrogate
    have hu : c.toNat.toUInt16.toNat = c.toNat := Text.toNat_toUInt16 hlow
    have hs : Text.isSurrogate c.toNat = false := by
      simp only [Text.isSurrogate, Bool.and_eq_false_iff, decide_eq_false_iff_not]
      omega
    rw [Text.unicodeCodePoint, Str.ofCodePoint, if_pos hlow, if_pos hlow, List.flatMap_singleton]
    simp only [Text.escapeUnit, hu, hs, Bool.not_false, Bool.and_true]
  · rw [Text.unicodeCodePoint, if_neg hlow, List.flatMap_congr fun u hu => escapeUnit_high (units_high (by omega) u hu),
      List.flatMap_singleton']

theorem quoteUnicode_isString {s : Str} (h : IsString s) : Text.quoteUnicode s = quoteJsonString s := by
  obtain ⟨t, rfl⟩ := h
  rw [Text.quoteUnicode, quoteJsonString, Text.unicodeBody, Text.codePoints_ofString, Str.ofString,
    List.flatMap_assoc, List.flatMap_map]
  simp only [unicodeCodePoint_char]

theorem propText_isString {f : Str × Str} (h : IsString f.1) : Js.propText f = entryText f := by
  rw [Js.propText, entryText, quoteUnicode_isString h]

/-! ## The order of the keys -/

/-- The first difference decides, and the lengths where there is none: the order of the lists. -/
theorem firstDelta_nonpos (ls rs : List ℕ) :
    (ReleaseProof.firstDelta ls rs).getD (ls.length - rs.length) ≤ 0 ↔ ls ≤ rs := by
  induction ls generalizing rs with
  | nil =>
    have hle : [] ≤ rs := not_lt.1 (List.not_lt_nil rs)
    simpa [ReleaseProof.firstDelta] using hle
  | cons l ls ih =>
    cases rs with
    | nil =>
      have hlt : ¬l :: ls ≤ [] := not_le.2 (List.nil_lt_cons l ls)
      refine iff_of_false (fun h => ?_) hlt
      rw [ReleaseProof.firstDelta, Option.getD_none, List.length_cons, List.length_nil] at h
      · omega
      · simp
    | cons r rs =>
      have hcons : l :: ls ≤ r :: rs ↔ l < r ∨ l = r ∧ ls ≤ rs := by
        rw [← not_lt, ← not_lt, List.cons_lt_cons_iff]
        grind
      rw [hcons, ReleaseProof.firstDelta]
      by_cases hlr : l = r
      · have hlength : ((l :: ls).length : ℤ) - (r :: rs).length = ls.length - rs.length := by
          simp only [List.length_cons]
          omega
        rw [if_neg (by omega), hlength, ih, hlr]
        simp
      · rw [if_pos (by omega), Option.getD_some]
        omega

/-- The comparator over UTF-16 orders two keys as `ord` orders their characters. -/
theorem compareJsonKeys_nonpos (left right : Str) :
    ReleaseProof.compareJsonKeys left right ≤ 0 ↔ Text.codePoints left ≤ Text.codePoints right := by
  rw [ReleaseProof.compareJsonKeys, ReleaseProof.keyPoints, ReleaseProof.keyPoints, Js.arrayFrom_codePoints,
    Js.arrayFrom_codePoints]
  exact firstDelta_nonpos _ _

/-- So the bridge sorts entries as the verifier does. -/
theorem sortEntries_eq {α : Type} (fs : List (Str × α)) : ReleaseProof.sortEntries fs = sortFields fs := by
  have h := List.map_insertionSort (r := ReleaseProof.entryLe) (s := fieldLe) id fs
    fun f _ g _ => compareJsonKeys_nonpos f.1 g.1
  rwa [List.map_id, List.map_id] at h

/-! ## Entries -/

/-- An entry, where its value is defined. -/
def written? : Str × Js → Option (Str × Except Str Str)
  | (_, .undefined) => none
  | (k, v) => some (k, ReleaseProof.canonicalJson v)

theorem canonicalProps_eq (gs : Props) : ReleaseProof.canonicalProps gs = gs.filterMap written? := by
  induction gs with
  | nil => rfl
  | cons g gs ih =>
    obtain ⟨k, v⟩ := g
    cases v <;> simp [ReleaseProof.canonicalProps, ih, written?, List.filterMap_cons]

theorem canonicalProps_perm {gs o : Props} (h : gs.Perm o) :
    (ReleaseProof.canonicalProps gs).Perm (ReleaseProof.canonicalProps o) := by
  rw [canonicalProps_eq, canonicalProps_eq]
  exact h.filterMap _

/-- Entries whose values all have a text have a text each. -/
theorem mapM_entryText {ts : List (Str × Str)} (h : ∀ f ∈ ts, IsString f.1) :
    (ts.map fun f => (f.1, (.ok f.2 : Except Str Str))).mapM ReleaseProof.entryText = .ok (ts.map entryText) := by
  induction ts with
  | nil => rfl
  | cons f ts ih =>
    obtain ⟨hf, hfs⟩ := List.forall_mem_cons.mp h
    rw [List.map_cons, List.mapM_cons, ih hfs, ReleaseProof.entryText, List.map_cons, ← propText_isString hf]
    rfl

/-! ## Documents -/

/-- The documents that both languages hold exactly. -/
inductive Common : Json → Prop where
  | null : Common .null
  | bool (b : Bool) : Common (.bool b)
  | int {n : ℤ} (h : n.natAbs ≤ 2 ^ 53) : Common (.int n)
  | str {s : Str} (h : IsString s) : Common (.str s)
  | arr {xs : List Json} (h : ∀ x ∈ xs, Common x) : Common (.arr xs)
  | obj {fs : Dict} (hk : ∀ f ∈ fs, IsString f.1) (h : ∀ f ∈ fs, Common f.2) : Common (.obj fs)

/-- The two languages write one text. -/
def SameText (v : Json) (w : Js) : Prop := ∃ t, canonicalJson v = some t ∧ ReleaseProof.canonicalJson w = .ok t

theorem sameText_int {n : ℤ} (h : n.natAbs ≤ 2 ^ 53) {x : PyFloat} (hx : AsDouble n x) : SameText (.int n) (.num x) := by
  have hb : doubleOverflow = 2 ^ 1024 - 2 ^ 970 := rfl
  refine ⟨Numerals.intText n, rfl, ?_⟩
  cases hx with
  | exact _ =>
    rw [ReleaseProof.canonicalJson, Js.numberJson, Js.numberText_int (by omega)] <;> simp
  | negZero hz => rw [hz]; rfl
  | rounded hlt => omega
  | posInf hle => omega
  | negInf hle => omega

theorem sameText_list {xs : List Json} {ys : List Js} (hl : xs.length = ys.length)
    (h : ∀ p ∈ xs.zip ys, SameText p.1 p.2) :
    ∃ ts, canonicalList xs = some ts ∧ ReleaseProof.canonicalList ys = .ok ts := by
  induction xs generalizing ys with
  | nil =>
    rw [List.eq_nil_of_length_eq_zero hl.symm]
    exact ⟨[], rfl, rfl⟩
  | cons x xs ih =>
    cases ys with
    | nil => simp at hl
    | cons y ys =>
      rw [List.zip_cons_cons] at h
      obtain ⟨⟨t, hx, hy⟩, htail⟩ := List.forall_mem_cons.mp h
      obtain ⟨ts, hxs, hys⟩ := ih (by simpa using hl) htail
      refine ⟨t :: ts, ?_, ?_⟩
      · rw [canonicalList, hx, hxs]; rfl
      · rw [ReleaseProof.canonicalList]
        simp only [hy, hys]
        rfl

/-- The entries have the same texts, under the same names. -/
theorem sameText_fields {fs : Dict} {gs : Props} (hk : fs.map (·.1) = gs.map (·.1))
    (h : ∀ p ∈ fs.zip gs, SameText p.1.2 p.2.2) : ∃ ts : List (Str × Str), canonicalFields fs = some ts ∧
      ReleaseProof.canonicalProps gs = ts.map (fun f => (f.1, .ok f.2)) ∧ ts.map (·.1) = fs.map (·.1) := by
  induction fs generalizing gs with
  | nil =>
    rw [List.map_eq_nil_iff.mp hk.symm]
    exact ⟨[], rfl, rfl, rfl⟩
  | cons f fs ih =>
    cases gs with
    | nil => simp at hk
    | cons g gs =>
      obtain ⟨k, v⟩ := f
      obtain ⟨k', w⟩ := g
      simp only [List.map_cons, List.cons.injEq] at hk
      obtain ⟨rfl, hks⟩ := hk
      rw [List.zip_cons_cons] at h
      obtain ⟨⟨t, hv, hw⟩, htail⟩ := List.forall_mem_cons.mp h
      obtain ⟨ts, hfs, hgs, hnames⟩ := ih hks htail
      refine ⟨(k, t) :: ts, ?_, ?_, by simp [hnames]⟩
      · rw [canonicalFields, hv, hfs]; rfl
      · have hdef : w ≠ .undefined := by
          rintro rfl
          cases hw
        rw [ReleaseProof.canonicalProps, hw, hgs]
        · rfl
        · exact hdef

theorem sameText {v : Json} {w : Js} (h : Parsed v w) (hc : Common v) : SameText v w := by
  induction h with
  | null => exact ⟨_, rfl, rfl⟩
  | bool b => exact ⟨_, rfl, rfl⟩
  | int hx =>
    cases hc with
    | int hn => exact sameText_int hn hx
  | float x => cases hc
  | str s =>
    cases hc with
    | str hs => exact ⟨_, rfl, by rw [ReleaseProof.canonicalJson, quoteUnicode_isString hs]⟩
  | arr hl _ ih =>
    cases hc with
    | arr hcs =>
      obtain ⟨ts, hxs, hys⟩ := sameText_list hl fun p hp => ih p hp (hcs p.1 (List.of_mem_zip hp).1)
      exact ⟨_, by rw [canonicalJson, hxs]; rfl, by rw [ReleaseProof.canonicalJson, hys]; rfl⟩
  | @obj fs gs o hk hn _ ho ih =>
    cases hc with
    | obj hks hcs =>
      obtain ⟨ts, hfs, hgs, hnames⟩ := sameText_fields hk fun p hp => ih p hp (hcs p.1 (List.of_mem_zip hp).1)
      have hstr : ∀ f ∈ ts, IsString f.1 := by
        intro f hf
        obtain ⟨g, hg, hfg⟩ := List.mem_map.mp (hnames ▸ List.mem_map_of_mem hf : f.1 ∈ fs.map (·.1))
        exact hfg ▸ hks g hg
      -- JavaScript's own order of the properties is sorted away
      have hsort : sortFields (ReleaseProof.canonicalProps o) = (sortFields ts).map fun f => (f.1, .ok f.2) := by
        rw [← sortFields_map, ← hgs]
        refine sortFields_perm (canonicalProps_perm ho).symm ?_
        rw [hgs, List.map_map]
        exact (hnames ▸ hn : (ts.map (·.1)).Nodup)
      refine ⟨_, by rw [canonicalJson, hfs]; rfl, ?_⟩
      rw [ReleaseProof.canonicalJson, sortEntries_eq, hsort, mapM_entryText fun f hf => hstr f (mem_sortFields.mp hf)]
      rfl

theorem Common.encodable {v : Json} (h : Common v) : Encodable v := by
  induction h with
  | null => exact .null
  | bool b => exact .bool b
  | int _ => exact .int _
  | str hs => exact .str hs
  | arr _ ih => exact .arr ih
  | obj hk _ ih => exact .obj hk ih

/-! ## Digests and signatures -/

theorem canonicalBytes_common {v : Json} {t : Str} (h : Common v) (ht : canonicalJson v = some t) :
    canonicalBytes v = .ok (Text.utf8 t) := by
  obtain ⟨t', ht', hs⟩ := hasText v h.encodable
  rw [canonicalBytes, ht]
  exact encodeUtf8_isString (Option.some.inj (ht.symm.trans ht') ▸ hs)

/-- What is signed are the bytes of the body's canonical text. -/
theorem signed_text {k : ReleaseProof.Keys} {body signature : Props} {seedHex t : Str}
    (hs : k.signReleaseManifestWithSeed body seedHex = .ok signature)
    (ht : ReleaseProof.canonicalJson (.obj body) = .ok t) :
    ∃ seed, signature = Props.ofList [("algorithm", .str "ed25519"), ("public_key_hex", .str (Hex.hexLower (k.publicKey seed))),
      ("signature_hex", .str (Hex.hexLower (k.sign (Text.utf8 t) seed)))] := by
  obtain ⟨seed, hseed, hs⟩ := bind_ok.1 hs
  obtain ⟨text, htext, hs⟩ := bind_ok.1 hs
  obtain ⟨key, hkey, hs⟩ := bind_ok.1 hs
  rw [ht] at htext
  obtain rfl := Except.ok.inj htext
  rw [ReleaseProof.Keys.deriveEd25519PublicKeyHexFromSeed, hseed] at hkey
  obtain rfl := Except.ok.inj hkey
  exact ⟨seed, (Except.ok.inj hs).symm⟩

/-- The two canonical texts of a document are one, so the digest that the bridge writes is the
one that the verifier computes, and the bytes that it signs are the ones that the verifier checks. -/
theorem canonicalJson_agrees (h : Host) (k : ReleaseProof.Keys) (hsha : k.sha256 = h.platform.sha256) {v : Json} {w : Js}
    (hp : Parsed v w) (hc : Common v) : ∃ text, canonicalJson v = some text ∧ ReleaseProof.canonicalJson w = .ok text ∧
      canonicalBytes v = .ok (Text.utf8 text) ∧ k.digestCanonicalJson w = .ok (h.canonicalDigest v) ∧
      ∀ body seedHex signature, w = .obj body → k.signReleaseManifestWithSeed body seedHex = .ok signature →
        ∃ seed, signature = Props.ofList [("algorithm", .str "ed25519"),
          ("public_key_hex", .str (Hex.hexLower (k.publicKey seed))),
          ("signature_hex", .str (Hex.hexLower (k.sign (Text.utf8 text) seed)))] := by
  obtain ⟨t, hv, hw⟩ := sameText hp hc
  have hbytes := canonicalBytes_common hc hv
  refine ⟨t, hv, hw, hbytes, ?_, ?_⟩
  · rw [ReleaseProof.Keys.digestCanonicalJson, hw, Host.canonicalDigest, hbytes, Except.map,
      ReleaseProof.Keys.sha256Hex, hsha]
    rfl
  · rintro body seedHex signature rfl hs
    exact signed_text hs hw

end Release

namespace Sample

open Release

/-- Names that the two languages order differently, and characters with and without an escape. -/
def vectorFields : Dict := Dict.ofList [("😀", .str "Ω"), ("ｱ", .arr [.int 9007199254740992, .str "\"\n"]), ("1", .int (-7))]

/-- The properties in the order of the text. -/
def writtenProps : Props := Props.ofList [("😀", .str "Ω"), ("ｱ", .arr [.num (.finite 9007199254740992), .str "\"\n"]),
  ("1", .num (.finite (-7)))]

/-- An index comes first. -/
def vectorProps : Props := Props.ofList [("1", .num (.finite (-7))), ("😀", .str "Ω"),
  ("ｱ", .arr [.num (.finite 9007199254740992), .str "\"\n"])]

def vectorKeys : ReleaseProof.Keys := ⟨releaseHash, id, fun message _ => message⟩

theorem vector_parsed : Parsed (.obj vectorFields) (.obj vectorProps) := by
  have hpow : Parsed (.int 9007199254740992) (.num (.finite 9007199254740992)) := by
    simpa using Parsed.int (AsDouble.exact (n := 9007199254740992) (by decide))
  have hneg : Parsed (.int (-7)) (.num (.finite (-7))) := by
    simpa using Parsed.int (AsDouble.exact (n := -7) (by decide))
  have hlist : Parsed (.arr [.int 9007199254740992, .str "\"\n"]) (.arr [.num (.finite 9007199254740992), .str "\"\n"]) :=
    .arr rfl (by simp [hpow, Parsed.str])
  have horder : writtenProps.Perm vectorProps := by
    exact @List.perm_append_comm _ (writtenProps.take 2) (writtenProps.drop 2)
  exact .obj rfl (by simp [vectorFields, Dict.ofList])
    (by simp [vectorFields, writtenProps, Dict.ofList, Props.ofList, hlist, hneg, Parsed.str]) horder

theorem vector_common : Common (.obj vectorFields) := by
  refine .obj (by simp [vectorFields, Dict.ofList]) ?_
  have hlist : Common (.arr [.int 9007199254740992, .str "\"\n"]) := by
    refine .arr fun x hx => ?_
    rcases List.mem_cons.mp hx with rfl | hx
    · exact .int (by decide)
    · exact List.mem_singleton.mp hx ▸ .str (isString_ofString _)
  intro f hf
  simp only [vectorFields, Dict.ofList, List.map_cons, List.map_nil, List.mem_cons, List.not_mem_nil, or_false] at hf
  rcases hf with rfl | rfl | rfl
  · exact .str (isString_ofString _)
  · exact hlist
  · exact .int (by decide)

theorem vector_agrees : ∃ text, canonicalJson (.obj vectorFields) = some text ∧
    ReleaseProof.canonicalJson (.obj vectorProps) = .ok text ∧
    canonicalBytes (.obj vectorFields) = .ok (Text.utf8 text) ∧
    vectorKeys.digestCanonicalJson (.obj vectorProps) = .ok ((verifierHost []).canonicalDigest (.obj vectorFields)) := by
  obtain ⟨text, hv, hw, hbytes, hdigest, -⟩ :=
    canonicalJson_agrees (verifierHost []) vectorKeys rfl vector_parsed vector_common
  exact ⟨text, hv, hw, hbytes, hdigest⟩

end Sample

end Adn
