import Adn.Lib.Reordered
import Adn.ManifestValidator
/-!
# Documents by their canonical text

`canonical_json` quotes strings with code of its own. Its literals can be read back, so
two documents have one text, and one digest, exactly if they differ in the order of
keys only (`canonicalJson_identifies`).
-/

open Lib

namespace Adn.Release

/-! ## Literals -/

theorem quoteJsonString_opens (s : Str) : ∃ t, quoteJsonString s = Text.quotationMark :: t := ⟨_, rfl⟩

theorem quoteJsonString_cancel {s t r r' : Str} (h : quoteJsonString s ++ r = quoteJsonString t ++ r') : s = t ∧ r = r' := by
  simp only [quoteJsonString, List.cons_append, List.append_assoc, List.cons.injEq, true_and, List.nil_append] at h
  exact Text.escaped_cancel h

/-! ## Documents -/

/-- Nulls, booleans, integers, strings, lists, and objects, which have every key once. -/
inductive Document : Json → Prop where
  | null : Document .null
  | bool (b : Bool) : Document (.bool b)
  | int (n : ℤ) : Document (.int n)
  | str (s : Str) : Document (.str s)
  | arr {xs : List Json} (h : ∀ x ∈ xs, Document x) : Document (.arr xs)
  | obj {fs : Dict} (hn : (fs.map (·.1)).Nodup) (h : ∀ f ∈ fs, Document f.2) : Document (.obj fs)

theorem Document.distinctKeys {v : Json} (h : Document v) : v.DistinctKeys := by
  induction h with
  | null | bool | int => exact .scalar rfl
  | str s => exact .str s
  | arr _ ih => exact .arr ih
  | obj hn _ ih => exact .obj hn ih

theorem canonicalList_text {xs : List Json} (h : ∀ x ∈ xs, canonicalJson x = some (x.textWith quoteJsonString)) :
    canonicalList xs = some (Json.textsWith quoteJsonString xs) := by
  induction xs with
  | nil => rfl
  | cons x xs ih =>
    obtain ⟨hx, hxs⟩ := List.forall_mem_cons.1 h
    rw [canonicalList, hx, ih hxs]
    rfl

theorem canonicalFields_text {fs : Dict} (h : ∀ f ∈ fs, canonicalJson f.2 = some (f.2.textWith quoteJsonString)) :
    canonicalFields fs = some (Json.fieldTextsWith quoteJsonString fs) := by
  induction fs with
  | nil => rfl
  | cons f fs ih =>
    obtain ⟨hf, hfs⟩ := List.forall_mem_cons.1 h
    rw [canonicalFields, hf, ih hfs]
    rfl

/-- The canonical text is the one with these literals. -/
theorem Document.text {v : Json} (h : Document v) : canonicalJson v = some (v.textWith quoteJsonString) := by
  induction h with
  | null | bool | int | str => rfl
  | arr _ ih =>
    rw [canonicalJson, canonicalList_text ih]
    rfl
  | obj _ _ ih =>
    rw [canonicalJson, canonicalFields_text ih]
    rfl

theorem text_eq_iff {v w : Json} (hv : Document v) :
    v.textWith quoteJsonString = w.textWith quoteJsonString ↔ v.Reordered w := by
  rw [← Json.same_iff_reordered hv.distinctKeys]
  exact ⟨Json.textWith_inj quoteJsonString_opens quoteJsonString_cancel, Json.textWith_congr quoteJsonString⟩

/-! ## Bytes -/

/-- What can be encoded has no lone surrogate. -/
theorem isString_of_encoded {s : Str} {bytes : List UInt8} (h : encodeUtf8 s = .ok bytes) : IsString s := by
  unfold encodeUtf8 at h
  split at h
  · cases h
  · rename_i hs
    rw [← Text.flatMap_ofCodePoint s]
    refine isString_flatMap fun c hc => ?_
    have hlt := Text.codePoints_lt c hc
    have hchar : Text.isSurrogate c = false := by
      rw [← Bool.not_eq_true]
      exact fun hsur => hs (List.any_eq_true.2 ⟨c, hc, hsur⟩)
    simp only [Text.isSurrogate, Bool.and_eq_false_iff, decide_eq_false_iff_not] at hchar
    have hvalid : c.isValidChar := by
      unfold Nat.isValidChar
      omega
    exact isString_char (Char.ofNatAux c hvalid)

theorem canonicalBytes_isString {v : Json} {bytes : List UInt8} (h : canonicalBytes v = .ok bytes) :
    ∃ t, canonicalJson v = some t ∧ IsString t ∧ bytes = Text.utf8 t := by
  obtain ⟨t, ht, hb⟩ := Host.canonicalBytes_ok h
  rw [canonicalBytes, ht] at h
  exact ⟨t, ht, isString_of_encoded h, hb⟩

/-- The encoded text determines the text. -/
theorem canonicalBytes_inj {v w : Json} {bytes : List UInt8} (hv : canonicalBytes v = .ok bytes)
    (hw : canonicalBytes w = .ok bytes) : canonicalJson v = canonicalJson w := by
  obtain ⟨t, ht, hts, rfl⟩ := canonicalBytes_isString hv
  obtain ⟨u, hu, hus, hb⟩ := canonicalBytes_isString hw
  rw [ht, hu, utf8_inj hts hus hb]

/-! ## Digests -/

/-- Two documents have one canonical text exactly if they differ in the order of keys only. A digest that is accepted for one
is then accepted for the other, and if SHA-256 has no collision, in this case only. -/
theorem canonicalJson_identifies (h : Host) {v w : Json} (hv : Document v) (hw : Document w) :
    ∃ t u, canonicalJson v = some t ∧ canonicalJson w = some u ∧ (t = u ↔ v.Reordered w) ∧
      ∀ label label' digest, h.requireDigest label digest v = .ok () →
        (v.Reordered w → h.requireDigest label' digest w = .ok ()) ∧
        (Function.Injective h.platform.sha256 → h.requireDigest label' digest w = .ok () → v.Reordered w) := by
  refine ⟨_, _, hv.text, hw.text, text_eq_iff hv, fun label label' digest hd => ?_⟩
  obtain ⟨bytes, hb, hdigest⟩ := h.requireDigest_ok hd
  constructor
  · intro hr
    have hbytes : canonicalBytes w = .ok bytes := by
      rw [← hb, canonicalBytes, canonicalBytes, hv.text, hw.text, (text_eq_iff hv).2 hr]
    exact bind_ok.2 ⟨bytes, hbytes, require_ok.2 (decide_eq_true hdigest)⟩
  · intro hc hd'
    obtain ⟨bytes', hb', hdigest'⟩ := h.requireDigest_ok hd'
    obtain rfl : bytes = bytes' := hc (Hex.hexLower_inj (hdigest.trans hdigest'.symm))
    have htext := canonicalBytes_inj hb hb'
    rw [hv.text, hw.text] at htext
    exact (text_eq_iff hv).1 (Option.some.inj htext)

/-! ### Two orders of one object -/

namespace Sample

def firstOrder : Json := .obj (Dict.ofList [("é", .arr [.int (-1), .str "\"\n", .bool true]), ("a", .null)])

def secondOrder : Json := .obj (Dict.ofList [("a", .null), ("é", .arr [.int (-1), .str "\"\n", .bool true])])

/-- A host whose digests are the bytes themselves. -/
def plainHost : Host := { Adn.Sample.verifierHost [] with platform := { (Adn.Sample.verifierHost []).platform with sha256 := id } }

theorem list_document : Document (.arr [.int (-1), .str "\"\n", .bool true]) := by
  refine .arr fun x hx => ?_
  simp only [List.mem_cons, List.not_mem_nil, or_false] at hx
  rcases hx with rfl | rfl | rfl
  · exact .int _
  · exact .str _
  · exact .bool _

theorem first_document : Document firstOrder := by
  refine .obj (by simp [Dict.ofList]) ?_
  simpa [Dict.ofList] using ⟨list_document, Document.null⟩

theorem second_document : Document secondOrder := by
  refine .obj (by simp [Dict.ofList]) ?_
  simpa [Dict.ofList] using ⟨Document.null, list_document⟩

/-- The values of both documents, by their keys. -/
def orderedPairs : List (Str × Json × Json) := [
  ("é", .arr [.int (-1), .str "\"\n", .bool true], .arr [.int (-1), .str "\"\n", .bool true]), ("a", .null, .null)]

theorem orders_reordered : firstOrder.Reordered secondOrder := by
  have hvalues : ∀ q ∈ orderedPairs, Json.Reordered q.2.1 q.2.2 := by simp [orderedPairs, Json.Reordered.refl]
  exact .obj hvalues (.refl _) (.swap _ _ _)

/-- One text, and one digest, which is no other document's. -/
theorem orders_identified : canonicalJson firstOrder = canonicalJson secondOrder ∧
    ∀ label digest, plainHost.requireDigest label digest firstOrder = .ok () →
      plainHost.requireDigest label digest secondOrder = .ok () ∧ plainHost.requireDigest label digest .null ≠ .ok () := by
  obtain ⟨t, u, ht, hu, hiff, hdigest⟩ := canonicalJson_identifies plainHost first_document second_document
  obtain ⟨_, _, -, -, -, hother⟩ := canonicalJson_identifies plainHost first_document .null
  refine ⟨by rw [ht, hu, hiff.2 orders_reordered], fun label digest h => ⟨(hdigest label label digest h).1 orders_reordered, ?_⟩⟩
  intro hnull
  cases (hother label label digest h).2 Function.injective_id hnull

end Sample

end Adn.Release
