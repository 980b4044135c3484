import Adn.GatewayExecutor
import Adn.Lib.Readings
import Adn.Platform
/-!
# The executor's canonical text

`canonicalJson` is written to match `json.dumps(obj, sort_keys=True, separators=(",",":"))`.
It does on `Alike` documents and on no others (`canonical_agrees_iff`): JavaScript writes a
character that is not ASCII as it is, a float without its `.0` and an exponent
without its zero.
-/

open Lib

namespace Adn.Gateway

/-! ## Scalars -/

theorem scalar_text {v : Json} {w : Js} (h : Scalar v w) :
    v.isScalar = true ∧ ∀ u ∈ canonicalJson w, Json.isScalarUnit u = true := by
  have hword : ∀ {s : Str}, s.all Json.isScalarUnit = true → ∀ u ∈ s, Json.isScalarUnit u = true :=
    fun hs => List.all_eq_true.1 hs
  cases h with
  | null => exact ⟨rfl, hword (by decide +kernel)⟩
  | bool b => cases b <;> exact ⟨rfl, hword (by decide +kernel)⟩
  | int _ | float x | lost _ => exact ⟨rfl, Js.scalarUnit_numberJson _⟩
  | missing => exact ⟨rfl, hword (by decide +kernel)⟩

theorem scalar_agrees_iff {v : Json} {w : Js} (h : Scalar v w) : canonicalJson w = v.dumps ↔ ScalarAlike v w := by
  cases h with
  | null => exact ⟨fun _ => .null, fun _ => rfl⟩
  | bool b => exact ⟨fun _ => .bool b, fun _ => rfl⟩
  | int _ => exact Js.int_agrees_iff _ _
  | float x => exact Js.float_agrees_iff x
  | lost hx => exact ⟨fun _ => .lost hx, fun _ => hx⟩
  | missing =>
    refine ⟨fun h => ?_, fun h => by cases h⟩
    rw [canonicalJson, Json.dumps] at h
    exact absurd h (by decide +kernel)

/-! ## Documents -/

theorem canonicalList_eq {xs : List Js} (h : ∀ x ∈ xs, x ≠ .undefined) : canonicalList xs = xs.map canonicalJson := by
  induction xs with
  | nil => rfl
  | cons x xs ih =>
    obtain ⟨hx, hxs⟩ := List.forall_mem_cons.1 h
    rw [canonicalList, ih hxs, List.map_cons]
    exact hx

theorem canonicalProps_eq (fs : Props) : canonicalProps fs = fs.map fun f => (f.1, canonicalJson f.2) := by
  induction fs with
  | nil => rfl
  | cons f fs ih => rw [canonicalProps, ih, List.map_cons]

section
variable {qs : List (Str × Json × Js)} {o : Props}

/-- With portable names, the fields are written in Python's order. -/
theorem canonicalJson_portable (hs : ∀ q ∈ qs, Text.Portable q.1) (hn : (qs.map (·.1)).Nodup)
    (ho : (qs.map fun q => (q.1, q.2.2)).Perm o) : canonicalJson (.obj o) = openBrace ::
      joinComma ((sortFields qs).map fun q => fieldText (q.1, canonicalJson q.2.2)) ++ [closeBrace] := by
  have hperm : (canonicalProps o).Perm (qs.map fun q => (q.1, canonicalJson q.2.2)) := by
    rw [canonicalProps_eq]
    simpa [Function.comp_def] using (ho.map fun f => (f.1, canonicalJson f.2)).symm
  have hnames : ∀ f ∈ canonicalProps o, Text.Portable f.1 := by
    intro f hf
    obtain ⟨q, hq, rfl⟩ := List.mem_map.1 (hperm.mem_iff.1 hf)
    exact hs q hq
  have hsort : Js.sortProps (canonicalProps o) = (sortFields qs).map fun q => (q.1, canonicalJson q.2.2) := by
    rw [Js.sortProps_portable hperm hnames (by simpa [Function.comp_def] using hn), sortFields_map fun p : Json × Js => canonicalJson p.2]
  have htext : ∀ q ∈ sortFields qs, Js.propText (q.1, canonicalJson q.2.2) = fieldText (q.1, canonicalJson q.2.2) := by
    intro q hq
    rw [Js.propText, fieldText, (Text.unicodeBody_eq_iff_portable q.1).2 (hs q (mem_sortFields.1 hq))]
  rw [canonicalJson, hsort, List.map_map, ← List.map_congr_left htext]
  rfl

theorem dumps_pairs (qs : List (Str × Json × Js)) : Json.dumps (.obj (qs.map fun q => (q.1, q.2.1))) = openBrace ::
    joinComma ((sortFields qs).map fun q => fieldText (q.1, q.2.1.dumps)) ++ [closeBrace] := by
  rw [Json.dumps_obj, sortFields_map fun p : Json × Js => p.1, List.map_map]
  rfl

/-- A name that is not portable is not written in ASCII. -/
theorem portable_names (h : Text.Plain (canonicalJson (.obj o))) : ∀ f ∈ o, Text.Portable f.1 := by
  intro f hf
  rw [canonicalJson] at h
  have hplain := Json.plain_of_joinComma (Text.Plain.append.1 (Text.Plain.cons.1 h).2).1
  have hmem : (f.1, canonicalJson f.2) ∈ Js.sortProps (canonicalProps o) := by
    rw [Js.sortProps, (List.perm_insertionSort _ _).mem_iff, canonicalProps_eq]
    exact List.mem_map_of_mem (f := fun f : Str × Js => (f.1, canonicalJson f.2)) hf
  have hname := (Text.Plain.append.1 (hplain _ (List.mem_map_of_mem hmem))).1
  exact Text.portable_of_plain (Text.Plain.append.1 (Text.Plain.cons.1 hname).2).1

end

/-- Where the texts agree, so do the documents. -/
theorem alike_of_text {v : Json} {w : Js} (h : Read v w) : Text.Plain (canonicalJson w) → ∀ r r', Ends r →
    Ends r' → canonicalJson w ++ r = v.dumps ++ r' → Alike v w ∧ r = r' := by
  induction h with
  | @scalar v w h =>
    intro _ r r' hr hr' he
    obtain ⟨hv, hw⟩ := scalar_text h
    obtain ⟨htext, hrest⟩ :=
      Numerals.run_cancel hw (Json.scalar_units hv) (Json.stops_of_ends hr) (Json.stops_of_ends hr') he
    exact ⟨.scalar ((scalar_agrees_iff h).1 htext), hrest⟩
  | @str s _ =>
    intro hp r r' _ _ he
    have hs : Text.Portable s := Text.portable_of_plain (Text.Plain.append.1 (Text.Plain.cons.1 hp).2).1
    rw [canonicalJson, (Text.unicodeBody_eq_iff_portable s).2 hs] at he
    exact ⟨.str hs, List.append_cancel_left he⟩
  | @arr qs hd _ ih =>
    intro hp r r' _ _ he
    have hdefined : ∀ x ∈ qs.map (·.2), x ≠ .undefined := List.forall_mem_map.2 hd
    rw [canonicalJson, canonicalList_eq hdefined, List.map_map] at hp he
    rw [Json.dumps_arr, List.map_map] at he
    simp only [List.cons_append, List.append_assoc, List.cons.injEq, true_and, List.nil_append] at he
    have hplain := Json.plain_of_joinComma (Text.Plain.append.1 (Text.Plain.cons.1 hp).2).1
    obtain ⟨hall, hrest⟩ := joinComma_parallel (P := fun q : Json × Js => Alike q.1 q.2) (by decide)
      (fun q hq => ih q hq (hplain _ (List.mem_map_of_mem hq))) he
    exact ⟨.arr hd hall, hrest⟩
  | @obj qs o _ hn _ ho ih =>
    intro hp r r' _ _ he
    have hs : ∀ q ∈ qs, Text.Portable q.1 := fun q hq =>
      portable_names hp _ (ho.mem_iff.1 (List.mem_map_of_mem (f := fun q : Str × Json × Js => (q.1, q.2.2)) hq))
    rw [canonicalJson_portable hs hn ho] at hp he
    rw [dumps_pairs] at he
    simp only [List.cons_append, List.append_assoc, List.cons.injEq, true_and, List.nil_append] at he
    have hplain := Json.plain_of_joinComma (Text.Plain.append.1 (Text.Plain.cons.1 hp).2).1
    obtain ⟨hall, hrest⟩ := joinComma_parallel (P := fun q : Str × Json × Js => Alike q.2.1 q.2.2) (by decide)
      (fun q hq s s' hs hs' h => by
        rw [fieldText, fieldText, List.append_assoc, List.append_assoc] at h
        have hvalue := (Text.Plain.cons.1 (Text.Plain.append.1 (hplain _ (List.mem_map_of_mem hq))).2).2
        exact ih q (mem_sortFields.1 hq) hvalue s s' hs hs' (List.cons.inj (List.append_cancel_left h)).2) he
    exact ⟨.obj hs hn (fun q hq => hall q (mem_sortFields.2 hq)) ho, hrest⟩

theorem text_of_scalarAlike {v : Json} {w : Js} (h : ScalarAlike v w) : canonicalJson w = v.dumps := by
  cases h with
  | null => rfl
  | bool b => rfl
  | whole hn => exact (Js.int_agrees_iff _ _).2 (.whole hn)
  | zero => exact (Js.int_agrees_iff _ _).2 .zero
  | float hq => exact (Js.float_agrees_iff _).2 (.float hq)
  | lost hx => exact hx

theorem text_of_alike {v : Json} {w : Js} (h : Alike v w) : canonicalJson w = v.dumps := by
  induction h with
  | scalar h => exact text_of_scalarAlike h
  | str h => exact (Text.unicodeBody_eq_iff_portable _).2 h
  | @arr qs hd _ ih =>
    have htexts : qs.map (fun q => canonicalJson q.2) = qs.map fun q => q.1.dumps := List.map_congr_left ih
    rw [canonicalJson, canonicalList_eq (List.forall_mem_map.2 hd), Json.dumps_arr, List.map_map, List.map_map]
    exact congrArg (fun ts => openBracket :: joinComma ts ++ [closeBracket]) htexts
  | @obj qs o hs hn _ ho ih =>
    have htexts : (sortFields qs).map (fun q => fieldText (q.1, canonicalJson q.2.2)) =
        (sortFields qs).map fun q => fieldText (q.1, q.2.1.dumps) :=
      List.map_congr_left fun q hq => by rw [ih q (mem_sortFields.1 hq)]
    rw [canonicalJson_portable hs hn ho, dumps_pairs, htexts]

/-- The two languages write one text for alike documents, and only for these. -/
theorem canonical_agrees_iff {v : Json} {w : Js} (h : Read v w) : canonicalJson w = v.dumps ↔ Alike v w := by
  constructor
  · intro he
    have hp : Text.Plain (canonicalJson w) := by
      rw [he]
      exact Json.plain_dumps v
    exact (alike_of_text h hp [] [] ends_nil ends_nil (by rw [he])).1
  · exact text_of_alike

/-! ## Hashes -/

/-- If SHA-256 has no collision, so do the hashes. -/
theorem hash_agrees_iff {g : Gateway} {p : Platform} (hsha : g.sha256 = p.sha256) (hc : Function.Injective p.sha256)
    {v : Json} {w : Js} (h : Read v w) : g.sha256hex (canonicalJson w) = p.hashJson v ↔ Alike v w := by
  rw [← canonical_agrees_iff h]
  constructor
  · intro he
    rw [sha256hex, Platform.hashJson, Platform.sha256Hex, canonical, hsha] at he
    exact Text.utf8_eq_ascii (Json.plain_dumps v).ascii (hc (Hex.hexLower_inj he))
  · intro he
    rw [sha256hex, Platform.hashJson, Platform.sha256Hex, canonical, hsha, he]

/-- The hashes of objects are those of their fields. -/
theorem hash_obj_iff {g : Gateway} {p : Platform} (hsha : g.sha256 = p.sha256) (hc : Function.Injective p.sha256)
    {qs : List (Str × Json × Js)} (hn : (qs.map (·.1)).Nodup) (hs : ∀ q ∈ qs, Text.Portable q.1)
    (h : ∀ q ∈ qs, Read q.2.1 q.2.2) : g.sha256hex (canonicalJson (.obj (qs.map fun q => (q.1, q.2.2)))) =
      p.hashJson (.obj (qs.map fun q => (q.1, q.2.1))) ↔ ∀ q ∈ qs, Alike q.2.1 q.2.2 := by
  have hread : Read (.obj (qs.map fun q => (q.1, q.2.1))) (.obj (qs.map fun q => (q.1, q.2.2))) :=
    .obj (fun _ _ => trivial) hn h (.refl _)
  rw [hash_agrees_iff hsha hc hread, alike_obj_iff hn]
  exact ⟨fun h q hq => (h q hq).2, fun h q hq => ⟨hs q hq, h q hq⟩⟩

/-- An object is hashed in Python with what is read back of its fields, whatever else was sent with them. -/
theorem hash_loaded_iff {g : Gateway} {p : Platform} (hsha : g.sha256 = p.sha256) (hc : Function.Injective p.sha256)
    {o extra : Props} (hn : ((o ++ extra).map (·.1)).Nodup) (hs : ∀ f ∈ o, Text.Portable f.1)
    (h : ∀ f ∈ o, Read f.2.loaded f.2) : g.sha256hex (canonicalJson (.obj o)) =
      p.hashJson (.obj ((o.map (·.1)).map fun k => (k, (Js.loadedProps (o ++ extra)).get k))) ↔
      ∀ f ∈ o, Alike f.2.loaded f.2 := by
  have hno : (o.map (·.1)).Nodup := by
    rw [List.map_append] at hn
    exact (List.nodup_append.1 hn).1
  have hget : (o.map (·.1)).map (fun k => (k, (Js.loadedProps (o ++ extra)).get k)) = o.map fun f => (f.1, f.2.loaded) := by
    rw [List.map_map]
    refine List.map_congr_left fun f hf => ?_
    rw [Function.comp, Js.get_loadedProps hn, Props.get, Props.get?_of_mem hn (List.mem_append_left _ hf)]
    rfl
  have hpairs : ((o.map fun f => (f.1, f.2.loaded, f.2)).map (·.1)).Nodup := by simpa [Function.comp_def] using hno
  have hqs := hash_obj_iff hsha hc hpairs (List.forall_mem_map.2 hs) (List.forall_mem_map.2 h)
  rw [List.map_map, List.map_map, List.forall_mem_map] at hqs
  rw [hget, ← hqs]
  simp [Function.comp_def]

end Adn.Gateway
