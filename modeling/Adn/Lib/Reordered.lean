import Adn.Lib.JsonText
import Adn.Lib.UnicodeQuoting
/-!
# The order of keys

Two documents are `Reordered` if they differ in the order of their objects' keys
only. Where every key is there once, these are the documents that sort to the same
(`same_iff_reordered`), so a text that determines a document up to `Json.Same`
determines it up to the order of the keys.
-/

namespace Lib

/-- Fields with distinct names have one sorted order. -/
theorem eq_sortFields {α : Type} {fs gs : List (Str × α)} (hp : fs.Perm gs) (hs : fs.Pairwise fieldLe)
    (hn : (gs.map (·.1)).Nodup) : fs = sortFields gs := by
  refine (hp.trans (List.perm_insertionSort fieldLe gs).symm).eq_of_pairwise ?_ hs (List.pairwise_insertionSort fieldLe gs)
  intro f g hf hg hfg hgf
  have hnames := Text.codePoints_injective (le_antisymm (α := List ℕ) hfg hgf)
  exact List.inj_on_of_nodup_map hn (hp.mem_iff.1 hf) (mem_sortFields.1 hg) hnames

theorem sortFields_perm {α : Type} {fs gs : List (Str × α)} (hp : fs.Perm gs) (hn : (gs.map (·.1)).Nodup) :
    sortFields fs = sortFields gs :=
  eq_sortFields ((List.perm_insertionSort fieldLe fs).trans hp) (List.pairwise_insertionSort fieldLe fs) hn

namespace Json

/-- The same document with the keys of its objects in another order. -/
inductive Reordered : Json → Json → Prop where
  | refl (v : Json) : Reordered v v
  | arr {qs : List (Json × Json)} (h : ∀ q ∈ qs, Reordered q.1 q.2) : Reordered (.arr (qs.map (·.1))) (.arr (qs.map (·.2)))
  | obj {qs : List (Str × Json × Json)} {fs gs : Dict} (h : ∀ q ∈ qs, Reordered q.2.1 q.2.2)
      (hf : (qs.map fun q => (q.1, q.2.1)).Perm fs) (hg : (qs.map fun q => (q.1, q.2.2)).Perm gs) :
      Reordered (.obj fs) (.obj gs)

/-- Every object has a key once. -/
inductive DistinctKeys : Json → Prop where
  | scalar {v : Json} (h : v.isScalar = true) : DistinctKeys v
  | str (s : Str) : DistinctKeys (.str s)
  | arr {xs : List Json} (h : ∀ x ∈ xs, DistinctKeys x) : DistinctKeys (.arr xs)
  | obj {fs : Dict} (hn : (fs.map (·.1)).Nodup) (h : ∀ f ∈ fs, DistinctKeys f.2) : DistinctKeys (.obj fs)

theorem DistinctKeys.elements {xs : List Json} (h : DistinctKeys (.arr xs)) : ∀ x ∈ xs, DistinctKeys x := by
  cases h with
  | scalar hs => cases hs
  | arr h => exact h

theorem DistinctKeys.fields {fs : Dict} (h : DistinctKeys (.obj fs)) :
    (fs.map (·.1)).Nodup ∧ ∀ f ∈ fs, DistinctKeys f.2 := by
  cases h with
  | scalar hs => cases hs
  | obj hn h => exact ⟨hn, h⟩

theorem same_of_reordered {v w : Json} (h : Reordered v w) (hd : DistinctKeys v) : Same v w := by
  induction h with
  | refl v => exact .refl v
  | @arr qs _ ih =>
    have hall : ∀ q ∈ qs, normalize q.1 = normalize q.2 := fun q hq => ih q hq (hd.elements _ (List.mem_map_of_mem hq))
    rw [Same, normalize_arr, normalize_arr, List.map_map, List.map_map]
    exact congrArg _ (List.map_congr_left hall)
  | @obj qs fs gs _ hf hg ih =>
    obtain ⟨hn, hfields⟩ := hd.fields
    have hall : ∀ q ∈ qs, (q.1, normalize q.2.1) = (q.1, normalize q.2.2) := fun q hq => by
      have hmem := hf.mem_iff.1 (List.mem_map_of_mem (f := fun q : Str × Json × Json => (q.1, q.2.1)) hq)
      rw [ih q hq (hfields _ hmem)]
    have hleft : (qs.map fun q => (q.1, normalize q.2.1)).Perm (fs.map fun f => (f.1, normalize f.2)) := by
      simpa [Function.comp_def] using hf.map fun f => (f.1, normalize f.2)
    have hright : (qs.map fun q => (q.1, normalize q.2.2)).Perm (gs.map fun f => (f.1, normalize f.2)) := by
      simpa [Function.comp_def] using hg.map fun f => (f.1, normalize f.2)
    rw [List.map_congr_left hall] at hleft
    rw [Same, normalize_obj, normalize_obj, ← sortFields_map, ← sortFields_map]
    exact congrArg _ (sortFields_perm (hright.symm.trans hleft) (by simpa [Function.comp_def] using hn)).symm

theorem zip_normalized {α β : Type} {n : α → β} : ∀ {xs ys : List α}, xs.map n = ys.map n →
    (xs.zip ys).map (·.1) = xs ∧ (xs.zip ys).map (·.2) = ys ∧ ∀ q ∈ xs.zip ys, n q.1 = n q.2
  | [], [], _ => ⟨rfl, rfl, nofun⟩
  | [], _ :: _, h => by cases h
  | _ :: _, [], h => by cases h
  | x :: xs, y :: ys, h => by
    obtain ⟨hxy, h⟩ := List.cons.inj h
    obtain ⟨hl, hr, hall⟩ := zip_normalized h
    rw [List.zip_cons_cons, List.map_cons, List.map_cons, hl, hr]
    exact ⟨rfl, rfl, List.forall_mem_cons.2 ⟨hxy, hall⟩⟩

theorem reordered_of_same {v : Json} : ∀ {w : Json}, Same v w → Reordered v w := by
  induction v using Json.ind with
  | arr xs ih =>
    intro w h
    rw [Same, normalize_arr] at h
    cases w with
    | arr ys =>
      rw [normalize_arr] at h
      obtain ⟨hl, hr, hall⟩ := zip_normalized (Json.arr.inj h)
      have hpairs : Reordered (.arr ((xs.zip ys).map (·.1))) (.arr ((xs.zip ys).map (·.2))) :=
        .arr fun q hq => ih q.1 (List.of_mem_zip hq).1 (hall q hq)
      rwa [hl, hr] at hpairs
    | _ => simp [normalize] at h
  | obj fs ih =>
    intro w h
    rw [Same, normalize_obj] at h
    cases w with
    | obj gs =>
      rw [normalize_obj] at h
      obtain ⟨hl, hr, hall⟩ := zip_normalized (n := fun f : Str × Json => (f.1, normalize f.2)) (Json.obj.inj h)
      let qs := ((sortFields fs).zip (sortFields gs)).map fun p => (p.1.1, p.1.2, p.2.2)
      have hf : qs.map (fun q => (q.1, q.2.1)) = sortFields fs := by
        rw [List.map_map]
        exact hl
      have hg : qs.map (fun q => (q.1, q.2.2)) = sortFields gs := by
        rw [List.map_map]
        conv_rhs => rw [← hr]
        exact List.map_congr_left fun p hp => Prod.ext (Prod.mk.inj (hall p hp)).1 rfl
      have hfs : (qs.map fun q => (q.1, q.2.1)).Perm fs := hf ▸ List.perm_insertionSort _ _
      have hgs : (qs.map fun q => (q.1, q.2.2)).Perm gs := hg ▸ List.perm_insertionSort _ _
      refine .obj ?_ hfs hgs
      rw [List.forall_mem_map]
      intro p hp
      exact ih p.1 (mem_sortFields.1 (List.of_mem_zip hp).1) (Prod.mk.inj (hall p hp)).2
    | _ => simp [normalize] at h
  | _ =>
    intro w h
    cases w with
    | arr | obj => simp [Same, normalize] at h
    | _ =>
      simp only [Same, normalize] at h
      first | (cases h; exact .refl _) | cases h

theorem same_iff_reordered {v w : Json} (hd : DistinctKeys v) : Same v w ↔ Reordered v w :=
  ⟨reordered_of_same, fun h => same_of_reordered h hd⟩

end Json

end Lib
