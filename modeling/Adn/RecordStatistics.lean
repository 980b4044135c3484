import Adn.ContractExports
/-!
# Statistics of records

`process-data` compares the means of two halves by their relative change, which it
divides by the first mean with its sign. So a series that falls from a negative mean
is increasing, and one record is compared with itself in cents
(`processData_sound_iff`).
-/

open Lib Lib.Serde

namespace Adn.Contract

/-! ## Halves -/

def firstHalf (qs : List ℚ) : List ℚ := qs.take (qs.length / 2)

def secondHalf (qs : List ℚ) : List ℚ := qs.drop (qs.length / 2)

/-- What the second half is compared with: the mean of the first half, or of one record its value in cents. -/
def baseline (qs : List ℚ) : ℚ := if firstHalf qs = [] then hundredths (average qs) else average (firstHalf qs)

/-- The relative change, or zero from zero. -/
def change (qs : List ℚ) : ℚ :=
  if baseline qs = 0 then 0 else (average (secondHalf qs) - baseline qs) / baseline qs

def trendOf (pct : ℚ) : Str :=
  if 5 / 100 < pct then "increasing" else if pct < -(5 / 100) then "decreasing" else "stable"

section
variable {qs : List ℚ}

theorem firstHalf_eq_nil (hne : qs ≠ []) : firstHalf qs = [] ↔ qs.length = 1 := by
  have hlen := List.length_pos_iff.2 hne
  rw [← List.length_eq_zero_iff, firstHalf, List.length_take]
  omega

theorem secondHalf_ne_nil (hne : qs ≠ []) : secondHalf qs ≠ [] := by
  have hlen := List.length_pos_iff.2 hne
  rw [← List.length_pos_iff, secondHalf, List.length_drop]
  omega

end

/-! ## What the statistics are -/

/-- The statistics of these numbers. -/
structure Statistics.Of (qs : List ℚ) (s : Statistics) : Prop where
  avg : s.avg.Is (hundredths (average qs))
  minVal : ∃ m, s.minVal.Is m ∧ m ∈ qs ∧ ∀ q ∈ qs, m ≤ q
  maxVal : ∃ m, s.maxVal.Is m ∧ m ∈ qs ∧ ∀ q ∈ qs, q ≤ m
  trend : s.trend = trendOf (change qs)

section
variable {rt : Runtime} (hexact : rt.rnd = PyFloat.finite)
include hexact

theorem is_meanOf {xs : List PyFloat} {qs : List ℚ} (h : List.Forall₂ PyFloat.Is xs qs) {a b : ℕ} (hab : a < b)
    (hb : b ≤ qs.length) (avg : PyFloat) :
    ∃ x, meanOf rt xs a b avg = .ok x ∧ x.Is (average ((qs.take b).drop a)) := by
  have hslice : Outcome.slice xs a b = .ok ((xs.take b).drop a) :=
    Outcome.slice_eq_ok.2 ⟨⟨hab.le, h.length_eq ▸ hb⟩, rfl⟩
  have hlen : ((qs.take b).drop a).length = b - a := by
    rw [List.length_drop, List.length_take]
    omega
  have hne : (qs.take b).drop a ≠ [] := List.length_pos_iff.1 (by omega)
  have hmean := is_mean hexact hne (List.forall₂_drop a (List.forall₂_take b h))
  rw [hlen] at hmean
  refine ⟨_, ?_, hmean⟩
  rw [meanOf, if_pos (by omega), hslice]
  rfl

theorem trend_eq {h1 h2 : PyFloat} {p q : ℚ} (hp : h1.Is p) (hq : h2.Is q) :
    (let pct := if h1.eq (.finite 0) then .finite 0 else (h2.sub rt.rnd h1).div rt.rnd h1
      if PyFloat.lt (rt.rnd (5 / 100)) pct then (Str.ofString "increasing")
        else if PyFloat.lt pct (rt.rnd (5 / 100)).neg then "decreasing" else "stable") =
    trendOf (if p = 0 then 0 else (q - p) / p) := by
  have hpct : (if h1.eq (.finite 0) then .finite 0 else (h2.sub rt.rnd h1).div rt.rnd h1).Is
      (if p = 0 then 0 else (q - p) / p) := by
    rw [hexact]
    by_cases hzero : p = 0
    · rw [if_pos hzero, if_pos ((hp.eq_iff (PyFloat.is_finite 0)).2 hzero)]
      exact PyFloat.is_finite 0
    · rw [if_neg hzero, if_neg fun h => hzero ((hp.eq_iff (PyFloat.is_finite 0)).1 h)]
      exact (hq.sub hp).div hp hzero
  have h5 : (rt.rnd (5 / 100)).Is (5 / 100) := hexact ▸ PyFloat.is_finite _
  dsimp only
  simp only [h5.lt_iff hpct, hpct.lt_iff h5.neg, trendOf]

/-- The mean that the change is relative to. -/
theorem is_baseline {xs : List PyFloat} {qs : List ℚ} (hne : qs ≠ []) (h : List.Forall₂ PyFloat.Is xs qs) {avg : PyFloat}
    (havg : avg.Is (hundredths (average qs))) :
    ∃ x, meanOf rt xs 0 (qs.length / 2) avg = .ok x ∧ x.Is (baseline qs) := by
  unfold baseline
  split
  · rename_i hfirst
    rw [firstHalf_eq_nil hne] at hfirst
    refine ⟨avg, ?_, havg⟩
    rw [meanOf, hfirst, if_neg (by decide)]
    rfl
  · rename_i hfirst
    rw [firstHalf, List.take_eq_nil_iff, not_or] at hfirst
    exact is_meanOf hexact h (Nat.pos_of_ne_zero hfirst.1) (Nat.div_le_self _ _) avg

theorem statistics_of (records : List Finite64) (hne : records ≠ []) :
    ∃ s, statistics rt (records.map (·.val)) = .ok s ∧ s.Of (records.map fun x : Finite64 => x.val.rat) := by
  have hrecords := PyFloat.forall₂_is records
  have hxs : records.map (·.val) ≠ [] := fun h => hne (List.map_eq_nil_iff.1 h)
  have hqs : (records.map fun x : Finite64 => x.val.rat) ≠ [] := fun h => hne (List.map_eq_nil_iff.1 h)
  generalize records.map (fun x : Finite64 => x.val.rat) = qs at *
  generalize records.map (·.val) = xs at *
  have hpos := List.length_pos_iff.2 hqs
  have havg := is_round2 hexact (is_mean hexact hqs hrecords)
  obtain ⟨h1, hfirst, hh1⟩ := is_baseline hexact hqs hrecords havg
  obtain ⟨h2, hsecond, hh2⟩ := is_meanOf hexact hrecords (a := qs.length / 2) (b := qs.length) (by omega) le_rfl
    (round2 rt (mean rt xs qs.length))
  rw [List.take_length] at hh2
  unfold statistics
  rw [hrecords.length_eq]
  change ∃ s, (meanOf rt xs 0 (qs.length / 2) (round2 rt (mean rt xs qs.length)) >>= _) = _ ∧ _
  rw [hfirst]
  change ∃ s, (meanOf rt xs (qs.length / 2) qs.length (round2 rt (mean rt xs qs.length)) >>= _) = _ ∧ _
  rw [hsecond]
  refine ⟨_, rfl, ?_⟩
  exact {
    avg := havg
    minVal := PyFloat.is_least hxs hrecords
    maxVal := PyFloat.is_greatest hxs hrecords
    trend := trend_eq hexact hh1 hh2 }

end

/-! ## What they say -/

/-- The trend of two halves is that of their means, a constant series is stable, and the values are in order. -/
structure Statistics.Sound (rt : Runtime) (qs : List ℚ) (s : Statistics) : Prop where
  increasing : s.trend = "increasing" → 2 ≤ qs.length → average (firstHalf qs) < average (secondHalf qs)
  decreasing : s.trend = "decreasing" → 2 ≤ qs.length → average (secondHalf qs) < average (firstHalf qs)
  constant : (∀ p ∈ qs, ∀ q ∈ qs, p = q) → s.trend = "stable"
  ordered : (round2 rt s.minVal).le s.avg = true ∧ s.avg.le (round2 rt s.maxVal) = true

/-- The second half is within five percent of the baseline. -/
def WithinMargin (qs : List ℚ) : Prop := |average (secondHalf qs) - baseline qs| ≤ 5 / 100 * |baseline qs|

section
variable {qs : List ℚ}

theorem baseline_of_length (h : 2 ≤ qs.length) : baseline qs = average (firstHalf qs) := by
  have hne : qs ≠ [] := List.length_pos_iff.1 (by omega)
  rw [baseline, if_neg]
  rw [firstHalf_eq_nil hne]
  omega

theorem trendOf_increasing {pct : ℚ} : trendOf pct = "increasing" ↔ 5 / 100 < pct := by
  unfold trendOf
  split_ifs with h h'
  · exact iff_of_true rfl h
  · exact iff_of_false (by decide) h
  · exact iff_of_false (by decide) h

theorem trendOf_decreasing {pct : ℚ} : trendOf pct = "decreasing" ↔ pct < -(5 / 100) := by
  unfold trendOf
  split_ifs with h h'
  · exact iff_of_false (by decide) (by linarith)
  · exact iff_of_true rfl h'
  · exact iff_of_false (by decide) h'

theorem trendOf_stable {pct : ℚ} : trendOf pct = "stable" ↔ |pct| ≤ 5 / 100 := by
  unfold trendOf
  rw [abs_le]
  split_ifs with h h'
  · exact iff_of_false (by decide) fun hpct => by linarith [hpct.2]
  · exact iff_of_false (by decide) fun hpct => by linarith [hpct.1]
  · exact iff_of_true rfl ⟨not_lt.1 h', not_lt.1 h⟩

theorem change_stable : |change qs| ≤ 5 / 100 ↔ WithinMargin qs ∨ baseline qs = 0 := by
  unfold change WithinMargin
  by_cases hzero : baseline qs = 0
  · rw [if_pos hzero]
    exact iff_of_true (by norm_num) (.inr hzero)
  · rw [if_neg hzero, abs_div, div_le_iff₀ (abs_pos.2 hzero)]
    simp [hzero]

/-- The halves of a constant series have one mean. -/
theorem change_constant (h : 2 ≤ qs.length) (hconstant : ∀ p ∈ qs, ∀ q ∈ qs, p = q) : change qs = 0 := by
  have hne : qs ≠ [] := List.length_pos_iff.1 (by omega)
  obtain ⟨c, hc⟩ := List.exists_mem_of_ne_nil qs hne
  have hfirst : average (firstHalf qs) = c := by
    apply average_constant
    · rw [Ne, firstHalf_eq_nil hne]
      omega
    · exact fun q hq => hconstant q (List.mem_of_mem_take hq) c hc
  have hsecond : average (secondHalf qs) = c :=
    average_constant (secondHalf_ne_nil hne) fun q hq => hconstant q (List.mem_of_mem_drop hq) c hc
  unfold change
  rw [baseline_of_length h, hfirst, hsecond, sub_self, zero_div, ite_self]

theorem constant_of_length (h : qs.length = 1) : ∀ p ∈ qs, ∀ q ∈ qs, p = q := by
  obtain ⟨c, rfl⟩ := List.length_eq_one_iff.1 h
  intro p hp q hq
  rw [List.mem_singleton.1 hp, List.mem_singleton.1 hq]

theorem change_eq (hbase : baseline qs ≠ 0) : change qs = (average (secondHalf qs) - baseline qs) / baseline qs :=
  if_neg hbase

/-- A change within the margin, or from zero, is none. -/
theorem Statistics.Of.stable_iff {s : Statistics} (hof : s.Of qs) : s.trend = "stable" ↔ WithinMargin qs ∨ baseline qs = 0 := by
  rw [hof.trend, trendOf_stable, change_stable]

variable {rt : Runtime} (hexact : rt.rnd = PyFloat.finite) {s : Statistics} (hof : s.Of qs)
include hexact hof

theorem Statistics.Of.ordered (hne : qs ≠ []) :
    (round2 rt s.minVal).le s.avg = true ∧ s.avg.le (round2 rt s.maxVal) = true := by
  obtain ⟨lo, hlo, -, hleast⟩ := hof.minVal
  obtain ⟨hi, hhi, -, hgreatest⟩ := hof.maxVal
  constructor
  · rw [(is_round2 hexact hlo).le_iff hof.avg]
    exact hundredths_mono (le_average hne hleast)
  · rw [hof.avg.le_iff (is_round2 hexact hhi)]
    exact hundredths_mono (average_le hne hgreatest)

/-- The statistics are sound within the margin, from zero, and from the positive mean of a first half. -/
theorem Statistics.Of.sound_iff (hne : qs ≠ []) : s.Sound rt qs ↔
    WithinMargin qs ∨ baseline qs = 0 ∨ (2 ≤ qs.length ∧ 0 < baseline qs) := by
  have hordered := hof.ordered hexact hne
  have hstable := hof.stable_iff
  constructor
  · intro hsound
    by_contra hcond
    obtain ⟨hmargin, hbase, hpositive⟩ : ¬WithinMargin qs ∧ baseline qs ≠ 0 ∧ ¬(2 ≤ qs.length ∧ 0 < baseline qs) := by
      rwa [not_or, not_or] at hcond
    have hunstable : s.trend ≠ "stable" := fun h => (hstable.1 h).elim hmargin hbase
    have htwo : 2 ≤ qs.length := by
      by_contra hlen
      have hpos := List.length_pos_iff.2 hne
      exact hunstable (hsound.constant (constant_of_length (by omega)))
    have hnegative : baseline qs < 0 := lt_of_le_of_ne (not_lt.1 fun h => hpositive ⟨htwo, h⟩) hbase
    have hchange := change_eq hbase
    -- below zero the quotient has the other sign than the difference
    rw [hof.trend, Ne, trendOf_stable, abs_le, not_and_or, not_le, not_le] at hunstable
    rcases hunstable with hlow | hhigh
    · have hfalls := hsound.decreasing (hof.trend.trans (trendOf_decreasing.2 hlow)) htwo
      rw [← baseline_of_length htwo] at hfalls
      have hup := div_pos_of_neg_of_neg (sub_neg.2 hfalls) hnegative
      linarith
    · have hrises := hsound.increasing (hof.trend.trans (trendOf_increasing.2 hhigh)) htwo
      rw [← baseline_of_length htwo] at hrises
      have hdown := div_neg_of_pos_of_neg (sub_pos.2 hrises) hnegative
      linarith
  · intro hcond
    rw [← or_assoc, ← hstable] at hcond
    rcases hcond with hstable | ⟨htwo, hpositive⟩
    · exact {
        increasing := fun h => absurd (hstable.symm.trans h) (by decide)
        decreasing := fun h => absurd (hstable.symm.trans h) (by decide)
        constant := fun _ => hstable
        ordered := hordered }
    · have hchange := change_eq hpositive.ne'
      rw [baseline_of_length htwo] at hchange hpositive
      exact {
        increasing := by
          intro h _
          rw [hof.trend, trendOf_increasing, hchange, lt_div_iff₀ hpositive] at h
          have hmargin := mul_pos (show (0 : ℚ) < 5 / 100 by norm_num) hpositive
          linarith
        decreasing := by
          intro h _
          rw [hof.trend, trendOf_decreasing, hchange, div_lt_iff₀ hpositive] at h
          have hmargin := mul_pos (show (0 : ℚ) < 5 / 100 by norm_num) hpositive
          linarith
        constant := by
          intro hconstant
          rw [hof.trend, change_constant htwo hconstant]
          decide +kernel
        ordered := hordered }

end

/-! ## The export -/

/-- What `process_data` answers. -/
def processDataOutput (rt : Runtime) (params : ProcessDataInput) (s : Statistics) : Dict := Dict.ofList [
  ("records_processed", u32Json (.ofNat params.records.length)), ("total_revenue", .float (round2 rt s.total)),
  ("avg_value", .float s.avg), ("min_value", .float (round2 rt s.minVal)), ("max_value", .float (round2 rt s.maxVal)),
  ("trend", .str s.trend), ("processed_in_tee", .bool true), ("data_source", .str params.dataSource),
  ("time_period", .str params.timePeriod)]

/-- The numbers of a call. -/
def ProcessDataInput.numbers (params : ProcessDataInput) : List ℚ := params.records.map fun x : Finite64 => x.val.rat

section
variable {rt : Runtime} {bytes : List UInt8} {params : ProcessDataInput}

theorem processData_eq (hread : fromSlice rt (ProcessDataInput.decode rt) bytes = .ok params) (hne : params.records ≠ [])
    {s : Statistics} (hs : statistics rt (params.records.map (·.val)) = .ok s) (profile context : Option (List UInt8)) :
    processData rt ⟨some bytes, profile, context⟩ = .ok (toVec rt.floatText (.obj (processDataOutput rt params s))) := by
  have hparse : parseInput rt (ProcessDataInput.decode rt) bytes "process-data" = .ok params := parseInput_eq_ok.2 hread
  have hrecords : params.records.isEmpty = false := by simpa using hne
  change (parseInput rt (ProcessDataInput.decode rt) bytes "process-data" >>= _) = _
  rw [hparse]
  change (Outcome.refuseIf params.records.isEmpty _ >>= _) = _
  rw [hrecords]
  change (statistics rt (params.records.map (·.val)) >>= _) = _
  rw [hs]
  rfl

/-- Of a list that is not empty, the statistics are sound exactly if the second half is within five percent of the
baseline, or the baseline is zero, or the positive mean of a first half. -/
theorem processData_sound_iff (hexact : rt.rnd = PyFloat.finite)
    (hread : fromSlice rt (ProcessDataInput.decode rt) bytes = .ok params) (hne : params.records ≠ [])
    (profile context : Option (List UInt8)) : ∃ s,
      processData rt ⟨some bytes, profile, context⟩ = .ok (toVec rt.floatText (.obj (processDataOutput rt params s))) ∧
      (s.Sound rt params.numbers ↔ WithinMargin params.numbers ∨ baseline params.numbers = 0 ∨
        (2 ≤ params.numbers.length ∧ 0 < baseline params.numbers)) := by
  obtain ⟨s, hs, hof⟩ := statistics_of hexact params.records hne
  have hnumbers : params.numbers ≠ [] := fun h => hne (List.map_eq_nil_iff.1 h)
  exact ⟨s, processData_eq hread hne hs profile context, hof.sound_iff hexact hnumbers⟩

end

/-! ### Losses -/

namespace Sample

def recordsDocument : Json := .obj (Dict.ofList [("data_source", .str "ledger"), ("time_period", .str "2026"),
  ("records", .arr [.int (-10), .int (-20)])])

/-- `recordsDocument` as `serde_json` writes it. -/
def recordsBytes : List UInt8 := toVec (fun _ => []) recordsDocument

/-- A runtime that parses this document. -/
def recordsRuntime : Runtime := { runtime with parse := fun bytes => if bytes = recordsBytes then some recordsDocument else none }

def losses : ProcessDataInput :=
  ⟨"ledger", "2026", [], [⟨.finite (-10), rfl⟩, ⟨.finite (-20), rfl⟩]⟩

theorem losses_decoded : fromSlice recordsRuntime (ProcessDataInput.decode recordsRuntime) recordsBytes = .ok losses := by
  have hp : recordsRuntime.parse recordsBytes = some recordsDocument := by simp [recordsRuntime]
  rw [fromSlice, hp]
  rfl

theorem losses_sound_iff : ∃ s, processData recordsRuntime ⟨some recordsBytes, none, none⟩ =
      .ok (toVec recordsRuntime.floatText (.obj (processDataOutput recordsRuntime losses s))) ∧
    (s.Sound recordsRuntime losses.numbers ↔ WithinMargin losses.numbers ∨ baseline losses.numbers = 0 ∨
      (2 ≤ losses.numbers.length ∧ 0 < baseline losses.numbers)) :=
  processData_sound_iff rfl losses_decoded (by simp [losses]) none none

/-- Losses that double are increasing. -/
theorem losses_increase : ¬∀ (rt : Runtime) (records : List Finite64) (s : Statistics), rt.rnd = PyFloat.finite →
    records ≠ [] → statistics rt (records.map (·.val)) = .ok s → s.Sound rt (records.map fun x : Finite64 => x.val.rat) := by
  intro h
  have hne : losses.records ≠ [] := by simp [losses]
  obtain ⟨s, hs, hof⟩ := statistics_of (show runtime.rnd = PyFloat.finite from rfl) losses.records hne
  have htrend : s.trend = "increasing" := hof.trend.trans (trendOf_increasing.2 (by decide +kernel))
  have hrises : average [-10] < average [-20] := (h runtime losses.records s rfl hne hs).increasing htrend le_rfl
  norm_num [average] at hrises

end Sample

end Adn.Contract
