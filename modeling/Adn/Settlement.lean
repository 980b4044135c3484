import Adn.ContractExports
import Adn.Lib.Rounding
/-!
# Settlements

`verify-and-settle` pays a share of a bond, in whole cents. A better delivery never
pays less, with one exception: below a quality of 0.7 a late delivery pays half of the
bond and one on time a quarter (`settlement_bounded_monotone`).
-/

open Lib Lib.Serde

namespace Adn.Contract

/-! ## Shares -/

/-- What an agent delivered. -/
structure Delivery where
  completed : Bool
  onTime : Bool
  quality : ℚ

namespace Delivery

/-- The share of the bond that is paid. -/
def share (d : Delivery) : ℚ :=
  if !d.completed then 0
  else if !d.onTime then 1 / 2
  else if 9 / 10 ≤ d.quality then 1
  else if 7 / 10 ≤ d.quality then d.quality
  else 1 / 4

/-- Completed, on time and of quality, as far as the other is. -/
structure AtLeast (e d : Delivery) : Prop where
  completed : d.completed = true → e.completed = true
  onTime : d.onTime = true → e.onTime = true
  quality : d.quality ≤ e.quality

/-- A completed delivery is late, and the other one on time and below the threshold. -/
def LateBeats (d e : Delivery) : Prop :=
  d.completed = true ∧ d.onTime = false ∧ e.onTime = true ∧ e.quality < 7 / 10

variable {d e : Delivery}

theorem share_nonneg (d : Delivery) : 0 ≤ d.share := by
  unfold share
  split_ifs <;> linarith

theorem share_le_one (d : Delivery) : d.share ≤ 1 := by
  unfold share
  split_ifs <;> linarith

/-- The share of what is at least as good is at least as high, unless the other one profits from being late. -/
theorem share_mono_iff (h : e.AtLeast d) : d.share ≤ e.share ↔ ¬LateBeats d e := by
  obtain ⟨completed, onTime, quality⟩ := d
  obtain ⟨completed', onTime', quality'⟩ := e
  obtain ⟨hcompleted, honTime, hquality⟩ := h
  dsimp only at hcompleted honTime hquality
  simp only [LateBeats, share]
  cases completed with
  | false =>
    refine iff_of_true ?_ (by simp)
    exact share_nonneg ⟨completed', onTime', quality'⟩
  | true =>
    rw [hcompleted rfl]
    cases onTime with
    | true =>
      rw [honTime rfl]
      refine iff_of_true ?_ (by simp)
      simp only [Bool.not_true, Bool.false_eq_true, if_false]
      split_ifs <;> linarith
    | false =>
      cases onTime' with
      | false => simp
      | true =>
        simp only [Bool.not_true, Bool.not_false, Bool.false_eq_true, if_false, if_true, true_and, not_lt]
        split_ifs with hexcellent hacceptable
        · exact iff_of_true (by norm_num) (by linarith)
        · exact iff_of_true (by linarith) hacceptable
        · exact iff_of_false (by norm_num) hacceptable

end Delivery

def VerifyAndSettleInput.delivery (r : VerifyAndSettleInput) : Delivery where
  completed := r.completed
  onTime := r.currentEpoch ≤ r.deadlineEpoch
  quality := r.qualityScore.val.rat

/-! ## Payouts -/

section
variable {rt : Runtime}

theorem is_bondAmount (r : VerifyAndSettleInput) : r.bondAmount.val.Is r.bondAmount.val.rat := ⟨r.bondAmount.2, rfl⟩

theorem is_qualityScore (r : VerifyAndSettleInput) : r.qualityScore.val.Is r.qualityScore.val.rat :=
  ⟨r.qualityScore.2, rfl⟩

/-- The branches of `verify_and_settle` pay the shares. -/
theorem is_payoutPct (hexact : rt.rnd = PyFloat.finite) (r : VerifyAndSettleInput) :
    (settle rt r).payoutPct.Is r.delivery.share := by
  have hle : ∀ q : ℚ, PyFloat.le (.finite q) r.qualityScore.val = true ↔ q ≤ r.qualityScore.val.rat := fun q =>
    (PyFloat.is_finite q).le_iff (is_qualityScore r)
  unfold settle Delivery.share VerifyAndSettleInput.delivery
  simp only [hexact, hle, Bool.not_eq_true', decide_eq_false_iff_not]
  split_ifs
  · exact PyFloat.is_finite 0
  · exact PyFloat.is_finite 1
  · exact is_qualityScore r
  · exact PyFloat.is_finite (1 / 4)
  · exact PyFloat.is_finite (1 / 2)

theorem is_payoutAmount (hexact : rt.rnd = PyFloat.finite) (r : VerifyAndSettleInput) :
    (payoutAmount rt r).Is (hundredths (r.bondAmount.val.rat * r.delivery.share)) := by
  have hpaid := (is_bondAmount r).mul (is_payoutPct hexact r)
  rw [← hexact] at hpaid
  exact is_round2 hexact hpaid

/-- No share of a bond is below nothing or above the bond, to the cent. -/
theorem payout_bounds {bond : ℚ} (hbond : 0 ≤ bond) (d : Delivery) :
    0 ≤ hundredths (bond * d.share) ∧ hundredths (bond * d.share) ≤ hundredths bond := by
  constructor
  · rw [← hundredths_zero]
    exact hundredths_mono (mul_nonneg hbond d.share_nonneg)
  · exact hundredths_mono (mul_le_of_le_one_right hbond d.share_le_one)

end

/-! ## Payouts of floats -/

/-- What the whole of a bond is paid as: its amount in cents. -/
def fullPayout (rt : Runtime) (bondAmount : PyFloat) : PyFloat := round2 rt (bondAmount.mul rt.rnd (.finite 1))

section
variable {rt : Runtime} (hr : PyFloat.Rounding rt.rnd)
include hr

theorem increasing_round2 : PyFloat.Increasing (round2 rt) := by
  have h100 : (PyFloat.finite 100).Is 100 := PyFloat.is_finite 100
  exact (PyFloat.increasing_div hr h100 (by norm_num)).comp
    (PyFloat.increasing_round.comp (PyFloat.increasing_mul hr h100 (by norm_num)))

/-- Every branch pays a share between nothing and the whole. -/
theorem payoutPct_bounds (r : VerifyAndSettleInput) : ∃ q, (settle rt r).payoutPct.Is q ∧ 0 ≤ q ∧ q ≤ 1 := by
  have hquality := is_qualityScore r
  unfold settle
  dsimp only
  split_ifs with _ _ hexcellent hacceptable
  · exact ⟨0, PyFloat.is_finite 0, le_rfl, zero_le_one⟩
  · exact ⟨1, PyFloat.is_finite 1, zero_le_one, le_rfl⟩
  · refine ⟨_, hquality, ?_, ?_⟩
    · have hzero : PyFloat.le (.finite 0) (rt.rnd (7 / 10)) = true := hr.zero ▸ hr.mono (by norm_num)
      exact ((PyFloat.is_finite 0).le_iff hquality).1 (PyFloat.le_trans_float hzero hacceptable)
    · have hone : PyFloat.le (rt.rnd (9 / 10)) (.finite 1) = true := hr.one ▸ hr.mono (by norm_num)
      have hbelow := PyFloat.le_total_float (hr.not_nan _) hquality.not_nan hexcellent
      exact (hquality.le_iff (PyFloat.is_finite 1)).1 (PyFloat.le_trans_float hbelow hone)
  · exact ⟨1 / 4, PyFloat.is_finite _, by norm_num, by norm_num⟩
  · exact ⟨1 / 2, PyFloat.is_finite _, by norm_num, by norm_num⟩

theorem payoutAmount_bounds {r : VerifyAndSettleInput} (hbond : PyFloat.le (.finite 0) r.bondAmount.val = true) :
    PyFloat.le (.finite 0) (payoutAmount rt r) = true ∧
      PyFloat.le (payoutAmount rt r) (fullPayout rt r.bondAmount.val) = true := by
  obtain ⟨q, hq, hnonneg, hle⟩ := payoutPct_bounds hr r
  have hamount := is_bondAmount r
  have hpos : 0 ≤ r.bondAmount.val.rat := ((PyFloat.is_finite 0).le_iff hamount).1 hbond
  have hshare : PyFloat.Rounds rt.rnd (r.bondAmount.val.mul rt.rnd (settle rt r).payoutPct) _ := PyFloat.mul_rounds hamount hq
  have hwhole : PyFloat.Rounds rt.rnd (r.bondAmount.val.mul rt.rnd (.finite 1)) _ :=
    PyFloat.mul_rounds hamount (PyFloat.is_finite 1)
  have hzero := hshare.nonneg hr (mul_nonneg hpos hnonneg)
  exact ⟨(increasing_round2 hr).nonneg hzero,
    (increasing_round2 hr).le hzero (hshare.le hr hwhole (mul_le_mul_of_nonneg_left hle hpos))⟩

end

/-! ## Answers -/

structure VerifyAndSettleOutput where
  bondId : Str
  settlement : Str
  payoutPct : PyFloat
  payoutAmount : PyFloat
  reason : Str
  settledInTee : Bool

def VerifyAndSettleOutput.document (r : VerifyAndSettleOutput) : Dict := Dict.ofList [
  ("bond_id", .str r.bondId), ("settlement", .str r.settlement), ("payout_pct", .float r.payoutPct),
  ("payout_amount", .float r.payoutAmount), ("reason", .str r.reason), ("settled_in_tee", .bool r.settledInTee)]

def verifyAndSettleReply (rt : Runtime) (r : VerifyAndSettleInput) : VerifyAndSettleOutput where
  bondId := r.bondId
  settlement := (settle rt r).settlement
  payoutPct := (settle rt r).payoutPct
  payoutAmount := payoutAmount rt r
  reason := (settle rt r).reason
  settledInTee := true

section
variable {rt : Runtime} {bytes : List UInt8} {r : VerifyAndSettleInput}

theorem verifyAndSettle_eq (hread : fromSlice rt (VerifyAndSettleInput.decode rt) bytes = .ok r)
    (profile context : Option (List UInt8)) : verifyAndSettle rt ⟨some bytes, profile, context⟩ =
      .ok (toVec rt.floatText (.obj (verifyAndSettleReply rt r).document)) :=
  export_eq (fun r => (verifyAndSettleReply rt r).document) rfl hread

/-- Without rounding of intermediate results, a settlement pays between nothing and the bond in whole cents, and what
is delivered at least as well is paid at least as much, unless it is on time and below the threshold instead of late. -/
theorem settlement_bounded_monotone (hexact : rt.rnd = PyFloat.finite)
    (hread : fromSlice rt (VerifyAndSettleInput.decode rt) bytes = .ok r) (hbond : 0 ≤ r.bondAmount.val.rat)
    (profile context : Option (List UInt8)) : ∃ reply paid,
      verifyAndSettle rt ⟨some bytes, profile, context⟩ =
        .ok (toVec rt.floatText (.obj (VerifyAndSettleOutput.document reply))) ∧
      reply.payoutAmount.Is paid ∧ 0 ≤ paid ∧ paid ≤ hundredths r.bondAmount.val.rat ∧
      |r.bondAmount.val.rat - hundredths r.bondAmount.val.rat| ≤ 1 / 200 ∧
      (∀ cents : ℤ, r.bondAmount.val.rat = cents / 100 → paid ≤ r.bondAmount.val.rat) ∧
      ∀ r' paid', r'.bondAmount.val.rat = r.bondAmount.val.rat → r'.delivery.AtLeast r.delivery →
        ¬r.delivery.LateBeats r'.delivery → (payoutAmount rt r').Is paid' → paid ≤ paid' := by
  obtain ⟨hnonneg, hle⟩ := payout_bounds hbond r.delivery
  refine ⟨verifyAndSettleReply rt r, _, verifyAndSettle_eq hread profile context, is_payoutAmount hexact r, hnonneg, hle,
    abs_sub_hundredths _, ?_, ?_⟩
  · intro cents hcents
    rw [hcents] at hle ⊢
    rwa [hundredths_intCast] at hle
  · intro r' paid' hsame hleast hlate hpaid
    rw [hpaid.unique (is_payoutAmount hexact r'), hsame]
    exact hundredths_mono (mul_le_mul_of_nonneg_left ((Delivery.share_mono_iff hleast).2 hlate) hbond)

end

/-! ### A bond of a hundred, one of half a cent, and a poor delivery -/

namespace Sample

def settleDocument : Json := .obj (Dict.ofList [("bond_id", .str "bond-1"), ("agent_did", .str "did:key:ed25519:aa"),
  ("task_id", .str "TASK-001"), ("bond_amount", .int 100), ("deadline_epoch", .int 100), ("current_epoch", .int 0),
  ("completed", .bool true), ("quality_score", .int 1)])

/-- `settleDocument` as `serde_json` writes it. -/
def settleBytes : List UInt8 := toVec (fun _ => []) settleDocument

/-- A runtime that parses this document. -/
def settleRuntime : Runtime := { runtime with parse := fun bytes => if bytes = settleBytes then some settleDocument else none }

def settleInput (bond quality : ℚ) (currentEpoch : UInt64) : VerifyAndSettleInput :=
  ⟨"bond-1", "did:key:ed25519:aa", "TASK-001", ⟨.finite bond, rfl⟩, 100, currentEpoch, true, ⟨.finite quality, rfl⟩⟩

theorem settle_decoded :
    fromSlice settleRuntime (VerifyAndSettleInput.decode settleRuntime) settleBytes = .ok (settleInput 100 1 0) := by
  have hp : settleRuntime.parse settleBytes = some settleDocument := by simp [settleRuntime]
  rw [fromSlice, hp]
  rfl

theorem settlement_of_hundred : ∃ reply paid,
    verifyAndSettle settleRuntime ⟨some settleBytes, none, none⟩ =
      .ok (toVec settleRuntime.floatText (.obj (VerifyAndSettleOutput.document reply))) ∧
    reply.payoutAmount.Is paid ∧ 0 ≤ paid ∧ paid ≤ hundredths 100 ∧ |(100 : ℚ) - hundredths 100| ≤ 1 / 200 ∧
    (∀ cents : ℤ, (100 : ℚ) = cents / 100 → paid ≤ 100) ∧
    ∀ r' paid', r'.bondAmount.val.rat = 100 → r'.delivery.AtLeast (settleInput 100 1 0).delivery →
      ¬(settleInput 100 1 0).delivery.LateBeats r'.delivery → (payoutAmount settleRuntime r').Is paid' → paid ≤ paid' :=
  settlement_bounded_monotone rfl settle_decoded (by decide +kernel) none none

/-- Half a cent is paid as a cent. A delivery of quality 0.5 is paid half of the bond if it is late, and a quarter if
it is on time. -/
theorem settlement_exceeds_and_falls :
    (¬∀ (r : VerifyAndSettleInput) (paid : ℚ), 0 ≤ r.bondAmount.val.rat → 0 ≤ r.qualityScore.val.rat → (payoutAmount runtime r).Is paid →
      paid ≤ r.bondAmount.val.rat) ∧
    ¬∀ (r : VerifyAndSettleInput) (late onTime : UInt64) (paid paid' : ℚ), 0 ≤ r.bondAmount.val.rat → 0 ≤ r.qualityScore.val.rat → r.deadlineEpoch < late →
      onTime ≤ r.deadlineEpoch → (payoutAmount runtime { r with currentEpoch := late }).Is paid →
      (payoutAmount runtime { r with currentEpoch := onTime }).Is paid' → paid ≤ paid' := by
  constructor
  · intro h
    have hpaid : (payoutAmount runtime (settleInput (5 / 1000) 1 0)).Is (1 / 100) := by decide +kernel
    have hle : (1 : ℚ) / 100 ≤ 5 / 1000 := h _ _ (by decide +kernel) (by decide +kernel) hpaid
    norm_num at hle
  · intro h
    have hlate : (payoutAmount runtime (settleInput 100 (1 / 2) 200)).Is 50 := by decide +kernel
    have hpaid : (payoutAmount runtime (settleInput 100 (1 / 2) 0)).Is 25 := by decide +kernel
    have hle : (50 : ℚ) ≤ 25 := h (settleInput 100 (1 / 2) 0) 200 0 _ _ (by decide +kernel) (by decide +kernel)
      (by decide) (by decide) hlate hpaid
    norm_num at hle

end Sample

end Adn.Contract
