import Adn.ContractExports
import Adn.Lib.Runs
/-!
# Temporal grants

`TemporalDelegation` keeps what each grant token was issued for, and the contract's
`check-grant` decides on the fields it is sent. Neither of the two compares the grantee or
the action of a check with the recorded ones: a token is good for whoever holds it
(`check_valid_iff`).
-/

open Lib Lib.Serde

namespace Adn

open Contract (Runtime GenericInput IssueTimeGrantInput CheckGrantInput grantVerdict hashed u64Text u64Json)

/-! ## The TEE -/

structure IssueTimeGrantOutput where
  grantToken : Str
  granteeDid : Str
  action : Str
  validUntilEpoch : UInt64
  issuedInTee : Bool

structure CheckGrantOutput where
  valid : Bool
  reason : Str
  checkedInTee : Bool

def IssueTimeGrantOutput.document (r : IssueTimeGrantOutput) : Dict := Dict.ofList [
  ("grant_token", .str r.grantToken), ("grantee_did", .str r.granteeDid), ("action", .str r.action),
  ("valid_until_epoch", u64Json r.validUntilEpoch), ("issued_in_tee", .bool r.issuedInTee)]

def CheckGrantOutput.document (r : CheckGrantOutput) : Dict := Dict.ofList [
  ("valid", .bool r.valid), ("reason", .str r.reason), ("checked_in_tee", .bool r.checkedInTee)]

def issueTimeGrantReply (r : IssueTimeGrantInput) : IssueTimeGrantOutput where
  grantToken := hashed "tgrant-" [r.granteeDid, r.action, u64Text r.validUntilEpoch, r.issuerNonce]
  granteeDid := r.granteeDid
  action := r.action
  validUntilEpoch := r.validUntilEpoch
  issuedInTee := true

def checkGrantReply (r : CheckGrantInput) : CheckGrantOutput where
  valid := (grantVerdict r).1
  reason := (grantVerdict r).2
  checkedInTee := true

/-- `tee_invoke_fn("issue-time-grant", payload)`, which raises where the contract answers with an error -/
def invokeIssueTimeGrant (payload : Dict) : Except DecodeError IssueTimeGrantOutput :=
  (IssueTimeGrantInput.decode (.obj payload)).map issueTimeGrantReply

/-- `tee_invoke_fn("check-grant", payload)` -/
def invokeCheckGrant (payload : Dict) : Except DecodeError CheckGrantOutput :=
  (CheckGrantInput.decode (.obj payload)).map checkGrantReply

section
variable {rt : Runtime} {req : GenericInput} {bytes : List UInt8} {payload : Dict}

/-- The replies are those of the contract's export. -/
theorem issueTimeGrant_reply (hinput : req.input = some bytes) (hparse : rt.parse bytes = some (.obj payload))
    {out : List UInt8} : Contract.issueTimeGrant rt req = .ok out ↔
      ∃ reply, invokeIssueTimeGrant payload = .ok reply ∧ out = toVec rt.floatText (.obj reply.document) :=
  Contract.export_invoked issueTimeGrantReply (·.document) hinput hparse

theorem checkGrant_reply (hinput : req.input = some bytes) (hparse : rt.parse bytes = some (.obj payload))
    {out : List UInt8} : Contract.checkGrant rt req = .ok out ↔
      ∃ reply, invokeCheckGrant payload = .ok reply ∧ out = toVec rt.floatText (.obj reply.document) :=
  Contract.export_invoked checkGrantReply (·.document) hinput hparse

end

/-! ## The coordinator -/

/-- What `_grants` keeps of a token. -/
structure Grant where
  granteeDid : Str
  action : Str
  validUntilEpoch : ℤ
  grantToken : Str
  issuedInTee : Bool

/-- `_grants` -/
abbrev Grants := Str → Option Grant

/-- `issue_grant` of a coordinator, when `int(time.time())` is `currentEpoch` -/
def issueGrant (coordinatorId : Str) (currentEpoch : ℤ) (granteeDid action : Str) (durationSeconds : ℤ)
    (grants : Grants) : Except DecodeError (IssueTimeGrantOutput × Grants) := do
  let validUntil := currentEpoch + durationSeconds
  let issuerNonce := coordinatorId ++ Str.ofString ":" ++ Numerals.intText currentEpoch
  let result ← invokeIssueTimeGrant (Dict.ofList [("grantee_did", .str granteeDid), ("action", .str action),
    ("valid_until_epoch", .int validUntil), ("issuer_nonce", .str issuerNonce)])
  let token := result.grantToken
  return (result, Function.update grants token (some ⟨granteeDid, action, validUntil, token, result.issuedInTee⟩))

/-- `grant.get("valid_until_epoch", 0)` -/
def validUntilOf (grant : Option Grant) : ℤ := (grant.map (·.validUntilEpoch)).getD 0

/-- `check_grant` -/
def checkGrant (currentEpoch : ℤ) (grantToken granteeDid action : Str) (grants : Grants) :
    Except DecodeError CheckGrantOutput :=
  invokeCheckGrant (Dict.ofList [("grant_token", .str grantToken), ("grantee_did", .str granteeDid),
    ("action", .str action), ("valid_until_epoch", .int (validUntilOf (grants grantToken))),
    ("current_epoch", .int currentEpoch)])

/-! ## What a check finds -/

theorem grantVerdict_valid {r : CheckGrantInput} :
    (grantVerdict r).1 = true ↔ r.currentEpoch.toNat ≤ r.validUntilEpoch.toNat ∧ r.grantToken ≠ [] := by
  unfold grantVerdict
  by_cases hexpired : r.currentEpoch > r.validUntilEpoch
  · rw [if_pos hexpired]
    rw [gt_iff_lt, UInt64.lt_iff_toNat_lt] at hexpired
    simp [hexpired]
  · rw [if_neg hexpired]
    rw [gt_iff_lt, UInt64.lt_iff_toNat_lt, not_lt] at hexpired
    by_cases hempty : r.grantToken = [] <;> simp [Contract.isEmpty, hexpired, hempty]

section
variable {grants : Grants} {currentEpoch : ℤ} {grantToken granteeDid action : Str}

theorem decodeCheck_ok {validUntil : ℤ} {r : CheckGrantInput} :
    CheckGrantInput.decode (.obj (Dict.ofList [("grant_token", .str grantToken), ("grantee_did", .str granteeDid),
      ("action", .str action), ("valid_until_epoch", .int validUntil), ("current_epoch", .int currentEpoch)])) = .ok r ↔
    ((0 ≤ validUntil ∧ validUntil < 2 ^ 64) ∧ 0 ≤ currentEpoch ∧ currentEpoch < 2 ^ 64) ∧
      r = ⟨grantToken, granteeDid, action, UInt64.ofNat validUntil.toNat, UInt64.ofNat currentEpoch.toNat⟩ := by
  generalize hpayload : Dict.ofList _ = payload
  have hn : (payload.map (·.1)).Nodup := by
    rw [← hpayload]
    simp [Dict.ofList]
  have hfields : fields ["grant_token", "grantee_did", "action", "valid_until_epoch", "current_epoch"] (.obj payload) =
    .ok (objFields payload) := rfl
  unfold CheckGrantInput.decode
  simp only [hfields, bind_ok, Except.ok.injEq, exists_eq_left', get_string hn, get_ok hn, pure_ok]
  rw [← hpayload]
  simp only [Dict.get?_ofList_cons, String.reduceEq, if_true, if_false, Option.some.injEq, Json.str.injEq, exists_eq_left',
    u64_int]
  constructor
  · rintro ⟨u, ⟨hu, rfl⟩, c, ⟨hc, rfl⟩, rfl⟩
    exact ⟨⟨hu, hc⟩, rfl⟩
  · rintro ⟨⟨hu, hc⟩, rfl⟩
    exact ⟨_, ⟨hu, rfl⟩, _, ⟨hc, rfl⟩, rfl⟩

theorem checkGrant_ok {reply : CheckGrantOutput} :
    checkGrant currentEpoch grantToken granteeDid action grants = .ok reply ↔
      ((0 ≤ validUntilOf (grants grantToken) ∧ validUntilOf (grants grantToken) < 2 ^ 64) ∧
        0 ≤ currentEpoch ∧ currentEpoch < 2 ^ 64) ∧
      reply = checkGrantReply ⟨grantToken, granteeDid, action, UInt64.ofNat (validUntilOf (grants grantToken)).toNat,
        UInt64.ofNat currentEpoch.toNat⟩ := by
  unfold checkGrant invokeCheckGrant
  simp only [map_eq_ok, decodeCheck_ok]
  constructor
  · rintro ⟨r, ⟨hranges, rfl⟩, hreply⟩
    exact ⟨hranges, hreply⟩
  · rintro ⟨hranges, hreply⟩
    exact ⟨_, ⟨hranges, rfl⟩, hreply⟩

/-- A check looks at the deadline that is recorded for the token, and not at who asks or for what. -/
theorem check_valid_iff {reply : CheckGrantOutput}
    (h : checkGrant currentEpoch grantToken granteeDid action grants = .ok reply) :
    reply.valid = true ↔ currentEpoch ≤ validUntilOf (grants grantToken) ∧ grantToken ≠ [] := by
  obtain ⟨⟨⟨hu, hult⟩, hc, hclt⟩, rfl⟩ := checkGrant_ok.1 h
  rw [checkGrantReply, grantVerdict_valid]
  simp only [UInt64.toNat_ofNat']
  rw [Nat.mod_eq_of_lt (by omega), Nat.mod_eq_of_lt (by omega), Int.toNat_le, Int.toNat_of_nonneg hu]

end

/-! ## Histories of calls -/

/-- A call that returned, with its arguments, or one that raised. -/
inductive GrantCall where
  | issued (currentEpoch : ℤ) (granteeDid action : Str) (durationSeconds : ℤ) (reply : IssueTimeGrantOutput)
  | checked (currentEpoch : ℤ) (grantToken granteeDid action : Str) (reply : CheckGrantOutput)
  | raised

inductive GrantStep (coordinatorId : Str) : Grants → GrantCall → Grants → Prop
  | issued {grants grants' : Grants} {currentEpoch : ℤ} {granteeDid action : Str} {durationSeconds : ℤ}
      {reply : IssueTimeGrantOutput}
      (h : issueGrant coordinatorId currentEpoch granteeDid action durationSeconds grants = .ok (reply, grants')) :
      GrantStep coordinatorId grants (.issued currentEpoch granteeDid action durationSeconds reply) grants'
  | checked {grants : Grants} {currentEpoch : ℤ} {grantToken granteeDid action : Str} {reply : CheckGrantOutput}
      (h : checkGrant currentEpoch grantToken granteeDid action grants = .ok reply) :
      GrantStep coordinatorId grants (.checked currentEpoch grantToken granteeDid action reply) grants
  | raised {grants : Grants} : GrantStep coordinatorId grants .raised grants

/-- The token was issued to the grantee for the action, with a deadline that is not before `currentEpoch`. -/
def Licensed (calls : List GrantCall) (currentEpoch : ℤ) (grantToken granteeDid action : Str) : Prop :=
  ∃ issuedAt durationSeconds reply, .issued issuedAt granteeDid action durationSeconds reply ∈ calls ∧
    reply.grantToken = grantToken ∧ currentEpoch ≤ issuedAt + durationSeconds

/-- Every check that was valid was of a grant as it had been issued. -/
def HonouredAsIssued (calls : List GrantCall) : Prop :=
  ∀ before later currentEpoch grantToken granteeDid action reply,
    calls = before ++ .checked currentEpoch grantToken granteeDid action reply :: later → reply.valid = true →
    Licensed before currentEpoch grantToken granteeDid action

/-- Up to the recorded deadline, a check names the grantee and the action that are recorded for its token; of a token
without a record, it is not made in the first second of the epoch. -/
def ChecksAsRecorded (grants : Grants) (call : GrantCall) : Prop :=
  ∀ currentEpoch grantToken granteeDid action reply, call = .checked currentEpoch grantToken granteeDid action reply →
    (∀ grant, grants grantToken = some grant → currentEpoch ≤ grant.validUntilEpoch →
        granteeDid = grant.granteeDid ∧ action = grant.action) ∧
      (grants grantToken = none → currentEpoch ≠ 0)

/-- Each record is of an earlier call. -/
def Recorded (calls : List GrantCall) (grants : Grants) : Prop :=
  ∀ grantToken grant, grants grantToken = some grant → ∃ issuedAt durationSeconds reply,
    .issued issuedAt grant.granteeDid grant.action durationSeconds reply ∈ calls ∧ reply.grantToken = grantToken ∧
      grant.validUntilEpoch = issuedAt + durationSeconds

section
variable {coordinatorId : Str} {grants grants' : Grants} {calls : List GrantCall} {call : GrantCall}

theorem issueGrant_ok {currentEpoch durationSeconds : ℤ} {granteeDid action : Str} {reply : IssueTimeGrantOutput}
    (h : issueGrant coordinatorId currentEpoch granteeDid action durationSeconds grants = .ok (reply, grants')) :
    grants' = Function.update grants reply.grantToken
      (some ⟨granteeDid, action, currentEpoch + durationSeconds, reply.grantToken, reply.issuedInTee⟩) := by
  unfold issueGrant at h
  simp only [bind_ok, pure_ok, Prod.mk.injEq] at h
  obtain ⟨result, -, rfl, rfl⟩ := h
  rfl

theorem GrantStep.recorded (hr : Recorded calls grants) (h : GrantStep coordinatorId grants call grants') :
    Recorded (calls ++ [call]) grants' := by
  intro grantToken grant hgrant
  have hkept : grants grantToken = some grant → ∃ issuedAt durationSeconds reply,
      GrantCall.issued issuedAt grant.granteeDid grant.action durationSeconds reply ∈ calls ++ [call] ∧
        reply.grantToken = grantToken ∧ grant.validUntilEpoch = issuedAt + durationSeconds := by
    intro hold
    obtain ⟨issuedAt, durationSeconds, reply, hmem, hrest⟩ := hr grantToken grant hold
    exact ⟨issuedAt, durationSeconds, reply, List.mem_append_left _ hmem, hrest⟩
  cases h with
  | issued h =>
    rw [issueGrant_ok h, Function.update_apply] at hgrant
    split at hgrant
    · rename_i htoken
      cases hgrant
      exact ⟨_, _, _, List.mem_append_right _ (List.mem_singleton.2 rfl), htoken.symm, rfl⟩
    · exact hkept hgrant
  | checked h => exact hkept hgrant
  | raised => exact hkept hgrant

/-- A check as recorded is valid only for the grant that was issued. -/
theorem GrantStep.licensed (hr : Recorded calls grants) (h : GrantStep coordinatorId grants call grants')
    (hcond : ChecksAsRecorded grants call) {currentEpoch : ℤ} {grantToken granteeDid action : Str}
    {reply : CheckGrantOutput} (hcall : call = .checked currentEpoch grantToken granteeDid action reply)
    (hvalid : reply.valid = true) : Licensed calls currentEpoch grantToken granteeDid action := by
  obtain ⟨hnames, hclock⟩ := hcond _ _ _ _ _ hcall
  subst hcall
  cases h with
  | checked h =>
    obtain ⟨hdeadline, -⟩ := (check_valid_iff h).1 hvalid
    cases hgrant : grants grantToken with
    | none =>
      -- without a record the deadline that is sent is zero
      have hnow := (checkGrant_ok.1 h).1.2.1
      rw [hgrant] at hdeadline
      have hzero : currentEpoch ≤ 0 := hdeadline
      exact absurd (le_antisymm hzero hnow) (hclock hgrant)
    | some grant =>
      rw [hgrant] at hdeadline
      obtain ⟨rfl, rfl⟩ := hnames grant hgrant hdeadline
      obtain ⟨issuedAt, durationSeconds, issue, hmem, htoken, huntil⟩ := hr grantToken grant hgrant
      exact ⟨issuedAt, durationSeconds, issue, hmem, htoken, huntil ▸ hdeadline⟩

/-- In every history whose checks name what is recorded, a grant is honoured only as it was issued. -/
theorem grants_honoured_as_issued
    (h : Run (Meeting (GrantStep coordinatorId) ChecksAsRecorded) (fun _ => none) calls grants) :
    HonouredAsIssued calls := by
  intro before later currentEpoch grantToken granteeDid action reply hcalls hvalid
  obtain ⟨a, b, hbefore, ⟨hstep, hcond⟩, -⟩ := h.split before _ later hcalls
  have hr : Recorded before a := by
    apply hbefore.hist (I := Recorded)
    · intro grantToken grant hgrant
      cases hgrant
    · rintro calls s l s' hr ⟨hstep, -⟩
      exact hstep.recorded hr
  exact hstep.licensed hr hcond rfl hvalid

end

/-! ### A grant that another worker uses -/

namespace Sample

def issueReply : IssueTimeGrantOutput :=
  issueTimeGrantReply ⟨"did:key:ed25519:aa", "process_premium_data", 400, Str.ofString "c0" ++ Str.ofString ":" ++
    Numerals.intText 100⟩

def grantsAfter : Grants := Function.update (fun _ => none) issueReply.grantToken
  (some ⟨"did:key:ed25519:aa", "process_premium_data", 400, issueReply.grantToken, true⟩)

theorem grant_issued : GrantStep "c0" (fun _ => none)
    (.issued 100 "did:key:ed25519:aa" "process_premium_data" 300 issueReply) grantsAfter := by
  apply GrantStep.issued
  rfl

theorem grant_recorded : grantsAfter issueReply.grantToken =
    some ⟨"did:key:ed25519:aa", "process_premium_data", 400, issueReply.grantToken, true⟩ := by
  rw [grantsAfter, Function.update_self]

/-- Its token, shown at second 200 by some worker. -/
def checkReply (granteeDid : Str) : CheckGrantOutput :=
  checkGrantReply ⟨issueReply.grantToken, granteeDid, "process_premium_data", 400, 200⟩

theorem grant_checked (granteeDid : Str) : GrantStep "c0" grantsAfter
    (.checked 200 issueReply.grantToken granteeDid "process_premium_data" (checkReply granteeDid)) grantsAfter := by
  apply GrantStep.checked
  rw [checkGrant_ok, grant_recorded]
  exact ⟨⟨⟨by decide, by decide⟩, by decide, by decide⟩, rfl⟩

theorem check_is_valid (granteeDid : Str) : (checkReply granteeDid).valid = true := by
  refine grantVerdict_valid.2 ⟨?_, ?_⟩
  · show (200 : UInt64).toNat ≤ (400 : UInt64).toNat
    decide
  · simp [issueReply, issueTimeGrantReply, hashed, Text.ofString_eq_nil]

def callsOf (granteeDid : Str) : List GrantCall :=
  [.issued 100 "did:key:ed25519:aa" "process_premium_data" 300 issueReply,
    .checked 200 issueReply.grantToken granteeDid "process_premium_data" (checkReply granteeDid)]

/-- The grantee's own check is of the grant as issued. -/
theorem own_grant_honoured : HonouredAsIssued (callsOf "did:key:ed25519:aa") := by
  have hrun : Run (Meeting (GrantStep "c0") ChecksAsRecorded) (fun _ => none) (callsOf "did:key:ed25519:aa")
      grantsAfter := by
    refine .cons ⟨grant_issued, ?_⟩ (.cons ⟨grant_checked _, ?_⟩ .nil)
    · intro _ _ _ _ _ hcall
      cases hcall
    · intro _ _ _ _ _ hcall
      cases hcall
      rw [grant_recorded]
      refine ⟨?_, by simp⟩
      rintro grant hgrant -
      cases hgrant
      exact ⟨rfl, rfl⟩
  exact grants_honoured_as_issued hrun

/-- Another worker's check of the same token is valid. -/
theorem other_grantee_honoured : ¬∀ coordinatorId calls grants,
    Run (GrantStep coordinatorId) (fun _ => none) calls grants → HonouredAsIssued calls := by
  intro h
  have hrun : Run (GrantStep "c0") (fun _ => none) (callsOf "did:key:ed25519:bb") grantsAfter :=
    .cons grant_issued (.cons (grant_checked _) .nil)
  obtain ⟨issuedAt, durationSeconds, reply, hmem, -⟩ :=
    h _ _ _ hrun [_] [] _ _ _ _ _ rfl (check_is_valid _)
  rw [List.mem_singleton] at hmem
  injection hmem with _ hgrantee
  rw [Text.ofString_inj] at hgrantee
  exact absurd hgrantee (by decide)

end Sample

end Adn
