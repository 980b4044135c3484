import Adn.Settlement
import Adn.Lib.Hex
import Adn.Lib.Runs
/-!
# Performance bonds

`PerformanceBond` keeps what each bond was last locked for, and the contract settles on
what it is sent of that. Nothing marks a bond as settled, and a lock of the same id
replaces the record: what holds in every history is that a settlement is of the last
lock, and pays between nothing and its amount (`bonds_accounted`).
-/

open Lib Lib.Serde

namespace Adn

open Contract (Runtime GenericInput LockBondInput VerifyAndSettleInput VerifyAndSettleOutput verifyAndSettleReply
  fullPayout hashed colons simpleHash hexText)

/-! ## The TEE -/

structure LockBondOutput where
  bondId : Str
  agentDid : Str
  taskId : Str
  bondAmount : PyFloat
  lockedInTee : Bool

def LockBondOutput.document (r : LockBondOutput) : Dict := Dict.ofList [
  ("bond_id", .str r.bondId), ("agent_did", .str r.agentDid), ("task_id", .str r.taskId),
  ("bond_amount", .float r.bondAmount), ("locked_in_tee", .bool r.lockedInTee)]

def lockBondReply (r : LockBondInput) : LockBondOutput where
  bondId := hashed "bond-" [r.agentDid, r.taskId]
  agentDid := r.agentDid
  taskId := r.taskId
  bondAmount := r.bondAmount.val
  lockedInTee := true

section
variable (rt : Runtime)

/-- `tee_invoke_fn("lock-bond", payload)`, which raises where the contract answers with an error -/
def invokeLockBond (payload : Dict) : Except DecodeError LockBondOutput :=
  (LockBondInput.decode rt (.obj payload)).map lockBondReply

/-- `tee_invoke_fn("verify-and-settle", payload)` -/
def invokeVerifyAndSettle (payload : Dict) : Except DecodeError VerifyAndSettleOutput :=
  (VerifyAndSettleInput.decode rt (.obj payload)).map (verifyAndSettleReply rt)

end

section
variable {rt : Runtime} {req : GenericInput} {bytes : List UInt8} {payload : Dict}

/-- The replies are those of the contract's exports. -/
theorem lockBond_reply (hinput : req.input = some bytes) (hparse : rt.parse bytes = some (.obj payload))
    {out : List UInt8} : Contract.lockBond rt req = .ok out ↔
      ∃ reply, invokeLockBond rt payload = .ok reply ∧ out = toVec rt.floatText (.obj reply.document) :=
  Contract.export_invoked lockBondReply (·.document) hinput hparse

theorem verifyAndSettle_reply (hinput : req.input = some bytes) (hparse : rt.parse bytes = some (.obj payload))
    {out : List UInt8} : Contract.verifyAndSettle rt req = .ok out ↔
      ∃ reply, invokeVerifyAndSettle rt payload = .ok reply ∧ out = toVec rt.floatText (.obj reply.document) :=
  Contract.export_invoked (verifyAndSettleReply rt) (·.document) hinput hparse

end

/-! ## The coordinator -/

/-- What `_bonds` keeps of a bond. -/
structure Bond where
  agentDid : Str
  taskId : Str
  bondAmount : Json
  deadlineEpoch : ℤ
  lockedInTee : Bool

/-- `_bonds` -/
abbrev Bonds := Str → Option Bond

inductive SettleError where
  | valueError (message : Str)
  | tee (e : DecodeError)

section
variable (rt : Runtime)

/-- `lock_bond` for an agent, when `int(time.time())` is `now` -/
def lockBond (now : ℤ) (agentDid taskId : Str) (bondAmount : Json) (durationSeconds : ℤ) (bonds : Bonds) :
    Except DecodeError (LockBondOutput × Bonds) := do
  let deadlineEpoch := now + durationSeconds
  let result ← invokeLockBond rt (Dict.ofList [("agent_did", .str agentDid), ("task_id", .str taskId),
    ("bond_amount", bondAmount), ("deadline_epoch", .int deadlineEpoch)])
  let bondId := result.bondId
  return (result, Function.update bonds bondId (some ⟨agentDid, taskId, bondAmount, deadlineEpoch, result.lockedInTee⟩))

/-- `settle_bond` -/
def settleBond (now : ℤ) (bondId agentDid : Str) (completed : Bool) (qualityScore : Json) (bonds : Bonds) :
    Except SettleError VerifyAndSettleOutput :=
  match bonds bondId with
  | none => .error (.valueError (Str.ofString "Bond " ++ bondId ++ Str.ofString " not found"))
  | some bond => (invokeVerifyAndSettle rt (Dict.ofList [("bond_id", .str bondId), ("agent_did", .str agentDid),
      ("task_id", .str bond.taskId), ("bond_amount", bond.bondAmount), ("deadline_epoch", .int bond.deadlineEpoch),
      ("current_epoch", .int now), ("completed", .bool completed), ("quality_score", qualityScore)])).mapError .tee

end

/-! ## What a call does -/

section
variable {rt : Runtime} {bonds bonds' : Bonds} {now deadlineEpoch : ℤ} {bondId agentDid taskId : Str} {bondAmount : Json}

theorem decodeLock_ok {r : LockBondInput} :
    LockBondInput.decode rt (.obj (Dict.ofList [("agent_did", .str agentDid), ("task_id", .str taskId),
      ("bond_amount", bondAmount), ("deadline_epoch", .int deadlineEpoch)])) = .ok r ↔
    ∃ amount, f64 rt.rnd bondAmount = .ok amount ∧ (0 ≤ deadlineEpoch ∧ deadlineEpoch < 2 ^ 64) ∧
      r = ⟨agentDid, taskId, amount, UInt64.ofNat deadlineEpoch.toNat⟩ := by
  generalize hpayload : Dict.ofList _ = payload
  have hn : (payload.map (·.1)).Nodup := by
    rw [← hpayload]
    simp [Dict.ofList]
  have hfields : fields ["agent_did", "task_id", "bond_amount", "deadline_epoch"] (.obj payload) =
    .ok (objFields payload) := rfl
  unfold LockBondInput.decode
  simp only [hfields, bind_ok, Except.ok.injEq, exists_eq_left', get_string hn, get_ok hn, pure_ok]
  rw [← hpayload]
  simp only [Dict.get?_ofList_cons, String.reduceEq, if_true, if_false, Option.some.injEq, Json.str.injEq, exists_eq_left',
    u64_int]
  constructor
  · rintro ⟨amount, hamount, u, ⟨hu, rfl⟩, rfl⟩
    exact ⟨amount, hamount, hu, rfl⟩
  · rintro ⟨amount, hamount, hu, rfl⟩
    exact ⟨amount, hamount, _, ⟨hu, rfl⟩, rfl⟩

/-- What is settled with the amount and the deadline of a bond. -/
def settleInput (now : ℤ) (bondId agentDid : Str) (completed : Bool) (bond : Bond) (amount quality : Finite64) :
    VerifyAndSettleInput :=
  ⟨bondId, agentDid, bond.taskId, amount, UInt64.ofNat bond.deadlineEpoch.toNat, UInt64.ofNat now.toNat, completed, quality⟩

theorem decodeSettle_ok {completed : Bool} {qualityScore : Json} {bond : Bond} {r : VerifyAndSettleInput} :
    VerifyAndSettleInput.decode rt (.obj (Dict.ofList [("bond_id", .str bondId), ("agent_did", .str agentDid),
      ("task_id", .str bond.taskId), ("bond_amount", bond.bondAmount), ("deadline_epoch", .int bond.deadlineEpoch),
      ("current_epoch", .int now), ("completed", .bool completed), ("quality_score", qualityScore)])) = .ok r ↔
    ∃ amount quality, f64 rt.rnd bond.bondAmount = .ok amount ∧ f64 rt.rnd qualityScore = .ok quality ∧
      (0 ≤ bond.deadlineEpoch ∧ bond.deadlineEpoch < 2 ^ 64) ∧ (0 ≤ now ∧ now < 2 ^ 64) ∧
      r = settleInput now bondId agentDid completed bond amount quality := by
  generalize hpayload : Dict.ofList _ = payload
  have hn : (payload.map (·.1)).Nodup := by
    rw [← hpayload]
    simp [Dict.ofList]
  have hfields : fields ["bond_id", "agent_did", "task_id", "bond_amount", "deadline_epoch", "current_epoch", "completed",
    "quality_score"] (.obj payload) = .ok (objFields payload) := rfl
  unfold VerifyAndSettleInput.decode
  simp only [hfields, bind_ok, Except.ok.injEq, exists_eq_left', get_string hn, get_ok hn, pure_ok]
  rw [← hpayload]
  simp only [Dict.get?_ofList_cons, String.reduceEq, if_true, if_false, Option.some.injEq, Json.str.injEq, exists_eq_left',
    u64_int, Serde.bool, Except.ok.injEq]
  constructor
  · rintro ⟨amount, hamount, d, ⟨hd, rfl⟩, c, ⟨hc, rfl⟩, quality, hquality, rfl⟩
    exact ⟨amount, quality, hamount, hquality, hd, hc, rfl⟩
  · rintro ⟨amount, quality, hamount, hquality, hd, hc, rfl⟩
    exact ⟨amount, hamount, _, ⟨hd, rfl⟩, _, ⟨hc, rfl⟩, quality, hquality, rfl⟩

theorem lockBond_ok {durationSeconds : ℤ} {reply : LockBondOutput} :
    lockBond rt now agentDid taskId bondAmount durationSeconds bonds = .ok (reply, bonds') ↔
      (∃ amount, f64 rt.rnd bondAmount = .ok amount ∧ (0 ≤ now + durationSeconds ∧ now + durationSeconds < 2 ^ 64) ∧
        reply = ⟨hashed "bond-" [agentDid, taskId], agentDid, taskId, amount.val, true⟩) ∧
      bonds' = Function.update bonds reply.bondId
        (some ⟨agentDid, taskId, bondAmount, now + durationSeconds, reply.lockedInTee⟩) := by
  unfold lockBond invokeLockBond
  simp only [bind_ok, pure_ok, Prod.mk.injEq, map_eq_ok, decodeLock_ok]
  constructor
  · rintro ⟨_, ⟨_, ⟨amount, hamount, hdeadline, rfl⟩, rfl⟩, rfl, rfl⟩
    exact ⟨⟨amount, hamount, hdeadline, rfl⟩, rfl⟩
  · rintro ⟨⟨amount, hamount, hdeadline, rfl⟩, rfl⟩
    exact ⟨_, ⟨_, ⟨amount, hamount, hdeadline, rfl⟩, rfl⟩, rfl, rfl⟩

/-- A settlement is of the recorded bond, whoever it is for, and as often as it is asked for. -/
theorem settleBond_ok {completed : Bool} {qualityScore : Json} {reply : VerifyAndSettleOutput} :
    settleBond rt now bondId agentDid completed qualityScore bonds = .ok reply ↔
      ∃ bond amount quality, bonds bondId = some bond ∧ f64 rt.rnd bond.bondAmount = .ok amount ∧
        f64 rt.rnd qualityScore = .ok quality ∧ (0 ≤ bond.deadlineEpoch ∧ bond.deadlineEpoch < 2 ^ 64) ∧
        (0 ≤ now ∧ now < 2 ^ 64) ∧
        reply = verifyAndSettleReply rt (settleInput now bondId agentDid completed bond amount quality) := by
  unfold settleBond
  cases hbond : bonds bondId with
  | none => simp
  | some bond =>
    dsimp only
    have hmap : ∀ x : Except DecodeError VerifyAndSettleOutput, x.mapError SettleError.tee = .ok reply ↔ x = .ok reply := by
      intro x
      cases x <;> simp [Except.mapError]
    rw [hmap, invokeVerifyAndSettle]
    simp only [map_eq_ok, decodeSettle_ok, Option.some.injEq]
    constructor
    · rintro ⟨_, ⟨amount, quality, hamount, hquality, hd, hc, rfl⟩, rfl⟩
      exact ⟨bond, amount, quality, rfl, hamount, hquality, hd, hc, rfl⟩
    · rintro ⟨_, amount, quality, rfl, hamount, hquality, hd, hc, rfl⟩
      exact ⟨_, ⟨amount, quality, hamount, hquality, hd, hc, rfl⟩, rfl⟩

end

/-! ## Histories of calls -/

/-- A call that returned, with its arguments, or one that raised. -/
inductive BondCall where
  | locked (now : ℤ) (agentDid taskId : Str) (bondAmount : Json) (durationSeconds : ℤ) (reply : LockBondOutput)
  | settled (now : ℤ) (bondId agentDid : Str) (completed : Bool) (qualityScore : Json) (reply : VerifyAndSettleOutput)
  | raised

inductive BondStep (rt : Runtime) : Bonds → BondCall → Bonds → Prop
  | locked {bonds bonds' : Bonds} {now : ℤ} {agentDid taskId : Str} {bondAmount : Json} {durationSeconds : ℤ}
      {reply : LockBondOutput} (h : lockBond rt now agentDid taskId bondAmount durationSeconds bonds = .ok (reply, bonds')) :
      BondStep rt bonds (.locked now agentDid taskId bondAmount durationSeconds reply) bonds'
  | settled {bonds : Bonds} {now : ℤ} {bondId agentDid : Str} {completed : Bool} {qualityScore : Json}
      {reply : VerifyAndSettleOutput} (h : settleBond rt now bondId agentDid completed qualityScore bonds = .ok reply) :
      BondStep rt bonds (.settled now bondId agentDid completed qualityScore reply) bonds
  | raised {bonds : Bonds} : BondStep rt bonds .raised bonds

/-- The bond that a call locks, with its id. -/
def BondCall.lock : BondCall → Option (Str × Bond)
  | .locked now agentDid taskId bondAmount durationSeconds reply =>
    some (reply.bondId, ⟨agentDid, taskId, bondAmount, now + durationSeconds, reply.lockedInTee⟩)
  | _ => none

/-- The text whose hash is the id of a bond. -/
def Bond.name (bond : Bond) : Str := colons [bond.agentDid, bond.taskId]

/-- The hash does not collide on different texts that were locked. -/
def NoCollision (calls : List BondCall) : Prop :=
  ∀ call ∈ calls, ∀ call' ∈ calls, ∀ bondId bondId' bond bond', call.lock = some (bondId, bond) →
    call'.lock = some (bondId', bond') → simpleHash bond.name = simpleHash bond'.name → bond.name = bond'.name

/-- The records are of the last locks, ids are those of texts, and what is settled is the record. -/
structure Accounted (rt : Runtime) (calls : List BondCall) (bonds : Bonds) : Prop where
  recorded : ∀ bondId bond, bonds bondId = some bond ↔ LastFor BondCall.lock calls bondId bond
  named : ∀ call ∈ calls, ∀ call' ∈ calls, ∀ bondId bondId' bond bond', call.lock = some (bondId, bond) →
    call'.lock = some (bondId', bond') → (bondId = bondId' ↔ bond.name = bond'.name)
  distinct : ∀ call ∈ calls, ∀ call' ∈ calls, ∀ bondId bond bond', call.lock = some (bondId, bond) →
    call'.lock = some (bondId, bond') → 0x3A ∉ bond.taskId → 0x3A ∉ bond'.taskId →
    bond.agentDid = bond'.agentDid ∧ bond.taskId = bond'.taskId
  settled : ∀ before now bondId agentDid completed qualityScore reply later,
    calls = before ++ .settled now bondId agentDid completed qualityScore reply :: later →
    ∃ bond amount quality, LastFor BondCall.lock before bondId bond ∧ f64 rt.rnd bond.bondAmount = .ok amount ∧
      reply = verifyAndSettleReply rt (settleInput now bondId agentDid completed bond amount quality) ∧
      (PyFloat.le (.finite 0) amount.val = true → PyFloat.le (.finite 0) reply.payoutAmount = true ∧
        PyFloat.le reply.payoutAmount (fullPayout rt amount.val) = true)

section
variable {rt : Runtime} {bonds bonds' : Bonds} {calls : List BondCall} {call : BondCall}

/-- A call writes the bond that it locks, and nothing else. -/
theorem BondStep.table (h : BondStep rt bonds call bonds') (bondId : Str) (bond : Bond) : bonds' bondId = some bond ↔
    call.lock = some (bondId, bond) ∨ (∀ other, call.lock ≠ some (bondId, other)) ∧ bonds bondId = some bond := by
  cases h with
  | locked h =>
    obtain ⟨-, rfl⟩ := lockBond_ok.1 h
    rw [Function.update_apply]
    split
    · rename_i hid
      subst hid
      simp [BondCall.lock]
    · rename_i hid
      simp [BondCall.lock, Ne.symm hid]
  | settled h => simp [BondCall.lock]
  | raised => simp [BondCall.lock]

/-- The id of a bond is the hash of its name. -/
theorem BondStep.lock_id (h : BondStep rt bonds call bonds') {bondId : Str} {bond : Bond}
    (hlock : call.lock = some (bondId, bond)) : bondId = hashed "bond-" [bond.agentDid, bond.taskId] := by
  cases h with
  | locked h =>
    obtain ⟨⟨amount, -, -, hreply⟩, -⟩ := lockBond_ok.1 h
    cases hlock
    rw [hreply]
  | settled h => cases hlock
  | raised => cases hlock

variable (h : Run (BondStep rt) (fun _ => none) calls bonds)
include h

theorem lastLocked (bondId : Str) (bond : Bond) : bonds bondId = some bond ↔ LastFor BondCall.lock calls bondId bond :=
  h.lastFor (t := id) (fun _ => rfl) (fun _ _ _ hst => hst.table) bondId bond

theorem lock_id (hcall : call ∈ calls) {bondId : Str} {bond : Bond} (hlock : call.lock = some (bondId, bond)) :
    bondId = hashed "bond-" [bond.agentDid, bond.taskId] := by
  obtain ⟨before, later, rfl⟩ := List.append_of_mem hcall
  obtain ⟨_, _, -, hstep, -⟩ := h.split before call later rfl
  exact hstep.lock_id hlock

theorem same_id (hcollision : NoCollision calls) {call' : BondCall} (hcall : call ∈ calls) (hcall' : call' ∈ calls)
    {bondId bondId' : Str} {bond bond' : Bond} (hlock : call.lock = some (bondId, bond))
    (hlock' : call'.lock = some (bondId', bond')) : bondId = bondId' ↔ bond.name = bond'.name := by
  rw [lock_id h hcall hlock, lock_id h hcall' hlock', Contract.hashed_inj]
  constructor
  · exact hcollision call hcall call' hcall' _ _ _ _ hlock hlock'
  · intro hname
    change simpleHash bond.name = simpleHash bond'.name
    rw [hname]

/-- In every history, a bond is what was last locked under its id, and each settlement is of that bond and pays
between nothing and its amount. -/
theorem bonds_accounted (hr : PyFloat.Rounding rt.rnd) (hcollision : NoCollision calls) : Accounted rt calls bonds where
  recorded := lastLocked h
  named _ hcall _ hcall' _ _ _ _ hlock hlock' := same_id h hcollision hcall hcall' hlock hlock'
  distinct _ hcall _ hcall' _ _ _ hlock hlock' htask htask' :=
    (Contract.colons_pair_inj htask htask').1 ((same_id h hcollision hcall hcall' hlock hlock').1 rfl)
  settled := by
    intro before now bondId agentDid completed qualityScore reply later heq
    obtain ⟨table, _, hbefore, hstep, -⟩ := h.split before _ later heq
    cases hstep with
    | settled hsettle =>
      obtain ⟨bond, amount, quality, hbond, hamount, -, -, -, rfl⟩ := settleBond_ok.1 hsettle
      refine ⟨bond, amount, quality, (lastLocked hbefore bondId bond).1 hbond, hamount, rfl, ?_⟩
      intro hpositive
      exact Contract.payoutAmount_bounds hr
        (r := settleInput now bondId agentDid completed bond amount quality) hpositive

end

/-! ## An escrow -/

/-- The settlements of a bond. -/
def settlements (calls : List BondCall) (bondId : Str) : List VerifyAndSettleOutput :=
  calls.filterMap fun call =>
    match call with
    | .settled _ _ _ _ _ reply => if reply.bondId = bondId then some reply else none
    | _ => none

/-- What is locked under one id never changes. -/
def LockedForGood (calls : List BondCall) : Prop :=
  ∀ call ∈ calls, ∀ call' ∈ calls, ∀ bondId bond bond', call.lock = some (bondId, bond) →
    call'.lock = some (bondId, bond') → bond.bondAmount = bond'.bondAmount

/-- One id is of one agent and one task. -/
def OneBondPerId (calls : List BondCall) : Prop :=
  ∀ call ∈ calls, ∀ call' ∈ calls, ∀ bondId bond bond', call.lock = some (bondId, bond) →
    call'.lock = some (bondId, bond') → bond.agentDid = bond'.agentDid ∧ bond.taskId = bond'.taskId

def SettledOnce (calls : List BondCall) : Prop := ∀ bondId, (settlements calls bondId).length ≤ 1

/-- The payouts of a bond are together at most its amount. -/
def Conserved (rt : Runtime) (calls : List BondCall) : Prop :=
  ∀ call ∈ calls, ∀ bondId bond amount, call.lock = some (bondId, bond) → f64 rt.rnd bond.bondAmount = .ok amount →
    ((settlements calls bondId).map (·.payoutAmount.rat)).sum ≤ amount.val.rat

/-- A bond is settled for the agent that locked it. -/
def PaidToAgent (calls : List BondCall) : Prop :=
  ∀ now bondId agentDid completed qualityScore reply, .settled now bondId agentDid completed qualityScore reply ∈ calls →
    ∀ call ∈ calls, ∀ bond, call.lock = some (bondId, bond) → agentDid = bond.agentDid

/-! ### A bond that is paid twice and replaced, and two bonds of one name -/

namespace Sample

open Contract.Sample (runtime)

def bondOf (agentDid taskId : Str) (amount : ℚ) : Bond := ⟨agentDid, taskId, .float (.finite amount), 3600, true⟩

def lockCall (agentDid taskId : Str) (amount : ℚ) : BondCall := .locked 0 agentDid taskId (.float (.finite amount)) 3600
  ⟨hashed "bond-" [agentDid, taskId], agentDid, taskId, .finite amount, true⟩

theorem lock_step (bonds : Bonds) (agentDid taskId : Str) (amount : ℚ) : BondStep runtime bonds
    (lockCall agentDid taskId amount) (Function.update bonds (hashed "bond-" [agentDid, taskId])
      (some (bondOf agentDid taskId amount))) :=
  .locked (lockBond_ok.2 ⟨⟨⟨.finite amount, rfl⟩, rfl, ⟨by decide, by decide⟩, rfl⟩, rfl⟩)

/-- The bond of an agent for its task. -/
def bondId : Str := hashed "bond-" ["did:key:ed25519:aa", "TASK-001"]

def fullSettlement : VerifyAndSettleOutput := verifyAndSettleReply runtime (settleInput 1 bondId "did:key:ed25519:bb" true
  (bondOf "did:key:ed25519:aa" "TASK-001" 100) ⟨.finite 100, rfl⟩ ⟨.finite 1, rfl⟩)

/-- Its settlement in full, for another agent. -/
def settleCall : BondCall := .settled 1 bondId "did:key:ed25519:bb" true (.float (.finite 1)) fullSettlement

theorem settle_step {bonds : Bonds} (h : bonds bondId = some (bondOf "did:key:ed25519:aa" "TASK-001" 100)) :
    BondStep runtime bonds settleCall bonds :=
  .settled (settleBond_ok.2 ⟨_, ⟨.finite 100, rfl⟩, ⟨.finite 1, rfl⟩, h, rfl, rfl, ⟨by decide, by decide⟩,
    ⟨by decide, by decide⟩, rfl⟩)

def paidTwice : List BondCall := [lockCall "did:key:ed25519:aa" "TASK-001" 100, settleCall, settleCall,
  lockCall "did:key:ed25519:aa" "TASK-001" 1]

def oneName : List BondCall := [lockCall "did:t3n:a" "b:c" 100, lockCall "did:t3n:a:b" "c" 1]

theorem paidTwice_run : ∃ bonds, Run (BondStep runtime) (fun _ => none) paidTwice bonds := by
  have hlocked : Function.update (fun _ => none) bondId (some (bondOf "did:key:ed25519:aa" "TASK-001" 100)) bondId =
    some (bondOf "did:key:ed25519:aa" "TASK-001" 100) := Function.update_self ..
  exact ⟨_, .cons (lock_step _ _ _ _) (.cons (settle_step hlocked) (.cons (settle_step hlocked)
    (.cons (lock_step _ _ _ _) .nil)))⟩

theorem oneName_run : ∃ bonds, Run (BondStep runtime) (fun _ => none) oneName bonds :=
  ⟨_, .cons (lock_step _ _ _ _) (.cons (lock_step _ _ _ _) .nil)⟩

/-- Calls that lock one name only do not collide. -/
theorem noCollision_of {calls : List BondCall} {s : Str}
    (h : ∀ call ∈ calls, ∀ bondId bond, call.lock = some (bondId, bond) → bond.name = s) : NoCollision calls := by
  intro call hcall call' hcall' _ _ _ _ hlock hlock' _
  rw [h call hcall _ _ hlock, h call' hcall' _ _ hlock']

theorem paidTwice_name : NoCollision paidTwice := by
  apply noCollision_of (s := colons ["did:key:ed25519:aa", "TASK-001"])
  intro call hcall bondId bond hlock
  simp only [paidTwice, List.mem_cons, List.not_mem_nil, or_false] at hcall
  rcases hcall with rfl | rfl | rfl | rfl <;> cases hlock <;> rfl

theorem oneName_name : NoCollision oneName := by
  apply noCollision_of (s := colons ["did:t3n:a", "b:c"])
  intro call hcall bondId bond hlock
  simp only [oneName, List.mem_cons, List.not_mem_nil, or_false] at hcall
  rcases hcall with rfl | rfl <;> cases hlock <;> rfl

theorem settlements_paidTwice : settlements paidTwice bondId = [fullSettlement, fullSettlement] := by
  have hid : fullSettlement.bondId = bondId := rfl
  simp [settlements, paidTwice, lockCall, settleCall, hid]

theorem fullSettlement_pays : fullSettlement.payoutAmount.Is 100 := by decide +kernel

/-- The history is accounted for. -/
theorem paidTwice_accounted : ∃ bonds, Accounted runtime paidTwice bonds := by
  obtain ⟨bonds, hrun⟩ := paidTwice_run
  exact ⟨bonds, bonds_accounted hrun PyFloat.rounding_finite paidTwice_name⟩

/-- A bond of 100 that pays 200 to another agent and is then locked for 1, and an id of two bonds. -/
theorem bonds_not_escrowed :
    (∃ calls bonds, Run (BondStep runtime) (fun _ => none) calls bonds ∧ NoCollision calls ∧ ¬LockedForGood calls ∧
      ¬SettledOnce calls ∧ ¬Conserved runtime calls ∧ ¬PaidToAgent calls) ∧
    ∃ calls bonds, Run (BondStep runtime) (fun _ => none) calls bonds ∧ NoCollision calls ∧ ¬OneBondPerId calls := by
  obtain ⟨bonds, hrun⟩ := paidTwice_run
  obtain ⟨bonds', hrun'⟩ := oneName_run
  have hfirst : lockCall "did:key:ed25519:aa" "TASK-001" 100 ∈ paidTwice := by simp [paidTwice]
  refine ⟨⟨_, bonds, hrun, paidTwice_name, ?_, ?_, ?_, ?_⟩, _, bonds', hrun', oneName_name, ?_⟩
  · intro h
    have hlast : lockCall "did:key:ed25519:aa" "TASK-001" 1 ∈ paidTwice := by simp [paidTwice]
    have hamount := h _ hfirst _ hlast _ _ _ rfl rfl
    simp only [Json.float.injEq, PyFloat.finite.injEq] at hamount
    norm_num at hamount
  · intro h
    have hlength := h bondId
    rw [settlements_paidTwice] at hlength
    exact absurd hlength (by simp)
  · intro h
    have hsum := h _ hfirst _ _ ⟨.finite 100, rfl⟩ rfl rfl
    change ((settlements paidTwice bondId).map (·.payoutAmount.rat)).sum ≤ 100 at hsum
    rw [settlements_paidTwice] at hsum
    simp only [List.map_cons, List.map_nil, fullSettlement_pays.2, List.sum_cons, List.sum_nil] at hsum
    norm_num at hsum
  · intro h
    have hsettled : settleCall ∈ paidTwice := by simp [paidTwice]
    have hagent := h _ _ _ _ _ _ hsettled _ hfirst _ rfl
    exact absurd (Text.ofString_inj.1 hagent) (by decide)
  · intro h
    have hid : hashed "bond-" ["did:t3n:a", "b:c"] = hashed "bond-" ["did:t3n:a:b", "c"] :=
      Contract.hashed_inj.2 (congrArg simpleHash (by decide +kernel))
    have hagent := (h (lockCall "did:t3n:a" "b:c" 100) (by simp [oneName]) (lockCall "did:t3n:a:b" "c" 1)
      (by simp [oneName]) _ _ _ rfl (congrArg (fun id => some (id, bondOf "did:t3n:a:b" "c" 1)) hid.symm)).1
    exact absurd (Text.ofString_inj.1 hagent) (by decide)

end Sample

end Adn
