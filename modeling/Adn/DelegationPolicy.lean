import Adn.DelegationProtocol
/-!
# The delegation policy

Default deny: a delegation is allowed only by an explicit rule and an explicit
trust relationship (`evaluateDelegationRequest_ok`).
-/

open Lib

namespace Adn

/-- A `Dict[str, Set]`: the keys in order, each with the elements of its set. -/
abbrev SetTable := List (Str × List Json)

structure DelegationPolicy where
  delegationRules : SetTable
  agentTrust : SetTable

def SetTable.find (t : SetTable) (k : Str) : List Json :=
  match t with
  | [] => []
  | (k', xs) :: t => if k' = k then xs else find t k

/-- `table.get(key, set())` -/
def SetTable.getSet (t : SetTable) (key : Json) : Except PyErr (List Json) :=
  match key with
  | .str k => .ok (t.find k)
  | v => if hashable v then .ok [] else .error .typeError

/-- `x in xs` -/
def inSet (x : Json) (xs : List Json) : Except PyErr Bool :=
  if hashable x then .ok (xs.any fun y => y.pyEq x) else .error .typeError

/-- `can_delegate` -/
def DelegationPolicy.canDelegate (p : Platform) (policy : DelegationPolicy) (fromAgentId : Json) (toAgentId : Str)
    (action : Json) : Except PyErr (Bool × Str) := do
  let allowed ← policy.delegationRules.getSet fromAgentId
  if allowed = [] then
    return (false, Str.ofString "Delegation denied — no explicit policy registered for agent " ++ p.str fromAgentId ++
      Str.ofString " (default deny)")
  else if ← inSet action allowed then
    let trusted ← policy.agentTrust.getSet fromAgentId
    if trusted = [] then
      return (false, Str.ofString "Delegation denied — no target-trust policy for agent " ++ p.str fromAgentId ++
        Str.ofString " (default deny)")
    else if ← inSet (.str toAgentId) trusted then
      return (true, Str.ofString "Delegation of " ++ p.str action ++ Str.ofString " to " ++ toAgentId ++
        Str.ofString " allowed")
    else
      return (false, Str.ofString "Agent " ++ p.str fromAgentId ++ Str.ofString " not trusted to delegate to " ++
        toAgentId ++ Str.ofString " for action " ++ p.str action)
  else
    return (false, Str.ofString "Action " ++ p.str action ++ Str.ofString " not in delegation allowed list for agent " ++
      p.str fromAgentId)

/-- `can_perform_task` -/
def DelegationPolicy.canPerformTask (p : Platform) (policy : DelegationPolicy) (agentId : Str) (action : Json) :
    Except PyErr (Bool × Str) := do
  let allowed := policy.delegationRules.find agentId
  if allowed = [] then
    return (false, Str.ofString "Action " ++ p.str action ++ Str.ofString " denied — no policy registered for agent " ++
      agentId ++ Str.ofString " (default deny)")
  else if ← inSet action allowed then
    return (true, Str.ofString "Agent allowed to perform " ++ p.str action)
  else
    return (false, Str.ofString "Action " ++ p.str action ++ Str.ofString " not in allowed list for agent " ++ agentId)

/-- `DelegationPolicyEngine.evaluate_delegation_request` -/
def evaluateDelegationRequest (p : Platform) (policy : DelegationPolicy) (action : Json) (fromAgentId : Json)
    (toAgentId : Str) : Except PyErr (Bool × Str) := do
  let (canDelegate, reason) ← policy.canDelegate p fromAgentId toAgentId action
  if !canDelegate then return (false, Str.ofString "Delegation not allowed: " ++ reason)
  else
    let (canPerform, reason) ← policy.canPerformTask p toAgentId action
    if !canPerform then return (false, Str.ofString "Target agent not allowed to perform action: " ++ reason)
    else return (true, "Delegation request approved by policy")

/-! ## What is allowed -/

/-- The delegator may delegate the action and trusts the target, and the target
may perform it. -/
structure Allows (policy : DelegationPolicy) (fromAgentId : Json) (toAgentId : Str) (action : Json) : Prop where
  delegate : ∃ f, fromAgentId = .str f ∧ ∃ a ∈ policy.delegationRules.find f, a.pyEq action = true
  trust : ∃ f, fromAgentId = .str f ∧ Json.str toAgentId ∈ policy.agentTrust.find f
  perform : ∃ a ∈ policy.delegationRules.find toAgentId, a.pyEq action = true

variable {p : Platform} {policy : DelegationPolicy}

theorem inSet_true {x : Json} {xs : List Json} (h : inSet x xs = .ok true) : ∃ y ∈ xs, y.pyEq x = true := by
  unfold inSet at h
  split at h
  · simpa using h
  · cases h

theorem getSet_ok {t : SetTable} {key : Json} {xs : List Json} (h : t.getSet key = .ok xs) (hne : xs ≠ []) :
    ∃ k, key = .str k ∧ xs = t.find k := by
  cases key with
  | str k => exact ⟨k, rfl, (Except.ok.inj h).symm⟩
  | _ =>
    simp only [SetTable.getSet] at h
    split at h
    · cases h; exact absurd rfl hne
    · cases h

theorem canDelegate_ok {fromAgentId : Json} {toAgentId : Str} {action : Json} {reason : Str}
    (h : policy.canDelegate p fromAgentId toAgentId action = .ok (true, reason)) :
    ∃ f, fromAgentId = .str f ∧ (∃ a ∈ policy.delegationRules.find f, a.pyEq action = true) ∧
      Json.str toAgentId ∈ policy.agentTrust.find f := by
  obtain ⟨allowed, ha, h⟩ := bind_ok.1 h
  by_cases hne : allowed = []
  · rw [if_pos hne] at h
    cases h
  rw [if_neg hne] at h
  obtain ⟨f, rfl, rfl⟩ := getSet_ok ha hne
  obtain ⟨inRules, hb, h⟩ := bind_ok.1 h
  cases inRules with
  | false => cases h
  | true =>
    obtain ⟨trusted, ht, h⟩ := bind_ok.1 h
    by_cases hnt : trusted = []
    · rw [if_pos hnt] at h
      cases h
    rw [if_neg hnt] at h
    obtain ⟨inTrust, hb', h⟩ := bind_ok.1 h
    cases inTrust with
    | false => cases h
    | true =>
      obtain rfl := Except.ok.inj ht
      obtain ⟨y, hy, he⟩ := inSet_true hb'
      obtain rfl := Json.pyEq_str.1 he
      exact ⟨f, rfl, inSet_true hb, hy⟩

theorem canPerformTask_ok {agentId : Str} {action : Json} {reason : Str}
    (h : policy.canPerformTask p agentId action = .ok (true, reason)) :
    ∃ a ∈ policy.delegationRules.find agentId, a.pyEq action = true := by
  simp only [DelegationPolicy.canPerformTask] at h
  by_cases hne : policy.delegationRules.find agentId = []
  · rw [if_pos hne] at h
    cases h
  rw [if_neg hne] at h
  obtain ⟨inRules, hb, h⟩ := bind_ok.1 h
  cases inRules with
  | false => cases h
  | true => exact inSet_true hb

/-- What the engine approves, an explicit rule and an explicit trust allow. -/
theorem evaluateDelegationRequest_ok {fromAgentId : Json} {toAgentId : Str} {action : Json} {reason : Str}
    (h : evaluateDelegationRequest p policy action fromAgentId toAgentId = .ok (true, reason)) :
    Allows policy fromAgentId toAgentId action := by
  obtain ⟨⟨canDelegate, r⟩, hd, h⟩ := bind_ok.1 h
  cases canDelegate with
  | false => cases h
  | true =>
    obtain ⟨⟨canPerform, r'⟩, hp, h⟩ := bind_ok.1 h
    cases canPerform with
    | false => cases h
    | true =>
      obtain ⟨f, hf, hr, ht⟩ := canDelegate_ok hd
      exact ⟨⟨f, hf, hr⟩, ⟨f, hf, ht⟩, canPerformTask_ok hp⟩

end Adn
