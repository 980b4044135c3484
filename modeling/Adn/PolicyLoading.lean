import Adn.PolicyHistory
import Adn.Lib.Statements
/-!
# Loading a policy from its file

`_load_policy` assigns the sections of the file one by one inside one `try`. Where a later
section fails, what was assigned before it stays, though the default policy is announced:
the rules of the file are kept when its trust table cannot be read
(`failed_load_default_iff`).
-/

open Lib

namespace Adn

/-! ## The file -/

/-- All that `_load_policy` sets. -/
structure LoadedPolicy extends DelegationPolicy where
  rateLimits : Json
  delegationQuotas : Json

/-- The policy before any file is read. -/
def defaultPolicy : LoadedPolicy where
  delegationRules := []
  agentTrust := []
  rateLimits := .obj []
  delegationQuotas := .obj []

/-- The elements that iterating over `v` gives. -/
def elements : Json → Except PyErr (List Json)
  | .str s => .ok ((Text.codePoints s).map fun c => .str (Str.ofCodePoint c))
  | .arr xs => .ok xs
  | .obj fs => .ok (fs.map fun f => .str f.1)
  | _ => .error .typeError

/-- `set(v)` -/
def setOf (v : Json) : Except PyErr (List Json) := do
  let xs ← elements v
  if xs.all hashable then return xs.foldl (fun s x => SetTable.setAdd x s) [] else throw .typeError

/-- `v.items()` -/
def items : Json → Except PyErr (List (Str × Json))
  | .obj fs => .ok fs
  | _ => .error .attributeError

/-- `{k: set(v) for k, v in data.get(section, {}).items()}` -/
def sectionTable (data : Dict) (name : Str) : Except PyErr SetTable := do
  (← items (data.getD name (.obj []))).mapM fun f => do return (f.1, ← setOf f.2)

/-- The body of the `try`, on what `json.load` returned or raised. -/
def loadSections (document : Except PyErr Json) : Statements PyErr LoadedPolicy Unit := do
  let data ← .ofExcept (document >>= asDict)
  let delegationRules ← .ofExcept (sectionTable data "delegation_rules")
  modify fun policy => { policy with delegationRules }
  let agentTrust ← .ofExcept (sectionTable data "agent_trust")
  modify fun policy => { policy with agentTrust }
  modify fun policy => { policy with rateLimits := data.getD "rate_limits" (.obj []) }
  modify fun policy => { policy with delegationQuotas := data.getD "delegation_quotas" (.obj []) }

/-- What `_load_policy` leaves. -/
structure LoadResult where
  policy : LoadedPolicy
  /-- The failure and the default policies were announced. -/
  failed : Bool

/-- `_load_policy`; the file may not exist -/
def loadPolicy (file : Option (Except PyErr Json)) : LoadResult :=
  match file with
  | none => ⟨defaultPolicy, false⟩
  | some document =>
    match (loadSections document).on defaultPolicy with
    | (.ok (), policy) => ⟨policy, false⟩
    | (.error _, policy) => ⟨policy, true⟩

/-- What `_load_policy` prints, to the standard output. -/
def loadWarning (p : Platform) (file : Option (Except PyErr Json)) : Str :=
  match file with
  | none => []
  | some document =>
    match ((loadSections document).on defaultPolicy).1 with
    | .ok () => []
    | .error e => Str.ofString "Warning: Failed to load delegation policy from config/delegation_policy.json: " ++
        p.errStr e ++ Str.ofString "\nUsing default policies.\n"

/-- A warning starts with a `W`. -/
theorem loadWarning_failed (p : Platform) {file : Option (Except PyErr Json)} (h : (loadPolicy file).failed = true) :
    ∃ rest, loadWarning p file = 0x57 :: rest := by
  cases file with
  | none => cases h
  | some document =>
    rw [loadPolicy] at h
    rw [loadWarning]
    cases hrun : (loadSections document).on defaultPolicy with
    | mk outcome policy =>
      cases outcome with
      | ok u =>
        simp only [hrun] at h
        cases h
      | error e => exact ⟨_, rfl⟩

/-- A policy that loads is loaded silently. -/
theorem loadWarning_loaded (p : Platform) {file : Option (Except PyErr Json)} (h : (loadPolicy file).failed = false) :
    loadWarning p file = [] := by
  cases file with
  | none => rfl
  | some document =>
    rw [loadPolicy] at h
    rw [loadWarning]
    cases hrun : (loadSections document).on defaultPolicy with
    | mk outcome policy =>
      cases outcome with
      | ok u => rfl
      | error e =>
        simp only [hrun] at h
        cases h

/-! ## Where the statements end -/

/-- The rules of the file were assigned, they are not empty, and then its trust table failed. -/
structure RulesKept (file : Option (Except PyErr Json)) (rules : SetTable) : Prop where
  assigned : ∃ data, file = some (.ok (.obj data)) ∧ sectionTable data "delegation_rules" = .ok rules ∧
    ∃ e, sectionTable data "agent_trust" = .error e
  nonempty : rules ≠ []

section
variable {file : Option (Except PyErr Json)}

theorem loadPolicy_kept {rules : SetTable} (h : RulesKept file rules) :
    loadPolicy file = ⟨{ defaultPolicy with delegationRules := rules }, true⟩ := by
  obtain ⟨⟨data, rfl, hrules, e, htrust⟩, -⟩ := h
  have hdata : (Except.ok (Json.obj data) >>= asDict) = (.ok data : Except PyErr Dict) := rfl
  have hrun : (loadSections (.ok (.obj data))).on defaultPolicy =
      (.error e, { defaultPolicy with delegationRules := rules }) := by
    unfold loadSections
    rw [hdata, Statements.on_bind_ok (Statements.on_ofExcept _), hrules,
      Statements.on_bind_ok (Statements.on_ofExcept _), Statements.on_bind_ok (Statements.on_modify _), htrust]
    exact Statements.on_bind_error (Statements.on_ofExcept _)
  simp only [loadPolicy, hrun]

/-- After a failure the policy is the default one, but for rules that were kept. -/
theorem loadPolicy_failed (h : (loadPolicy file).failed = true) :
    (loadPolicy file).policy = defaultPolicy ∧ (∀ rules, ¬RulesKept file rules) ∨
      ∃ rules, RulesKept file rules ∧ (loadPolicy file).policy = { defaultPolicy with delegationRules := rules } := by
  cases file with
  | none => cases h
  | some document =>
    simp only [loadPolicy] at h ⊢
    generalize hrun : (loadSections document).on defaultPolicy = r at h ⊢
    unfold loadSections at hrun
    cases hdata : document >>= asDict with
    | error e =>
      rw [hdata, Statements.on_bind_error (Statements.on_ofExcept _)] at hrun
      subst hrun
      refine .inl ⟨rfl, ?_⟩
      rintro rules ⟨⟨data, hfile, -⟩, -⟩
      cases hfile
      cases hdata
    | ok data =>
      rw [hdata, Statements.on_bind_ok (Statements.on_ofExcept _)] at hrun
      obtain ⟨v, rfl, hv⟩ := bind_ok.1 hdata
      obtain rfl := asDict_ok.1 hv
      cases hrules : sectionTable data "delegation_rules" with
      | error e =>
        rw [hrules, Statements.on_bind_error (Statements.on_ofExcept _)] at hrun
        subst hrun
        refine .inl ⟨rfl, ?_⟩
        rintro rules ⟨⟨data', hfile, hkept, -⟩, -⟩
        cases hfile
        rw [hrules] at hkept
        cases hkept
      | ok rules =>
        rw [hrules, Statements.on_bind_ok (Statements.on_ofExcept _),
          Statements.on_bind_ok (Statements.on_modify _)] at hrun
        cases htrust : sectionTable data "agent_trust" with
        | error e =>
          rw [htrust, Statements.on_bind_error (Statements.on_ofExcept _)] at hrun
          subst hrun
          by_cases hempty : rules = []
          · subst hempty
            refine .inl ⟨rfl, ?_⟩
            rintro rules ⟨⟨data', hfile, hkept, -⟩, hne⟩
            cases hfile
            rw [hrules] at hkept
            cases hkept
            exact hne rfl
          · exact .inr ⟨rules, ⟨⟨data, rfl, hrules, e, htrust⟩, hempty⟩, rfl⟩
        | ok agentTrust =>
          -- the other two sections are taken as they are
          rw [htrust, Statements.on_bind_ok (Statements.on_ofExcept _), Statements.on_bind_ok (Statements.on_modify _),
            Statements.on_bind_ok (Statements.on_modify _), Statements.on_modify] at hrun
          subst hrun
          cases h

end

/-! ## What is denied -/

/-- The engine answers every request with a denial. -/
def DeniesAll (policy : DelegationPolicy) : Prop :=
  ∀ (p : Platform) (fromAgentId toAgentId action : Str), ∃ reason,
    evaluateDelegationRequest p policy (.str action) (.str fromAgentId) toAgentId = .ok (false, reason)

/-- It does so after every change of the policy that adds no rule. -/
def DeniesUntilRules (policy : DelegationPolicy) : Prop :=
  ∀ history : List DelegationPolicy.Operation,
    (∀ agentId action, DelegationPolicy.Operation.addDelegationRule agentId action ∉ history) →
    DeniesAll (history.foldl DelegationPolicy.Operation.run policy)

section
variable {policy : DelegationPolicy}

theorem deniesAll_of (h : ∀ k action, Json.str action ∈ policy.delegationRules.find k →
    policy.agentTrust.find k = []) : DeniesAll policy := by
  intro p fromAgentId toAgentId action
  obtain ⟨allowed, reason, heval, hallowed⟩ := DelegationPolicy.evaluate_texts p policy fromAgentId toAgentId action
  refine ⟨reason, ?_⟩
  cases allowed with
  | false => exact heval
  | true =>
    obtain ⟨hrule, htrust, -⟩ := hallowed.1 rfl
    rw [h fromAgentId action hrule] at htrust
    cases htrust

/-- Without trust every request is denied, whatever rules there are. -/
theorem deniesAll_untrusted (h : policy.agentTrust = []) : DeniesAll policy := by
  apply deniesAll_of
  intro k _ _
  rw [h]
  rfl

/-- A policy without rules has none until one is added. -/
theorem rules_stay_empty (history : List DelegationPolicy.Operation)
    (hadd : ∀ agentId action, DelegationPolicy.Operation.addDelegationRule agentId action ∉ history)
    (h : policy.delegationRules = []) :
    (history.foldl DelegationPolicy.Operation.run policy).delegationRules = [] := by
  induction history generalizing policy with
  | nil => exact h
  | cons op history ih =>
    rw [List.foldl_cons]
    apply ih
    · intro agentId action hmem
      exact hadd agentId action (List.mem_cons_of_mem op hmem)
    · cases op with
      | addDelegationRule agentId action => exact absurd List.mem_cons_self (hadd agentId action)
      | removeDelegationRule agentId action =>
        show policy.delegationRules.discard agentId (.str action) = []
        rw [h]
        rfl
      | addTrustRelationship => exact h
      | removeTrustRelationship => exact h

theorem deniesUntilRules_of (h : policy.delegationRules = []) : DeniesUntilRules policy := by
  intro history hadd
  apply deniesAll_of
  intro k action hrule
  rw [rules_stay_empty history hadd h] at hrule
  cases hrule

end

/-! ## A failure -/

section
variable {file : Option (Except PyErr Json)}

/-- Right after a failure every request is denied. -/
theorem failed_load_denies (h : (loadPolicy file).failed = true) : DeniesAll (loadPolicy file).policy.toDelegationPolicy := by
  apply deniesAll_untrusted
  rcases loadPolicy_failed h with ⟨hdefault, -⟩ | ⟨rules, -, hkept⟩
  · rw [hdefault]
    rfl
  · rw [hkept]
    rfl

/-- What a failed load should leave. -/
structure FailsClosed (policy : LoadedPolicy) : Prop where
  default : policy = defaultPolicy
  denies : DeniesUntilRules policy.toDelegationPolicy

/-- A failed load leaves the default policy, which denies until rules are added, unless rules of the file were kept. -/
theorem failed_load_default_iff (file : Option (Except PyErr Json)) :
    ((loadPolicy file).failed = true → FailsClosed (loadPolicy file).policy) ↔ ∀ rules, ¬RulesKept file rules := by
  constructor
  · intro h rules hkept
    rw [loadPolicy_kept hkept] at h
    have hdefault := (h rfl).default
    injection hdefault with hpolicy
    injection hpolicy with hrules
    exact hkept.nonempty hrules
  · intro hkept hfailed
    rcases loadPolicy_failed hfailed with ⟨hdefault, -⟩ | ⟨rules, hrules, -⟩
    · rw [hdefault]
      exact ⟨rfl, deniesUntilRules_of rfl⟩
    · exact absurd hrules (hkept rules)

end

/-! ### A trust table that is a list -/

namespace Sample

def brokenPolicy : Dict := Dict.ofList [("delegation_rules", .obj [("agent", .arr [.str "PROCESS_DATA"])]),
  ("agent_trust", .arr [])]

theorem broken_rules_kept : RulesKept (some (.ok (.obj brokenPolicy))) [("agent", [.str "PROCESS_DATA"])] :=
  ⟨⟨brokenPolicy, rfl, rfl, .attributeError, rfl⟩, by simp⟩

/-- The failure is announced, and the rules of the file are there. -/
theorem broken_policy_loaded : ¬∀ file, (loadPolicy file).failed = true → FailsClosed (loadPolicy file).policy := by
  intro h
  have hclosed := h (some (.ok (.obj brokenPolicy)))
  rw [loadPolicy_kept broken_rules_kept] at hclosed
  have hdefault := (hclosed rfl).default
  injection hdefault with hpolicy
  injection hpolicy with hrules
  cases hrules

end Sample

end Adn
