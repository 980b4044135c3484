import Adn.PolicyLoading
import Adn.Sample
import Adn.Lib.JsonWriting
/-!
# A policy across restarts

`save_policy` writes the policy as JSON, its sets in whatever order they are iterated, and an
engine that starts reads it with `_load_policy`. Over any run of changes, saves and restarts the
engine answers every request as if there had been no file: the changes since the last save are
what a restart loses, and nothing else (`restarts_transparent`).
-/

open Lib Lib.JsonReader

namespace Adn

/-! ## Saving -/

/-- The order in which a set is iterated. -/
structure SetOrder where
  order : List Json → List Json
  perm : ∀ xs, (order xs).Perm xs

/-- `{k: list(v) for k, v in table.items()}` -/
def savedTable (o : SetOrder) (t : SetTable) : Json := .obj (t.map fun e => (e.1, .arr (o.order e.2)))

def policyData (o : SetOrder) (policy : LoadedPolicy) : Dict := Dict.ofList [
  ("delegation_rules", savedTable o policy.delegationRules),
  ("agent_trust", savedTable o policy.agentTrust),
  ("rate_limits", policy.rateLimits),
  ("delegation_quotas", policy.delegationQuotas)]

/-- `save_policy`: what is in the file then -/
def savePolicy (o : SetOrder) (policy : LoadedPolicy) : Str :=
  write Text.quoteAscii (indented 2) 0 (.obj (policyData o policy))

/-- `json.load(f)`. What it raises is caught, and only printed. -/
def readPolicyFile (i : Interpreter) (text : Str) : Except PyErr Json := (loads i text).mapError fun _ => .valueError []

/-! ## Tables that differ in the order of their sets -/

namespace SetTable

/-- The same keys, and under each the same set. -/
def Alike (t t' : SetTable) : Prop := List.Forall₂ (fun e e' => e.1 = e'.1 ∧ e.2.Perm e'.2) t t'

theorem Alike.refl (t : SetTable) : Alike t t := by
  induction t with
  | nil => exact .nil
  | cons e t ih => exact .cons ⟨rfl, .refl _⟩ ih

theorem Alike.trans {t t' t'' : SetTable} (h : Alike t t') (h' : Alike t' t'') : Alike t t'' := by
  induction h generalizing t'' with
  | nil => exact h'
  | cons he _ ih =>
    cases h' with
    | cons he' h' => exact .cons ⟨he.1.trans he'.1, he.2.trans he'.2⟩ (ih h')

section
variable {t t' : SetTable}

theorem Alike.find (h : Alike t t') (k : Str) : (t.find k).Perm (t'.find k) := by
  induction h with
  | nil => exact .refl _
  | @cons e e' t t' he h ih =>
    rw [SetTable.find, SetTable.find, he.1]
    split
    · exact he.2
    · exact ih

theorem any_perm {xs ys : List Json} (h : xs.Perm ys) (p : Json → Bool) : xs.any p = ys.any p := by
  rw [Bool.eq_iff_iff, List.any_eq_true, List.any_eq_true]
  simp only [h.mem_iff]

theorem nil_iff_of_perm {xs ys : List Json} (h : xs.Perm ys) : xs = [] ↔ ys = [] := by
  rw [← List.length_eq_zero_iff, h.length_eq, List.length_eq_zero_iff]

theorem setAdd_perm {xs ys : List Json} (h : xs.Perm ys) (x : Json) : (setAdd x xs).Perm (setAdd x ys) := by
  unfold setAdd
  rw [any_perm h]
  split
  · exact h
  · exact h.append_right [x]

theorem Alike.add (h : Alike t t') (k : Str) (x : Json) : Alike (t.add k x) (t'.add k x) := by
  induction h with
  | nil => exact .refl _
  | @cons e e' t t' he h ih =>
    rw [SetTable.add, SetTable.add, he.1]
    split
    · exact .cons ⟨rfl, setAdd_perm he.2 x⟩ h
    · exact .cons ⟨rfl, he.2⟩ ih

theorem setDiscard_perm {xs ys : List Json} (h : xs.Perm ys) (x : Json) : (setDiscard x xs).Perm (setDiscard x ys) := h.filter _

theorem Alike.discard (h : Alike t t') (k : Str) (x : Json) : Alike (t.discard k x) (t'.discard k x) := by
  induction h with
  | nil => exact .refl _
  | @cons e e' t t' he h ih =>
    have hperm := setDiscard_perm he.2 x
    rw [SetTable.discard, SetTable.discard, he.1]
    simp only [nil_iff_of_perm hperm]
    split_ifs
    · exact h
    · exact .cons ⟨rfl, hperm⟩ h
    · exact .cons ⟨rfl, he.2⟩ ih

/-! ## Tables of texts -/

/-- A set of texts. -/
structure TextSet (xs : List Json) : Prop where
  texts : ∀ x ∈ xs, ∃ s, x = .str s
  distinct : xs.Nodup

/-- Each key is there once, with a set of texts. -/
structure Texts (t : SetTable) : Prop where
  keys : (t.map (·.1)).Nodup
  sets : ∀ e ∈ t, TextSet e.2

theorem TextSet.perm {xs ys : List Json} (h : xs.Perm ys) (hx : TextSet xs) : TextSet ys where
  texts x hm := hx.texts x (h.mem_iff.2 hm)
  distinct := h.nodup hx.distinct

theorem any_text {xs : List Json} (s : Str) : (xs.any (·.pyEq (.str s))) = true ↔ Json.str s ∈ xs := by
  rw [List.any_eq_true]
  constructor
  · rintro ⟨y, hy, he⟩
    rwa [← Json.pyEq_str.1 he]
  · exact fun h => ⟨_, h, Json.pyEq_str.2 rfl⟩

theorem TextSet.setAdd {xs : List Json} (h : TextSet xs) (s : Str) : TextSet (setAdd (.str s) xs) := by
  unfold SetTable.setAdd
  split
  · exact h
  · rename_i hnew
    rw [any_text] at hnew
    refine ⟨?_, ?_⟩
    · intro x hx
      rcases List.mem_append.1 hx with hx | hx
      · exact h.texts x hx
      · exact ⟨s, List.mem_singleton.1 hx⟩
    · refine List.nodup_append.2 ⟨h.distinct, List.nodup_singleton _, ?_⟩
      rintro x hx y hy rfl
      rw [List.mem_singleton.1 hy] at hx
      exact hnew hx

theorem textSet_nil : TextSet [] := ⟨by simp, List.nodup_nil⟩

theorem Texts.add (h : Texts t) (k s : Str) : Texts (t.add k (.str s)) := by
  obtain ⟨hkeys, hsets⟩ := h
  induction t with
  | nil => exact ⟨by simp [SetTable.add], by simpa [SetTable.add] using textSet_nil.setAdd s⟩
  | cons e t ih =>
    rw [List.map_cons, List.nodup_cons] at hkeys
    obtain ⟨he, hsets⟩ := List.forall_mem_cons.1 hsets
    rw [SetTable.add]
    split
    · exact ⟨List.nodup_cons.2 hkeys, List.forall_mem_cons.2 ⟨he.setAdd s, hsets⟩⟩
    · rename_i hk
      obtain ⟨ihkeys, ihsets⟩ := ih hkeys.2 hsets
      refine ⟨List.nodup_cons.2 ⟨?_, ihkeys⟩, List.forall_mem_cons.2 ⟨he, ihsets⟩⟩
      rw [keys_add, not_or]
      exact ⟨hk, hkeys.1⟩

theorem TextSet.filter {xs : List Json} (h : TextSet xs) (p : Json → Bool) : TextSet (xs.filter p) where
  texts x hx := h.texts x (List.mem_of_mem_filter hx)
  distinct := h.distinct.filter p

theorem Texts.discard (h : Texts t) (k s : Str) : Texts (t.discard k (.str s)) := by
  obtain ⟨hkeys, hsets⟩ := h
  induction t with
  | nil => exact ⟨hkeys, hsets⟩
  | cons e t ih =>
    rw [List.map_cons, List.nodup_cons] at hkeys
    obtain ⟨he, hsets⟩ := List.forall_mem_cons.1 hsets
    rw [SetTable.discard]
    split_ifs
    · exact ⟨hkeys.2, hsets⟩
    · exact ⟨List.nodup_cons.2 hkeys, List.forall_mem_cons.2 ⟨he.filter _, hsets⟩⟩
    · obtain ⟨ihkeys, ihsets⟩ := ih hkeys.2 hsets
      refine ⟨List.nodup_cons.2 ⟨?_, ihkeys⟩, List.forall_mem_cons.2 ⟨he, ihsets⟩⟩
      exact fun hk => hkeys.1 (keys_discard t k _ hk)

theorem Texts.of_alike (h : Texts t) (ha : Alike t' t) : Texts t' := by
  have hkeys : t'.map (·.1) = t.map (·.1) := by
    clear h
    induction ha with
    | nil => rfl
    | cons he _ ih => rw [List.map_cons, List.map_cons, he.1, ih]
  refine ⟨hkeys ▸ h.keys, ?_⟩
  replace h := h.sets
  clear hkeys
  induction ha with
  | nil => simp
  | cons he _ ih =>
    obtain ⟨hset, hsets⟩ := List.forall_mem_cons.1 h
    exact List.forall_mem_cons.2 ⟨hset.perm he.2.symm, ih hsets⟩

end

end SetTable

/-! ## Loading what was saved -/

/-- The table with its sets in the order in which they were iterated. -/
def SetTable.reordered (o : SetOrder) (t : SetTable) : SetTable := t.map fun e => (e.1, o.order e.2)

theorem SetTable.reordered_alike (o : SetOrder) (t : SetTable) : SetTable.Alike (t.reordered o) t := by
  induction t with
  | nil => exact .nil
  | cons e t ih => exact .cons ⟨rfl, o.perm e.2⟩ ih

theorem foldl_setAdd {xs ys : List Json} (h : SetTable.TextSet (xs ++ ys)) :
    ys.foldl (fun s x => SetTable.setAdd x s) xs = xs ++ ys := by
  induction ys generalizing xs with
  | nil => rw [List.foldl_nil, List.append_nil]
  | cons y ys ih =>
    obtain ⟨s, rfl⟩ := h.texts y (by simp)
    have hnew : ¬(xs.any (·.pyEq (.str s))) = true := by
      rw [SetTable.any_text]
      exact fun hmem => (List.nodup_append.1 h.distinct).2.2 _ hmem _ List.mem_cons_self rfl
    have hset : SetTable.setAdd (.str s) xs = xs ++ [.str s] := if_neg hnew
    rw [List.foldl_cons, hset, ih]
    · simp
    · simpa using h

theorem setOf_texts {xs : List Json} (h : SetTable.TextSet xs) : setOf (.arr xs) = .ok xs := by
  have hhash : xs.all hashable = true := by
    rw [List.all_eq_true]
    intro x hx
    obtain ⟨s, rfl⟩ := h.texts x hx
    rfl
  rw [setOf, elements, ok_bind, if_pos hhash, foldl_setAdd (by simpa using h)]
  rfl

/-- A table that was saved is read back, with its sets reordered. -/
theorem sectionTable_saved {data : Dict} {name : Str} {o : SetOrder} {t : SetTable} (h : t.Texts)
    (hdata : data.get? name = some (savedTable o t)) : sectionTable data name = .ok (t.reordered o) := by
  have hmap : ∀ t : SetTable, (∀ e ∈ t, SetTable.TextSet e.2) →
      ((t.map fun e => (e.1, Json.arr (o.order e.2))).mapM fun f => do return (f.1, ← setOf f.2)) = .ok (t.reordered o) := by
    intro t ht
    induction t with
    | nil => rfl
    | cons e t ih =>
      obtain ⟨he, ht⟩ := List.forall_mem_cons.1 ht
      rw [List.map_cons, List.mapM_cons, setOf_texts (he.perm (o.perm e.2).symm), ok_bind, ih ht]
      rfl
  rw [sectionTable, Dict.getD, hdata, Option.getD_some, savedTable, items, ok_bind]
  exact hmap t h.sets

/-- A policy whose file can be read back. -/
structure LoadedPolicy.Stored (i : Interpreter) (policy : LoadedPolicy) : Prop where
  rules : policy.delegationRules.Texts
  trust : policy.agentTrust.Texts
  rateLimits : Readable i (i.depth - 1) policy.rateLimits
  delegationQuotas : Readable i (i.depth - 1) policy.delegationQuotas

/-- The policy that loading the file of `policy` leaves. -/
def LoadedPolicy.reordered (o : SetOrder) (policy : LoadedPolicy) : LoadedPolicy :=
  { policy with delegationRules := policy.delegationRules.reordered o, agentTrust := policy.agentTrust.reordered o }

section
variable {i : Interpreter} {policy : LoadedPolicy} (o : SetOrder)

theorem readable_savedTable {depth : ℕ} {t : SetTable} (h : t.Texts) : Readable i (depth + 2) (savedTable o t) := by
  refine .obj ?_ ?_
  · rw [List.map_map]
    exact h.keys
  · rw [List.forall_mem_map]
    intro e he
    refine .arr fun x hx => ?_
    obtain ⟨s, rfl⟩ := (h.sets e he).texts x ((o.perm e.2).mem_iff.1 hx)
    exact .str s

theorem readable_policyData (hd : 3 ≤ i.depth) (h : policy.Stored i) : Readable i i.depth (.obj (policyData o policy)) := by
  obtain ⟨depth, hdepth⟩ : ∃ depth, i.depth = depth + 3 := ⟨i.depth - 3, by omega⟩
  have hlimits := h.rateLimits
  have hquotas := h.delegationQuotas
  rw [hdepth] at hlimits hquotas ⊢
  refine .obj ?_ ?_
  · have hnames : (policyData o policy).map (·.1) =
        (["delegation_rules", "agent_trust", "rate_limits", "delegation_quotas"] : List String).map Str.ofString := by
      simp only [policyData, Dict.ofList, List.map_cons, List.map_nil]
    rw [hnames]
    decide +kernel
  · simp only [policyData, Dict.ofList, List.forall_mem_map, List.forall_mem_cons]
    exact ⟨readable_savedTable o h.rules, readable_savedTable o h.trust, hlimits, hquotas, by simp⟩

theorem readPolicyFile_saved (hd : 3 ≤ i.depth) (h : policy.Stored i) :
    readPolicyFile i (savePolicy o policy) = .ok (.obj (policyData o policy)) := by
  rw [readPolicyFile, savePolicy, loads_write quotes_ascii _ (readable_policyData o hd h)]
  rfl

/-- What was saved is loaded, without a failure. -/
theorem loadPolicy_saved (hd : 3 ≤ i.depth) (h : policy.Stored i) :
    loadPolicy (some (readPolicyFile i (savePolicy o policy))) = ⟨policy.reordered o, false⟩ := by
  have hdata : (Except.ok (Json.obj (policyData o policy)) >>= asDict) = (.ok (policyData o policy) : Except PyErr Dict) := rfl
  have hrules : sectionTable (policyData o policy) "delegation_rules" = .ok (policy.delegationRules.reordered o) :=
    sectionTable_saved h.rules (by simp [policyData])
  have htrust : sectionTable (policyData o policy) "agent_trust" = .ok (policy.agentTrust.reordered o) :=
    sectionTable_saved h.trust (by simp [policyData])
  have hrun : (loadSections (.ok (.obj (policyData o policy)))).on defaultPolicy = (.ok (), policy.reordered o) := by
    unfold loadSections
    rw [hdata, Statements.on_bind_ok (Statements.on_ofExcept _), hrules, Statements.on_bind_ok (Statements.on_ofExcept _),
      Statements.on_bind_ok (Statements.on_modify _), htrust, Statements.on_bind_ok (Statements.on_ofExcept _),
      Statements.on_bind_ok (Statements.on_modify _), Statements.on_bind_ok (Statements.on_modify _), Statements.on_modify]
    simp [LoadedPolicy.reordered, Dict.getD, policyData]
  rw [readPolicyFile_saved o hd h, loadPolicy]
  simp only [hrun]

theorem LoadedPolicy.Stored.reordered (h : policy.Stored i) : (policy.reordered o).Stored i where
  rules := h.rules.of_alike (SetTable.reordered_alike o _)
  trust := h.trust.of_alike (SetTable.reordered_alike o _)
  rateLimits := h.rateLimits
  delegationQuotas := h.delegationQuotas

end

/-! ## Answers -/

section
variable (p : Platform)

theorem inSet_perm {xs ys : List Json} (h : xs.Perm ys) (x : Json) : inSet x xs = inSet x ys := by
  rw [inSet, inSet, SetTable.any_perm h]

theorem getSet_alike {t t' : SetTable} (h : t.Alike t') (key : Json) :
    (∃ xs ys, t.getSet key = .ok xs ∧ t'.getSet key = .ok ys ∧ xs.Perm ys) ∨
      ∃ e, t.getSet key = .error e ∧ t'.getSet key = .error e := by
  cases key with
  | str k => exact .inl ⟨_, _, rfl, rfl, h.find k⟩
  | _ =>
    simp only [SetTable.getSet]
    split
    · exact .inl ⟨[], [], rfl, rfl, .refl _⟩
    · exact .inr ⟨_, rfl, rfl⟩

/-- Two policies that differ in the order of their sets. -/
structure DelegationPolicy.Alike (policy policy' : DelegationPolicy) : Prop where
  rules : policy.delegationRules.Alike policy'.delegationRules
  trust : policy.agentTrust.Alike policy'.agentTrust

variable {policy policy' : DelegationPolicy} (h : policy.Alike policy')
include h

theorem canDelegate_alike (fromAgentId : Json) (toAgentId : Str) (action : Json) :
    policy.canDelegate p fromAgentId toAgentId action = policy'.canDelegate p fromAgentId toAgentId action := by
  unfold DelegationPolicy.canDelegate
  rcases getSet_alike h.rules fromAgentId with ⟨xs, ys, hx, hy, hperm⟩ | ⟨e, hx, hy⟩
  · rw [hx, hy, ok_bind, ok_bind, inSet_perm hperm]
    rcases getSet_alike h.trust fromAgentId with ⟨xs', ys', hx', hy', hperm'⟩ | ⟨e, hx', hy'⟩
    · simp only [hx', hy', ok_bind, inSet_perm hperm', SetTable.nil_iff_of_perm hperm, SetTable.nil_iff_of_perm hperm']
    · simp only [hx', hy', error_bind, SetTable.nil_iff_of_perm hperm]
  · simp only [hx, hy, error_bind]

theorem canPerformTask_alike (agentId : Str) (action : Json) :
    policy.canPerformTask p agentId action = policy'.canPerformTask p agentId action := by
  have hperm := h.rules.find agentId
  unfold DelegationPolicy.canPerformTask
  simp only [SetTable.nil_iff_of_perm hperm, inSet_perm hperm]

/-- The order of the sets does not show in an answer, nor in its reason. -/
theorem evaluate_alike (action fromAgentId : Json) (toAgentId : Str) :
    evaluateDelegationRequest p policy action fromAgentId toAgentId =
      evaluateDelegationRequest p policy' action fromAgentId toAgentId := by
  unfold evaluateDelegationRequest
  rw [canDelegate_alike p h, canPerformTask_alike p h]

theorem run_alike (op : DelegationPolicy.Operation) : (op.run policy).Alike (op.run policy') := by
  cases op with
  | addDelegationRule agentId action => exact ⟨h.rules.add _ _, h.trust⟩
  | removeDelegationRule agentId action => exact ⟨h.rules.discard _ _, h.trust⟩
  | addTrustRelationship fromAgentId toAgentId => exact ⟨h.rules, h.trust.add _ _⟩
  | removeTrustRelationship fromAgentId toAgentId => exact ⟨h.rules, h.trust.discard _ _⟩

end

/-! ## Runs with restarts -/

inductive PolicyEvent where
  | change (op : DelegationPolicy.Operation)
  | save (o : SetOrder)
  | restart

/-- An engine's policy, and the policy file. -/
structure PolicyStore where
  policy : LoadedPolicy
  file : Option Str

/-- `DelegationPolicy(policy_file)` -/
def PolicyStore.start (i : Interpreter) (file : Option Str) : PolicyStore :=
  ⟨(loadPolicy (file.map (readPolicyFile i))).policy, file⟩

def PolicyStore.step (i : Interpreter) (s : PolicyStore) : PolicyEvent → PolicyStore
  | .change op => { s with policy := { s.policy with toDelegationPolicy := op.run s.policy.toDelegationPolicy } }
  | .save o => { s with file := some (savePolicy o s.policy) }
  | .restart => .start i s.file

/-- What counts of a run: the changes that were saved last, and those that are in force. -/
structure Remembered where
  saved : List DelegationPolicy.Operation
  current : List DelegationPolicy.Operation

def Remembered.step (m : Remembered) : PolicyEvent → Remembered
  | .change op => { m with current := m.current ++ [op] }
  | .save _ => { m with saved := m.current }
  | .restart => { m with current := m.saved }

/-- The changes in force after a run. -/
def remembered (events : List PolicyEvent) : List DelegationPolicy.Operation :=
  (events.foldl Remembered.step ⟨[], []⟩).current

/-- The policy stands for `base` after some changes. -/
structure StandsFor (i : Interpreter) (base : LoadedPolicy) (changes : List DelegationPolicy.Operation)
    (policy : LoadedPolicy) : Prop where
  alike : policy.toDelegationPolicy.Alike (changes.foldl DelegationPolicy.Operation.run base.toDelegationPolicy)
  stored : policy.Stored i
  rateLimits : policy.rateLimits = base.rateLimits
  delegationQuotas : policy.delegationQuotas = base.delegationQuotas

section
variable {i : Interpreter} {base policy : LoadedPolicy} {changes : List DelegationPolicy.Operation}

theorem StandsFor.change (h : StandsFor i base changes policy) (op : DelegationPolicy.Operation) :
    StandsFor i base (changes ++ [op]) { policy with toDelegationPolicy := op.run policy.toDelegationPolicy } where
  alike := by
    rw [List.foldl_append]
    exact run_alike h.alike op
  stored := by
    obtain ⟨hrules, htrust, hlimits, hquotas⟩ := h.stored
    cases op with
    | addDelegationRule agentId action => exact ⟨hrules.add _ _, htrust, hlimits, hquotas⟩
    | removeDelegationRule agentId action => exact ⟨hrules.discard _ _, htrust, hlimits, hquotas⟩
    | addTrustRelationship fromAgentId toAgentId => exact ⟨hrules, htrust.add _ _, hlimits, hquotas⟩
    | removeTrustRelationship fromAgentId toAgentId => exact ⟨hrules, htrust.discard _ _, hlimits, hquotas⟩
  rateLimits := h.rateLimits
  delegationQuotas := h.delegationQuotas

theorem StandsFor.reordered (h : StandsFor i base changes policy) (o : SetOrder) :
    StandsFor i base changes (policy.reordered o) where
  alike := ⟨(SetTable.reordered_alike o _).trans h.alike.rules, (SetTable.reordered_alike o _).trans h.alike.trust⟩
  stored := h.stored.reordered o
  rateLimits := h.rateLimits
  delegationQuotas := h.delegationQuotas

/-- The engine stands for the changes in force, and its file for those that were saved. -/
structure PolicyStore.Remembers (i : Interpreter) (base : LoadedPolicy) (s : PolicyStore) (m : Remembered) : Prop where
  policy : StandsFor i base m.current s.policy
  file : StandsFor i base m.saved (PolicyStore.start i s.file).policy

/-- Every event keeps the engine and its file in step with what counts. -/
theorem remembers_step (hd : 3 ≤ i.depth) {s : PolicyStore} {m : Remembered} (h : s.Remembers i base m) (event : PolicyEvent) :
    (s.step i event).Remembers i base (m.step event) := by
  cases event with
  | change op => exact ⟨h.policy.change op, h.file⟩
  | save o =>
    refine ⟨h.policy, ?_⟩
    have hload : (PolicyStore.start i (some (savePolicy o s.policy))).policy = s.policy.reordered o :=
      congrArg LoadResult.policy (loadPolicy_saved o hd h.policy.stored)
    show StandsFor i base m.current (PolicyStore.start i (some (savePolicy o s.policy))).policy
    rw [hload]
    exact h.policy.reordered o
  | restart => exact ⟨h.file, h.file⟩

theorem remembers_run (hd : 3 ≤ i.depth) {s : PolicyStore} {m : Remembered} (h : s.Remembers i base m)
    (events : List PolicyEvent) : (events.foldl (PolicyStore.step i) s).Remembers i base (events.foldl Remembered.step m) := by
  induction events generalizing s m with
  | nil => exact h
  | cons event events ih => exact ih (remembers_step hd h event)

end

/-- Over any run of changes, saves and restarts, an engine answers like the policy it started with after the changes in
force: all but those that a restart lost because they had not been saved. -/
theorem restarts_transparent (p : Platform) {i : Interpreter} (hd : 3 ≤ i.depth) (file : Option Str)
    (hbase : (PolicyStore.start i file).policy.Stored i) (events : List PolicyEvent) (action fromAgentId : Json)
    (toAgentId : Str) :
    evaluateDelegationRequest p (events.foldl (PolicyStore.step i) (.start i file)).policy.toDelegationPolicy action
        fromAgentId toAgentId =
      evaluateDelegationRequest p ((remembered events).foldl DelegationPolicy.Operation.run
        (PolicyStore.start i file).policy.toDelegationPolicy) action fromAgentId toAgentId := by
  have hstart : (PolicyStore.start i file).Remembers i (PolicyStore.start i file).policy ⟨[], []⟩ := by
    have hstands : StandsFor i (PolicyStore.start i file).policy [] (PolicyStore.start i file).policy :=
      ⟨⟨.refl _, .refl _⟩, hbase, rfl, rfl⟩
    exact ⟨hstands, hstands⟩
  exact evaluate_alike p (remembers_run hd hstart events).policy.alike action fromAgentId toAgentId

/-! ### A revocation that was not saved -/

namespace Sample

def backwards : SetOrder where
  order := List.reverse
  perm := List.reverse_perm

def revokedUnsaved : List PolicyEvent := [
  .change (.addDelegationRule "c0" "PROCESS_DATA"), .change (.addDelegationRule "w1" "VALIDATE_QUALITY"),
  .change (.addDelegationRule "w1" "PROCESS_DATA"), .change (.addTrustRelationship "c0" "w1"), .save backwards,
  .change (.removeDelegationRule "w1" "PROCESS_DATA"), .restart]

theorem default_stored : (PolicyStore.start interpreter none).policy.Stored interpreter where
  rules := ⟨List.nodup_nil, by simp [PolicyStore.start, loadPolicy, defaultPolicy]⟩
  trust := ⟨List.nodup_nil, by simp [PolicyStore.start, loadPolicy, defaultPolicy]⟩
  rateLimits := .obj List.nodup_nil (by simp)
  delegationQuotas := .obj List.nodup_nil (by simp)

theorem revocation_lost : evaluateDelegationRequest platform
    (revokedUnsaved.foldl (PolicyStore.step interpreter) (.start interpreter none)).policy.toDelegationPolicy
    (.str "PROCESS_DATA") (.str "c0") "w1" = .ok (true, "Delegation request approved by policy") :=
  (restarts_transparent platform (by decide) none default_stored revokedUnsaved _ _ _).trans rfl

end Sample

end Adn
