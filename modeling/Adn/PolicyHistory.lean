import Adn.DelegationPolicy
/-!
# The history of a policy

The calls that add and remove rules and trust relationships, from an empty policy. What
the engine answers is what the last call on each of three pairs was (`answers_history`),
and no agent is stored with an empty set.
-/

open Lib

namespace Adn

/-! ## Tables of sets -/

namespace SetTable

/-- `xs.add(x)` -/
def setAdd (x : Json) (xs : List Json) : List Json := if xs.any (·.pyEq x) then xs else xs ++ [x]

/-- `xs.discard(x)` -/
def setDiscard (x : Json) (xs : List Json) : List Json := xs.filter fun y => !y.pyEq x

/-- `if k not in table: table[k] = set()`, `table[k].add(x)` -/
def add (t : SetTable) (k : Str) (x : Json) : SetTable :=
  match t with
  | [] => [(k, setAdd x [])]
  | (k', xs) :: t => if k' = k then (k', setAdd x xs) :: t else (k', xs) :: add t k x

/-- `if k in table: table[k].discard(x)`, `if not table[k]: del table[k]` -/
def discard (t : SetTable) (k : Str) (x : Json) : SetTable :=
  match t with
  | [] => []
  | (k', xs) :: t =>
    if k' = k then if setDiscard x xs = [] then t else (k', setDiscard x xs) :: t else (k', xs) :: discard t k x

/-- A table whose keys are distinct, without empty sets. -/
structure Wf (t : SetTable) : Prop where
  keys : (t.map (·.1)).Nodup
  nonempty : ∀ e ∈ t, e.2 ≠ []

theorem find_of_notMem {t : SetTable} {k : Str} (hk : k ∉ t.map (·.1)) : t.find k = [] := by
  induction t with
  | nil => rfl
  | cons e t ih =>
    rw [List.map_cons, List.mem_cons, not_or] at hk
    rw [find, if_neg (Ne.symm hk.1), ih hk.2]

theorem Wf.find_ne_nil {t : SetTable} (ht : t.Wf) {k : Str} (hk : k ∈ t.map (·.1)) : t.find k ≠ [] := by
  obtain ⟨-, hne⟩ := ht
  induction t with
  | nil => cases hk
  | cons e t ih =>
    rw [find]
    split
    · exact hne e List.mem_cons_self
    · rename_i he
      rcases List.mem_cons.mp hk with rfl | hk
      · exact absurd rfl he
      · exact ih hk fun e' he' => hne e' (List.mem_cons_of_mem e he')

theorem find_add (t : SetTable) (k : Str) (x : Json) (k' : Str) :
    (t.add k x).find k' = if k = k' then setAdd x (t.find k) else t.find k' := by
  induction t with
  | nil => simp only [add, find]
  | cons e t ih =>
    simp only [add]
    split
    · subst k
      simp only [find]
      split <;> simp
    · rename_i hne
      simp only [find, ih, hne, if_false]
      split
      · rename_i he
        rw [if_neg (fun h => hne (he.trans h.symm))]
      · rfl

theorem keys_add (t : SetTable) (k : Str) (x : Json) {k' : Str} :
    k' ∈ (t.add k x).map (·.1) ↔ k' = k ∨ k' ∈ t.map (·.1) := by
  induction t with
  | nil => simp [add]
  | cons e t ih =>
    simp only [add]
    split
    · subst k
      simp
    · rw [List.map_cons, List.mem_cons, ih, List.map_cons, List.mem_cons]
      tauto

theorem setAdd_ne_nil (x : Json) (xs : List Json) : setAdd x xs ≠ [] := by
  unfold setAdd
  split
  · rintro rfl
    contradiction
  · simp

theorem Wf.add {t : SetTable} (ht : t.Wf) (k : Str) (x : Json) : (t.add k x).Wf := by
  obtain ⟨hkeys, hne⟩ := ht
  induction t with
  | nil => exact ⟨by simp [SetTable.add], by simp [SetTable.add, setAdd_ne_nil]⟩
  | cons e t ih =>
    rw [List.map_cons, List.nodup_cons] at hkeys
    obtain ⟨he, hne⟩ := List.forall_mem_cons.mp hne
    simp only [SetTable.add]
    split
    · exact ⟨List.nodup_cons.mpr hkeys, List.forall_mem_cons.mpr ⟨setAdd_ne_nil _ _, hne⟩⟩
    · rename_i hk
      obtain ⟨ihkeys, ihne⟩ := ih hkeys.2 hne
      refine ⟨List.nodup_cons.mpr ⟨?_, ihkeys⟩, List.forall_mem_cons.mpr ⟨he, ihne⟩⟩
      rw [keys_add, not_or]
      exact ⟨hk, hkeys.1⟩

theorem keys_discard (t : SetTable) (k : Str) (x : Json) {k' : Str} (hk : k' ∈ (t.discard k x).map (·.1)) :
    k' ∈ t.map (·.1) := by
  induction t with
  | nil => cases hk
  | cons e t ih =>
    simp only [discard] at hk
    split at hk
    · split at hk
      · exact List.mem_cons_of_mem _ hk
      · exact hk
    · rcases List.mem_cons.mp hk with rfl | hk
      · exact List.mem_cons_self
      · exact List.mem_cons_of_mem _ (ih hk)

theorem Wf.discard {t : SetTable} (ht : t.Wf) (k : Str) (x : Json) : (t.discard k x).Wf := by
  obtain ⟨hkeys, hne⟩ := ht
  induction t with
  | nil => exact ⟨hkeys, hne⟩
  | cons e t ih =>
    rw [List.map_cons, List.nodup_cons] at hkeys
    obtain ⟨he, hne⟩ := List.forall_mem_cons.mp hne
    simp only [SetTable.discard]
    split
    · split
      · exact ⟨hkeys.2, hne⟩
      · rename_i hx
        exact ⟨List.nodup_cons.mpr hkeys, List.forall_mem_cons.mpr ⟨hx, hne⟩⟩
    · obtain ⟨ihkeys, ihne⟩ := ih hkeys.2 hne
      exact ⟨List.nodup_cons.mpr ⟨fun h => hkeys.1 (keys_discard t k x h), ihkeys⟩, List.forall_mem_cons.mpr ⟨he, ihne⟩⟩

theorem Wf.find_discard {t : SetTable} (ht : t.Wf) (k : Str) (x : Json) (k' : Str) :
    (t.discard k x).find k' = if k = k' then setDiscard x (t.find k) else t.find k' := by
  obtain ⟨hkeys, -⟩ := ht
  induction t with
  | nil => simp [SetTable.discard, find, setDiscard]
  | cons e t ih =>
    rw [List.map_cons, List.nodup_cons] at hkeys
    simp only [SetTable.discard]
    split
    · subst k
      split
      · rename_i hx
        simp only [find]
        split
        · rename_i he
          subst k'
          rw [find_of_notMem hkeys.1]
          simpa using hx.symm
        · rfl
      · simp only [find]
        split <;> simp
    · rename_i hne
      simp only [find, ih hkeys.2, hne, if_false]
      split
      · rename_i he
        rw [if_neg (fun h => hne (he.trans h.symm))]
      · rfl

/-! ## What a table was told -/

/-- A change of a table: an element of a key's set is added or removed. -/
structure Change where
  key : Str
  element : Str
  added : Bool

def apply (t : SetTable) (c : Change) : SetTable :=
  if c.added then t.add c.key (.str c.element) else t.discard c.key (.str c.element)

/-- What the last change of a pair was. -/
def last (cs : List Change) (key element : Str) : Option Bool :=
  ((cs.filter fun c => c.key = key ∧ c.element = element).getLast?).map Change.added

theorem last_snoc (cs : List Change) (c : Change) (key element : Str) : last (cs ++ [c]) key element =
    if c.key = key ∧ c.element = element then some c.added else last cs key element := by
  unfold last
  rw [List.filter_append]
  split
  · rename_i h
    simp [h]
  · rename_i h
    simp [h]

theorem mem_setAdd {a b : Str} {xs : List Json} : Json.str a ∈ setAdd (.str b) xs ↔ b = a ∨ Json.str a ∈ xs := by
  unfold setAdd
  split
  · rename_i h
    obtain ⟨y, hy, he⟩ := List.any_eq_true.mp h
    obtain rfl := Json.pyEq_str.mp he
    refine ⟨.inr, ?_⟩
    rintro (rfl | h)
    · exact hy
    · exact h
  · simp only [List.mem_append, List.mem_singleton, Json.str.injEq]
    tauto

theorem mem_setDiscard {a b : Str} {xs : List Json} :
    Json.str a ∈ setDiscard (.str b) xs ↔ b ≠ a ∧ Json.str a ∈ xs := by
  have h : (Json.str a).pyEq (.str b) = true ↔ b = a := by
    rw [Json.pyEq_str, Json.str.injEq, eq_comm]
  simp only [setDiscard, List.mem_filter, Bool.not_eq_true', ← Bool.not_eq_true, h]
  tauto

/-- A change moves the pair that it is about, and no other. -/
theorem Wf.mem_apply {t : SetTable} (ht : t.Wf) (c : Change) (key element : Str) :
    Json.str element ∈ (t.apply c).find key ↔
      if c.key = key ∧ c.element = element then c.added = true else Json.str element ∈ t.find key := by
  unfold apply
  split
  · rename_i hadd
    rw [find_add]
    by_cases hk : c.key = key
    · simp only [hk, true_and, if_true, mem_setAdd, hadd]
      split <;> simp_all
    · simp only [hk, false_and, if_false]
  · rename_i hadd
    rw [ht.find_discard]
    by_cases hk : c.key = key
    · simp only [hk, true_and, if_true, mem_setDiscard, hadd]
      split <;> simp_all
    · simp only [hk, false_and, if_false]

theorem Wf.apply {t : SetTable} (ht : t.Wf) (c : Change) : (t.apply c).Wf := by
  unfold SetTable.apply
  split
  · exact ht.add _ _
  · exact ht.discard _ _

/-- Only texts are in a table that was told texts. -/
theorem texts_apply {t : SetTable} (ht : t.Wf) (htexts : ∀ k, ∀ x ∈ t.find k, ∃ s, x = .str s) (c : Change) :
    ∀ k, ∀ x ∈ (t.apply c).find k, ∃ s, x = .str s := by
  intro k x hx
  unfold SetTable.apply at hx
  split at hx
  · rw [find_add] at hx
    split at hx
    · unfold setAdd at hx
      split at hx
      · exact htexts _ x hx
      · rcases List.mem_append.mp hx with hx | hx
        · exact htexts _ x hx
        · exact ⟨_, List.mem_singleton.mp hx⟩
    · exact htexts k x hx
  · rw [ht.find_discard] at hx
    split at hx
    · exact htexts _ x (List.mem_of_mem_filter hx)
    · exact htexts k x hx

/-- A table that was told some changes, starting empty. -/
def told (cs : List Change) : SetTable := cs.foldl apply []

theorem told_append (cs ds : List Change) : told (cs ++ ds) = ds.foldl apply (told cs) := List.foldl_append

theorem told_wf (cs : List Change) : (told cs).Wf := by
  induction cs using List.reverseRecOn with
  | nil => exact ⟨List.nodup_nil, by simp [told]⟩
  | append_singleton cs c ih =>
    rw [told, List.foldl_append]
    exact ih.apply c

/-- A table holds a pair exactly if the last change of the pair added it. -/
theorem mem_told (cs : List Change) (key element : Str) :
    Json.str element ∈ (told cs).find key ↔ last cs key element = some true := by
  induction cs using List.reverseRecOn with
  | nil => simp [told, find, last]
  | append_singleton cs c ih =>
    rw [told, List.foldl_append, last_snoc]
    refine ((told_wf cs).mem_apply c key element).trans ?_
    split
    · rw [Option.some.injEq]
    · exact ih

theorem told_texts (cs : List Change) : ∀ k, ∀ x ∈ (told cs).find k, ∃ s, x = .str s := by
  induction cs using List.reverseRecOn with
  | nil => simp [told, find]
  | append_singleton cs c ih =>
    rw [told, List.foldl_append]
    exact texts_apply (told_wf cs) ih c

/-- A key with nothing left is not stored. -/
theorem told_keys {cs : List Change} {key : Str} (h : ∀ element, last cs key element ≠ some true) :
    key ∉ (told cs).map (·.1) := by
  intro hk
  refine (told_wf cs).find_ne_nil hk (List.eq_nil_iff_forall_not_mem.mpr fun x hx => ?_)
  obtain ⟨s, rfl⟩ := told_texts cs key x hx
  exact h s ((mem_told cs key s).mp hx)

end SetTable

/-! ## Policies -/

namespace DelegationPolicy

def addDelegationRule (policy : DelegationPolicy) (agentId action : Str) : DelegationPolicy :=
  { policy with delegationRules := policy.delegationRules.add agentId (.str action) }

def removeDelegationRule (policy : DelegationPolicy) (agentId action : Str) : DelegationPolicy :=
  { policy with delegationRules := policy.delegationRules.discard agentId (.str action) }

def addTrustRelationship (policy : DelegationPolicy) (fromAgentId toAgentId : Str) : DelegationPolicy :=
  { policy with agentTrust := policy.agentTrust.add fromAgentId (.str toAgentId) }

def removeTrustRelationship (policy : DelegationPolicy) (fromAgentId toAgentId : Str) : DelegationPolicy :=
  { policy with agentTrust := policy.agentTrust.discard fromAgentId (.str toAgentId) }

/-- A call that changes a policy. -/
inductive Operation where
  | addDelegationRule (agentId action : Str)
  | removeDelegationRule (agentId action : Str)
  | addTrustRelationship (fromAgentId toAgentId : Str)
  | removeTrustRelationship (fromAgentId toAgentId : Str)
deriving DecidableEq

namespace Operation

def run (policy : DelegationPolicy) : Operation → DelegationPolicy
  | .addDelegationRule agentId action => policy.addDelegationRule agentId action
  | .removeDelegationRule agentId action => policy.removeDelegationRule agentId action
  | .addTrustRelationship fromAgentId toAgentId => policy.addTrustRelationship fromAgentId toAgentId
  | .removeTrustRelationship fromAgentId toAgentId => policy.removeTrustRelationship fromAgentId toAgentId

/-- The change of the rules that a call makes. -/
def rule? : Operation → Option SetTable.Change
  | .addDelegationRule agentId action => some ⟨agentId, action, true⟩
  | .removeDelegationRule agentId action => some ⟨agentId, action, false⟩
  | _ => none

/-- The change of the trust relationships that a call makes. -/
def trust? : Operation → Option SetTable.Change
  | .addTrustRelationship fromAgentId toAgentId => some ⟨fromAgentId, toAgentId, true⟩
  | .removeTrustRelationship fromAgentId toAgentId => some ⟨fromAgentId, toAgentId, false⟩
  | _ => none

end Operation

/-- The policy after some calls, starting empty. -/
def after (history : List Operation) : DelegationPolicy := history.foldl Operation.run ⟨[], []⟩

/-- What the last rule call on an agent and an action was: to add, to remove, or none. -/
def lastRule (history : List Operation) (agentId action : Str) : Option Bool :=
  SetTable.last (history.filterMap Operation.rule?) agentId action

/-- What the last trust call on two agents was. -/
def lastTrust (history : List Operation) (fromAgentId toAgentId : Str) : Option Bool :=
  SetTable.last (history.filterMap Operation.trust?) fromAgentId toAgentId

/-- Each table of a policy was told the calls about it. -/
theorem after_tables (history : List Operation) : after history =
    ⟨SetTable.told (history.filterMap Operation.rule?), SetTable.told (history.filterMap Operation.trust?)⟩ := by
  induction history using List.reverseRecOn with
  | nil => rfl
  | append_singleton history op ih =>
    rw [after, List.foldl_append, ← after, ih, List.filterMap_append, List.filterMap_append, SetTable.told_append,
      SetTable.told_append]
    cases op <;> rfl

theorem inSet_text (a : Str) (xs : List Json) : ∃ b, inSet (.str a) xs = .ok b ∧ (b = true ↔ Json.str a ∈ xs) := by
  refine ⟨_, if_pos rfl, ?_⟩
  rw [List.any_eq_true]
  constructor
  · rintro ⟨y, hy, he⟩
    rwa [← Json.pyEq_str.mp he]
  · exact fun h => ⟨_, h, Json.pyEq_str.mpr rfl⟩

variable (p : Platform)

theorem canDelegate_texts (policy : DelegationPolicy) (fromAgentId toAgentId action : Str) :
    ∃ b reason, policy.canDelegate p (.str fromAgentId) toAgentId (.str action) = .ok (b, reason) ∧
      (b = true ↔ Json.str action ∈ policy.delegationRules.find fromAgentId ∧
        Json.str toAgentId ∈ policy.agentTrust.find fromAgentId) := by
  obtain ⟨b, hb, hrule⟩ := inSet_text action (policy.delegationRules.find fromAgentId)
  obtain ⟨b', hb', htrust⟩ := inSet_text toAgentId (policy.agentTrust.find fromAgentId)
  simp only [canDelegate, SetTable.getSet, hb, hb', bind, Except.bind, pure, Except.pure]
  by_cases hr : policy.delegationRules.find fromAgentId = []
  · rw [if_pos hr]
    exact ⟨false, _, rfl, by simp [hr]⟩
  rw [if_neg hr]
  by_cases hrb : b = true
  · rw [if_pos hrb]
    by_cases ht : policy.agentTrust.find fromAgentId = []
    · rw [if_pos ht]
      exact ⟨false, _, rfl, by simp [ht]⟩
    rw [if_neg ht]
    by_cases htb : b' = true
    · rw [if_pos htb]
      exact ⟨true, _, rfl, by simp [hrule.mp hrb, htrust.mp htb]⟩
    · rw [if_neg htb]
      exact ⟨false, _, rfl, by simp [mt htrust.mpr htb]⟩
  · rw [if_neg hrb]
    exact ⟨false, _, rfl, by simp [mt hrule.mpr hrb]⟩

theorem canPerformTask_texts (policy : DelegationPolicy) (agentId action : Str) :
    ∃ b reason, policy.canPerformTask p agentId (.str action) = .ok (b, reason) ∧
      (b = true ↔ Json.str action ∈ policy.delegationRules.find agentId) := by
  obtain ⟨b, hb, hrule⟩ := inSet_text action (policy.delegationRules.find agentId)
  by_cases hr : policy.delegationRules.find agentId = []
  · exact ⟨false, _, if_pos hr, by simp [hr]⟩
  · refine ⟨b, ?_⟩
    unfold canPerformTask
    simp only [if_neg hr]
    cases b with
    | false => exact ⟨_, bind_ok.2 ⟨_, hb, rfl⟩, hrule⟩
    | true => exact ⟨_, bind_ok.2 ⟨_, hb, rfl⟩, hrule⟩

/-- What the engine answers about texts: the delegator has the rule, trusts the target, and the target has the rule. -/
theorem evaluate_texts (policy : DelegationPolicy) (fromAgentId toAgentId action : Str) :
    ∃ b reason, evaluateDelegationRequest p policy (.str action) (.str fromAgentId) toAgentId = .ok (b, reason) ∧
      (b = true ↔ Json.str action ∈ policy.delegationRules.find fromAgentId ∧
        Json.str toAgentId ∈ policy.agentTrust.find fromAgentId ∧
        Json.str action ∈ policy.delegationRules.find toAgentId) := by
  obtain ⟨b, reason, hb, hdelegate⟩ := policy.canDelegate_texts p fromAgentId toAgentId action
  obtain ⟨b', reason', hb', hperform⟩ := policy.canPerformTask_texts p toAgentId action
  cases b with
  | false =>
    refine ⟨false, _, bind_ok.2 ⟨_, hb, rfl⟩, ?_⟩
    rw [← and_assoc, ← hdelegate]
    simp
  | true =>
    cases b' with
    | false =>
      refine ⟨false, _, bind_ok.2 ⟨_, hb, bind_ok.2 ⟨_, hb', rfl⟩⟩, ?_⟩
      rw [← and_assoc, ← hperform]
      simp
    | true =>
      refine ⟨true, _, bind_ok.2 ⟨_, hb, bind_ok.2 ⟨_, hb', rfl⟩⟩, ?_⟩
      rw [← and_assoc, ← hdelegate, ← hperform]
      simp

/-- The agent or the action is named by none of the calls. -/
def Unnamed (history : List Operation) (name : Str) : Prop := ∀ op ∈ history, ∀ c, op.rule? = some c ∨ op.trust? = some c →
  c.key ≠ name ∧ c.element ≠ name

theorem last_unnamed {cs : List SetTable.Change} {key element : Str}
    (h : ∀ c ∈ cs, ¬(c.key = key ∧ c.element = element)) : SetTable.last cs key element = none := by
  have hnil : cs.filter (fun c => c.key = key ∧ c.element = element) = [] := by
    simpa [List.filter_eq_nil_iff] using h
  rw [SetTable.last, hnil]
  rfl

theorem lastRule_unnamed {history : List Operation} {name : Str} (h : Unnamed history name) {agentId action : Str}
    (hn : agentId = name ∨ action = name) : lastRule history agentId action = none := by
  refine last_unnamed fun c hc => ?_
  obtain ⟨op, hop, hc⟩ := List.mem_filterMap.mp hc
  obtain ⟨hkey, helement⟩ := h op hop c (.inl hc)
  rintro ⟨rfl, rfl⟩
  exact hn.elim hkey helement

theorem lastTrust_unnamed {history : List Operation} {name : Str} (h : Unnamed history name)
    {fromAgentId toAgentId : Str} (hn : fromAgentId = name ∨ toAgentId = name) :
    lastTrust history fromAgentId toAgentId = none := by
  refine last_unnamed fun c hc => ?_
  obtain ⟨op, hop, hc⟩ := List.mem_filterMap.mp hc
  obtain ⟨hkey, helement⟩ := h op hop c (.inr hc)
  rintro ⟨rfl, rfl⟩
  exact hn.elim hkey helement

/-- After any calls the engine answers by the last call on each of three pairs, denies what no call names, and stores
no agent that has nothing left. -/
theorem answers_history (history : List Operation) :
    (∀ fromAgentId toAgentId action, ∃ reason,
      evaluateDelegationRequest p (after history) (.str action) (.str fromAgentId) toAgentId =
        .ok (decide (lastRule history fromAgentId action = some true ∧ lastTrust history fromAgentId toAgentId = some true ∧
          lastRule history toAgentId action = some true), reason)) ∧
    (∀ name fromAgentId toAgentId action, Unnamed history name →
      fromAgentId = name ∨ toAgentId = name ∨ action = name → ∃ reason,
        evaluateDelegationRequest p (after history) (.str action) (.str fromAgentId) toAgentId = .ok (false, reason)) ∧
    (∀ e ∈ (after history).delegationRules, e.2 ≠ []) ∧ (∀ e ∈ (after history).agentTrust, e.2 ≠ []) ∧
    (∀ agentId, (∀ action, lastRule history agentId action ≠ some true) →
      agentId ∉ (after history).delegationRules.map (·.1)) ∧
    ∀ agentId, (∀ toAgentId, lastTrust history agentId toAgentId ≠ some true) →
      agentId ∉ (after history).agentTrust.map (·.1) := by
  have hanswer (fromAgentId toAgentId action : Str) : ∃ reason,
      evaluateDelegationRequest p (after history) (.str action) (.str fromAgentId) toAgentId =
        .ok (decide (lastRule history fromAgentId action = some true ∧ lastTrust history fromAgentId toAgentId = some true ∧
          lastRule history toAgentId action = some true), reason) := by
    obtain ⟨b, reason, hb, hiff⟩ := evaluate_texts p (after history) fromAgentId toAgentId action
    rw [after_tables, SetTable.mem_told, SetTable.mem_told, SetTable.mem_told] at hiff
    refine ⟨reason, hb.trans ?_⟩
    rw [Bool.eq_iff_iff.mpr (hiff.trans (decide_eq_true_iff).symm)]
    rfl
  refine ⟨hanswer, ?_, ?_, ?_, ?_, ?_⟩
  · intro name fromAgentId toAgentId action hu hn
    obtain ⟨reason, hr⟩ := hanswer fromAgentId toAgentId action
    refine ⟨reason, hr.trans ?_⟩
    rcases hn with h | h | h
    · rw [lastRule_unnamed hu (.inl h)]
      rfl
    · rw [lastTrust_unnamed hu (.inr h)]
      simp
    · rw [lastRule_unnamed hu (.inr h)]
      rfl
  · rw [after_tables]
    exact (SetTable.told_wf _).nonempty
  · rw [after_tables]
    exact (SetTable.told_wf _).nonempty
  · intro agentId h
    rw [after_tables]
    exact SetTable.told_keys h
  · intro agentId h
    rw [after_tables]
    exact SetTable.told_keys h

end DelegationPolicy

end Adn
