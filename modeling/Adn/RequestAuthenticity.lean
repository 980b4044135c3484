import Adn.Network
import Adn.Sample
/-!
# Who signed a request

Validation ties the envelope's `agent_id` to the signing key, but it never
compares it with `delegation_data.from_agent_id`, which is the delegator the
policy is evaluated for. `delegator_is_signer_iff` says when the two agree.
-/

open Lib

namespace Adn

section
variable {p : Platform} {env : Env} {agent : Agent} {caller : CallerContext} {c : Circumstances} {signed : Dict}
  {L : Ledger} {records : Records}

/-! ## The delegator -/

/-- The delegator that `delegation_data` names. -/
def claimedDelegator (signed : Dict) : Json :=
  match delegationData signed with
  | .obj data => Dict.getD data "from_agent_id" (.str [])
  | _ => .null

/-- `delegation_data` names the agent id of the envelope as delegator. -/
def NamesSigner (signed : Dict) : Prop := claimedDelegator signed = signed.get "agent_id"

/-- The agent id of the key that signed the envelope. -/
def SignerId (p : Platform) (signed : Dict) (id : Json) : Prop :=
  ∃ key, SignedBy p signed key ∧ id = .str (p.fingerprint key)

/-- The policy is evaluated once, for the delegator that validation yields. -/
theorem policyEvaluated_iff {delegator : Json} {target : Str} {action : Json} :
    Effect.policyEvaluated delegator target action ∈
        (processDelegationRequest p env agent caller c signed L records).effects ↔
      ∃ request key, receive p env agent caller c.clock signed = .ok (request, key) ∧
        delegator = request.fromAgentId ∧ target = agent.identity.agentId ∧ action = request.action := by
  have hp : Effect.policyEvaluated delegator target action ∈ (prepare p env agent caller c.clock signed).1 ↔
      ∃ request key, receive p env agent caller c.clock signed = .ok (request, key) ∧
        delegator = request.fromAgentId ∧ target = agent.identity.agentId ∧ action = request.action := by
    unfold prepare
    cases receive p env agent caller c.clock signed with
    | error e => simp
    | ok r => obtain ⟨request, key⟩ := r; simp
  constructor
  · intro hmem
    rcases mem_effects hmem with hmem | ⟨ready, -, hmem⟩
    · exact hp.1 hmem
    · obtain ⟨r, L', -, he | ⟨he, -⟩⟩ := mem_execute hmem <;> cases he
  · exact fun h => mem_effects_prepare (hp.2 h)

theorem fromActionRequest_delegator {now : ℚ} {request : DelegationRequest}
    (h : DelegationRequest.fromActionRequest now signed = .ok request) :
    request.fromAgentId = claimedDelegator signed := by
  obtain ⟨data, hd, -, hf, -⟩ := fromActionRequest_ok h
  rw [hf, claimedDelegator, hd]

/-- With `T3_MOCK` off, a valid request comes from the identity whose key signed
it, and every agent evaluates its policy on that identity's behalf, exactly when
`delegation_data` names the envelope's agent id. -/
theorem delegator_is_signer_iff (hm : isMock env = false) {clock : ValidationClock} {ctx : ValidationContext}
    {message : Str} {key : Option Str}
    (h : validateDelegationRequest p env clock ctx signed = .ok (true, message, key)) :
    (SignerId p signed (claimedDelegator signed) ∧ ∀ agent caller c L records delegator target action,
      Effect.policyEvaluated delegator target action ∈
        (processDelegationRequest p env agent caller c signed L records).effects → SignerId p signed delegator) ↔
      NamesSigner signed := by
  obtain ⟨-, request, k, -, hacc⟩ := validateDelegationRequest_ok.1 h
  obtain ⟨err, hv⟩ := hacc.proof
  obtain ⟨-, -, signer, hs⟩ := (verifyActionRequest_live hm).1 hv
  constructor
  · rintro ⟨⟨key', hk', he⟩, -⟩
    exact he.trans hk'.agentId.symm
  · intro hn
    have hid : SignerId p signed (claimedDelegator signed) := ⟨signer, hs, hn.trans hs.agentId⟩
    refine ⟨hid, fun agent caller c L records delegator target action hmem => ?_⟩
    obtain ⟨request, key, hr, rfl, -⟩ := policyEvaluated_iff.1 hmem
    rwa [fromActionRequest_delegator (receive_ok.1 hr).1]

end

/-! ### A request in another agent's name -/

namespace Sample

def signer : Signer := signerOf 7

/-- A request to `PING` the worker, in the name of `delegator`. -/
def pingData (delegator : Str) (parameters : Json) : Dict :=
  Dict.ofList [("from_agent_id", .str delegator), ("to_agent_id", .str "worker"), ("action", .str "PING"),
    ("parameters", parameters), ("expires_at", .int 1000)]

/-- The sample signer's envelope, which binds `data` or nothing, with a `delegation_data` added. -/
def request (data : Option Json) (delegationData : Dict) : Dict :=
  signer.envelope platform 0 (.str delegateTask) (.str "n") data ++
    Dict.ofList [("delegation_data", .obj delegationData)]

/-- Every clock reading is 1. -/
def clock : ValidationClock := ⟨1, 1, 1, 1, 1⟩

def ctx : ValidationContext := ⟨"worker", [], [], [], false⟩

theorem delegationData_request (data : Option Json) (dd : Dict) : delegationData (request data dd) = .obj dd := by
  simp [delegationData, request, Dict.getD, Dict.get?_append, Signer.get?_envelope, Signer.get?_payload]

/-- What the worker reads from a ping. -/
def pingRequest (delegator : Str) (parameters : Json) : DelegationRequest where
  delegationId := .str []
  fromAgentId := .str delegator
  toAgentId := .str "worker"
  action := .str "PING"
  taskDescription := .str []
  parameters
  nonce := .str "n"
  deadline := .null
  issuedAt := .float (.finite 1)
  expiresAt := .int 1000
  teeAuthorization := .null
  requiredCapabilities := .arr []

theorem fromActionRequest_ping (delegator : Str) (parameters : Json) (data : Option Json) :
    DelegationRequest.fromActionRequest 1 (request data (pingData delegator parameters)) =
      .ok (pingRequest delegator parameters) := by
  have hn : (request data (pingData delegator parameters)).getD "nonce" (.str []) = .str "n" := by
    simp [request, Dict.getD, Dict.get?_append, Signer.get?_envelope, Signer.get?_payload]
  rw [DelegationRequest.fromActionRequest, delegationData_request, asDict, hn]
  simp [pingData, pingRequest, Dict.get, Dict.getD, zeroTime, issuedAtOr, expiresAtOr, capabilitiesOr, isNull, Json.pyEq, Json.number?,
    Json.numberEq, bind, Except.bind, pure, Except.pure]

theorem unexpired_ping (delegator : Str) (parameters : Json) :
    (pingRequest delegator parameters).isExpired 1 = .ok false := by
  rw [DelegationRequest.isExpired, pingRequest, isPast_int]
  decide +kernel

/-- The worker accepts such a request, whatever delegator it names. -/
theorem request_valid (delegator : Str) (parameters : Json) (data : Option Json)
    (hd : data = none ∨ data = some (.obj (pingData delegator parameters))) :
    ∃ key, validateDelegationRequest platform env clock ctx (request data (pingData delegator parameters)) =
      .ok (true, "Delegation request is valid", key) := by
  have hk : replayKey platform (request data (pingData delegator parameters)) (pingRequest delegator parameters) =
      .ok _ := replayKey_ok.2 ⟨[], rfl, rfl⟩
  refine ⟨_, validateDelegationRequest_ok.2 ⟨rfl, pingRequest delegator parameters, _, rfl, {
    proof := ⟨[], verifyActionRequest_envelope (fun _ => keyPair 7) expires_late one_unexpired
      (by simp [Dict.has])⟩
    dataHash := ?_
    reconstructed := fromActionRequest_ping ..
    unexpired := unexpired_ping delegator parameters
    target := rfl
    required := nofun
    authorized := by simp [pingRequest, Json.truthy]
    key_eq := hk
    key_ne := platform.hashJson_ne (by simp [platform]) _ }⟩⟩
  rw [delegationData_request]
  rcases hd with rfl | rfl <;>
    simp [request, Dict.has, Dict.get, Dict.getD, Dict.get?_append, Signer.get?_envelope, Signer.get?_payload]

/-- The worker the requests are for, in a network without TEE. -/
def worker : Agent where
  identity := ⟨none, "worker", [], [], none⟩
  policy := ⟨[], []⟩
  handlers := []
  integrity := ⟨none, none, ⟨.ok (), .ok []⟩⟩

def caller : CallerContext := ⟨none, none, none, none⟩

/-- Every clock reading is 1. -/
def circumstances : Circumstances where
  clock := ⟨1, 1, clock, 1, 1, "r"⟩
  begin := 1
  token := "a"
  dbBegin := .ok ()
  received := 1
  during := id
  outcome := .returned (.json .null)
  finalize := 1
  dbFinalize := .ok ()
  failing := 1
  dbFailing := .ok ()
  concluded := 1
  reply := ⟨1, 1, "e", 1⟩

theorem request_received (delegator : Str) (parameters : Json) (data : Option Json)
    (hd : data = none ∨ data = some (.obj (pingData delegator parameters))) :
    ∃ key, receive platform env worker caller circumstances.clock (request data (pingData delegator parameters)) =
      .ok (pingRequest delegator parameters, key) := by
  obtain ⟨key, hv⟩ := request_valid delegator parameters data hd
  exact ⟨key, receive_ok.2 ⟨fromActionRequest_ping .., unexpired_ping .., rfl, _, _, rfl, hv⟩⟩

def bound (delegator : Str) : Dict :=
  request (some (.obj (pingData delegator .null))) (pingData delegator .null)

/-- A request in the signer's own name. -/
theorem honest_delegator_is_signer :
    SignerId platform (bound signer.agentId) (claimedDelegator (bound signer.agentId)) ∧
      ∀ agent caller c L records delegator target action,
        Effect.policyEvaluated delegator target action ∈
          (processDelegationRequest platform env agent caller c (bound signer.agentId) L records).effects →
          SignerId platform (bound signer.agentId) delegator := by
  obtain ⟨key, hv⟩ := request_valid signer.agentId .null _ (.inr rfl)
  exact (delegator_is_signer_iff rfl hv).2 rfl

/-- A valid request for which the worker evaluates the policy of an agent that did not sign it. -/
theorem victim_impersonated :
    isMock env = false ∧
    (∃ message key, validateDelegationRequest platform env clock ctx (bound "victim") = .ok (true, message, key)) ∧
    ¬SignerId platform (bound "victim") (claimedDelegator (bound "victim")) ∧
    Effect.policyEvaluated (.str "victim") "worker" (.str "PING") ∈
      (processDelegationRequest platform env worker caller circumstances (bound "victim") Ledger.empty
        ⟨[], [], []⟩).effects ∧
    ¬SignerId platform (bound "victim") (.str "victim") := by
  have hn : ¬SignerId platform (bound "victim") (.str "victim") := by
    rintro ⟨key, hk, he⟩
    have hs : Json.str signer.agentId = .str "victim" := hk.agentId.trans he.symm
    exact absurd (Json.str.inj hs) (by decide +kernel)
  obtain ⟨key, hv⟩ := request_valid "victim" .null _ (.inr rfl)
  obtain ⟨key', hr⟩ := request_received "victim" .null _ (.inr rfl)
  exact ⟨rfl, ⟨_, key, hv⟩, hn, policyEvaluated_iff.2 ⟨_, key', hr, rfl, rfl, rfl⟩, hn⟩

end Sample

end Adn
