import Adn.DeliveryFrame
import Adn.Lib.Ieee
import Adn.PolicyLoading
/-!
# The runner

The script that the bridge starts: it restores the agents, grants what the run needs
and delegates twice, to `worker1` for the sales data and to the `validator` for what
`worker1` made of them. Reading files and floating point arithmetic are parameters.
-/

open Lib

namespace Adn

/-! ## The sales data -/

/-- What the interpreter computes with floats. -/
structure Arithmetic where
  /-- `float(s)` -/
  float : Str → Except PyErr PyFloat
  sum : List PyFloat → PyFloat
  /-- `statistics.mean` of a list that is not empty -/
  mean : List PyFloat → PyFloat
  /-- `round(x, 2)` -/
  round2 : PyFloat → PyFloat

/-- A file of sales, as `csv.DictReader` gives it. -/
structure SalesFile where
  name : Str
  /-- `row.get('sale_amount')`, row by row -/
  saleAmounts : List (Option Str)

/-- `load_amounts`, of the first file that is found -/
def loadAmounts (a : Arithmetic) : Option SalesFile → Except PyErr (List PyFloat)
  | none => .ok []
  | some file => (file.saleAmounts.filterMap fun s => s.filter (· ≠ [])).mapM a.float

/-- `min(xs)` -/
def least (x : PyFloat) (xs : List PyFloat) : PyFloat := xs.foldl (fun m y => if PyFloat.lt y m then y else m) x

/-- `max(xs)` -/
def greatest (x : PyFloat) (xs : List PyFloat) : PyFloat := xs.foldl (fun m y => if PyFloat.lt m y then y else m) x

/-- `round(f(amounts), 2) if amounts else 0` -/
def roundedOr0 (a : Arithmetic) (f : PyFloat → List PyFloat → PyFloat) : List PyFloat → Json
  | [] => .int 0
  | x :: xs => .float (a.round2 (f x xs))

def trend : List PyFloat → Str
  | x :: y :: xs => if PyFloat.lt x ((y :: xs).getLast (List.cons_ne_nil _ _)) then "UPWARD" else "STABLE"
  | _ => "STABLE"

/-- The `processed_data` that `process_handler` returns. -/
def processedData (a : Arithmetic) (csv : Option SalesFile) (amounts : List PyFloat) : Dict := Dict.ofList [
  ("records_processed", .int amounts.length),
  ("total_revenue", roundedOr0 a (fun x xs => a.sum (x :: xs)) amounts),
  ("avg_value", roundedOr0 a (fun x xs => a.mean (x :: xs)) amounts),
  ("min_value", roundedOr0 a least amounts),
  ("max_value", roundedOr0 a greatest amounts),
  ("trend", .str (trend amounts)),
  ("csv_file", .str (match csv with
    | some file => file.name
    | none => "none"))]

/-- `process_handler` -/
def processHandler (a : Arithmetic) (csv : Option SalesFile) (amounts : List PyFloat) : Outcome :=
  .returned (.json (.obj (Dict.ofList [("status", .str "success"), ("processed_data", .obj (processedData a csv amounts))])))

/-- The score of `validate_handler`. `round(score, 2)` gives back the decimals that the subtractions lost. -/
def qualityScore (data : Dict) : ℚ :=
  max 0 (1 - (if (data.get "records_processed").truthy then 0 else 2 / 5) - (if (data.get "avg_value").truthy then 0 else 3 / 10)
    - (if (data.get "csv_file").truthy then 0 else 1 / 10))

def qualityReport (data : Dict) : Dict := Dict.ofList [("status", .str "success"),
  ("quality_score", .float (.finite (qualityScore data))), ("passed", .bool (4 / 5 ≤ qualityScore data)), ("issues", .arr [])]

/-- `validate_handler` -/
def validateHandler (p : Platform) (payload : Dict) : Outcome :=
  match asDict (payload.getD "data" (.obj [])) with
  | .ok data => .returned (.json (.obj (qualityReport data)))
  | .error e => .raised (p.errStr e)

/-- The data pass if there are records, with an average other than zero. -/
theorem qualityScore_passes {data : Dict} : 4 / 5 ≤ qualityScore data ↔
    (data.get "records_processed").truthy = true ∧ (data.get "avg_value").truthy = true := by
  unfold qualityScore
  split_ifs <;> simp_all <;> norm_num

/-! ## Agents -/

/-- `create_agent(name, private_key_hex=key)`; what loading the policy prints is `loadWarning`. -/
def createAgent (p : Platform) (env : Env) (policyFile : Option (Except PyErr Json)) (integrity : IntegrityConfig)
    (privateKeyHex : Option Str) : Except PyErr Agent := do
  let identity ← loadIdentity p env privateKeyHex
  return {
    identity
    policy := (loadPolicy policyFile).policy.toDelegationPolicy
    handlers := ["ECHO", "GET_AGENT_INFO", "PING"]
    integrity }

def Agent.registerTaskHandler (agent : Agent) (action : Str) : Agent :=
  { agent with handlers := if action ∈ agent.handlers then agent.handlers else agent.handlers ++ [action] }

/-- The calls on an agent's policy. -/
def Agent.grant (agent : Agent) (grants : List DelegationPolicy.Operation) : Agent :=
  { agent with policy := grants.foldl DelegationPolicy.Operation.run agent.policy }

/-! ## Preparing -/

/-- `secrets.token_hex(32)`, as the bytes that it writes -/
structure Secret where
  bytes : List UInt8
  length_bytes : bytes.length = 32

/-- `PreparedAdnIdentity`, without the private key -/
structure PreparedAdnIdentity where
  agentId : Str
  did : Str
  publicKeyHex : Str

/-- `make_identity` -/
def makeIdentity (p : Platform) (env : Env) (policyFile : Option (Except PyErr Json)) (integrity : IntegrityConfig)
    (secret : Secret) : Except PyErr (PreparedAdnIdentity × Str) := do
  let agent ← createAgent p env policyFile integrity (some (Hex.hexLower secret.bytes))
  return (⟨agent.identity.agentId, agent.identity.did, agent.identity.publicKeyHex⟩, Hex.hexLower secret.bytes)

structure PreparedAdnExecution where
  tenantDid : Str
  coordinator : PreparedAdnIdentity
  worker1 : PreparedAdnIdentity
  worker2 : PreparedAdnIdentity
  validator : PreparedAdnIdentity

/-- The file of private keys that only the script reads. -/
structure WorkerKeys where
  coordinator : Option Str
  worker1 : Option Str
  worker2 : Option Str
  validator : Option Str

structure WorkerSecrets where
  coordinator : Secret
  worker1 : Secret
  worker2 : Secret
  validator : Secret

/-- The `prepare` mode: what the bridge is told, and the file of private keys. -/
def prepareAdnExecution (p : Platform) (env : Env) (policyFile : Option (Except PyErr Json)) (integrity : IntegrityConfig)
    (tenantDid : Str) (secrets : WorkerSecrets) : Except PyErr (PreparedAdnExecution × WorkerKeys) := do
  let _ ← resolveRuntimeMode env
  let (coordinator, coordinatorKey) ← makeIdentity p env policyFile integrity secrets.coordinator
  let (worker1, worker1Key) ← makeIdentity p env policyFile integrity secrets.worker1
  let (worker2, worker2Key) ← makeIdentity p env policyFile integrity secrets.worker2
  let (validator, validatorKey) ← makeIdentity p env policyFile integrity secrets.validator
  return ({ tenantDid, coordinator, worker1, worker2, validator },
    ⟨some coordinatorKey, some worker1Key, some worker2Key, some validatorKey⟩)

structure GatewayKeyBundle where
  gatewayKeyId : Str
  publicKeyHex : Str
  privateKeyHex : Str

/-- The `prepare_gateway` mode, where `ADN_GATEWAY_KEY_ID` may be set. -/
def prepareGatewayKeyBundle (p : Platform) (env : Env) (policyFile : Option (Except PyErr Json)) (integrity : IntegrityConfig)
    (gatewayKeyId : Option Str) (secret : Secret) : Except PyErr GatewayKeyBundle := do
  let _ ← resolveRuntimeMode env
  let (packet, privateKeyHex) ← makeIdentity p env policyFile integrity secret
  return {
    gatewayKeyId := orStr (gatewayKeyId.getD []) (Str.ofString "gateway-" ++ packet.agentId)
    publicKeyHex := packet.publicKeyHex
    privateKeyHex }

/-! ## What the script is given -/

/-- The TEE's results, as the bridge writes them. -/
structure TeeAuthorizationBundle where
  processData : Json
  validateQuality : Json
  buildConfigId : Option Str

/-- Where receipts come from: the bridge has them signed, or the script has the gateway's key. -/
inductive ReceiptSource where
  | preSigned (publicKeyHex gatewayKeyId : Option Str) (receipts : Dict)
  | gatewayKey (publicKeyHex gatewayKeyId privateKeyHex : Option Str)

/-- The environment and the files of a run. -/
structure RunnerInput where
  env : Env
  /-- `DID` -/
  tenantDid : Str
  /-- `identity_bundle.get('tenantDid')` -/
  preparedTenantDid : Json
  workerKeys : WorkerKeys
  teeBundle : TeeAuthorizationBundle
  source : ReceiptSource
  policyFile : Option (Except PyErr Json)
  integrity : IntegrityConfig
  arithmetic : Arithmetic
  sales : Option SalesFile

/-- What `runAdnWithRealDid` writes for the script: the prepared tenant, the path of the private keys, and the gateway's key. -/
def realDidInput (env : Env) (tenantDid : Str) (prepared : PreparedAdnExecution) (workerKeys : WorkerKeys)
    (teeBundle : TeeAuthorizationBundle) (gateway : GatewayKeyBundle) (policyFile : Option (Except PyErr Json))
    (integrity : IntegrityConfig) (arithmetic : Arithmetic) (sales : Option SalesFile) : RunnerInput where
  env
  tenantDid
  preparedTenantDid := .str prepared.tenantDid
  workerKeys
  teeBundle
  source := .gatewayKey (some gateway.publicKeyHex) (some gateway.gatewayKeyId) (some gateway.privateKeyHex)
  policyFile
  integrity
  arithmetic
  sales

def ReceiptSource.publicKeyHex : ReceiptSource → Str
  | .preSigned publicKeyHex _ _ => publicKeyHex.getD []
  | .gatewayKey publicKeyHex _ _ => publicKeyHex.getD []

def ReceiptSource.gatewayKeyId : ReceiptSource → Str
  | .preSigned _ gatewayKeyId _ => gatewayKeyId.getD []
  | .gatewayKey _ gatewayKeyId _ => gatewayKeyId.getD []

/-- `restore_gateway_identity` -/
def restoreGatewayIdentity (p : Platform) (r : RunnerInput) (publicKeyHex : Str) (privateKeyHex : Option Str) :
    Except PyErr AgentIdentity := do
  require (r.env.runtimeMode ≠ some (Str.ofString "live")) (Str.ofString "[ADN] restore_gateway_identity() is blocked in live mode. " ++
    Str.ofString "Use the standalone gateway executor process instead.")
  require (isSet privateKeyHex) "gateway private key bundle missing"
  let gateway ← createAgent p r.env r.policyFile r.integrity privateKeyHex
  require (gateway.identity.publicKeyHex = publicKeyHex) "Trusted gateway public key mismatch"
  return gateway.identity

/-- How the run gets a receipt: out of the bundle, or signed by this gateway. -/
inductive Gatekeeper where
  | preSigned (receipts : Dict)
  | signs (gateway : AgentIdentity)

def RunnerInput.gatekeeper (p : Platform) (r : RunnerInput) : Except PyErr Gatekeeper :=
  match r.source with
  | .preSigned _ _ receipts => .ok (.preSigned receipts)
  | .gatewayKey _ _ privateKeyHex => do
    return .signs (← restoreGatewayIdentity p r r.source.publicKeyHex privateKeyHex)

/-- `require_authorization_result` -/
def requireAuthorizationResult (name : Str) (result : Json) (workerId buildConfigId : Str) : Except PyErr Dict := do
  require result.truthy (name ++ Str.ofString " TEE authorization bundle is required")
  let result ← asDict result
  require ((result.get "status").pyEq (.str "ROUTED")) (name ++ Str.ofString " TEE authorization status must be ROUTED")
  require ((result.get "routed_to").pyEq (.str workerId)) (name ++ Str.ofString " routed_to mismatch")
  require (match result.get "credential_enforced" with
    | .bool true => true
    | _ => false) (name ++ Str.ofString " credential_enforced must be true")
  require (result.get "credential_fingerprint").truthy (name ++ Str.ofString " credential fingerprint missing")
  require (result.get "build_config_id").truthy (name ++ Str.ofString " build_config_id missing")
  require ((result.get "build_config_id").pyEq (.str buildConfigId)) (name ++ Str.ofString " build_config_id mismatch")
  require (result.get "authorization_expires_at").truthy (name ++ Str.ofString " authorization_expires_at missing")
  return result

/-! ## Setting up -/

/-- What the run has when it begins to delegate. -/
structure Session where
  runtimeMode : RuntimeMode
  coordinator : Agent
  worker1 : Agent
  worker2 : Agent
  validator : Agent
  gatekeeper : Gatekeeper
  publicKeyHex : Str
  gatewayKeyId : Str
  buildConfigId : Str
  amounts : List PyFloat

section
open DelegationPolicy.Operation

/-- What the coordinator's policy is told. -/
def coordinatorGrants (coordId w1Id valId : Str) : List DelegationPolicy.Operation := [
  addDelegationRule coordId "PROCESS_DATA", addDelegationRule coordId "VALIDATE_QUALITY",
  addTrustRelationship coordId w1Id, addTrustRelationship coordId valId,
  addDelegationRule w1Id "PROCESS_DATA", addDelegationRule valId "VALIDATE_QUALITY"]

/-- What a worker's policy is told about its own action. -/
def workerGrants (coordId workerId action : Str) : List DelegationPolicy.Operation :=
  [addDelegationRule coordId action, addTrustRelationship coordId workerId, addDelegationRule workerId action]

end

/-- The grants and the handlers' registration. -/
def RunnerInput.grantAll (r : RunnerInput) (runtimeMode : RuntimeMode) (coordinator worker1 worker2 validator : Agent)
    (gatekeeper : Gatekeeper) (amounts : List PyFloat) : Session :=
  let coordId := coordinator.identity.agentId
  let w1Id := worker1.identity.agentId
  let valId := validator.identity.agentId
  { runtimeMode
    coordinator := coordinator.grant (coordinatorGrants coordId w1Id valId)
    worker1 := (worker1.grant (workerGrants coordId w1Id "PROCESS_DATA")).registerTaskHandler "PROCESS_DATA"
    worker2
    validator := (validator.grant (workerGrants coordId valId "VALIDATE_QUALITY")).registerTaskHandler "VALIDATE_QUALITY"
    gatekeeper
    publicKeyHex := r.source.publicKeyHex
    gatewayKeyId := r.source.gatewayKeyId
    buildConfigId := r.teeBundle.buildConfigId.getD []
    amounts }

/-- From the script's first line to the handlers' registration. -/
def RunnerInput.session (p : Platform) (r : RunnerInput) : Except PyErr Session := do
  let runtimeMode ← resolveRuntimeMode r.env
  require (r.preparedTenantDid.pyEq (.str r.tenantDid)) "Prepared tenant DID mismatch"
  require (r.source.publicKeyHex ≠ []) "Trusted gateway public key is required"
  require (r.source.gatewayKeyId ≠ []) "Trusted gateway key id is required"
  require (isSet r.teeBundle.buildConfigId) "TEE authorization buildConfigId is required"
  let coordinator ← createAgent p r.env r.policyFile r.integrity r.workerKeys.coordinator
  let worker1 ← createAgent p r.env r.policyFile r.integrity r.workerKeys.worker1
  let worker2 ← createAgent p r.env r.policyFile r.integrity r.workerKeys.worker2
  let validator ← createAgent p r.env r.policyFile r.integrity r.workerKeys.validator
  let gatekeeper ← r.gatekeeper p
  let amounts ← loadAmounts r.arithmetic r.sales
  return r.grantAll runtimeMode coordinator worker1 worker2 validator gatekeeper amounts

/-- `unique_ids` -/
def Session.uniqueIdentities (σ : Session) : ℕ :=
  [σ.coordinator.identity.agentId, σ.worker1.identity.agentId, σ.worker2.identity.agentId,
    σ.validator.identity.agentId].dedup.length

/-! ## Delegating twice -/

/-- The clocks of one delegation, what other processes do to the ledger meanwhile, and how the database answers. The outcome
and the calls in `circumstances` are replaced by the handler's and by `during`. -/
structure Encounter where
  /-- Before the worker is called. -/
  before : List Call
  authorizedAt : ℚ
  signedAt : ℚ
  create : CreateClock
  logged : ℚ
  requestSigned : ℚ
  circumstances : Circumstances
  /-- While the handler runs. -/
  during : List Call
  /-- Between the reply and its verification. -/
  between : List Call
  resultClock : ResultClock
  dbResult : Except PyErr Unit

/-- All calls of other processes around a delegation. -/
def Encounter.calls (e : Encounter) : List Call := e.before ++ e.during ++ e.between

section
variable (p : Platform) (r : RunnerInput) (σ : Session)

/-- One delegation of the run. -/
def Session.delegation (worker : Agent) (action taskDescription : Str) (parameters : Dict) (outcome : Outcome)
    (delegations : List (Json × DelegationRequest)) (e : Encounter) : Delegation where
  coordinatorEnv := r.env
  workerEnv := r.env
  coordinator := σ.coordinator
  worker
  action
  taskDescription
  parameters
  deadline := none
  requiredCapabilities := none
  gatewayPublicKeyHex := σ.publicKeyHex
  gatewayKeyId := σ.gatewayKeyId
  buildConfigId := σ.buildConfigId
  requireTeeAuthorization := none
  create := e.create
  logged := e.logged
  delegations
  requestSigned := e.requestSigned
  circumstances := { e.circumstances with outcome, during := fun L => (execAll p L e.during).2 }
  records := ⟨[], [], []⟩
  between := e.between
  resultClock := e.resultClock
  dbResult := e.dbResult

def params1 : Dict :=
  Dict.ofList [("data_source", .str "csv"), ("time_period", .str "Q1-2026"), ("filters", .arr [])]

def params2 (processedData : Json) : Dict := Dict.ofList [("data", processedData)]

/-- The delegation to `worker1`. -/
def Session.processing (e : Encounter) : Delegation :=
  σ.delegation p r σ.worker1 "PROCESS_DATA" "process sales data" params1
    (processHandler r.arithmetic r.sales σ.amounts) [] e

/-- The delegation to the validator, after others. -/
def Session.validating (processedData : Json) (delegations : List (Json × DelegationRequest)) (e : Encounter) : Delegation :=
  σ.delegation p r σ.validator "VALIDATE_QUALITY" "validate data quality" (params2 processedData)
    (validateHandler p (params2 processedData)) delegations e

/-- The phases of `ADN_EXECUTION_PHASE`. -/
inductive ExecutionPhase where
  | process
  | validate
  | full
deriving DecidableEq

/-- The receipt for a delegation: the TEE result is checked, and the receipt found in the bundle, or signed in the `full`
phase. The other phases have nothing but the bundle. -/
def Session.authorization (phase : ExecutionPhase) (name : Str) (teeResult : Json) (d : Delegation) (e : Encounter) :
    Except PyErr Dict := do
  let teeResult ← requireAuthorizationResult name teeResult d.worker.identity.agentId σ.buildConfigId
  match σ.gatekeeper with
  | .preSigned receipts =>
    let receipt := receipts.get (name ++ Str.ofString "Receipt")
    require receipt.truthy (name ++ Str.ofString "Receipt missing from pre-signed bundle")
    asDict receipt
  | .signs gateway =>
    if phase = .full then
      buildTeeAuthorizationReceipt p r.env e.authorizedAt e.signedAt gateway σ.gatewayKeyId teeResult (.str d.action)
        (.obj d.parameters)
    else .error .attributeError

/-- `coordinator._delegations` after a delegation -/
def Delegation.stored (d : Delegation) (receipt : Dict) : List (Json × DelegationRequest) :=
  match d.coordinator.delegate p d.create d.logged (d.task receipt) d.delegations with
  | .ok delegated => delegated.delegations
  | .error _ => d.delegations

/-- `res['result_data']`, which a result that was verified has. -/
def Delivered.reported (x : Delivered) : Dict :=
  match x.processed.reply.2 with
  | .ok res => match res.get "result_data" with
    | .obj fields => fields
    | _ => []
  | .error _ => []

/-- `res['result_data']['status'] == 'COMPLETED'` -/
def Delivered.completed (x : Delivered) : Bool := (x.reported.get "status").pyEq (.str "COMPLETED")

/-- A delegation with its receipt and what the result is. -/
structure Leg where
  receipt : Dict
  delivered : Delivered
  /-- `rd.get('result') or {}` -/
  result : Dict

def Session.leg (phase : ExecutionPhase) (name : Str) (teeResult : Json) (d : Delegation) (e : Encounter) (s : VerifierState) :
    Except DelegateError Leg := do
  let receipt ← orRaised (σ.authorization p r phase name teeResult d e)
  let delivered ← d.deliver p receipt (s.after p e.before)
  let result ← orRaised (asDict (orEmpty (delivered.resultData.get "result")))
  return { receipt, delivered, result }

def noProcessedData (x : Delivered) : Str :=
  Str.ofString "worker1 returned no processed_data - status: " ++ p.str (x.reported.get "status") ++
    Str.ofString " error: " ++ p.str (x.reported.get "error")

/-- The delegation to `worker1`, and the `processed_data` in its result. -/
def Session.process (phase : ExecutionPhase) (e : Encounter) (s : VerifierState) : Except DelegateError (Leg × Json) := do
  let leg ← σ.leg p r phase "processData" r.teeBundle.processData (σ.processing p r e) e s
  let processedData := leg.result.getD "processed_data" (.obj [])
  orRaised (require processedData.truthy (noProcessedData p leg.delivered))
  return (leg, processedData)

/-- The delegation to the validator. -/
def Session.validate (phase : ExecutionPhase) (processedData : Json) (delegations : List (Json × DelegationRequest)) (e : Encounter)
    (s : VerifierState) : Except DelegateError Leg :=
  σ.leg p r phase "validateQuality" r.teeBundle.validateQuality (σ.validating p r processedData delegations e) e s

/-! ## What is printed -/

/-- `AdnDelegationResult` -/
structure AdnDelegationResult where
  success : Json
  replayMode : Str
  tenantDid : Str
  coordinatorDid : Str
  uniqueIdentities : ℕ
  recordsProcessed : Json
  totalRevenue : Json
  avgValue : Json
  qualityScore : Json
  qualityPassed : Bool

def replayMode : RuntimeMode → Str
  | .demo => "non-durable-demo"
  | .test => "durable-test"
  | .live => "durable-live"

def Session.summary (success : Json) (processedData validatedData : Dict) : AdnDelegationResult where
  success
  replayMode := replayMode σ.runtimeMode
  tenantDid := r.tenantDid
  coordinatorDid := σ.coordinator.identity.did
  uniqueIdentities := σ.uniqueIdentities
  recordsProcessed := processedData.getD "records_processed" (.int 0)
  totalRevenue := processedData.getD "total_revenue" (.int 0)
  avgValue := processedData.getD "avg_value" (.int 0)
  qualityScore := validatedData.getD "quality_score" (.int 0)
  qualityPassed := (validatedData.getD "passed" (.bool false)).truthy

/-- The `full` phase: both delegations, and what is printed about them. -/
structure FullRun where
  processing : Leg
  validation : Leg
  printed : AdnDelegationResult

def RunnerInput.full (e₁ e₂ : Encounter) (s : VerifierState) : Except DelegateError FullRun := do
  let σ ← orRaised (r.session p)
  let (processing, processedData) ← σ.process p r .full e₁ s
  let validation ← σ.validate p r .full processedData ((σ.processing p r e₁).stored p processing.receipt) e₂
    processing.delivered.verifier
  let data ← orRaised (asDict processedData)
  return {
    processing
    validation
    printed := σ.summary r (.bool (processing.delivered.completed && validation.delivered.completed)) data validation.result }

/-- What the `process` phase prints. -/
structure ProcessOutput where
  processSucceeded : Bool
  processedData : Json

/-- The `process` phase -/
def RunnerInput.processPhase (e : Encounter) (s : VerifierState) : Except DelegateError (Leg × ProcessOutput) := do
  let σ ← orRaised (r.session p)
  let (leg, processedData) ← σ.process p r .process e s
  return (leg, ⟨leg.delivered.completed, processedData⟩)

/-- The `validate` phase, with the fields of the file that it reads. -/
def RunnerInput.validatePhase (file : Dict) (e : Encounter) (s : VerifierState) :
    Except DelegateError (Leg × AdnDelegationResult) := do
  let σ ← orRaised (r.session p)
  let processedData := file.getD "processed_data" (.obj [])
  let processSucceeded := file.getD "process_succeeded" (.bool false)
  let leg ← σ.validate p r .validate processedData [] e s
  let data ← orRaised (asDict processedData)
  return (leg, σ.summary r (if processSucceeded.truthy then .bool leg.delivered.completed else processSucceeded) data leg.result)

end

end Adn
