import Adn.ContractAuthority
import Adn.Lib.Exact
/-!
# The contract's exports

Every export parses its input into a struct, computes and writes a struct; a
panic traps the component. Two exports can panic: `kyc-submit-step` cuts a text
of the caller at its eighth byte, and `delegate-task` cuts the pinned issuer
into pairs of bytes (`call_runs_iff`).
-/

open Lib Lib.Serde

namespace Adn.Contract

/-! ## Helpers -/

structure GenericInput where
  input : Option (List UInt8)
  userProfile : Option (List UInt8)
  context : Option (List UInt8)

/-- `req.input.ok_or("{name}: missing input")?` -/
def GenericInput.bytes (req : GenericInput) (name : String) : Outcome (List UInt8) :=
  Outcome.okOr req.input (Str.ofString name ++ Str.ofString ": missing input")

/-- `simple_hash` -/
def simpleHash (s : Str) : UInt64 :=
  (Text.utf8 s).foldl (fun h b => (h ^^^ b.toUInt64) * 0x100000001b3) 0xcbf29ce484222325

/-- `format!("{n:x}")` -/
def hexText (n : UInt64) : Str := if n = 0 then "0" else (Nat.digits 16 n.toNat).reverse.map Text.hexDigit

/-- The texts with a colon between them. -/
def colons (ss : List Str) : Str := (Str.ofString ":").intercalate ss

/-- `format!("{kind}-{:x}", simple_hash(..))` of fields separated by colons -/
def hashed (kind : String) (ss : List Str) : Str := Str.ofString kind ++ hexText (simpleHash (colons ss))

def u32Json (n : UInt32) : Json := .int n.toNat

def u64Json (n : UInt64) : Json := .int n.toNat

def text (s : String) : Json := .str s

section
variable (rt : Runtime)

/-- `encode`, which does not fail on what the exports write -/
def encode (fs : Dict) : Outcome (List UInt8) := .ok (toVec rt.floatText (.obj fs))

theorem zero_isFinite : (PyFloat.finite 0).isFinite = true := rfl

def zero64 : Finite64 := ⟨.finite 0, zero_isFinite⟩

/-- `(x * 100.0).round() / 100.0` -/
def round2 (x : PyFloat) : PyFloat := ((x.mul rt.rnd (.finite 100)).round).div rt.rnd (.finite 100)

/-! ## Process data -/

structure ProcessDataInput where
  dataSource : Str
  timePeriod : Str
  filters : List Str
  records : List Finite64

def ProcessDataInput.decode : Decoder ProcessDataInput := fun v => do
  let fs ← fields ["data_source", "time_period", "filters", "records"] v
  return {
    dataSource := ← fs.get "data_source" string
    timePeriod := ← fs.get "time_period" string
    filters := ← fs.getOr "filters" [] (list string)
    records := ← fs.getOr "records" [] (list (f64 rt.rnd)) }

structure Statistics where
  total : PyFloat
  avg : PyFloat
  minVal : PyFloat
  maxVal : PyFloat
  trend : Str

/-- `xs.iter().sum::<f64>() / n as f64` -/
def mean (xs : List PyFloat) (n : ℕ) : PyFloat := (PyFloat.sum rt.rnd xs).div rt.rnd (PyFloat.ofNat rt.rnd n)

/-- The mean of `records[a..b]`, or `avg` if that is empty. -/
def meanOf (records : List PyFloat) (a b : ℕ) (avg : PyFloat) : Outcome PyFloat :=
  if b - a > 0 then (mean rt · (b - a)) <$> Outcome.slice records a b else pure avg

/-- What `process_data` computes from the records. -/
def statistics (records : List PyFloat) : Outcome Statistics := do
  let n := records.length
  let total := PyFloat.sum rt.rnd records
  let avg := round2 rt (total.div rt.rnd (PyFloat.ofNat rt.rnd n))
  let minVal := records.foldl PyFloat.min .posInf
  let maxVal := records.foldl PyFloat.max .negInf
  let mid := n / 2
  let h1 ← meanOf rt records 0 mid avg
  let h2 ← meanOf rt records mid n avg
  let pct := if h1.eq (.finite 0) then .finite 0 else (h2.sub rt.rnd h1).div rt.rnd h1
  let trend : Str := if PyFloat.lt (rt.rnd (5 / 100)) pct then "increasing"
    else if PyFloat.lt pct (rt.rnd (5 / 100)).neg then "decreasing" else "stable"
  return { total, avg, minVal, maxVal, trend }

def processData (req : GenericInput) : Outcome (List UInt8) := do
  let bytes ← req.bytes "process-data"
  let params ← parseInput rt (ProcessDataInput.decode rt) bytes "process-data"
  Outcome.refuseIf params.records.isEmpty "process-data: records array must not be empty"
  let s ← statistics rt (params.records.map (·.val))
  encode rt (Dict.ofList [("records_processed", u32Json (.ofNat params.records.length)),
    ("total_revenue", .float (round2 rt s.total)), ("avg_value", .float s.avg), ("min_value", .float (round2 rt s.minVal)),
    ("max_value", .float (round2 rt s.maxVal)), ("trend", .str s.trend), ("processed_in_tee", .bool true),
    ("data_source", .str params.dataSource), ("time_period", .str params.timePeriod)])

/-! ## Validate quality -/

structure ValidateQualityInput where
  recordsProcessed : UInt32
  avgValue : Finite64
  totalRevenue : Finite64
  trend : Str

def ValidateQualityInput.decode : Decoder ValidateQualityInput := fun v => do
  let fs ← fields ["records_processed", "avg_value", "total_revenue", "trend"] v
  return {
    recordsProcessed := ← fs.getOr "records_processed" 0 u32
    avgValue := ← fs.getOr "avg_value" zero64 (f64 rt.rnd)
    totalRevenue := ← fs.getOr "total_revenue" zero64 (f64 rt.rnd)
    trend := ← fs.getOr "trend" [] string }

/-- The issues of a result, each with what it takes from the score. -/
def issues (data : ValidateQualityInput) : List (Str × ℚ) :=
  (if data.recordsProcessed = 0 then [(Str.ofString "records_processed is zero", 4 / 10)] else []) ++
  (if data.avgValue.val.le (.finite 0) then [(Str.ofString "avg_value is non-positive", 3 / 10)] else []) ++
  (if data.totalRevenue.val.le (.finite 0) then [(Str.ofString "total_revenue is non-positive", 2 / 10)] else []) ++
  if data.trend ∈ ["increasing", "stable", "decreasing"].map Str.ofString then []
  else [(Str.ofString "unexpected trend: " ++ rt.debugText data.trend, 5 / 100)]

def validateQuality (req : GenericInput) : Outcome (List UInt8) := do
  let bytes ← req.bytes "validate-quality"
  let data ← parseInput rt (ValidateQualityInput.decode rt) bytes "validate-quality"
  let found := issues rt data
  let score := found.foldl (fun score i => score.sub rt.rnd (rt.rnd i.2)) (.finite 1)
  encode rt (Dict.ofList [("quality_score", .float (round2 rt (score.max (.finite 0)))),
    ("passed", .bool (PyFloat.le (rt.rnd (8 / 10)) score)), ("issues", .arr (found.map (Json.str ·.1))),
    ("validated_in_tee", .bool true)])

/-! ## Delegate task -/

/-- The clock: seconds since the epoch, or a time before it. -/
abbrev Clock := Option UInt64

/-- `delegate_task`, in a build with these variables -/
def delegateTask (build : ProcessEnv) (clock : Clock) (req : GenericInput) : Outcome (List UInt8) := do
  let bytes ← req.bytes "delegate-task"
  let now ← Outcome.okOr clock "delegate-task: clock error"
  let cfg : DelegationConfig := {
    trustedIssuer := ← trustedIssuer build
    tenantDid := configuredTenantDid build
    nowSecs := now
    maxTtlSecs := 300
    clockSkewSecs := 120 }
  let out ← verifyDelegateTask rt build bytes cfg
  encode rt out.toJson

/-! ## Auction -/

structure AuctionBid where
  bidderDid : Str
  amount : Finite64

def AuctionBid.decode : Decoder AuctionBid := fun v => do
  let fs ← fields ["bidder_did", "amount"] v
  return {
    bidderDid := ← fs.get "bidder_did" string
    amount := ← fs.get "amount" (f64 rt.rnd) }

structure ResolveAuctionInput where
  itemId : Str
  bids : List AuctionBid

def ResolveAuctionInput.decode : Decoder ResolveAuctionInput := fun v => do
  let fs ← fields ["item_id", "bids"] v
  return {
    itemId := ← fs.get "item_id" string
    bids := ← fs.get "bids" (list (AuctionBid.decode rt)) }

/-- `a.amount.partial_cmp(&b.amount).unwrap()` -/
def compareAmounts (a b : AuctionBid) : Outcome Ordering := Outcome.unwrap (a.amount.val.partialCmp b.amount.val)

def resolveAuction (req : GenericInput) : Outcome (List UInt8) := do
  let bytes ← req.bytes "resolve-auction"
  let r ← parseInput rt (ResolveAuctionInput.decode rt) bytes "resolve-auction"
  Outcome.refuseIf r.bids.isEmpty "resolve-auction: no bids"
  let winner ← Outcome.unwrap (← Outcome.minBy compareAmounts r.bids)
  encode rt (Dict.ofList [("winner_did", .str winner.bidderDid), ("winning_amount", .float winner.amount.val),
    ("item_id", .str r.itemId), ("total_bids", u32Json (.ofNat r.bids.length)), ("resolved_in_tee", .bool true)])

/-! ## Reputation -/

structure RecordCompletionInput where
  agentDid : Str
  taskId : Str
  qualityScore : Finite64
  onTime : Bool

def RecordCompletionInput.decode : Decoder RecordCompletionInput := fun v => do
  let fs ← fields ["agent_did", "task_id", "quality_score", "on_time"] v
  return {
    agentDid := ← fs.get "agent_did" string
    taskId := ← fs.get "task_id" string
    qualityScore := ← fs.get "quality_score" (f64 rt.rnd)
    onTime := ← fs.get "on_time" bool }

/-- `quality_score * 0.7 + if on_time { 0.3 } else { 0.0 }` -/
def contribution (qualityScore : PyFloat) (onTime : Bool) : PyFloat :=
  (qualityScore.mul rt.rnd (rt.rnd (7 / 10))).add rt.rnd (if onTime then rt.rnd (3 / 10) else .finite 0)

def recordCompletion (req : GenericInput) : Outcome (List UInt8) := do
  let bytes ← req.bytes "record-completion"
  let r ← parseInput rt (RecordCompletionInput.decode rt) bytes "record-completion"
  encode rt (Dict.ofList [("agent_did", .str r.agentDid), ("task_id", .str r.taskId),
    ("reputation_delta", .float (round2 rt (contribution rt r.qualityScore.val r.onTime))), ("recorded_in_tee", .bool true)])

structure ReputationEntry where
  qualityScore : Finite64
  onTime : Bool

def ReputationEntry.decode : Decoder ReputationEntry := fun v => do
  let fs ← fields ["quality_score", "on_time"] v
  return {
    qualityScore := ← fs.get "quality_score" (f64 rt.rnd)
    onTime := ← fs.get "on_time" bool }

structure GetReputationInput where
  agentDid : Str
  history : List ReputationEntry

def GetReputationInput.decode : Decoder GetReputationInput := fun v => do
  let fs ← fields ["agent_did", "history"] v
  return {
    agentDid := ← fs.get "agent_did" string
    history := ← fs.get "history" (list (ReputationEntry.decode rt)) }

def getReputation (req : GenericInput) : Outcome (List UInt8) := do
  let bytes ← req.bytes "get-reputation"
  let r ← parseInput rt (GetReputationInput.decode rt) bytes "get-reputation"
  Outcome.refuseIf r.history.isEmpty "get-reputation: history is empty"
  let score := round2 rt (mean rt (r.history.map fun e => contribution rt e.qualityScore.val e.onTime) r.history.length)
  let tier := if PyFloat.le (rt.rnd (9 / 10)) score then "GOLD"
    else if PyFloat.le (rt.rnd (75 / 100)) score then "SILVER" else "BRONZE"
  encode rt (Dict.ofList [("agent_did", .str r.agentDid), ("reputation_score", .float score), ("tier", text tier),
    ("tasks_evaluated", u32Json (.ofNat r.history.length)), ("computed_in_tee", .bool true)])

/-! ## Personalization -/

structure PersonalizedOutreachInput where
  customerId : Str
  segment : Str
  templateId : Str
  dataHash : Str

def PersonalizedOutreachInput.decode : Decoder PersonalizedOutreachInput := fun v => do
  let fs ← fields ["customer_id", "segment", "template_id", "data_hash"] v
  return {
    customerId := ← fs.get "customer_id" string
    segment := ← fs.get "segment" string
    templateId := ← fs.get "template_id" string
    dataHash := ← fs.get "data_hash" string }

/-- The message variant of a segment, and its score. -/
def variantOf (segment : Str) : Str × ℚ :=
  if segment = "high_value" then ("premium_offer", 95 / 100)
  else if segment = "at_risk" then ("retention_offer", 82 / 100)
  else if segment = "new_user" then ("onboarding_offer", 78 / 100)
  else ("standard_offer", 70 / 100)

def sendPersonalizedOutreach (req : GenericInput) : Outcome (List UInt8) := do
  let bytes ← req.bytes "send-personalized-outreach"
  let r ← parseInput rt PersonalizedOutreachInput.decode bytes "send-personalized-outreach"
  let (variant, score) := variantOf r.segment
  encode rt (Dict.ofList [("customer_id", .str r.customerId), ("message_variant", .str (colons [r.templateId, variant])),
    ("personalization_score", .float (rt.rnd score)), ("raw_data_exposed", .bool false), ("processed_in_tee", .bool true)])

/-! ## Time grants -/

structure IssueTimeGrantInput where
  granteeDid : Str
  action : Str
  validUntilEpoch : UInt64
  issuerNonce : Str

def IssueTimeGrantInput.decode : Decoder IssueTimeGrantInput := fun v => do
  let fs ← fields ["grantee_did", "action", "valid_until_epoch", "issuer_nonce"] v
  return {
    granteeDid := ← fs.get "grantee_did" string
    action := ← fs.get "action" string
    validUntilEpoch := ← fs.get "valid_until_epoch" u64
    issuerNonce := ← fs.get "issuer_nonce" string }

def issueTimeGrant (req : GenericInput) : Outcome (List UInt8) := do
  let bytes ← req.bytes "issue-time-grant"
  let r ← parseInput rt IssueTimeGrantInput.decode bytes "issue-time-grant"
  encode rt (Dict.ofList [
    ("grant_token", .str (hashed "tgrant-" [r.granteeDid, r.action, u64Text r.validUntilEpoch, r.issuerNonce])),
    ("grantee_did", .str r.granteeDid), ("action", .str r.action), ("valid_until_epoch", u64Json r.validUntilEpoch),
    ("issued_in_tee", .bool true)])

structure CheckGrantInput where
  grantToken : Str
  granteeDid : Str
  action : Str
  validUntilEpoch : UInt64
  currentEpoch : UInt64

def CheckGrantInput.decode : Decoder CheckGrantInput := fun v => do
  let fs ← fields ["grant_token", "grantee_did", "action", "valid_until_epoch", "current_epoch"] v
  return {
    grantToken := ← fs.get "grant_token" string
    granteeDid := ← fs.get "grantee_did" string
    action := ← fs.get "action" string
    validUntilEpoch := ← fs.get "valid_until_epoch" u64
    currentEpoch := ← fs.get "current_epoch" u64 }

/-- Whether a grant is valid, and why. -/
def grantVerdict (r : CheckGrantInput) : Bool × Str :=
  if r.currentEpoch > r.validUntilEpoch then (false, "GRANT_EXPIRED")
  else if isEmpty r.grantToken then (false, "MISSING_TOKEN")
  else (true, Str.ofString "VALID until epoch " ++ u64Text r.validUntilEpoch)

def checkGrant (req : GenericInput) : Outcome (List UInt8) := do
  let bytes ← req.bytes "check-grant"
  let r ← parseInput rt CheckGrantInput.decode bytes "check-grant"
  let (valid, reason) := grantVerdict r
  encode rt (Dict.ofList [("valid", .bool valid), ("reason", .str reason), ("checked_in_tee", .bool true)])

/-! ## KYC -/

structure KycSubmitStepInput where
  agentDid : Str
  applicantId : Str
  step : Str
  dataHash : Str

def KycSubmitStepInput.decode : Decoder KycSubmitStepInput := fun v => do
  let fs ← fields ["agent_did", "applicant_id", "step", "data_hash"] v
  return {
    agentDid := ← fs.get "agent_did" string
    applicantId := ← fs.get "applicant_id" string
    step := ← fs.get "step" string
    dataHash := ← fs.get "data_hash" string }

def allSteps : List Str := ["identity", "address", "financial", "compliance"].map Str.ofString

def kycSubmitStep (req : GenericInput) : Outcome (List UInt8) := do
  let bytes ← req.bytes "kyc-submit-step"
  let r ← parseInput rt KycSubmitStepInput.decode bytes "kyc-submit-step"
  let stepIdx := if r.step ∈ allSteps then allSteps.idxOf r.step else 0
  let progress := (((PyFloat.ofNat rt.rnd (stepIdx + 1)).div rt.rnd (PyFloat.ofNat rt.rnd allSteps.length)).mul rt.rnd
    (.finite 100)).round
  let beginning ← Outcome.sliceText r.dataHash 0 (min 8 (Text.byteLen r.dataHash))
  let receipt := Str.ofString "kyc-" ++ r.step ++ Str.ofString "-" ++ beginning
  encode rt (Dict.ofList [("applicant_id", .str r.applicantId), ("step", .str r.step), ("step_receipt", .str receipt),
    ("progress_pct", .float progress), ("recorded_in_tee", .bool true)])

structure KycGetStatusInput where
  applicantId : Str
  stepsCompleted : List Str

def KycGetStatusInput.decode : Decoder KycGetStatusInput := fun v => do
  let fs ← fields ["applicant_id", "steps_completed"] v
  return {
    applicantId := ← fs.get "applicant_id" string
    stepsCompleted := ← fs.get "steps_completed" (list string) }

def kycGetStatus (req : GenericInput) : Outcome (List UInt8) := do
  let bytes ← req.bytes "kyc-get-status"
  let r ← parseInput rt KycGetStatusInput.decode bytes "kyc-get-status"
  let missing := allSteps.filter (· ∉ r.stepsCompleted)
  encode rt (Dict.ofList [("applicant_id", .str r.applicantId),
    ("status", text (if missing.isEmpty then "APPROVED" else "PENDING")),
    ("steps_completed", u32Json (.ofNat r.stepsCompleted.length)), ("steps_required", u32Json (.ofNat allSteps.length)),
    ("missing_steps", .arr (missing.map Json.str)), ("verified_in_tee", .bool true)])

/-! ## Secrets -/

structure StoreSecretInput where
  ownerDid : Str
  secretHash : Str
  permissionHash : Str
  label : Str

def StoreSecretInput.decode : Decoder StoreSecretInput := fun v => do
  let fs ← fields ["owner_did", "secret_hash", "permission_hash", "label"] v
  return {
    ownerDid := ← fs.get "owner_did" string
    secretHash := ← fs.get "secret_hash" string
    permissionHash := ← fs.get "permission_hash" string
    label := ← fs.get "label" string }

def storeSecret (req : GenericInput) : Outcome (List UInt8) := do
  let bytes ← req.bytes "store-secret"
  let r ← parseInput rt StoreSecretInput.decode bytes "store-secret"
  encode rt (Dict.ofList [("vault_id", .str (hashed "vault-" [r.ownerDid, r.secretHash, r.label])),
    ("owner_did", .str r.ownerDid), ("label", .str r.label), ("stored_in_tee", .bool true)])

structure InvokeWithSecretInput where
  vaultId : Str
  requesterDid : Str
  action : Str
  permissionProof : Str

def InvokeWithSecretInput.decode : Decoder InvokeWithSecretInput := fun v => do
  let fs ← fields ["vault_id", "requester_did", "action", "permission_proof"] v
  return {
    vaultId := ← fs.get "vault_id" string
    requesterDid := ← fs.get "requester_did" string
    action := ← fs.get "action" string
    permissionProof := ← fs.get "permission_proof" string }

def invokeWithSecret (req : GenericInput) : Outcome (List UInt8) := do
  let bytes ← req.bytes "invoke-with-secret"
  let r ← parseInput rt InvokeWithSecretInput.decode bytes "invoke-with-secret"
  Outcome.refuseIf (isEmpty r.permissionProof) "invoke-with-secret: permission_proof required"
  encode rt (Dict.ofList [("vault_id", .str r.vaultId), ("action_executed", .str r.action), ("tee_attested", .bool true),
    ("raw_secret_exposed", .bool false)])

/-! ## Votes -/

structure CastVoteInput where
  voterDid : Str
  proposalId : Str
  vote : Str
  rationaleHash : Str

def CastVoteInput.decode : Decoder CastVoteInput := fun v => do
  let fs ← fields ["voter_did", "proposal_id", "vote", "rationale_hash"] v
  return {
    voterDid := ← fs.get "voter_did" string
    proposalId := ← fs.get "proposal_id" string
    vote := ← fs.get "vote" string
    rationaleHash := ← fs.get "rationale_hash" string }

def castVote (req : GenericInput) : Outcome (List UInt8) := do
  let bytes ← req.bytes "cast-vote"
  let r ← parseInput rt CastVoteInput.decode bytes "cast-vote"
  encode rt (Dict.ofList [("voter_did", .str r.voterDid), ("proposal_id", .str r.proposalId),
    ("vote_receipt", .str (hashed "vote-" [r.voterDid, r.proposalId, r.vote])), ("recorded_in_tee", .bool true)])

structure VoteEntry where
  voterDid : Str
  vote : Str

def VoteEntry.decode : Decoder VoteEntry := fun v => do
  let fs ← fields ["voter_did", "vote"] v
  return {
    voterDid := ← fs.get "voter_did" string
    vote := ← fs.get "vote" string }

structure TallyVotesInput where
  proposalId : Str
  votes : List VoteEntry
  quorumThreshold : UInt32

def TallyVotesInput.decode : Decoder TallyVotesInput := fun v => do
  let fs ← fields ["proposal_id", "votes", "quorum_threshold"] v
  return {
    proposalId := ← fs.get "proposal_id" string
    votes := ← fs.get "votes" (list VoteEntry.decode)
    quorumThreshold := ← fs.get "quorum_threshold" u32 }

def tallyVotes (req : GenericInput) : Outcome (List UInt8) := do
  let bytes ← req.bytes "tally-votes"
  let r ← parseInput rt TallyVotesInput.decode bytes "tally-votes"
  let forVotes := UInt32.ofNat (r.votes.countP (·.vote = Str.ofString "FOR"))
  let against := UInt32.ofNat (r.votes.countP (·.vote = Str.ofString "AGAINST"))
  let total := UInt32.ofNat r.votes.length
  let quorumMet := decide (total ≥ r.quorumThreshold)
  let result := if quorumMet && decide (forVotes > against) then "PASSED" else if quorumMet then "REJECTED" else "NO_QUORUM"
  encode rt (Dict.ofList [("proposal_id", .str r.proposalId), ("result", text result), ("votes_for", u32Json forVotes),
    ("votes_against", u32Json against), ("quorum_met", .bool quorumMet), ("tallied_in_tee", .bool true)])

/-! ## Decisions -/

structure LogDecisionInput where
  agentDid : Str
  decisionId : Str
  action : Str
  rationaleHash : Str
  confidence : Finite64

def LogDecisionInput.decode : Decoder LogDecisionInput := fun v => do
  let fs ← fields ["agent_did", "decision_id", "action", "rationale_hash", "confidence"] v
  return {
    agentDid := ← fs.get "agent_did" string
    decisionId := ← fs.get "decision_id" string
    action := ← fs.get "action" string
    rationaleHash := ← fs.get "rationale_hash" string
    confidence := ← fs.get "confidence" (f64 rt.rnd) }

def logDecision (req : GenericInput) : Outcome (List UInt8) := do
  let bytes ← req.bytes "log-decision"
  let r ← parseInput rt (LogDecisionInput.decode rt) bytes "log-decision"
  encode rt (Dict.ofList [("decision_id", .str r.decisionId), ("agent_did", .str r.agentDid),
    ("entry_hash", .str (hashed "" [r.agentDid, r.decisionId, r.action, r.rationaleHash])), ("logged_in_tee", .bool true)])

structure DecisionEntry where
  agentDid : Str
  action : Str
  confidence : Finite64

def DecisionEntry.decode : Decoder DecisionEntry := fun v => do
  let fs ← fields ["agent_did", "action", "confidence"] v
  return {
    agentDid := ← fs.get "agent_did" string
    action := ← fs.get "action" string
    confidence := ← fs.get "confidence" (f64 rt.rnd) }

structure AuditDecisionsInput where
  auditorDid : Str
  entries : List DecisionEntry

def AuditDecisionsInput.decode : Decoder AuditDecisionsInput := fun v => do
  let fs ← fields ["auditor_did", "entries"] v
  return {
    auditorDid := ← fs.get "auditor_did" string
    entries := ← fs.get "entries" (list (DecisionEntry.decode rt)) }

def auditDecisions (req : GenericInput) : Outcome (List UInt8) := do
  let bytes ← req.bytes "audit-decisions"
  let r ← parseInput rt (AuditDecisionsInput.decode rt) bytes "audit-decisions"
  let anomalies := UInt32.ofNat (r.entries.countP fun e => e.confidence.val.lt (rt.rnd (5 / 10)))
  let total := UInt32.ofNat r.entries.length
  let risk := if total > 0 then
    round2 rt ((PyFloat.ofNat rt.rnd anomalies.toNat).div rt.rnd (PyFloat.ofNat rt.rnd total.toNat)) else .finite 0
  encode rt (Dict.ofList [("total_decisions", u32Json total), ("anomalies_detected", u32Json anomalies),
    ("risk_score", .float risk), ("attestation", .str (hashed "audit-" [r.auditorDid])), ("audited_in_tee", .bool true)])

/-! ## Bonds -/

structure LockBondInput where
  agentDid : Str
  taskId : Str
  bondAmount : Finite64
  deadlineEpoch : UInt64

def LockBondInput.decode : Decoder LockBondInput := fun v => do
  let fs ← fields ["agent_did", "task_id", "bond_amount", "deadline_epoch"] v
  return {
    agentDid := ← fs.get "agent_did" string
    taskId := ← fs.get "task_id" string
    bondAmount := ← fs.get "bond_amount" (f64 rt.rnd)
    deadlineEpoch := ← fs.get "deadline_epoch" u64 }

def lockBond (req : GenericInput) : Outcome (List UInt8) := do
  let bytes ← req.bytes "lock-bond"
  let r ← parseInput rt (LockBondInput.decode rt) bytes "lock-bond"
  encode rt (Dict.ofList [("bond_id", .str (hashed "bond-" [r.agentDid, r.taskId])), ("agent_did", .str r.agentDid),
    ("task_id", .str r.taskId), ("bond_amount", .float r.bondAmount.val), ("locked_in_tee", .bool true)])

structure VerifyAndSettleInput where
  bondId : Str
  agentDid : Str
  taskId : Str
  bondAmount : Finite64
  deadlineEpoch : UInt64
  currentEpoch : UInt64
  completed : Bool
  qualityScore : Finite64

def VerifyAndSettleInput.decode : Decoder VerifyAndSettleInput := fun v => do
  let fs ← fields ["bond_id", "agent_did", "task_id", "bond_amount", "deadline_epoch", "current_epoch", "completed",
    "quality_score"] v
  return {
    bondId := ← fs.get "bond_id" string
    agentDid := ← fs.get "agent_did" string
    taskId := ← fs.get "task_id" string
    bondAmount := ← fs.get "bond_amount" (f64 rt.rnd)
    deadlineEpoch := ← fs.get "deadline_epoch" u64
    currentEpoch := ← fs.get "current_epoch" u64
    completed := ← fs.get "completed" bool
    qualityScore := ← fs.get "quality_score" (f64 rt.rnd) }

structure Settlement where
  payoutPct : PyFloat
  reason : Str
  settlement : Str

def settle (r : VerifyAndSettleInput) : Settlement :=
  let onTime := r.currentEpoch ≤ r.deadlineEpoch
  if !r.completed then ⟨.finite 0, "TASK_INCOMPLETE", "SLASHED"⟩
  else if ¬onTime then ⟨.finite (1 / 2), "DELIVERED_LATE", "PARTIAL"⟩
  else if PyFloat.le (rt.rnd (9 / 10)) r.qualityScore.val then ⟨.finite 1, "EXCELLENT_DELIVERY", "FULL"⟩
  else if PyFloat.le (rt.rnd (7 / 10)) r.qualityScore.val then ⟨r.qualityScore.val, "ACCEPTABLE_DELIVERY", "PARTIAL"⟩
  else ⟨.finite (1 / 4), "BELOW_THRESHOLD", "PENALIZED"⟩

def payoutAmount (r : VerifyAndSettleInput) : PyFloat := round2 rt (r.bondAmount.val.mul rt.rnd (settle rt r).payoutPct)

def verifyAndSettle (req : GenericInput) : Outcome (List UInt8) := do
  let bytes ← req.bytes "verify-and-settle"
  let r ← parseInput rt (VerifyAndSettleInput.decode rt) bytes "verify-and-settle"
  let s := settle rt r
  encode rt (Dict.ofList [("bond_id", .str r.bondId), ("settlement", .str s.settlement), ("payout_pct", .float s.payoutPct),
    ("payout_amount", .float (payoutAmount rt r)), ("reason", .str s.reason), ("settled_in_tee", .bool true)])

end

/-! ## Every export -/

inductive Export where
  | processData
  | validateQuality
  | delegateTask
  | resolveAuction
  | recordCompletion
  | getReputation
  | sendPersonalizedOutreach
  | issueTimeGrant
  | checkGrant
  | kycSubmitStep
  | kycGetStatus
  | storeSecret
  | invokeWithSecret
  | castVote
  | tallyVotes
  | logDecision
  | auditDecisions
  | lockBond
  | verifyAndSettle

/-- A call of an export. -/
def call (rt : Runtime) (build : ProcessEnv) (clock : Clock) : Export → GenericInput → Outcome (List UInt8)
  | .processData => processData rt
  | .validateQuality => validateQuality rt
  | .delegateTask => delegateTask rt build clock
  | .resolveAuction => resolveAuction rt
  | .recordCompletion => recordCompletion rt
  | .getReputation => getReputation rt
  | .sendPersonalizedOutreach => sendPersonalizedOutreach rt
  | .issueTimeGrant => issueTimeGrant rt
  | .checkGrant => checkGrant rt
  | .kycSubmitStep => kycSubmitStep rt
  | .kycGetStatus => kycGetStatus rt
  | .storeSecret => storeSecret rt
  | .invokeWithSecret => invokeWithSecret rt
  | .castVote => castVote rt
  | .tallyVotes => tallyVotes rt
  | .logDecision => logDecision rt
  | .auditDecisions => auditDecisions rt
  | .lockBond => lockBond rt
  | .verifyAndSettle => verifyAndSettle rt

/-! ## Answers -/

section
variable {rt : Runtime} {req : GenericInput} {bytes : List UInt8} {payload : Dict}

/-- An export that parses its input and writes a struct, on the bytes of a payload. -/
theorem export_invoked {α β : Type} {item : Decoder α} (reply : α → β) (document : β → Dict) {name : String}
    (hinput : req.input = some bytes) (hparse : rt.parse bytes = some (.obj payload)) {out : List UInt8} :
    (do let bytes ← req.bytes name
        let r ← parseInput rt item bytes name
        encode rt (document (reply r))) = .ok out ↔
      ∃ answer, (item (.obj payload)).map reply = .ok answer ∧ out = toVec rt.floatText (.obj (document answer)) := by
  simp only [GenericInput.bytes, Outcome.bind_eq_ok, Outcome.okOr_eq_ok, hinput, Option.some.injEq, exists_eq_left',
    parseInput, Outcome.ofExcept_eq_ok, fromSlice, hparse, encode, Outcome.ok.injEq, map_eq_ok]
  constructor
  · rintro ⟨r, hr, rfl⟩
    exact ⟨_, ⟨r, hr, rfl⟩, rfl⟩
  · rintro ⟨_, ⟨r, hr, rfl⟩, rfl⟩
    exact ⟨r, hr, rfl⟩

/-- Such an export, on bytes that it parses. -/
theorem export_eq {α : Type} {item : Decoder α} (document : α → Dict) {name : String} (hinput : req.input = some bytes)
    {r : α} (hread : fromSlice rt item bytes = .ok r) :
    (do let bytes ← req.bytes name
        let r ← parseInput rt item bytes name
        encode rt (document r)) = .ok (toVec rt.floatText (.obj (document r))) := by
  rw [GenericInput.bytes, hinput]
  change (parseInput rt item bytes name >>= _) = _
  rw [parseInput, hread]
  rfl

end

/-! ## On rationals -/

section
variable {rt : Runtime} (hexact : rt.rnd = PyFloat.finite)
include hexact

theorem is_round2 {x : PyFloat} {q : ℚ} (hx : x.Is q) : (round2 rt x).Is (hundredths q) := by
  have h100 : (PyFloat.finite 100).Is 100 := PyFloat.is_finite 100
  unfold round2
  rw [hexact]
  exact (hx.mul h100).round.div h100 (by norm_num)

theorem is_mean {xs : List PyFloat} {qs : List ℚ} (hne : qs ≠ []) (h : List.Forall₂ PyFloat.Is xs qs) :
    (mean rt xs qs.length).Is (average qs) := by
  unfold mean
  rw [hexact]
  exact (PyFloat.is_sum h).div (PyFloat.is_ofNat _) (length_pos hne).ne'

end

/-! ## Ids -/

theorem hexText_inj {m n : UInt64} (h : hexText m = hexText n) : m = n := by
  have hdigits : ∀ k : UInt64, ∃ ds : List ℕ, hexText k = ds.map Text.hexDigit ∧ (∀ d ∈ ds, d < 16) ∧
      Nat.ofDigits 16 ds.reverse = k.toNat := by
    intro k
    by_cases hk : k = 0
    · subst hk
      exact ⟨[0], rfl, by simp, rfl⟩
    · refine ⟨(Nat.digits 16 k.toNat).reverse, if_neg hk, ?_, ?_⟩
      · intro d hd
        exact Nat.digits_lt_base (by decide) (List.mem_reverse.1 hd)
      · rw [List.reverse_reverse, Nat.ofDigits_digits]
  obtain ⟨ds, hm, hds, hmNat⟩ := hdigits m
  obtain ⟨es, hn, hes, hnNat⟩ := hdigits n
  have hread : ∀ ds : List ℕ, (∀ d ∈ ds, d < 16) → (ds.map Text.hexDigit).map Hex.digitValue = ds.map some := by
    intro ds hds
    rw [List.map_map]
    exact List.map_congr_left fun d hd => Hex.digitValue_hexDigit (hds d hd)
  have heq : ds.map some = es.map some := by
    rw [← hread ds hds, ← hread es hes, ← hm, ← hn, h]
  rw [(List.map_injective_iff.2 (Option.some_injective ℕ)) heq] at hmNat
  exact UInt64.toNat_inj.1 (hmNat.symm.trans hnNat)

theorem hashed_inj {kind : String} {ss ts : List Str} :
    hashed kind ss = hashed kind ts ↔ simpleHash (colons ss) = simpleHash (colons ts) :=
  ⟨fun h => hexText_inj (List.append_cancel_left h), fun h => by rw [hashed, hashed, h]⟩

theorem colons_pair (s t : Str) : colons [s, t] = s ++ 0x3A :: t := by
  simp [colons, List.intercalate, show Str.ofString ":" = [0x3A] from rfl]

/-- The last colon separates two texts of which the second has none. -/
theorem colons_pair_inj {s s' t t' : Str} (ht : 0x3A ∉ t) (ht' : 0x3A ∉ t') :
    colons [s, t] = colons [s', t'] ↔ s = s' ∧ t = t' := by
  rw [colons_pair, colons_pair]
  constructor
  · intro h
    rcases List.append_eq_append_iff.1 h with ⟨cs, rfl, hcs⟩ | ⟨cs, rfl, hcs⟩ <;> cases cs with
    | nil =>
      simp only [List.nil_append, List.cons.injEq, true_and] at hcs
      simp [hcs]
    | cons c cs =>
      obtain ⟨rfl, rfl⟩ := List.cons.inj hcs
      simp at ht ht'
  · rintro ⟨rfl, rfl⟩
    rfl

/-! ## What does not panic -/

section
variable {rt : Runtime}

@[simp]
theorem runs_bytes (req : GenericInput) (name : String) : (req.bytes name).Runs := Outcome.runs_okOr _ _

theorem bytes_eq_ok {req : GenericInput} {name : String} {bytes : List UInt8} :
    req.bytes name = .ok bytes ↔ req.input = some bytes := Outcome.okOr_eq_ok

theorem parseInput_eq_ok {α : Type} {item : Decoder α} {bytes : List UInt8} {ctx : Str} {a : α} :
    parseInput rt item bytes ctx = .ok a ↔ fromSlice rt item bytes = .ok a := Outcome.ofExcept_eq_ok

@[simp]
theorem runs_parseInput {α : Type} (item : Decoder α) (bytes : List UInt8) (ctx : Str) :
    (parseInput rt item bytes ctx).Runs := Outcome.runs_ofExcept _ _

@[simp]
theorem runs_encode (fs : Dict) : (encode rt fs).Runs := Outcome.runs_ok _

/-- An export that parses its input and goes on without a panic. -/
theorem runs_export {α : Type} {item : Decoder α} {name : String} {req : GenericInput} {f : α → Outcome (List UInt8)}
    (hf : ∀ r, (f r).Runs) : (req.bytes name >>= fun bytes => parseInput rt item bytes name >>= f).Runs :=
  Outcome.runs_bind_of (runs_bytes _ _) fun _ => Outcome.runs_bind_of (runs_parseInput _ _ _) hf

theorem meanOf_runs {records : List PyFloat} {a b : ℕ} (h : a ≤ b ∧ b ≤ records.length) (avg : PyFloat) :
    (meanOf rt records a b avg).Runs := by
  unfold meanOf
  split
  · exact Outcome.runs_map.2 (Outcome.runs_slice.2 h)
  · exact Outcome.runs_pure avg

theorem statistics_runs (records : List PyFloat) : (statistics rt records).Runs :=
  Outcome.runs_bind_of (meanOf_runs ⟨Nat.zero_le _, Nat.div_le_self ..⟩ _) fun _ =>
    Outcome.runs_bind_of (meanOf_runs ⟨Nat.div_le_self .., le_refl _⟩ _) fun _ => Outcome.runs_pure _

theorem processData_runs (req : GenericInput) : (processData rt req).Runs :=
  runs_export fun _ => Outcome.runs_bind_of (Outcome.runs_refuseIf _ _) fun _ =>
    Outcome.runs_bind_of (statistics_runs _) fun _ => runs_encode _

/-- The amounts of parsed bids are numbers, so that they are comparable. -/
theorem compareAmounts_runs (a b : AuctionBid) : (compareAmounts a b).Runs :=
  Outcome.runs_unwrap.2 (PyFloat.partialCmp_finite a.amount.2 b.amount.2)

theorem resolveAuction_runs (req : GenericInput) : (resolveAuction rt req).Runs := by
  refine runs_export fun r => Outcome.runs_bind.2 ⟨Outcome.runs_refuseIf _ _, fun _ hne => ?_⟩
  refine Outcome.runs_bind.2 ⟨Outcome.minBy_runs compareAmounts_runs _, fun winner hw => ?_⟩
  have hbids : r.bids ≠ [] := by simpa using Outcome.refuseIf_eq_ok.1 hne
  exact Outcome.runs_bind_of (Outcome.runs_unwrap.2 (Outcome.minBy_some hbids hw)) fun _ => runs_encode _

/-- What a signature recovers to is cut out of arrays of known lengths. -/
theorem recoverEip191Address_runs (message sig65 : List UInt8) : (recoverEip191Address rt message sig65).Runs := by
  refine Outcome.runs_bind.2 ⟨Outcome.runs_refuseIf _ _, fun _ hlen => ?_⟩
  have hlen : sig65.length = 65 := by simpa using Outcome.refuseIf_eq_ok.1 hlen
  refine Outcome.runs_bind_of (Outcome.runs_index.2 (by omega)) fun v => ?_
  refine Outcome.runs_bind_of (Outcome.runs_refuseIf _ _) fun _ => ?_
  refine Outcome.runs_bind_of (Outcome.runs_refuseIf _ _) fun _ => ?_
  refine Outcome.runs_bind_of (Outcome.runs_slice.2 ⟨by omega, by omega⟩) fun signature => ?_
  refine Outcome.runs_bind_of (Outcome.runs_refuseIf _ _) fun _ => ?_
  refine Outcome.runs_bind_of (Outcome.runs_okOr _ _) fun point => ?_
  have hpoint := point.2
  refine Outcome.runs_bind_of (Outcome.runs_slice.2 ⟨by omega, le_refl _⟩) fun coordinates => ?_
  have hhash := (rt.keccak256 coordinates).2
  refine Outcome.runs_bind.2 ⟨Outcome.runs_slice.2 ⟨by omega, le_refl _⟩, fun address ha => ?_⟩
  obtain ⟨-, rfl⟩ := Outcome.slice_eq_ok.1 ha
  rw [Outcome.runs_copyFromSlice, List.length_drop, List.length_take, hhash]
  rfl

theorem checkCredential_runs (cfg : DelegationConfig) (cred : CredentialBody) : (checkCredential cfg cred).Runs := by
  unfold checkCredential
  cases cfg.tenantDid <;> simp [Outcome.runs_bind]

theorem checkWindow_runs (cfg : DelegationConfig) (cred : CredentialBody) : (checkWindow cfg cred).Runs := by
  simp [checkWindow, Outcome.runs_bind]

theorem checkInvocation_runs (r : DelegateTaskInput) (env : DelegationEnvelopeFields) (cred : CredentialBody) :
    (checkInvocation rt r env cred).Runs := by
  simp [checkInvocation, Outcome.runs_bind]

theorem checkIssuer_runs (cfg : DelegationConfig) (env : DelegationEnvelopeFields) (credBytes : List UInt8) :
    (checkIssuer rt cfg env credBytes).Runs := by
  refine Outcome.runs_bind_of (Outcome.runs_refuseIf _ _) fun _ => ?_
  refine Outcome.runs_bind_of (Outcome.runs_okOr _ _) fun userSig => ?_
  refine Outcome.runs_bind_of (Outcome.runs_mapErr.2 (recoverEip191Address_runs credBytes userSig)) fun signer => ?_
  simp [Outcome.runs_bind]

theorem checkPolicy_runs (cfg : DelegationConfig) (r : DelegateTaskInput) (cred : CredentialBody) (notBefore notAfter : UInt64) :
    (checkPolicy rt cfg r cred notBefore notAfter).Runs := by
  simp [checkPolicy, Outcome.runs_bind]

theorem verifyDelegateTask_runs (build : ProcessEnv) (bytes : List UInt8) (cfg : DelegationConfig) :
    (verifyDelegateTask rt build bytes cfg).Runs := by
  refine Outcome.runs_bind_of (runs_parseInput _ _ _) fun r => ?_
  refine Outcome.runs_bind_of (Outcome.runs_okOr _ _) fun env => ?_
  refine Outcome.runs_bind_of (Outcome.runs_okOr _ _) fun credBytes => ?_
  refine Outcome.runs_bind_of (Outcome.runs_ofExcept _ _) fun cred => ?_
  refine Outcome.runs_bind_of (checkCredential_runs cfg cred) fun _ => ?_
  refine Outcome.runs_bind_of (checkWindow_runs cfg cred) fun window => ?_
  refine Outcome.runs_bind_of (Outcome.runs_refuseIf _ _) fun _ => ?_
  refine Outcome.runs_bind_of (checkInvocation_runs r env cred) fun i => ?_
  refine Outcome.runs_bind_of (checkIssuer_runs cfg env credBytes) fun signer => ?_
  refine Outcome.runs_bind_of (checkPolicy_runs cfg r cred window.1 window.2) fun _ => ?_
  have hdigest := (rt.sha256 (i.vcId ++ i.nonce ++ i.requestHash)).2
  refine Outcome.runs_bind_of (Outcome.runs_slice.2 ⟨Nat.zero_le _, by omega⟩) fun id => ?_
  exact Outcome.runs_bind_of (Outcome.runs_ofExcept _ _) fun expiry => Outcome.runs_pure _

/-! ## The issuer's text -/

/-- The `i`th pair of bytes is a number. -/
def IsHexPair (s : Str) (i : ℕ) : Prop :=
  ∃ pair b, Outcome.sliceText s (2 * i) (2 * i + 2) = .ok pair ∧ fromStrRadix 16 256 pair = some b

/-- No pair of bytes up to the first one that is no number ends inside a character. -/
def Pairable (s : Str) : Prop := ∀ i < 20, (∀ j < i, IsHexPair s j) → Text.isCharBoundary s (2 * i + 2) = true

theorem hexPairs_runs {s : Str} {n k : ℕ} (hk : Text.isCharBoundary s (2 * k) = true) :
    (hexPairs s (List.range' k n)).Runs ↔
      ∀ i, k ≤ i → i < k + n → (∀ j, k ≤ j → j < i → IsHexPair s j) → Text.isCharBoundary s (2 * i + 2) = true := by
  induction n generalizing k with
  | zero => exact ⟨fun _ i h h' => absurd h (by omega), fun _ => Outcome.runs_ok _⟩
  | succ n ih =>
    have hslice := Outcome.sliceText_runs_iff (s := s) (a := 2 * k) (b := 2 * k + 2) (by omega)
    rw [List.range'_succ, hexPairs, Outcome.runs_bind, hslice]
    constructor
    · rintro ⟨⟨-, hb⟩, hrest⟩ i hki hi hpairs
      rcases Nat.eq_or_lt_of_le hki with rfl | hlt
      · exact hb
      · obtain ⟨pair, b, hpair, hnum⟩ := hpairs k (le_refl k) hlt
        have hrest := hrest pair hpair
        rw [hnum] at hrest
        refine (ih (k := k + 1) (by rwa [Nat.mul_succ])).1 (Outcome.runs_bind.1 hrest).1 i hlt (by omega) fun j hj => ?_
        exact hpairs j (by omega)
    · intro h
      have hb := h k (le_refl k) (by omega) fun j hj hj' => absurd hj (by omega)
      refine ⟨⟨hk, hb⟩, fun pair hpair => ?_⟩
      cases hnum : fromStrRadix 16 256 pair with
      | none => exact Outcome.runs_pure _
      | some b =>
        refine Outcome.runs_bind_of ((ih (k := k + 1) (by rwa [Nat.mul_succ])).2 fun i hi hi' hpairs => ?_) fun _ =>
          Outcome.runs_pure _
        refine h i (by omega) (by omega) fun j hj hj' => ?_
        rcases Nat.eq_or_lt_of_le hj with rfl | hlt
        · exact ⟨pair, b, hpair, hnum⟩
        · exact hpairs j hlt hj'

theorem parseAddrHex_runs {s : Str} :
    (parseAddrHex s).Runs ↔ (Text.byteLen (stripPrefix s) = 40 → Pairable (stripPrefix s)) := by
  unfold parseAddrHex
  simp only
  split
  · rename_i hne
    simp [hne]
  · rename_i hlen
    rw [List.range_eq_range', hexPairs_runs (by simp [Text.isCharBoundary, Text.splitBytes_zero])]
    simp only [not_not] at hlen
    simp only [hlen, true_implies, Nat.zero_le, Nat.zero_add, Pairable]

theorem trustedIssuer_runs {build : ProcessEnv} : (trustedIssuer build).Runs ↔
    ∀ s, build "ADN_TRUSTED_ISSUER" = some s → Text.byteLen (stripPrefix s) = 40 → Pairable (stripPrefix s) := by
  unfold trustedIssuer
  cases build "ADN_TRUSTED_ISSUER" with
  | none => simp
  | some s => simp [parseAddrHex_runs]

theorem delegateTask_runs {build : ProcessEnv} {clock : Clock} {req : GenericInput} : (delegateTask rt build clock req).Runs ↔
    (req.input ≠ none → clock ≠ none → ∀ s, build "ADN_TRUSTED_ISSUER" = some s →
      Text.byteLen (stripPrefix s) = 40 → Pairable (stripPrefix s)) := by
  rw [← trustedIssuer_runs, delegateTask]
  simp only [Outcome.runs_bind, runs_bytes, Outcome.runs_okOr, true_and, bytes_eq_ok, Outcome.okOr_eq_ok]
  constructor
  · intro h hi hc
    obtain ⟨bytes, hb⟩ := Option.ne_none_iff_exists'.1 hi
    obtain ⟨now, hn⟩ := Option.ne_none_iff_exists'.1 hc
    exact (h bytes hb now hn).1
  · intro h bytes hb now hn
    exact ⟨h (by simp [hb]) (by simp [hn]), fun _ _ => ⟨verifyDelegateTask_runs _ _ _, fun _ _ => runs_encode _⟩⟩

theorem kycSubmitStep_runs {req : GenericInput} : (kycSubmitStep rt req).Runs ↔
    ∀ bytes r, req.input = some bytes → fromSlice rt KycSubmitStepInput.decode bytes = .ok r →
      8 ≤ Text.byteLen r.dataHash → Text.isCharBoundary r.dataHash 8 = true := by
  have hmin (s : Str) : Text.isCharBoundary s (min 8 (Text.byteLen s)) = true ↔
      (8 ≤ Text.byteLen s → Text.isCharBoundary s 8 = true) := by
    by_cases h8 : 8 ≤ Text.byteLen s
    · rw [Nat.min_eq_left h8]
      simp [h8]
    · rw [Nat.min_eq_right (by omega)]
      simp [h8, Text.isCharBoundary_end]
  rw [kycSubmitStep]
  simp only [Outcome.runs_bind, runs_bytes, runs_parseInput, runs_encode, true_and, bytes_eq_ok, parseInput_eq_ok,
    Outcome.sliceText_runs, implies_true, and_true, hmin]
  exact ⟨fun h bytes r hb hr => h bytes hb r hr, fun h bytes hb r hr => h bytes r hb hr⟩

/-- What a call relies on not to panic. -/
def Guarded (rt : Runtime) (build : ProcessEnv) (clock : Clock) (req : GenericInput) : Export → Prop
  | .kycSubmitStep => ∀ bytes r, req.input = some bytes → fromSlice rt KycSubmitStepInput.decode bytes = .ok r →
      8 ≤ Text.byteLen r.dataHash → Text.isCharBoundary r.dataHash 8 = true
  | .delegateTask => req.input ≠ none → clock ≠ none → ∀ s, build "ADN_TRUSTED_ISSUER" = some s →
      Text.byteLen (stripPrefix s) = 40 → Pairable (stripPrefix s)
  | _ => True

/-- A call panics exactly where `kyc-submit-step` cuts a character of the hash
it is given, or `delegate-task` one of the issuer it was built with. -/
theorem call_runs_iff (rt : Runtime) (build : ProcessEnv) (clock : Clock) (e : Export) (req : GenericInput) :
    (call rt build clock e req).Runs ↔ Guarded rt build clock req e := by
  have runs {x : Outcome (List UInt8)} (h : x.Runs) : x.Runs ↔ True := iff_true_intro h
  cases e with
  | kycSubmitStep => exact kycSubmitStep_runs
  | delegateTask => exact delegateTask_runs
  | processData => exact runs (processData_runs req)
  | resolveAuction => exact runs (resolveAuction_runs req)
  | getReputation =>
    exact runs (runs_export fun _ => Outcome.runs_bind_of (Outcome.runs_refuseIf _ _) fun _ => runs_encode _)
  | invokeWithSecret =>
    exact runs (runs_export fun _ => Outcome.runs_bind_of (Outcome.runs_refuseIf _ _) fun _ => runs_encode _)
  | _ => exact runs (runs_export fun _ => runs_encode _)

end

/-! ### A hash that is not ASCII -/

namespace Sample

/-- The eighth byte of this hash is inside a character. -/
def accented : Str := "1234567é"

def accentedStep : Json := .obj (Dict.ofList [("agent_did", .str "a"), ("applicant_id", .str "b"),
  ("step", .str "identity"), ("data_hash", .str accented)])

/-- `accentedStep` as `serde_json` writes it. -/
def accentedBytes : List UInt8 := toVec (fun _ => []) accentedStep

theorem zeros_length : (List.replicate 32 (0 : UInt8)).length = 32 := List.length_replicate

/-- A runtime that parses this document. -/
def runtime : Runtime where
  sha256 _ := ⟨List.replicate 32 0, zeros_length⟩
  keccak256 _ := ⟨List.replicate 32 0, zeros_length⟩
  rnd := .finite
  floatText _ := []
  parse bytes := if bytes = accentedBytes then some accentedStep else none
  serdeText _ _ := []
  base64 _ := none
  isPublicKey _ := false
  isSignature _ := false
  verifyPrehash _ _ _ := false
  recoverFromPrehash _ _ _ := none
  rfc3339 _ := []
  debugText s := s

theorem accented_decoded : fromSlice runtime KycSubmitStepInput.decode accentedBytes =
    .ok ⟨Str.ofString "a", Str.ofString "b", Str.ofString "identity", accented⟩ := by
  have hp : runtime.parse accentedBytes = some accentedStep := by simp [runtime]
  rw [fromSlice, hp]
  rfl

/-- A step with this hash traps, in every build. -/
theorem kyc_traps : call runtime (fun _ => none) (some 0) .kycSubmitStep ⟨some accentedBytes, none, none⟩ = .panic := by
  by_contra h
  have hboundary := kycSubmitStep_runs.1 h accentedBytes _ rfl accented_decoded (by decide +kernel)
  exact absurd hboundary (by decide +kernel)

end Sample

end Adn.Contract
