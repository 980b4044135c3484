import Adn.GatewayPipeline
import Adn.HonestRun
import Adn.Lib.JsonWriting
import Adn.Lib.Relayed
/-!
# A run with receipts that the executor signs

`runAdnWithSignedGateway`: the bridge has the gateway executor sign a receipt, starts the
script for `worker1`, has a second receipt signed for the data that comes back, and starts
the script again for the validator. The two processes share the ledger and nothing else;
what passes between them goes through JSON and through JavaScript. A run that returns has
delegated twice all the same, and the validator was asked about the data that `worker1`
returned, as the bridge has relayed them (`signed_run_sound`).
-/

open Lib Lib.JsonReader

namespace Adn

/-! ## The bridge -/

/-- `TeeAuthorizationBundle`, as the bridge has it -/
structure BridgeBundle where
  processData : Js
  validateQuality : Js
  buildConfigId : Option Str

/-- What the bridge is called with, and what the script finds in either pass. -/
structure SignedGatewayCall where
  env : Env
  tenantDid : Str
  prepared : PreparedAdnExecution
  workerKeys : WorkerKeys
  teeBundle : BridgeBundle
  policyFile : Option (Except PyErr Json)
  integrity : IntegrityConfig
  arithmetic : Arithmetic
  sales : Option SalesFile

/-- `PreSignedReceiptsBundle`, with one receipt in each pass -/
def preSignedBundle (g : Gateway) (name : String) (receipt : Props) : Props := Props.ofList [
  ("publicKeyHex", .str g.identity.publicKeyHex),
  ("gatewayKeyId", .str g.identity.gatewayKeyId),
  (name, .obj receipt)]

/-- The files that the bridge writes for a pass, as the script reads them. -/
def SignedGatewayCall.input (c : SignedGatewayCall) (g : Gateway) (name : String) (receipt : Props) : RunnerInput where
  env := c.env
  tenantDid := c.tenantDid
  preparedTenantDid := .str c.prepared.tenantDid
  workerKeys := c.workerKeys
  teeBundle := ⟨c.teeBundle.processData.loaded, c.teeBundle.validateQuality.loaded, c.teeBundle.buildConfigId⟩
  source := .preSigned (some g.identity.publicKeyHex) (some g.identity.gatewayKeyId)
    (Js.loadedProps (preSignedBundle g name receipt))
  policyFile := c.policyFile
  integrity := c.integrity
  arithmetic := c.arithmetic
  sales := c.sales

/-- What the `process` phase prints, as a document. -/
def ProcessOutput.json (out : ProcessOutput) : Json := .obj (Dict.ofList [("phase", .str "process"),
  ("process_succeeded", .bool out.processSucceeded), ("processed_data", out.processedData)])

/-- The line that the phase prints last. -/
def ProcessOutput.text (out : ProcessOutput) : Str := write Text.quoteAscii spaced 0 out.json

/-- The standard output of the phase, trimmed: the coordinator, the two workers and the validator each load the policy
before. -/
def SignedGatewayCall.stdout (p : Platform) (c : SignedGatewayCall) (out : ProcessOutput) : Str :=
  let warning := loadWarning p c.policyFile
  warning ++ warning ++ warning ++ warning ++ out.text

/-- What ends the bridge's run. -/
inductive SignedRunError where
  /-- The executor does not sign. -/
  | refused (message : Str)
  /-- The script ends with an exception. -/
  | failed (e : DelegateError)
  /-- What the script has printed is not JSON. -/
  | unparsed
  | thrown (message : Str)

structure SignedRun where
  processing : Leg
  /-- `processPhaseResult.processed_data` -/
  processedData : Js
  validation : Leg
  printed : AdnDelegationResult

/-- The parameters of the first delegation, as the bridge has them. -/
def bridgeParams1 : Props :=
  Props.ofList [("data_source", .str "csv"), ("time_period", .str "Q1-2026"), ("filters", .arr [])]

def bridgeParams2 (processedData : Js) : Props := Props.ofList [("data", processedData)]

/-- `runAdnWithSignedGateway`, where `parse` is `JSON.parse`. Each pass is a process of its own: the second one has the ledger
of the first, and no nonces. -/
def runAdnWithSignedGateway (p : Platform) (g : Gateway) (parse : Str → Option Js) (c : SignedGatewayCall) (now₁ now₂ : ℕ → ℤ)
    (e₁ e₂ : Encounter) (L : Ledger) : Except SignedRunError SignedRun := do
  let (_, receipt₁) ← (g.buildSignedReceipt c.teeBundle.processData (.str "PROCESS_DATA") (.obj bridgeParams1) now₁).mapError
    .refused
  let (processing, out) ← ((c.input g "processDataReceipt" receipt₁).processPhase p e₁ ⟨.empty, L⟩).mapError .failed
  let result ← (parse (c.stdout p out)).elim (.error .unparsed) .ok
  let processedData ← (result.read "processed_data").mapError .thrown
  let processSucceeded ← (result.read "process_succeeded").mapError .thrown
  let (_, receipt₂) ← (g.buildSignedReceipt c.teeBundle.validateQuality (.str "VALIDATE_QUALITY")
    (.obj (bridgeParams2 processedData)) now₂).mapError .refused
  let file := Js.loadedProps (Props.ofList [("processed_data", processedData), ("process_succeeded", processSucceeded)])
  let (validation, printed) ← ((c.input g "validateQualityReceipt" receipt₂).validatePhase p file e₂
    ⟨.empty, processing.delivered.verifier.ledger⟩).mapError .failed
  return { processing, processedData, validation, printed }

section
variable {p : Platform} {c : SignedGatewayCall} {out : ProcessOutput}

/-- Where the policy loads, the document is all there is. -/
theorem stdout_loaded (h : (loadPolicy c.policyFile).failed = false) : c.stdout p out = out.text := by
  rw [SignedGatewayCall.stdout, loadWarning_loaded p h]
  rfl

theorem stdout_failed (h : (loadPolicy c.policyFile).failed = true) : ∃ rest, c.stdout p out = 0x57 :: rest := by
  obtain ⟨rest, hwarning⟩ := loadWarning_failed p h
  exact ⟨_, by rw [SignedGatewayCall.stdout, hwarning]; rfl⟩

end

/-! ## One pass -/

theorem mapError_ok {α ε ε' : Type} {f : ε → ε'} {x : Except ε α} {a : α} : x.mapError f = .ok a ↔ x = .ok a := by
  cases x <;> simp [Except.mapError]

theorem elim_ok {α ε : Type} {e : ε} {x : Option α} {a : α} : x.elim (.error e) (Except.ok (ε := ε)) = .ok a ↔ x = some a := by
  cases x <;> simp

section
variable {p : Platform} {r : RunnerInput} {σ : Session} {phase : ExecutionPhase} {name : Str} {teeResult : Json}
  {d : Delegation} {e : Encounter} {s : VerifierState} {leg : Leg} {receipts receipt : Dict}

/-- A pass takes its receipt from the bundle. -/
theorem leg_preSigned (hg : σ.gatekeeper = .preSigned receipts) (hreceipt : receipts.get (name ++ Str.ofString "Receipt") = .obj receipt)
    (h : σ.leg p r phase name teeResult d e s = .ok leg) :
    leg.receipt = receipt ∧ d.deliver p receipt (s.after p e.before) = .ok leg.delivered := by
  obtain ⟨receipt', hauthorized, h⟩ := bind_ok.1 h
  obtain ⟨x, hx, h⟩ := bind_ok.1 h
  obtain ⟨result, -, h⟩ := bind_ok.1 h
  obtain rfl := pure_ok.1 h
  obtain ⟨fields, -, hauthorized⟩ := bind_ok.1 (orRaised_ok.1 hauthorized)
  rw [hg] at hauthorized
  obtain ⟨_, -, hauthorized⟩ := bind_ok.1 hauthorized
  rw [hreceipt] at hauthorized
  obtain rfl := Json.obj.inj (asDict_ok.1 hauthorized)
  exact ⟨rfl, hx⟩

variable {c : SignedGatewayCall} {g : Gateway} {name : String} {receipt : Props}

/-- Both passes restore the same agents. -/
theorem session_again (name' : String) (receipt' : Props) (h : (c.input g name receipt).session p = .ok σ) :
    σ.gatekeeper = .preSigned (Js.loadedProps (preSignedBundle g name receipt)) ∧
    (c.input g name' receipt').session p =
      .ok { σ with gatekeeper := .preSigned (Js.loadedProps (preSignedBundle g name' receipt')) } := by
  obtain ⟨mode, hmode, h⟩ := bind_ok.1 h
  obtain ⟨_, htenant, h⟩ := bind_ok.1 h
  obtain ⟨_, hpublic, h⟩ := bind_ok.1 h
  obtain ⟨_, hkey, h⟩ := bind_ok.1 h
  obtain ⟨_, hbuild, h⟩ := bind_ok.1 h
  obtain ⟨coordinator, hcoordinator, h⟩ := bind_ok.1 h
  obtain ⟨worker1, hworker1, h⟩ := bind_ok.1 h
  obtain ⟨worker2, hworker2, h⟩ := bind_ok.1 h
  obtain ⟨validator, hvalidator, h⟩ := bind_ok.1 h
  obtain ⟨gatekeeper, hgatekeeper, h⟩ := bind_ok.1 h
  obtain ⟨amounts, hamounts, h⟩ := bind_ok.1 h
  obtain rfl := pure_ok.1 h
  obtain rfl := Except.ok.inj hgatekeeper
  refine ⟨rfl, ?_⟩
  refine bind_ok.2 ⟨mode, hmode, ?_⟩
  refine bind_ok.2 ⟨_, htenant, ?_⟩
  refine bind_ok.2 ⟨_, hpublic, ?_⟩
  refine bind_ok.2 ⟨_, hkey, ?_⟩
  refine bind_ok.2 ⟨_, hbuild, ?_⟩
  refine bind_ok.2 ⟨_, hcoordinator, ?_⟩
  refine bind_ok.2 ⟨_, hworker1, ?_⟩
  refine bind_ok.2 ⟨_, hworker2, ?_⟩
  refine bind_ok.2 ⟨_, hvalidator, ?_⟩
  exact bind_ok.2 ⟨_, rfl, bind_ok.2 ⟨_, hamounts, rfl⟩⟩

end

/-! ## Both passes -/

section
variable {p : Platform} {g : Gateway} {parse : Str → Option Js} {c : SignedGatewayCall} {now₁ now₂ : ℕ → ℤ}
  {e₁ e₂ : Encounter} {L : Ledger} {run : SignedRun}

/-- What the first pass prints when its delegation has completed. -/
def SignedGatewayCall.processOutput (c : SignedGatewayCall) (amounts : List PyFloat) : ProcessOutput :=
  ⟨true, .obj (processedData c.arithmetic c.sales amounts)⟩

/-- Both delegations are sound, each with its receipt, and the second one is about the data of the first as the bridge has
read and written them. -/
structure SignedRun.Sound (p : Platform) (c : SignedGatewayCall) (r : RunnerInput) (σ : Session) (receipt₁ receipt₂ data : Props)
    (e₁ e₂ : Encounter) (L : Ledger) (run : SignedRun) : Prop where
  processing : run.processing.Sound p σ c.teeBundle.processData.loaded (σ.processing p r e₁) (.obj (r.processResult σ))
  firstReceipt : run.processing.receipt = Js.loadedProps receipt₁
  first : (σ.processing p r e₁).deliver p (Js.loadedProps receipt₁) (VerifierState.after p ⟨.empty, L⟩ e₁.before) =
    .ok run.processing.delivered
  read : run.processedData = .obj data
  relayed : Parsed (.obj (Adn.processedData c.arithmetic c.sales σ.amounts)) (.obj data)
  validation : run.validation.Sound p σ c.teeBundle.validateQuality.loaded
    (σ.validating p r (.obj (Js.loadedProps data)) [] e₂) (.obj (qualityReport (Js.loadedProps data)))
  secondReceipt : run.validation.receipt = Js.loadedProps receipt₂
  second : (σ.validating p r (.obj (Js.loadedProps data)) [] e₂).deliver p (Js.loadedProps receipt₂)
    (VerifierState.after p ⟨.empty, run.processing.delivered.verifier.ledger⟩ e₂.before) = .ok run.validation.delivered
  printed : run.printed = σ.summary r (.bool true) (Js.loadedProps data) (qualityReport (Js.loadedProps data))

/-- The script finds the receipt in the bundle. -/
theorem bundle_receipt {name : String} (hkey : name ≠ "publicKeyHex") (hid : name ≠ "gatewayKeyId") (receipt : Props) :
    (Js.loadedProps (preSignedBundle g name receipt)).get name = .obj (Js.loadedProps receipt) := by
  simp [preSignedBundle, Props.ofList, Js.loadedProps, Js.loaded, Dict.get, Dict.getD, Dict.get?_cons, Text.ofString_inj,
    hkey.symm, hid.symm]

/-- A field of what was printed, as the bridge reads it. -/
theorem read_printed {fs : Dict} {w : Js} {k : Str} {v : Json} (h : Parsed (.obj fs) w) (hv : fs.get? k = some v) :
    ∃ data, w.read k = .ok data ∧ Parsed v data := by
  cases h with
  | obj hk hn hz ho =>
    rcases (Parsed.obj hk hn hz ho).get? k with ⟨hnone, -⟩ | ⟨v', w, hv', hw, hp⟩
    · rw [hnone] at hv
      cases hv
    · cases hv.symm.trans hv'
      exact ⟨w, by rw [Js.read, Props.get, hw]; rfl, hp⟩

/-- What the bridge reads of the printed text. -/
theorem read_processOutput {a : Arithmetic} {sales : Option SalesFile} {amounts : List PyFloat} {w : Js}
    (h : Parsed (ProcessOutput.json ⟨true, .obj (processedData a sales amounts)⟩) w) :
    ∃ data, w.read "processed_data" = .ok (.obj data) ∧ w.read "process_succeeded" = .ok (.bool true) ∧
      Parsed (.obj (processedData a sales amounts)) (.obj data) := by
  obtain ⟨data, hdata, hparsed⟩ := read_printed (k := "processed_data") (v := .obj (processedData a sales amounts)) h (by simp)
  obtain ⟨succeeded, hsucceeded, hbool⟩ := read_printed (k := "process_succeeded") (v := .bool true) h (by simp)
  obtain ⟨o, rfl⟩ : ∃ o, data = .obj o := by
    cases hparsed with
    | obj _ _ _ _ => exact ⟨_, rfl⟩
  obtain rfl : succeeded = .bool true := by
    cases hbool with
    | bool _ => rfl
  exact ⟨o, hdata, hsucceeded, hparsed⟩

/-- The file that the second pass reads. -/
theorem relayed_file (data : Props) :
    (Js.loadedProps (Props.ofList [("processed_data", .obj data), ("process_succeeded", .bool true)])).getD "processed_data"
      (.obj []) = .obj (Js.loadedProps data) ∧
    (Js.loadedProps (Props.ofList [("processed_data", .obj data), ("process_succeeded", .bool true)])).getD "process_succeeded"
      (.bool false) = .bool true := by
  simp [Props.ofList, Js.loadedProps, Js.loaded, Dict.getD, Dict.get?_cons, Text.ofString_inj]

/-- The figures of a summary are those of the data, and the quality passes as it does for them. -/
structure AdnDelegationResult.Reports (a : Arithmetic) (sales : Option SalesFile) (amounts : List PyFloat)
    (printed : AdnDelegationResult) : Prop where
  recordsProcessed : ((processedData a sales amounts).get "records_processed").pyEq printed.recordsProcessed = true
  totalRevenue : ((processedData a sales amounts).get "total_revenue").pyEq printed.totalRevenue = true
  avgValue : ((processedData a sales amounts).get "avg_value").pyEq printed.avgValue = true
  qualityPassed : printed.qualityPassed = true ↔ averagePasses a amounts

/-- A figure comes back equal. -/
theorem relayed_get {a : Arithmetic} {sales : Option SalesFile} {amounts : List PyFloat} {data : Props}
    (h : Parsed (.obj (processedData a sales amounts)) (.obj data)) (hexact : (Json.obj (processedData a sales amounts)).Exact)
    {k : String} (hk : k ∈ ["records_processed", "total_revenue", "avg_value", "csv_file"]) (default : Json) :
    ((processedData a sales amounts).get k).pyEq ((Js.loadedProps data).getD k default) = true := by
  have hpresent : ∃ v, (processedData a sales amounts).get? k = some v := by
    simp only [List.mem_cons, List.not_mem_nil, or_false] at hk
    rcases hk with rfl | rfl | rfl | rfl <;> exact ⟨_, by simp [processedData]; rfl⟩
  obtain ⟨v, hv⟩ := hpresent
  have heq := h.relayed hexact
  rw [Js.loaded] at heq
  obtain ⟨w, hw, hvw⟩ := Json.pyEq_field heq (Dict.mem_of_get? hv)
  rw [Dict.get, Dict.getD, hv, Dict.getD, hw]
  exact hvw

theorem summary_reports {r : RunnerInput} {σ : Session} {a : Arithmetic} {sales : Option SalesFile} {amounts : List PyFloat}
    {data : Props} (success : Json) (h : Parsed (.obj (processedData a sales amounts)) (.obj data))
    (hexact : (Json.obj (processedData a sales amounts)).Exact) :
    (σ.summary r success (Js.loadedProps data) (qualityReport (Js.loadedProps data))).Reports a sales amounts where
  recordsProcessed := relayed_get h hexact (by simp) _
  totalRevenue := relayed_get h hexact (by simp) _
  avgValue := relayed_get h hexact (by simp) _
  qualityPassed := by
    have hrecords := Json.truthy_of_pyEq (relayed_get h hexact (k := "records_processed") (by simp) .null)
    have havg := Json.truthy_of_pyEq (relayed_get h hexact (k := "avg_value") (by simp) .null)
    rw [← processedData_passes sales, qualityScore_passes, hrecords, havg]
    rw [← Dict.get, ← Dict.get, ← qualityScore_passes]
    simp [Session.summary, qualityReport, Dict.getD, Json.truthy]

/-- A run that returns has gone through both passes. -/
theorem signed_run_delivers
    (hparse : ∀ amounts w, loadAmounts c.arithmetic c.sales = .ok amounts →
      parse (c.stdout p (c.processOutput amounts)) = some w → Parsed (c.processOutput amounts).json w)
    (h : runAdnWithSignedGateway p g parse c now₁ now₂ e₁ e₂ L = .ok run) :
    ∃ σ message₁ message₂ receipt₁ receipt₂ data,
      g.buildSignedReceipt c.teeBundle.processData (.str "PROCESS_DATA") (.obj bridgeParams1) now₁ = .ok (message₁, receipt₁) ∧
      g.buildSignedReceipt c.teeBundle.validateQuality (.str "VALIDATE_QUALITY") (.obj (bridgeParams2 (.obj data))) now₂ =
        .ok (message₂, receipt₂) ∧
      (c.input g "processDataReceipt" receipt₁).session p = .ok σ ∧
      run.Sound p c (c.input g "processDataReceipt" receipt₁) σ receipt₁ receipt₂ data e₁ e₂ L := by
  obtain ⟨⟨message₁, receipt₁⟩, hsigned₁, h⟩ := bind_ok.1 h
  obtain ⟨⟨processing, out⟩, hprocess, h⟩ := bind_ok.1 h
  obtain ⟨result, hresult, h⟩ := bind_ok.1 h
  obtain ⟨data, hdata, h⟩ := bind_ok.1 h
  obtain ⟨succeeded, hsucceeded, h⟩ := bind_ok.1 h
  obtain ⟨⟨message₂, receipt₂⟩, hsigned₂, h⟩ := bind_ok.1 h
  obtain ⟨⟨validation, printed⟩, hvalidate, h⟩ := bind_ok.1 h
  obtain rfl := pure_ok.1 h
  rw [mapError_ok] at hsigned₁ hprocess hdata hsucceeded hsigned₂ hvalidate
  rw [elim_ok] at hresult
  -- the first pass
  obtain ⟨σ, hσ, hprocess⟩ := bind_ok.1 hprocess
  obtain ⟨⟨leg, processed⟩, hleg, hprocess⟩ := bind_ok.1 hprocess
  cases pure_ok.1 hprocess
  obtain ⟨hprocessing, rfl⟩ := process_sound hleg
  obtain ⟨leg', hleg₁, hrest⟩ := bind_ok.1 hleg
  obtain ⟨_, -, hrest⟩ := bind_ok.1 hrest
  obtain ⟨rfl, -⟩ := Prod.mk.inj (pure_ok.1 hrest)
  rw [orRaised_ok] at hσ
  obtain ⟨hg₁, hagain⟩ := session_again "validateQualityReceipt" receipt₂ hσ
  have hreceipt₁ : (Js.loadedProps (preSignedBundle g "processDataReceipt" receipt₁)).get "processDataReceipt" =
    .obj (Js.loadedProps receipt₁) := bundle_receipt (by decide) (by decide) receipt₁
  obtain ⟨hreceipted₁, hfirst⟩ := leg_preSigned hg₁ hreceipt₁ hleg₁
  rw [hprocessing.completed] at hresult
  -- what the bridge makes of it
  obtain ⟨o, hread, hreadSucceeded, hrelayed⟩ := read_processOutput (hparse _ _ (session_made hσ).amounts hresult)
  obtain rfl := Except.ok.inj (hread.symm.trans hdata)
  obtain rfl := Except.ok.inj (hreadSucceeded.symm.trans hsucceeded)
  -- the second pass
  obtain ⟨σ', hσ', hvalidate⟩ := bind_ok.1 hvalidate
  rw [orRaised_ok, hagain] at hσ'
  obtain rfl := Except.ok.inj hσ'
  obtain ⟨leg₂, hleg₂, hvalidate⟩ := bind_ok.1 hvalidate
  obtain ⟨fields, hfields, hvalidate⟩ := bind_ok.1 hvalidate
  cases pure_ok.1 hvalidate
  obtain ⟨hfile, hfileSucceeded⟩ := relayed_file o
  rw [hfile] at hleg₂ hfields
  obtain rfl := Json.obj.inj (asDict_ok.1 (orRaised_ok.1 hfields))
  obtain ⟨fields', heq, hreport, hvalidation⟩ := validate_sound hleg₂
  obtain rfl := Json.obj.inj heq
  have hreceipt₂ : (Js.loadedProps (preSignedBundle g "validateQualityReceipt" receipt₂)).get "validateQualityReceipt" =
    .obj (Js.loadedProps receipt₂) := bundle_receipt (by decide) (by decide) receipt₂
  obtain ⟨hreceipted₂, hsecond⟩ := leg_preSigned rfl hreceipt₂ hleg₂
  refine ⟨σ, message₁, message₂, receipt₁, receipt₂, o, hsigned₁, hsigned₂, hσ, hprocessing, hreceipted₁, hfirst, rfl, hrelayed,
    ⟨hvalidation.routed, hvalidation.delivered, hvalidation.result, hvalidation.completed⟩, hreceipted₂, hsecond, ?_⟩
  simp only [hvalidation.completed, hreport, hfileSucceeded]
  rfl

/-- Whatever the executor signs and other processes do to the ledger: a run that returns has completed both delegations, and the
validator was asked about what `worker1` returned, as it was relayed. Of figures that JavaScript has, the summary is right. -/
theorem signed_run_sound
    (hparse : ∀ amounts w, loadAmounts c.arithmetic c.sales = .ok amounts →
      parse (c.stdout p (c.processOutput amounts)) = some w → Parsed (c.processOutput amounts).json w)
    (h : runAdnWithSignedGateway p g parse c now₁ now₂ e₁ e₂ L = .ok run) :
    ∃ σ message₁ message₂ receipt₁ receipt₂ data,
      g.buildSignedReceipt c.teeBundle.processData (.str "PROCESS_DATA") (.obj bridgeParams1) now₁ = .ok (message₁, receipt₁) ∧
      g.buildSignedReceipt c.teeBundle.validateQuality (.str "VALIDATE_QUALITY") (.obj (bridgeParams2 (.obj data))) now₂ =
        .ok (message₂, receipt₂) ∧
      (c.input g "processDataReceipt" receipt₁).session p = .ok σ ∧
      run.Sound p c (c.input g "processDataReceipt" receipt₁) σ receipt₁ receipt₂ data e₁ e₂ L ∧
      ((Json.obj (processedData c.arithmetic c.sales σ.amounts)).Exact →
        run.printed.Reports c.arithmetic c.sales σ.amounts) := by
  obtain ⟨σ, message₁, message₂, receipt₁, receipt₂, data, hsigned₁, hsigned₂, hσ, hsound⟩ := signed_run_delivers hparse h
  refine ⟨σ, message₁, message₂, receipt₁, receipt₂, data, hsigned₁, hsigned₂, hσ, hsound, fun hexact => ?_⟩
  rw [hsound.printed]
  exact summary_reports _ hsound.relayed hexact

end

end Adn
