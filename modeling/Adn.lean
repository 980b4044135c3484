import Adn.Lib.Quoting
import Adn.Lib.Floats
import Adn.Lib.JsonText
import Adn.Lib.Hex
import Adn.Lib.Runs
import Adn.PayloadBinding
import Adn.Fencing
import Adn.Attempts
import Adn.ExecutionGate
import Adn.CompletedOnce
import Adn.ResultBinding
import Adn.ParameterBinding
import Adn.SingleUse
import Adn.LiveMode
import Adn.Lib.Js
import Adn.PlatformEvidence
import Adn.RuntimeGuards
import Adn.GatewaySurvival
import Adn.GatewayChunks
import Adn.DeploymentManifest
import Adn.ManifestValidator
import Adn.ReleaseAsset
import Adn.Attestation
import Adn.ReleaseAssetRemote
import Adn.ReleaseRemote
import Adn.PolicyHistory
import Adn.CanonicalParity
import Adn.SchemaParity
import Adn.BuildConfig
import Adn.ExecutionRecords
import Adn.Retention
import Adn.ContractAuthority
import Adn.ContractExports
import Adn.NonceCache
import Adn.LeaseExclusion
import Adn.LedgerTransactions
import Adn.ResultAtomicity
import Adn.NonceAgreement
import Adn.ConsumedOnce
import Adn.EnvelopeIntegrity
import Adn.LedgerIntegrity
import Adn.ValidationErrors
import Adn.ContractAcceptance
import Adn.DelegationIdentity
import Adn.BridgeEnvelope
import Adn.EnvelopeAcceptance
import Adn.SealedBids
import Adn.ContractArithmetic
import Adn.EvidenceReceipt
import Adn.TemporalDelegation
import Adn.Lib.Statements
import Adn.PolicyLoading
import Adn.ArchiveExtraction
import Adn.ExtractionAgreement
import Adn.Lib.Lines
import Adn.LockGate
import Adn.WorkerFraming
import Adn.AddressParsing
import Adn.CanonicalIdentity
import Adn.ReceiptEncoding
import Adn.RecordStatistics
import Adn.PerformanceBond
import Adn.GatewayPipeline
import Adn.HonestRun
import Adn.DeliveryFrame
import Adn.PolicyPersistence
import Adn.ExecutionReceipts
import Adn.Lib.Relayed
import Adn.SignedGatewayPipeline
