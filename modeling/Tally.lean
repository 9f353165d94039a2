import Tally.Library.Words
import Tally.Library.Json
import Tally.Library.Sha256
import Tally.Library.Calendar
import Tally.Library.Transaction
import Tally.Model.Reconstruction
import Tally.Model.Judgment
import Tally.Model.Schema
import Tally.Model.TaskSpine
import Tally.Model.IntakeRepository
import Tally.Model.IntakeTasks
import Tally.Model.ReconstructionRepository
import Tally.Model.ApplicableRuleRepository
import Tally.Model.JudgmentRepository
import Tally.Model.AccessEvidenceRepository
import Tally.Model.AuthoritySealRepository
import Tally.Model.Correspondence
import Tally.Model.CorrespondenceRepository
import Tally.Model.IntakeEvents
import Tally.Model.World
import Tally.Analysis.Noninterference
import Tally.Library.Selection
import Tally.Analysis.Effects
import Tally.Analysis.IntakeSteps
import Tally.Analysis.ReconstructionSteps
import Tally.Analysis.RuleSteps
import Tally.Analysis.JudgmentSteps
import Tally.Analysis.DecisionSteps
import Tally.Analysis.Transitions
import Tally.Analysis.Pipeline
import Tally.Analysis.PipelineInvariants
import Tally.Analysis.PipelineRefinement
import Tally.Analysis.Frames
import Tally.Analysis.Lineage
import Tally.Analysis.Currency
import Tally.Analysis.Leases
import Tally.Analysis.Handoffs
import Tally.Analysis.Attempts
import Tally.Analysis.EventLog
import Tally.Analysis.IntakeStates
import Tally.Analysis.Retries
import Tally.Analysis.Approvals
import Tally.Analysis.ClaimSets
import Tally.Analysis.Staleness
import Tally.Analysis.Gates
import Tally.Analysis.Deliveries
import Tally.Analysis.DayOutcomes
import Tally.Analysis.TaskOrigins
import Tally.Analysis.Bindings
import Tally.Analysis.Freshness
import Tally.Model.OauthTokens
import Tally.Analysis.Rotation
import Tally.Model.Capture
import Tally.Analysis.CaptureRaces
import Tally.Model.IntakeApi
import Tally.Model.SealManifest
import Tally.Analysis.RateLaw
import Tally.Analysis.SealDigests
import Tally.Model.VectorRetrieval
import Tally.Analysis.Retrieval
import Tally.Library.Value
import Tally.Model.IntakeClaims
import Tally.Analysis.Claims
import Tally.Analysis.ClaimErrors
import Tally.Analysis.ClaimClock
import Tally.Analysis.ClaimQuotes
import Tally.Library.Replay
import Tally.Model.Migrate
import Tally.Analysis.Migrations
import Tally.Model.RecordingCommit
import Tally.Analysis.Recordings
import Tally.Model.Projections
import Tally.Analysis.Projections
import Tally.Library.Paging
import Tally.Analysis.Streams
import Tally.Library.Screening
import Tally.Library.Pointwise
import Tally.Analysis.EventRows
import Tally.Analysis.DayEvidence
import Tally.Analysis.OffsetRewrites
import Tally.Analysis.Accounting
import Tally.Analysis.Fingerprints
import Tally.Library.Traversal
import Tally.Library.Least
import Tally.Model.Applicability
import Tally.Analysis.RuleRates
import Tally.Analysis.RuleChecks
import Tally.Analysis.RuleDecisions
import Tally.Analysis.RuleVerdicts
import Tally.Library.Numerals
import Tally.Analysis.DayBindings
import Tally.Analysis.DraftStates
import Tally.Analysis.SentOutcomes
import Tally.Analysis.UsdAmounts
import Tally.Model.Receipt
import Tally.Analysis.DecimalValues
import Tally.Analysis.RateNumerals
import Tally.Analysis.Overcharges
import Tally.Model.TitanEmbeddings
import Tally.Model.VectorReceiptPipeline
import Tally.Analysis.EmbeddingInputs
import Tally.Analysis.ProseNumbers
import Tally.Analysis.AmountTexts
import Tally.Analysis.DraftFacts
import Tally.Analysis.DraftAmounts
import Tally.Analysis.MalformedHits
import Tally.Library.Lines
import Tally.Library.Quoting
import Tally.Model.CockroachMcp
import Tally.Analysis.AnchorQuotes
import Tally.Analysis.ReceiptReplays
import Tally.Analysis.Ingestions
import Tally.Analysis.EventStreams
import Tally.Analysis.SqlScripts
import Tally.Model.TokenTexts
import Tally.Analysis.RotatedBundles
import Tally.Model.Extraction
import Tally.Analysis.GatedFields
import Tally.Library.Execution
import Tally.Model.CaptureRuns
import Tally.Analysis.CaptureOutcomes
import Tally.Analysis.SourceManifests
import Tally.Analysis.ChangeFlags
import Tally.Model.DecimalColumns
import Tally.Model.ReceiptPipeline
import Tally.Analysis.PersistedInputs
import Tally.Library.Fallible
import Tally.Model.ContestWorkflow
import Tally.Analysis.MoneyColumns
import Tally.Analysis.ContestReplays
import Tally.Analysis.Recoveries
import Tally.Analysis.Restores
import Tally.Analysis.CaseFilings
import Tally.Analysis.SealSpellings
import Tally.Analysis.SealedBindings
import Tally.Analysis.RowOrders
import Tally.Analysis.ReplayMatches
import Tally.Library.Performed
import Tally.Model.CaptureVerifier
import Tally.Analysis.Verifications
import Tally.Analysis.SealReadback
import Tally.Analysis.SentFacts
import Tally.Library.ValueIdentity
import Tally.Model.ReceiptVerifier
import Tally.Analysis.VerifiedReceipts
import Tally.Library.Traces
import Tally.Model.ManagedMcp
import Tally.Analysis.McpSessions
