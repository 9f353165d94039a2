import Tally.Library.Sha256
import Tally.Library.Transaction
import Tally.Model.Judgment

/-!
# Tables of the platform

The rows, unique indexes and foreign keys of migrations 002 and 007 to 018, for
one tenant, with the columns some operation reads. A transaction runs at a start
time, takes its random identifiers from its environment, and may find rows locked
by others.
-/

set_option autoImplicit false

namespace Tally.Model
open Library Library.Calendar

/-! ## Identifiers and references -/

abbrev Uuid := BitVec 128

/-- The text of an identifier, in groups of 8, 4, 4, 4 and 12 digits. -/
def uuidChars (id : Uuid) : List Char :=
  let n := id.toNat
  Words.hexPad 8 (n / 2 ^ 96) ++ ['-'] ++ Words.hexPad 4 (n / 2 ^ 80) ++ ['-'] ++
    Words.hexPad 4 (n / 2 ^ 64) ++ ['-'] ++ Words.hexPad 4 (n / 2 ^ 48) ++ ['-'] ++
    Words.hexPad 12 n

def uuidText (id : Uuid) : String := String.ofList (uuidChars id)

theorem uuidText_injective : Function.Injective uuidText := by
  intro a b h
  have hchars : uuidChars a = uuidChars b := String.ofList_injective h
  unfold uuidChars at hchars
  have hlength (width m n : Nat) : (Words.hexPad width m).length = (Words.hexPad width n).length := by
    rw [Words.length_hexPad, Words.length_hexPad]
  simp only [List.append_assoc] at hchars
  obtain ⟨h₁, hchars⟩ := List.append_inj hchars (hlength _ _ _)
  obtain ⟨h₂, hchars⟩ := List.append_inj (List.append_cancel_left hchars) (hlength _ _ _)
  obtain ⟨h₃, hchars⟩ := List.append_inj (List.append_cancel_left hchars) (hlength _ _ _)
  obtain ⟨h₄, hchars⟩ := List.append_inj (List.append_cancel_left hchars) (hlength _ _ _)
  have h₅ := List.append_cancel_left hchars
  have ha := a.isLt
  have hb := b.isLt
  replace h₁ := Words.hexPad_inj h₁
  replace h₂ := Words.hexPad_inj h₂
  replace h₃ := Words.hexPad_inj h₃
  replace h₄ := Words.hexPad_inj h₄
  replace h₅ := Words.hexPad_inj h₅
  exact BitVec.eq_of_toNat_eq (by omega)

/-- The object references that tasks and events carry. -/
inductive ObjectRef where
  /-- `{"type", "id", "version"}` of a row -/
  | versioned (type : String) (id : Uuid) (version : Nat)
  /-- `{"type": "send_receipt", "id", "version": 1}` -/
  | sendReceipt (messageId : String)
  /-- `{"type", "id"}` of a retained snapshot, without a version -/
  | snapshot (type : String) (publicRef : String)
  /-- the request a held access binding carries -/
  | accessBindingRequest (snapshotPublicRef containerRef : String) (snapshotDate : Date)
deriving DecidableEq

def ObjectRef.toJson : ObjectRef → Json
  | .versioned type id version =>
    .obj [("type", .str type), ("id", .str (uuidText id)), ("version", .int version)]
  | .sendReceipt messageId =>
    .obj [("type", .str "send_receipt"), ("id", .str messageId), ("version", .int 1)]
  | .snapshot type publicRef => .obj [("type", .str type), ("id", .str publicRef)]
  | .accessBindingRequest snapshotPublicRef containerRef snapshotDate =>
    .obj [("type", .str "access_binding_request"),
      ("snapshot_public_ref", .str snapshotPublicRef), ("container_ref", .str containerRef),
      ("snapshot_date", .str snapshotDate.isoformat)]

def refsJson (refs : List ObjectRef) : Json := .arr (refs.map ObjectRef.toJson)

/-! ## Enumerations -/

inductive IntakeState where
  | received | initialProcessing | claimsExtracted | readyForReconstruction | unsupportedFile
  | unreadable | extractionFailed | requiredFieldMissing | blockedSourceVersionUnavailable
deriving DecidableEq

def IntakeState.value : IntakeState → String
  | received => "RECEIVED"
  | initialProcessing => "INITIAL_PROCESSING"
  | claimsExtracted => "CLAIMS_EXTRACTED"
  | readyForReconstruction => "READY_FOR_RECONSTRUCTION"
  | unsupportedFile => "UNSUPPORTED_FILE"
  | unreadable => "UNREADABLE"
  | extractionFailed => "EXTRACTION_FAILED"
  | requiredFieldMissing => "REQUIRED_FIELD_MISSING"
  | blockedSourceVersionUnavailable => "BLOCKED_SOURCE_VERSION_UNAVAILABLE"

/-- `_ALLOWED_TRANSITIONS`. -/
def allowedTransitions : IntakeState → List IntakeState
  | .received => [.initialProcessing, .unsupportedFile, .blockedSourceVersionUnavailable]
  | .initialProcessing =>
    [.claimsExtracted, .unreadable, .extractionFailed, .blockedSourceVersionUnavailable]
  | .claimsExtracted =>
    [.readyForReconstruction, .requiredFieldMissing, .blockedSourceVersionUnavailable]
  | .readyForReconstruction => [.blockedSourceVersionUnavailable]
  | _ => []

/-- `require_transition`. -/
def requireTransition (current target : IntakeState) : Except PyError Unit :=
  if target ∉ allowedTransitions current then
    .error (.valueError ("INVALID_INTAKE_TRANSITION:" ++ current.value ++ ":" ++ target.value))
  else .ok ()

/-- The aggregate status of an invoice. -/
inductive InvoiceStatus where
  | received | initialProcessing | reconstructing | needsEvidence | blocked | readyForReview
  | disputed | approvedForPayment | readyToSend | sendFailed
deriving DecidableEq

def InvoiceStatus.value : InvoiceStatus → String
  | received => "RECEIVED"
  | initialProcessing => "INITIAL_PROCESSING"
  | reconstructing => "RECONSTRUCTING"
  | needsEvidence => "NEEDS_EVIDENCE"
  | blocked => "BLOCKED"
  | readyForReview => "READY_FOR_REVIEW"
  | disputed => "DISPUTED"
  | approvedForPayment => "APPROVED_FOR_PAYMENT"
  | readyToSend => "READY_TO_SEND"
  | sendFailed => "SEND_FAILED"

inductive TaskState where
  | pending | leased | running | completed | retryWait | blocked | failed | held
deriving DecidableEq

def TaskState.value : TaskState → String
  | pending => "PENDING"
  | leased => "LEASED"
  | running => "RUNNING"
  | completed => "COMPLETED"
  | retryWait => "RETRY_WAIT"
  | blocked => "BLOCKED"
  | failed => "FAILED"
  | held => "HELD"

inductive TaskType where
  | extractInvoiceClaims | startReconstruction | findApplicableRule | judgeDays
  | bindAccessEvidence
deriving DecidableEq

def TaskType.value : TaskType → String
  | extractInvoiceClaims => "EXTRACT_INVOICE_CLAIMS"
  | startReconstruction => "START_RECONSTRUCTION"
  | findApplicableRule => "FIND_APPLICABLE_RULE"
  | judgeDays => "JUDGE_DAYS"
  | bindAccessEvidence => "BIND_ACCESS_EVIDENCE"

inductive IngestionState where
  | reserved | sourceStoredDbPending | completed
deriving DecidableEq

inductive RetryRequestState where
  | reserved | completed
deriving DecidableEq

inductive OutboxState where
  | pending | delivered
deriving DecidableEq

inductive SourceVersionState where
  | pending | verified | other
deriving DecidableEq

inductive ClaimValidationState where
  | validated | invalid
deriving DecidableEq

inductive CandidateState where
  | retrieved | accepted | rejected
deriving DecidableEq

inductive GateState where
  | verified | failed | notRun
deriving DecidableEq

/-- The gates of `SEND_GATES`. -/
inductive Gate where
  | secondAuthorization | lockedFields | approvedMemoryMcp | vectorClauseBinding
  | exactS3Source | noFallback
deriving DecidableEq

inductive SendState where
  | pending | sendBlocked | sendFailedRetryable | sent
deriving DecidableEq

inductive AttemptGateState where
  | passed | blocked
deriving DecidableEq

inductive AccessOutcome where
  | verified | refused
deriving DecidableEq

inductive EventRole where
  | availabilityBoundary | freeTimeBoundary | chargeEnd
deriving DecidableEq

/-! ## Rows -/

structure StoredInvoiceSource where
  bucketRefPrivate : String
  objectKeyPrivate : String
  versionIdPrivate : String
  sha256 : String
  byteLength : Nat
deriving DecidableEq

/-- The response of a finalized receipt. -/
structure ReceiptSnapshot where
  invoiceId : Uuid
  sourceId : Uuid
  displayName : String
  mimeType : String
  receivedAt : Instant
deriving DecidableEq

structure IngestionRequest where
  idempotencyKey : String
  requestHash : String
  state : IngestionState
  reservedInvoiceId : Uuid
  reservedSourceId : Uuid
  storedSource : Option StoredInvoiceSource := none
  responseSnapshot : Option ReceiptSnapshot := none
  deduplicatedInvoiceId : Option Uuid := none
  deduplicatedSourceId : Option Uuid := none
deriving DecidableEq

structure Invoice where
  id : Uuid
  carrierId : Uuid
  invoiceNo : Option String := none
  receivedAt : Instant
  sha256 : String
  displayName : String
  status : InvoiceStatus
  intakeState : IntakeState
  aggregateStatus : InvoiceStatus
  statusSequence : Nat
  rowVersion : Nat
  activeClaimSetVersion : Option Nat := none
deriving DecidableEq

structure InvoiceSource where
  id : Uuid
  invoiceId : Uuid
  source : StoredInvoiceSource
  preservationStatus : String
deriving DecidableEq

structure ExtractionRun where
  id : Uuid
  invoiceId : Uuid
  sourceId : Uuid
  attempt : Nat
  validationState : ClaimValidationState
deriving DecidableEq

structure ClaimSet where
  id : Uuid
  invoiceId : Uuid
  claimSetVersion : Nat
  extractionRunId : Uuid
  validationState : ClaimValidationState
deriving DecidableEq

/-- The decoded value of a claim's `normalized_value` column. -/
inductive ClaimValue where
  | text (value : String)
  | integer (value : Int)
  | money (amountMinor : Int) (currency : String)
deriving DecidableEq

structure ExtractedClaim where
  claimSetId : Uuid
  fieldName : String
  normalizedValue : ClaimValue
  amountMinor : Option Int
  currency : Option String
deriving DecidableEq

structure WorkflowTask where
  id : Uuid
  invoiceId : Uuid
  taskType : TaskType
  taskVersion : Nat
  state : TaskState
  initiatedBy : Option Uuid
  actorDisplay : String
  knowledgeCutoffAt : Instant
  inputFingerprint : String
  inputObjectRefs : List ObjectRef
  currentAttempt : Nat := 0
  leaseOwner : Option String := none
  leaseExpiresAt : Option Instant := none
  notBefore : Option Instant := none
  createdAt : Instant
deriving DecidableEq

structure WorkflowTaskAttempt where
  taskId : Uuid
  attempt : Nat
  state : TaskState
  leaseOwner : String
deriving DecidableEq

structure RetrySnapshot where
  taskId : Uuid
  taskVersion : Nat
  rowVersion : Nat
deriving DecidableEq

structure WorkflowRetryRequest where
  idempotencyKey : String
  invoiceId : Uuid
  requestHash : String
  state : RetryRequestState
  responseSnapshot : Option RetrySnapshot := none
deriving DecidableEq

structure InvoiceEvent where
  id : Uuid
  invoiceId : Uuid
  sequence : Nat
  eventType : String
  occurredAt : Instant
  role : String
  task : String
  toolDisplayName : Option String
  state : String
  aggregateStatus : InvoiceStatus
  summary : String
  inputObjectRefs : List ObjectRef
  producedObjectRefs : List ObjectRef := []
  outputCount : Option Nat := none
  publicError : Option String := none
deriving DecidableEq

structure EventOutbox where
  id : Uuid
  invoiceId : Uuid
  eventId : Uuid
  state : OutboxState
  availableAt : Instant
  leaseExpiresAt : Option Instant := none
  deliveryCount : Nat := 0
deriving DecidableEq

structure ReconstructionSourceArtifact where
  id : Uuid
  publicRef : String
  verificationState : String
deriving DecidableEq

structure ShipmentEventMemory where
  publicRef : String
  shipmentRef : String
  containerRef : String
  eventType : String
  sourcePublicRef : String
  sourceVersionState : SourceVersionState
  effectiveFrom : Option Date
  normalizedFacts : List (String × String)
deriving DecidableEq

structure ReconstructionRow where
  id : Uuid
  invoiceId : Uuid
  version : Nat
  taskId : Uuid
  inputFingerprint : String
  claimSetVersion : Nat
  state : ReconstructionState
  eventCount : Nat
  daysTotal : Nat
  daysComplete : Nat
deriving DecidableEq

structure ReconstructionEvent where
  id : Uuid
  reconstructionId : Uuid
  publicRef : String
  eventType : ShipmentEventType
  sourceArtifactId : Uuid
  displaySequence : Nat
deriving DecidableEq

structure ReconstructionChargedDay where
  id : Uuid
  reconstructionId : Uuid
  invoiceId : Uuid
  chargeDate : Date
  chargeability : Chargeability
  coverageState : CoverageState
  state : ChargedDayState
  invoiceRateMinor : Int
  applicableRateMinor : Option Int := none
  currency : String
  missingRequirements : List MissingRequirement
deriving DecidableEq

structure ReconstructionDayEventBinding where
  chargedDayId : Uuid
  reconstructionEventId : Uuid
  role : EventRole
deriving DecidableEq

structure ReconstructionCoverage where
  reconstructionId : Uuid
  requirementCode : CoverageRequirement
  coverageState : CoverageState
deriving DecidableEq

structure RuleRetrievalRun where
  id : Uuid
  invoiceId : Uuid
  reconstructionId : Uuid
  queryFingerprint : String
  candidateCount : Nat
deriving DecidableEq

structure RuleCandidateRow where
  id : Uuid
  retrievalRunId : Uuid
  clausePublicRef : String
  rank : Nat
  candidateState : CandidateState
  rejectionCode : Option String
deriving DecidableEq

structure ApplicableRule where
  id : Uuid
  invoiceId : Uuid
  reconstructionId : Uuid
  retrievalRunId : Uuid
  publicRef : String
  clauseRef : String
  rateMinor : Int
  currency : String
  effectiveFrom : Date
  effectiveTo : Option Date
  validationState : String
deriving DecidableEq

structure ChargedDayRuleBinding where
  chargedDayId : Uuid
  applicableRuleId : Uuid
deriving DecidableEq

structure RecommendationRow where
  id : Uuid
  invoiceId : Uuid
  reconstructionId : Uuid
  applicableRuleId : Option Uuid
  version : Nat
  inputFingerprint : String
  recommendationType : RecommendationType
  disputedAmountMinor : Int
  supportedAmountMinor : Int
  claimedAmountMinor : Int
  currency : String
  daysTotal : Nat
  daysCovered : Nat
  state : String
  digest : String
  reasonCodes : List ReasonCode
deriving DecidableEq

structure ChargedDayJudgment where
  id : Uuid
  invoiceId : Uuid
  reconstructionId : Uuid
  recommendationId : Uuid
  chargedDayId : Uuid
  chargeDate : Date
  invoiceRateMinor : Int
  applicableRateMinor : Option Int
  discrepancyMinor : Int
  outcome : DayOutcome
deriving DecidableEq

/-- The stored response of an approval. -/
structure ApprovalSnapshot where
  sealId : Uuid
  revision : Nat
  sealDigest : String
  recommendationType : RecommendationType
deriving DecidableEq

structure Approval where
  id : Uuid
  invoiceId : Uuid
  reconstructionId : Uuid
  recommendationId : Uuid
  recommendationVersion : Nat
  recommendationDigest : String
  idempotencyKey : String
  requestHash : String
  approverDisplay : String
  approverKind : String
  decision : String
  state : String
  responseSnapshot : ApprovalSnapshot
deriving DecidableEq

structure DecisionSeal where
  id : Uuid
  invoiceId : Uuid
  reconstructionId : Uuid
  recommendationId : Uuid
  recommendationVersion : Nat
  applicableRuleId : Option Uuid
  claimSetVersion : Nat
  approvalId : Uuid
  approverDisplay : String
  revision : Nat
  sealDigest : String
  invoiceSourceRefPrivate : String
deriving DecidableEq

structure CorrespondenceDraft where
  id : Uuid
  invoiceId : Uuid
  decisionSealId : Uuid
  sealDigest : String
  subject : String
  bodyProse : String
  validationState : ClaimValidationState
  createdAt : Instant
deriving DecidableEq

structure SendAttempt where
  id : Uuid
  invoiceId : Uuid
  draftId : Uuid
  decisionSealId : Uuid
  idempotencyKey : String
  requestHash : String
  secondApproverDisplay : String
  gateState : AttemptGateState
  sendState : SendState
  providerIdempotencyKey : String
  providerMessageId : Option String := none
  blockedReason : Option String
deriving DecidableEq

structure SendGateRun where
  id : Uuid
  sendAttemptId : Uuid
  gateCode : Gate
  gateState : GateState
  detail : Option String
deriving DecidableEq

structure AccessEvidenceVerification where
  id : Uuid
  invoiceId : Uuid
  taskId : Uuid
  snapshotPublicRef : String
  containerRef : String
  snapshotDate : Option Date
  outcome : AccessOutcome
  reasonCode : Option AccessRefusal
deriving DecidableEq

/-! ## Tables -/

inductive Table where
  | ingestionRequests | invoices | invoiceSources | extractionRuns | claimSets | extractedClaims
  | workflowTasks | workflowTaskAttempts | workflowRetryRequests | invoiceEvents | eventOutbox
  | sourceArtifacts | shipmentEventMemory | reconstructions | reconstructionEvents
  | chargedDays | dayEventBindings | reconstructionCoverage
  | ruleRetrievalRuns | ruleCandidates | applicableRules | chargedDayRuleBindings
  | recommendations | chargedDayJudgments | approvals | decisionSeals
  | correspondenceDrafts | sendAttempts | sendGateRuns | accessEvidenceVerifications
deriving DecidableEq

@[reducible] def Row : Table → Type
  | .ingestionRequests => IngestionRequest
  | .invoices => Invoice
  | .invoiceSources => InvoiceSource
  | .extractionRuns => ExtractionRun
  | .claimSets => ClaimSet
  | .extractedClaims => ExtractedClaim
  | .workflowTasks => WorkflowTask
  | .workflowTaskAttempts => WorkflowTaskAttempt
  | .workflowRetryRequests => WorkflowRetryRequest
  | .invoiceEvents => InvoiceEvent
  | .eventOutbox => EventOutbox
  | .sourceArtifacts => ReconstructionSourceArtifact
  | .shipmentEventMemory => ShipmentEventMemory
  | .reconstructions => ReconstructionRow
  | .reconstructionEvents => ReconstructionEvent
  | .chargedDays => ReconstructionChargedDay
  | .dayEventBindings => ReconstructionDayEventBinding
  | .reconstructionCoverage => ReconstructionCoverage
  | .ruleRetrievalRuns => RuleRetrievalRun
  | .ruleCandidates => RuleCandidateRow
  | .applicableRules => ApplicableRule
  | .chargedDayRuleBindings => ChargedDayRuleBinding
  | .recommendations => RecommendationRow
  | .chargedDayJudgments => ChargedDayJudgment
  | .approvals => Approval
  | .decisionSeals => DecisionSeal
  | .correspondenceDrafts => CorrespondenceDraft
  | .sendAttempts => SendAttempt
  | .sendGateRuns => SendGateRun
  | .accessEvidenceVerifications => AccessEvidenceVerification

/-- The database of one tenant. -/
abbrev Db := Store Row

def Db.empty : Db := fun t => by cases t <;> exact []

/-- The unique indexes: whether two rows share a key. -/
def conflicts : (t : Table) → Row t → Row t → Bool
  | .ingestionRequests, a, b => a.idempotencyKey = b.idempotencyKey ∨
      a.reservedInvoiceId = b.reservedInvoiceId ∨ a.reservedSourceId = b.reservedSourceId
  | .invoices, a, b => a.id = b.id ∨ a.sha256 = b.sha256
  | .invoiceSources, a, b => a.id = b.id ∨ a.invoiceId = b.invoiceId ∨
      (a.source.objectKeyPrivate = b.source.objectKeyPrivate ∧
        a.source.versionIdPrivate = b.source.versionIdPrivate)
  | .extractionRuns, a, b => a.id = b.id ∨
      (a.invoiceId = b.invoiceId ∧ a.sourceId = b.sourceId ∧ a.attempt = b.attempt)
  | .claimSets, a, b => a.id = b.id ∨
      (a.invoiceId = b.invoiceId ∧ a.claimSetVersion = b.claimSetVersion)
  | .extractedClaims, a, b => a.claimSetId = b.claimSetId ∧ a.fieldName = b.fieldName
  | .workflowTasks, a, b => a.id = b.id ∨ (a.invoiceId = b.invoiceId ∧
      a.taskType = b.taskType ∧ a.taskVersion = b.taskVersion ∧
      a.inputFingerprint = b.inputFingerprint)
  | .workflowTaskAttempts, a, b => a.taskId = b.taskId ∧ a.attempt = b.attempt
  | .workflowRetryRequests, a, b => a.idempotencyKey = b.idempotencyKey
  | .invoiceEvents, a, b => a.id = b.id ∨
      (a.invoiceId = b.invoiceId ∧ a.sequence = b.sequence)
  | .eventOutbox, a, b => a.id = b.id ∨ a.eventId = b.eventId
  | .sourceArtifacts, a, b => a.id = b.id ∨ a.publicRef = b.publicRef
  | .shipmentEventMemory, a, b => a.publicRef = b.publicRef
  | .reconstructions, a, b => a.id = b.id ∨ (a.invoiceId = b.invoiceId ∧
      (a.version = b.version ∨ a.inputFingerprint = b.inputFingerprint))
  | .reconstructionEvents, a, b => a.id = b.id ∨
      (a.reconstructionId = b.reconstructionId ∧ a.publicRef = b.publicRef)
  | .chargedDays, a, b => a.id = b.id ∨
      (a.reconstructionId = b.reconstructionId ∧ a.chargeDate = b.chargeDate)
  | .dayEventBindings, a, b => a = b
  | .reconstructionCoverage, a, b => a.reconstructionId = b.reconstructionId ∧
      a.requirementCode = b.requirementCode
  | .ruleRetrievalRuns, a, b => a.id = b.id ∨ (a.reconstructionId = b.reconstructionId ∧
      a.queryFingerprint = b.queryFingerprint)
  | .ruleCandidates, a, b => a.id = b.id ∨
      (a.retrievalRunId = b.retrievalRunId ∧ a.rank = b.rank)
  | .applicableRules, a, b => a.id = b.id ∨ a.reconstructionId = b.reconstructionId
  | .chargedDayRuleBindings, a, b => a = b
  | .recommendations, a, b => a.id = b.id ∨ (a.reconstructionId = b.reconstructionId ∧
      (a.version = b.version ∨ a.inputFingerprint = b.inputFingerprint))
  | .chargedDayJudgments, a, b => a.id = b.id ∨
      (a.recommendationId = b.recommendationId ∧ a.chargeDate = b.chargeDate)
  | .approvals, a, b => a.idempotencyKey = b.idempotencyKey ∨ a.id = b.id ∨
      (a.recommendationId = b.recommendationId ∧ a.state = "APPROVED" ∧ b.state = "APPROVED")
  | .decisionSeals, a, b => a.id = b.id ∨ a.recommendationId = b.recommendationId ∨
      (a.invoiceId = b.invoiceId ∧ a.revision = b.revision)
  | .correspondenceDrafts, a, b => a.id = b.id ∨ a.decisionSealId = b.decisionSealId
  | .sendAttempts, a, b => a.idempotencyKey = b.idempotencyKey ∨ a.id = b.id ∨
      a.providerIdempotencyKey = b.providerIdempotencyKey
  | .sendGateRuns, a, b => a.id = b.id ∨
      (a.sendAttemptId = b.sendAttemptId ∧ a.gateCode = b.gateCode)
  | .accessEvidenceVerifications, a, b => a.id = b.id ∨
      (a.taskId = b.taskId ∧ a.snapshotPublicRef = b.snapshotPublicRef)

def hasInvoice (db : Db) (id : Uuid) : Bool := (db .invoices).any fun r => r.id = id
def hasReconstruction (db : Db) (id : Uuid) : Bool := (db .reconstructions).any fun r => r.id = id

/-- The foreign keys between the modelled tables. -/
def references : (t : Table) → Db → Row t → Bool
  | .invoiceSources, db, r => hasInvoice db r.invoiceId
  | .extractionRuns, db, r => hasInvoice db r.invoiceId ∧
      (db .invoiceSources).any fun s => s.id = r.sourceId
  | .claimSets, db, r => hasInvoice db r.invoiceId ∧
      (db .extractionRuns).any fun x => x.id = r.extractionRunId
  | .extractedClaims, db, r => (db .claimSets).any fun s => s.id = r.claimSetId
  | .workflowTasks, db, r => hasInvoice db r.invoiceId
  | .workflowTaskAttempts, db, r => (db .workflowTasks).any fun w => w.id = r.taskId
  | .workflowRetryRequests, db, r => hasInvoice db r.invoiceId
  | .invoiceEvents, db, r => hasInvoice db r.invoiceId
  | .eventOutbox, db, r => hasInvoice db r.invoiceId ∧
      (db .invoiceEvents).any fun e => e.id = r.eventId
  | .reconstructions, db, r => hasInvoice db r.invoiceId ∧
      (db .workflowTasks).any fun w => w.id = r.taskId
  | .reconstructionEvents, db, r => hasReconstruction db r.reconstructionId ∧
      (db .sourceArtifacts).any fun a => a.id = r.sourceArtifactId
  | .chargedDays, db, r => hasReconstruction db r.reconstructionId
  | .dayEventBindings, db, r => ((db .chargedDays).any fun d => d.id = r.chargedDayId) ∧
      (db .reconstructionEvents).any fun e => e.id = r.reconstructionEventId
  | .reconstructionCoverage, db, r => hasReconstruction db r.reconstructionId
  | .ruleRetrievalRuns, db, r => hasReconstruction db r.reconstructionId
  | .ruleCandidates, db, r => (db .ruleRetrievalRuns).any fun x => x.id = r.retrievalRunId
  | .applicableRules, db, r => hasReconstruction db r.reconstructionId ∧
      (db .ruleRetrievalRuns).any fun x => x.id = r.retrievalRunId
  | .chargedDayRuleBindings, db, r => ((db .chargedDays).any fun d => d.id = r.chargedDayId) ∧
      (db .applicableRules).any fun x => x.id = r.applicableRuleId
  | .recommendations, db, r => hasReconstruction db r.reconstructionId
  | .chargedDayJudgments, db, r => hasReconstruction db r.reconstructionId ∧
      (db .chargedDays).any fun d => d.id = r.chargedDayId
  | .approvals, db, r => (db .recommendations).any fun x => x.id = r.recommendationId
  | .decisionSeals, db, r => ((db .recommendations).any fun x => x.id = r.recommendationId) ∧
      (db .approvals).any fun a => a.id = r.approvalId
  | .correspondenceDrafts, db, r => (db .decisionSeals).any fun s => s.id = r.decisionSealId
  | .sendAttempts, db, r => (db .correspondenceDrafts).any fun d => d.id = r.draftId
  | .sendGateRuns, db, r => (db .sendAttempts).any fun a => a.id = r.sendAttemptId
  | .accessEvidenceVerifications, db, r => hasInvoice db r.invoiceId
  | .ingestionRequests, _, _ => true
  | .invoices, _, _ => true
  | .sourceArtifacts, _, _ => true
  | .shipmentEventMemory, _, _ => true

@[reducible] def tallySchema : Schema Row := ⟨conflicts, references⟩

/-! ## Transactions -/

/-- What a transaction may raise. -/
inductive Raised where
  | integrityError (violation : Violation)
  | taskLeaseLost
  | runtimeError (message : String)
  | pyError (error : PyError)
  | ingestionState (message : String)
  | idempotencyConflict
  | missingSourceArtifact (publicRef : String)
  | accessSnapshotMissing (publicRef : String)
  | recommendationNotApprovable (message : String)
  | staleRecommendation
  | approvalConflict
  | draftNotFound (message : String)
  | sendConflict
deriving DecidableEq

abbrev Tx := Txn Db Raised

/-- What a transaction run takes from outside: its start time, the values its
calls of `uuid4` return, the tasks other transactions hold locks on, and the
pick a query without an order makes. -/
structure TxnEnv where
  now : Instant
  uuid : Nat → Uuid
  locked : List Uuid := []
  choice : Nat := 0

def insertRow (t : Table) (row : Row t) : Tx Unit :=
  tallySchema.insert Raised.integrityError t row

/-- `ON CONFLICT` on one unique index. -/
def insertOrIgnoreRow (t : Table) (target : Row t → Row t → Bool) (row : Row t) : Tx Unit :=
  tallySchema.insertOrIgnore Raised.integrityError t target row

def updateRows (t : Table) (selects : Row t → Bool) (change : Row t → Row t) : Tx Unit :=
  Schema.update t selects change

/-- `SELECT ... WHERE`, all matching rows. -/
def selectRows (t : Table) (selects : Row t → Bool) : Tx (List (Row t)) :=
  .read fun db => (db t).filter selects

/-- `SELECT` of the first matching row. -/
def selectRow (t : Table) (selects : Row t → Bool) : Tx (Option (Row t)) :=
  .read fun db => (db t).find? selects

/-- The row a query without an order returns first. -/
def fetchOne {α : Type} (env : TxnEnv) (rows : List α) : Option α :=
  rows[env.choice % rows.length]?

/-- `COALESCE(max(..), 0) + 1`. -/
def nextNumber (numbers : List Nat) : Nat := numbers.foldl max 0 + 1

end Tally.Model
