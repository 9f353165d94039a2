import Tally.Model.IntakeRepository

/-!
# Extraction tasks

The embedding of `platform/intake_tasks.py`: claiming, completing, failing and
retrying the extraction of carrier claims. The claim validation a worker passes
in carries what `validate_extracted_claims` guarantees of every claim it returns.
-/

set_option autoImplicit false

namespace Tally.Model.IntakeTasks
open Library Library.Calendar Tally.Model Tally.Model.IntakeRepository

structure ExtractionTaskLease extends LeaseKey where
  invoiceId : Uuid
  sourceId : Uuid
  knowledgeCutoffAt : Instant
  source : StoredInvoiceSource
  initiatedBy : Option Uuid
  actorDisplay : String
deriving DecidableEq

/-- A claim as the claim validation returns it: the only currency it writes is
USD. -/
structure ValidatedClaim where
  fieldName : String
  normalizedValue : ClaimValue
  amountMinor : Option Int
  currency : Option String
  currency_usd : currency.getD "USD" = "USD"
deriving DecidableEq

structure ClaimValidation where
  claims : List ValidatedClaim
  issueCodes : List String
deriving DecidableEq

def ClaimValidation.passed (v : ClaimValidation) : Bool := v.issueCodes.isEmpty

structure ExtractionCompletion where
  extractionRunId : Uuid
  claimSetId : Uuid
  claimSetVersion : Nat
  reconstructionTaskId : Option Uuid
  status : InvoiceStatus
deriving DecidableEq

structure RetryResult where
  taskId : Uuid
  taskVersion : Nat
  rowVersion : Nat
  replay : Bool
deriving DecidableEq

/-! ## Claiming -/

def extractionStarted (invoiceId sourceId : Uuid) (sequence : Nat) : EventFields :=
  { invoiceId
    sequence
    eventType := "intake.extraction_started"
    state := "RUNNING"
    aggregateStatus := .initialProcessing
    summary := "Carrier claim extraction started"
    inputRefs := [sourceRef sourceId] }

/-- `claim_next_extraction_task`. -/
def claimNextExtractionTask (env : TxnEnv) (workerId : String) (leaseSeconds : Nat) :
    Tx (Option ExtractionTaskLease) := do
  let task ← Txn.read fun db : Db => nextTask env .extractInvoiceClaims
    (fun w => (db .invoiceSources).any fun s => s.invoiceId = w.invoiceId) (db .workflowTasks)
  match task with
  | none => pure none
  | some w =>
    let some source ← selectRow .invoiceSources fun s => s.invoiceId = w.invoiceId
      | pure none
    let key := nextKey w workerId
    startAttempt env key leaseSeconds
    let sequence ← lockInvoiceAndAdvance w.invoiceId .initialProcessing .initialProcessing 1 none
    insertEvent env 0 "EXTRACT_INVOICE_CLAIMS" (some "Amazon Bedrock")
      (extractionStarted w.invoiceId source.id sequence)
    pure (some
      { toLeaseKey := key
        invoiceId := w.invoiceId
        sourceId := source.id
        knowledgeCutoffAt := w.knowledgeCutoffAt
        source := source.source
        initiatedBy := w.initiatedBy
        actorDisplay := w.actorDisplay })

/-! ## Completing -/

def claimSetRef (claimSetId : Uuid) (claimSetVersion : Nat) : ObjectRef :=
  .versioned "claim_set" claimSetId claimSetVersion

def claimsValidated (lease : ExtractionTaskLease) (claimCount : Nat) (claimSet : ObjectRef)
    (sequence : Nat) : EventFields :=
  { invoiceId := lease.invoiceId
    sequence
    eventType := "intake.claims_validated"
    state := "COMPLETED"
    aggregateStatus := .reconstructing
    summary := Nat.repr claimCount ++ " carrier claims validated"
    inputRefs := [sourceRef lease.sourceId]
    producedRefs := [claimSet]
    outputCount := some claimCount }

def reconstructionStarted (lease : ExtractionTaskLease) (claimSet : ObjectRef) (taskId : Uuid)
    (sequence : Nat) : EventFields :=
  { invoiceId := lease.invoiceId
    sequence
    eventType := "invoice.reconstruction_started"
    state := "PENDING"
    aggregateStatus := .reconstructing
    summary := "Invoice handed to pre-invoice reconstruction"
    inputRefs := [sourceRef lease.sourceId, claimSet]
    producedRefs := [.versioned "workflow_task" taskId 1] }

def claimsNeedEvidence (lease : ExtractionTaskLease) (claimCount : Nat) (claimSet : ObjectRef)
    (sequence : Nat) : EventFields :=
  { invoiceId := lease.invoiceId
    sequence
    eventType := "intake.claims_need_evidence"
    state := "BLOCKED"
    aggregateStatus := .needsEvidence
    summary := "Required carrier claims need evidence"
    inputRefs := [sourceRef lease.sourceId]
    producedRefs := [claimSet]
    outputCount := some claimCount }

/-- The reconstruction task of a claim set. -/
def reconstructionTask [Sha256] (env : TxnEnv) (k : Nat) (lease : ExtractionTaskLease)
    (claimSet : ObjectRef) : WorkflowTask :=
  let refs := [sourceRef lease.sourceId, claimSet]
  { id := env.uuid k
    invoiceId := lease.invoiceId
    taskType := .startReconstruction
    taskVersion := 1
    state := .pending
    initiatedBy := lease.initiatedBy
    actorDisplay := lease.actorDisplay
    knowledgeCutoffAt := lease.knowledgeCutoffAt
    inputFingerprint := taskInputFingerprint .startReconstruction refs
    inputObjectRefs := refs
    createdAt := env.now }

def validationState (validation : ClaimValidation) : ClaimValidationState :=
  if validation.passed then .validated else .invalid

def claimSetRow (env : TxnEnv) (lease : ExtractionTaskLease) (validation : ClaimValidation)
    (claimSetVersion : Nat) : ClaimSet :=
  { id := env.uuid 1, invoiceId := lease.invoiceId, claimSetVersion,
    extractionRunId := env.uuid 0, validationState := validationState validation }

/-- The extraction run, the claim set and its claims. -/
def insertClaims (env : TxnEnv) (lease : ExtractionTaskLease) (validation : ClaimValidation) :
    Tx Nat := do
  let sets ← selectRows .claimSets fun s => s.invoiceId = lease.invoiceId
  let claimSetVersion := nextNumber (sets.map ClaimSet.claimSetVersion)
  -- INSERT .. SELECT from the source joined with the running attempt
  let bound ← Txn.read fun db : Db =>
    ((db .invoiceSources).any fun s => s.id = lease.sourceId) &&
      (db .workflowTaskAttempts).any fun a => a.taskId = lease.taskId ∧ a.attempt = lease.attempt
  Txn.onlyIf bound (insertRow .extractionRuns
    { id := env.uuid 0, invoiceId := lease.invoiceId, sourceId := lease.sourceId,
      attempt := lease.attempt, validationState := validationState validation })
  insertRow .claimSets (claimSetRow env lease validation claimSetVersion)
  Txn.forEach (fun _ claim => insertRow .extractedClaims
    { claimSetId := env.uuid 1, fieldName := claim.fieldName,
      normalizedValue := claim.normalizedValue, amountMinor := claim.amountMinor,
      currency := claim.currency }) 0 validation.claims
  pure claimSetVersion

/-- `complete_extraction`. -/
def completeExtraction [Sha256] (env : TxnEnv) (lease : ExtractionTaskLease)
    (validation : ClaimValidation) : Tx ExtractionCompletion := do
  assertCurrentLease lease.toLeaseKey
  let claimSetVersion ← insertClaims env lease validation
  let claimSet := claimSetRef (env.uuid 1) claimSetVersion
  finishTask lease.toLeaseKey
  if validation.passed then
    emitTask (reconstructionTask env 2 lease claimSet)
    let firstSequence ← lockInvoiceAndAdvance lease.invoiceId .readyForReconstruction
      .reconstructing 2 (some claimSetVersion)
    insertEvent env 3 "VALIDATE_INVOICE_CLAIMS" none
      (claimsValidated lease validation.claims.length claimSet firstSequence)
    insertEvent env 5 "START_RECONSTRUCTION" (some "CockroachDB Managed MCP")
      (reconstructionStarted lease claimSet (env.uuid 2) (firstSequence + 1))
    pure ⟨env.uuid 0, env.uuid 1, claimSetVersion, some (env.uuid 2), .reconstructing⟩
  else
    let sequence ← lockInvoiceAndAdvance lease.invoiceId .requiredFieldMissing .needsEvidence 1
      (some claimSetVersion)
    insertEvent env 2 "VALIDATE_INVOICE_CLAIMS" none
      (claimsNeedEvidence lease validation.claims.length claimSet sequence)
    pure ⟨env.uuid 0, env.uuid 1, claimSetVersion, none, .needsEvidence⟩

/-! ## Failing and retrying -/

def extractionFailed (lease : ExtractionTaskLease) (retry : Bool) (taskState : TaskState)
    (sequence : Nat) : EventFields :=
  { invoiceId := lease.invoiceId
    sequence
    eventType := if retry then "intake.extraction_retry_scheduled"
      else "intake.extraction_blocked"
    state := taskState.value
    aggregateStatus := if retry then .initialProcessing else .blocked
    summary := if retry then "Carrier claim extraction will retry"
      else "Carrier claim extraction is blocked"
    inputRefs := [sourceRef lease.sourceId] }

/-- `fail_extraction`. -/
def failExtraction (env : TxnEnv) (lease : ExtractionTaskLease) (errorCode : String)
    (retryable : Bool) : Tx TaskState := do
  assertCurrentLease lease.toLeaseKey
  let retry := willRetry lease.toLeaseKey retryable
  let intakeState : IntakeState :=
    if retry then .initialProcessing
    else if "SOURCE_".toList <+: errorCode.toList then .blockedSourceVersionUnavailable
    else .extractionFailed
  let aggregateStatus : InvoiceStatus := if retry then .initialProcessing else .blocked
  let taskState ← failTask env lease.toLeaseKey retryable .failed
  let sequence ← lockInvoiceAndAdvance lease.invoiceId intakeState aggregateStatus 1 none
  insertEvent env 0 "EXTRACT_INVOICE_CLAIMS" (some "Amazon Bedrock")
    (extractionFailed lease retry taskState sequence)
  pure taskState

/-- The latest extraction task of an invoice (`ORDER BY task_version DESC`). -/
def latestExtractionTask (invoiceId : Uuid) (tasks : List WorkflowTask) : Option WorkflowTask :=
  ((tasks.filter fun w => w.invoiceId = invoiceId ∧ w.taskType = .extractInvoiceClaims)
    |>.insertionSort fun a b => b.taskVersion ≤ a.taskVersion).head?

/-- The next version of a failed extraction task. -/
def retriedTask (env : TxnEnv) (previous : WorkflowTask) (initiatedBy : Option Uuid)
    (actorDisplay : String) : WorkflowTask :=
  { id := env.uuid 0
    invoiceId := previous.invoiceId
    taskType := .extractInvoiceClaims
    taskVersion := previous.taskVersion + 1
    state := .pending
    initiatedBy
    actorDisplay
    knowledgeCutoffAt := previous.knowledgeCutoffAt
    inputFingerprint := previous.inputFingerprint
    inputObjectRefs := previous.inputObjectRefs
    createdAt := env.now }

def retryRequested (task : WorkflowTask) (sequence : Nat) : EventFields :=
  { invoiceId := task.invoiceId
    sequence
    eventType := "intake.retry_requested"
    state := "PENDING"
    aggregateStatus := .received
    summary := "Carrier claim extraction retry requested"
    inputRefs := task.inputObjectRefs
    producedRefs := [.versioned "workflow_task" task.id task.taskVersion] }

/-- A retry that the idempotency key does not answer: the next task version of an
invoice whose latest one failed. -/
def retryFailedTask (env : TxnEnv) (invoiceId : Uuid) (idempotencyKey : String)
    (expectedRowVersion : Nat) (initiatedBy : Option Uuid) (actorDisplay : String) :
    Tx RetryResult := do
  let invalid (code : String) : Raised := .pyError (.valueError code)
  let invoice ← Txn.orRaise (invalid "INVOICE_NOT_FOUND") =<<
    selectRow .invoices fun i => i.id = invoiceId
  Txn.onlyIf (invoice.rowVersion ≠ expectedRowVersion) (.raise (invalid "STALE_INVOICE_VERSION"))
  let previous ← Txn.orRaise (invalid "INVALID_STATE") =<<
    Txn.read fun db : Db => latestExtractionTask invoiceId (db .workflowTasks)
  Txn.onlyIf (previous.state ≠ .failed) (.raise (invalid "INVALID_STATE"))
  let task := retriedTask env previous initiatedBy actorDisplay
  insertRow .workflowTasks task
  let sequence ← lockInvoiceAndAdvance invoiceId .received .received 1 none
  insertEvent env 1 "EXTRACT_INVOICE_CLAIMS" none (retryRequested task sequence)
  let rowVersion := invoice.rowVersion + 1
  updateRows .workflowRetryRequests (fun r => r.idempotencyKey = idempotencyKey) fun r =>
    { r with
      state := .completed
      responseSnapshot := some ⟨task.id, task.taskVersion, rowVersion⟩ }
  pure ⟨task.id, task.taskVersion, rowVersion, false⟩

/-- `retry_extraction_task`. -/
def retryExtractionTask [Sha256] (env : TxnEnv) (invoiceId : Uuid) (idempotencyKey : String)
    (expectedRowVersion : Nat) (initiatedBy : Option Uuid) (actorDisplay : String) :
    Tx RetryResult := do
  let requestHash := taskInputFingerprint .extractInvoiceClaims
    [.versioned "invoice" invoiceId expectedRowVersion]
  let conflict : Raised := .pyError (.valueError "IDEMPOTENCY_CONFLICT")
  insertOrIgnoreRow .workflowRetryRequests (fun a b => a.idempotencyKey = b.idempotencyKey)
    { idempotencyKey, invoiceId, requestHash, state := .reserved }
  let request ← Txn.orRaise conflict =<<
    selectRow .workflowRetryRequests fun r => r.idempotencyKey = idempotencyKey
  if request.invoiceId ≠ invoiceId ∨ request.requestHash ≠ requestHash then .raise conflict
  else if request.state = .completed then do
    let s ← Txn.orRaise (.runtimeError "response snapshot is absent") request.responseSnapshot
    pure ⟨s.taskId, s.taskVersion, s.rowVersion, true⟩
  else
    retryFailedTask env invoiceId idempotencyKey expectedRowVersion initiatedBy actorDisplay

end Tally.Model.IntakeTasks
