import Tally.Model.TaskSpine

/-!
# Receipt of an invoice

The embedding of `platform/intake_repository.py`: the reservation of an
idempotency key, the record of the stored source, the finalized receipt with its
first task and event, and the link of a repeated source to its invoice.
-/

set_option autoImplicit false

namespace Tally.Model.IntakeRepository
open Library Library.Calendar Tally.Model

structure IngestionReservation where
  invoiceId : Uuid
  sourceId : Uuid
  state : IngestionState
  responseSnapshot : Option ReceiptSnapshot
  isNew : Bool
  storedSource : Option StoredInvoiceSource
deriving DecidableEq

structure FinalizeReceipt where
  idempotencyKey : String
  requestHash : String
  carrierId : Uuid
  displayName : String
  mimeType : String
  storedSource : StoredInvoiceSource
  actorId : Option Uuid
  actorDisplay : String
deriving DecidableEq

def sourceRef (sourceId : Uuid) : ObjectRef := .versioned "invoice_source" sourceId 1

/-- The request row of a key, with the checks every receipt step begins with. -/
def loadRequest (idempotencyKey requestHash : String) : Tx IngestionRequest := do
  let some row ← selectRow .ingestionRequests fun r => r.idempotencyKey = idempotencyKey
    | .raise (.ingestionState "INGESTION_REQUEST_NOT_FOUND")
  if row.requestHash ≠ requestHash then .raise .idempotencyConflict
  else pure row

def updateRequest (idempotencyKey : String) (change : IngestionRequest → IngestionRequest) :
    Tx Unit :=
  updateRows .ingestionRequests (fun r => r.idempotencyKey = idempotencyKey) change

/-- `reserve_ingestion`. -/
def reserveIngestion (env : TxnEnv) (idempotencyKey requestHash : String) :
    Tx IngestionReservation := do
  insertOrIgnoreRow .ingestionRequests (fun a b => a.idempotencyKey = b.idempotencyKey)
    { idempotencyKey, requestHash, state := .reserved, reservedInvoiceId := env.uuid 0,
      reservedSourceId := env.uuid 1 }
  let some row ← selectRow .ingestionRequests fun r => r.idempotencyKey = idempotencyKey
    | .raise (.runtimeError "ingestion reservation readback failed")
  if row.requestHash ≠ requestHash then .raise .idempotencyConflict
  else
    let reservation : IngestionReservation :=
      { invoiceId := row.reservedInvoiceId
        sourceId := row.reservedSourceId
        state := row.state
        responseSnapshot := row.responseSnapshot
        isNew := row.reservedInvoiceId = env.uuid 0
        storedSource := row.storedSource }
    pure reservation

/-- `record_source_stored`. -/
def recordSourceStored (idempotencyKey requestHash : String) (source : StoredInvoiceSource) :
    Tx Unit := do
  let row ← loadRequest idempotencyKey requestHash
  if row.state = .completed then pure ()
  else updateRequest idempotencyKey fun r =>
    { r with state := .sourceStoredDbPending, storedSource := some source }

/-- A completed request answers with its stored response. -/
def completedOr (row : IngestionRequest) (proceed : Tx ReceiptSnapshot) : Tx ReceiptSnapshot :=
  if row.state = .completed then
    Txn.orRaise (.runtimeError "response snapshot is absent") row.responseSnapshot
  else proceed

/-- Whether the source of a digest is the one bound to the invoice. -/
def sourceBoundTo (db : Db) (invoiceId sourceId : Uuid) (sourceSha256 : String) : Bool :=
  ((db .invoices).any fun i => i.id = invoiceId ∧ i.sha256 = sourceSha256) &&
    (db .invoiceSources).any fun s =>
      s.invoiceId = invoiceId ∧ s.id = sourceId ∧ s.source.sha256 = sourceSha256

/-- `complete_duplicate_ingestion`. -/
def completeDuplicateIngestion (idempotencyKey requestHash : String) (invoiceId sourceId : Uuid)
    (sourceSha256 : String) (responseSnapshot : ReceiptSnapshot) : Tx ReceiptSnapshot := do
  let row ← loadRequest idempotencyKey requestHash
  completedOr row do
    let bound ← Txn.read fun db : Db => sourceBoundTo db invoiceId sourceId sourceSha256
    if !bound then .raise (.ingestionState "DUPLICATE_SOURCE_BINDING_MISMATCH")
    else
      updateRequest idempotencyKey fun r =>
        { r with
          state := .completed
          responseSnapshot := some responseSnapshot
          deduplicatedInvoiceId := some invoiceId
          deduplicatedSourceId := some sourceId }
      pure responseSnapshot

/-- The first event of an invoice. -/
def invoiceReceived (env : TxnEnv) (invoiceId sourceId : Uuid) : InvoiceEvent :=
  { id := env.uuid 1
    invoiceId
    sequence := 1
    eventType := "invoice.received"
    occurredAt := env.now
    role := "INTAKE_AGENT"
    task := "PRESERVE_INVOICE_SOURCE"
    toolDisplayName := some "Amazon S3"
    state := "COMPLETED"
    aggregateStatus := .received
    summary := "Invoice received and original source verified"
    inputObjectRefs := []
    producedObjectRefs := [sourceRef sourceId] }

/-- The first task of an invoice. -/
def firstExtractionTask [Sha256] (env : TxnEnv) (command : FinalizeReceipt)
    (invoiceId sourceId : Uuid) : WorkflowTask :=
  { id := env.uuid 0
    invoiceId
    taskType := .extractInvoiceClaims
    taskVersion := 1
    state := .pending
    initiatedBy := command.actorId
    actorDisplay := command.actorDisplay
    knowledgeCutoffAt := env.now
    inputFingerprint := taskInputFingerprint .extractInvoiceClaims [sourceRef sourceId]
    inputObjectRefs := [sourceRef sourceId]
    createdAt := env.now }

def receivedInvoice (env : TxnEnv) (command : FinalizeReceipt) (invoiceId : Uuid) : Invoice :=
  { id := invoiceId
    carrierId := command.carrierId
    receivedAt := env.now
    sha256 := command.storedSource.sha256
    displayName := command.displayName
    status := .received
    intakeState := .received
    aggregateStatus := .received
    statusSequence := 1
    rowVersion := 1 }

/-- The invoice, source, first task and first event of a finalized receipt. -/
def insertReceipt [Sha256] (env : TxnEnv) (command : FinalizeReceipt) (invoiceId sourceId : Uuid) :
    Tx Unit := do
  insertRow .invoices (receivedInvoice env command invoiceId)
  insertRow .invoiceSources
    { id := sourceId, invoiceId, source := command.storedSource,
      preservationStatus := "VERSION_VERIFIED" }
  insertRow .workflowTasks (firstExtractionTask env command invoiceId sourceId)
  insertEventRow (invoiceReceived env invoiceId sourceId) (env.uuid 2)

/-- `finalize_received_invoice`. -/
def finalizeReceivedInvoice [Sha256] (env : TxnEnv) (command : FinalizeReceipt) :
    Tx ReceiptSnapshot := do
  let row ← loadRequest command.idempotencyKey command.requestHash
  completedOr row do
    if row.state = .reserved then .raise (.ingestionState "INGESTION_NOT_FINALIZABLE:RESERVED")
    else if row.storedSource ≠ some command.storedSource then
      .raise (.ingestionState "SOURCE_BINDING_MISMATCH")
    else
      insertReceipt env command row.reservedInvoiceId row.reservedSourceId
      let snapshot : ReceiptSnapshot :=
        { invoiceId := row.reservedInvoiceId
          sourceId := row.reservedSourceId
          displayName := command.displayName
          mimeType := command.mimeType
          receivedAt := env.now }
      updateRequest command.idempotencyKey fun r =>
        { r with state := .completed, responseSnapshot := some snapshot }
      pure snapshot

end Tally.Model.IntakeRepository
