import Tally.Library.Interleaving
import Tally.Model.Correspondence

/-!
# The receipt of an upload

The embedding of `receive_invoice` of `platform/intake_api.py` and of the exact-version
preservation of `external/invoice_source_store.py`, as programs over the transactions of
`platform/intake_repository.py`, the reads beside them and the calls to the object store.
The checks of the route before it are conditions on an upload; the columns of a projection
that no snapshot is compared on are left out.
-/

set_option autoImplicit false

namespace Tally.Model.IntakeApi
open Library Library.Sha256 Tally.Model IntakeRepository

/-! ## Uploads -/

structure Upload where
  body : Bytes
  displayFilename : String
  idempotencyKey : String
  demoScenario : String
  importSource : String
  actorId : Option Uuid
  actorDisplay : String

def allowedScenarios : List String := ["locked-inv-1048", "locked-inv-1047"]

def allowedImportSources : List String := ["operator_import", "forwarded_email_simulation"]

/-- The bytes an upload is recognised by. -/
def Upload.fingerprint (upload : Upload) : Bytes :=
  upload.body ++ 0 :: encode upload.demoScenario ++ 0 :: encode upload.importSource

section Hashing

variable [Sha256]

/-- The request hash of an upload. -/
def Upload.requestHash (upload : Upload) : String := hexdigest upload.fingerprint

/-- `envelope.sha256`. -/
def Upload.sha256 (upload : Upload) : String := hexdigest upload.body

end Hashing

/-! ## Errors -/

inductive ReceiveError where
  | intakeUnavailable (code : String)
  | sourcePersistence (code : String)
  | http (status : Nat) (code : String)
  | raised (e : Raised)
  | dependency
deriving DecidableEq

/-- Why a call to the database failed: the transaction raised, or the connection did. -/
inductive Failure where
  | raised (e : Raised)
  | dependency
deriving DecidableEq

def Failure.error : Failure → ReceiveError
  | .raised e => .raised e
  | .dependency => .dependency

/-! ## Calls -/

/-- What the object store says of a version: its id, its length, the digest in its metadata
and the digest of its checksum. -/
structure ObjectHead where
  versionId : Option String
  contentLength : Option Int
  tallySha256 : Option String
  checksumSha256 : Option Bytes

/-- The calls of a receipt: transactions and reads of the database, and the object store's. -/
inductive Effect where
  | reserveIngestion (idempotencyKey requestHash : String)
  | findInvoiceBySha (sha256 : String)
  | loadInvoiceProjection (invoiceId : Uuid)
  | completeDuplicateIngestion (idempotencyKey requestHash : String) (invoiceId sourceId : Uuid)
      (sourceSha256 : String) (responseSnapshot : ReceiptSnapshot)
  | putObject (key : String) (body : Bytes)
  | headObject (key versionId : String)
  | recordSourceStored (idempotencyKey requestHash : String) (source : StoredInvoiceSource)
  | loadDemoCarrierId
  | finalizeReceivedInvoice (command : FinalizeReceipt)

abbrev Reply : Effect → Type
  | .reserveIngestion _ _ => Except Failure IngestionReservation
  | .findInvoiceBySha _ => Except Failure (Option (Uuid × Uuid))
  | .loadInvoiceProjection _ => Except Failure (Option ReceiptSnapshot)
  | .completeDuplicateIngestion _ _ _ _ _ _ => Except Failure ReceiptSnapshot
  | .putObject _ _ => Except Failure (Option String)
  | .headObject _ _ => Except Failure ObjectHead
  | .recordSourceStored _ _ _ => Except Failure Unit
  | .loadDemoCarrierId => Except Failure (Option Uuid)
  | .finalizeReceivedInvoice _ => Except Failure ReceiptSnapshot

abbrev Receive (α : Type) : Type := ExceptT ReceiveError (Prog Effect Reply) α

def perform (e : Effect) : Receive (Reply e) := ExceptT.lift (Prog.call e)

/-- The result of a call to the database, or its error. -/
def orThrow {α : Type} : Except Failure α → Receive α
  | .ok a => pure a
  | .error f => throw f.error

/-! ## Reads -/

/-- The rows of the join of invoices and sources, in the order of receipt. -/
def receiptOrder (a b : Invoice × InvoiceSource) : Prop :=
  a.1.receivedAt < b.1.receivedAt ∨ a.1.receivedAt = b.1.receivedAt ∧ a.1.id.toNat ≤ b.1.id.toNat

instance : DecidableRel receiptOrder := fun a b => by unfold receiptOrder; infer_instance

def sourcesOf (db : Db) (selects : Invoice → Bool) : List (Invoice × InvoiceSource) :=
  ((db .invoices).filter selects).flatMap fun i =>
    ((db .invoiceSources).filter fun s => s.invoiceId = i.id).map fun s => (i, s)

/-- `find_invoice_by_sha`. -/
def findInvoiceBySha (db : Db) (sha256 : String) : Option (Uuid × Uuid) :=
  ((sourcesOf db fun i => i.sha256 = sha256).insertionSort receiptOrder).head?.map fun p =>
    (p.1.id, p.2.id)

/-- The part of `load_invoice_projection` that a receipt looks at; a receipt is finalized with
one media type only. -/
def loadInvoiceProjection (db : Db) (invoiceId : Uuid) : Option ReceiptSnapshot :=
  (sourcesOf db fun i => i.id = invoiceId).head?.map fun p =>
    { invoiceId
      sourceId := p.2.id
      displayName := p.1.displayName
      mimeType := "application/pdf"
      receivedAt := p.1.receivedAt }

/-! ## The receipt -/

/-- How the source store is configured. -/
structure StoreSettings where
  bucket : String
  keyPrefix : String

/-- The key of a source. -/
def objectKey (settings : StoreSettings) (sourceId : Uuid) : String :=
  settings.keyPrefix ++ "/" ++ uuidText sourceId ++ "/invoice.pdf"

/-- What a receipt answers with, the channel when it adds it, and whether it is a replay. -/
structure Received where
  snapshot : ReceiptSnapshot
  importSource : Option String
  replay : Bool

section Receiving

variable [Sha256] [CharacterTables]

omit [CharacterTables] in
/-- The first fault in what the store says of the version it wrote. -/
def headFault (head : ObjectHead) (versionId : String) (body : Bytes) : Option String :=
  if head.versionId ≠ some versionId then some "SOURCE_VERSION_MISMATCH"
  else if head.contentLength.getD (-1) ≠ body.length then some "SOURCE_LENGTH_MISMATCH"
  else if head.tallySha256 ≠ some (hexdigest body) then some "SOURCE_CHECKSUM_MISMATCH"
  else if head.checksumSha256.isSome ∧ head.checksumSha256 ≠ some (digest body) then
    some "SOURCE_CHECKSUM_MISMATCH"
  else none

/-- `VersionedInvoiceSourceStore.preserve`. -/
def preserve (settings : StoreSettings) (sourceId : Uuid) (body : Bytes) :
    Receive StoredInvoiceSource := do
  let key := objectKey settings sourceId
  match ← (perform (.putObject key body) : Receive (Except Failure (Option String))) with
  | .error _ => throw (.sourcePersistence "SOURCE_PERSISTENCE_UNAVAILABLE")
  | .ok none => throw (.sourcePersistence "SOURCE_VERSION_MISSING")
  | .ok (some versionId) =>
    if versionId.toList.all CharacterTables.isSpace then
      throw (.sourcePersistence "SOURCE_VERSION_MISSING")
    else
      match ← (perform (.headObject key versionId) : Receive (Except Failure ObjectHead)) with
      | .error _ => throw (.sourcePersistence "SOURCE_PERSISTENCE_UNAVAILABLE")
      | .ok head =>
        match headFault head versionId body with
        | some code => throw (.sourcePersistence code)
        | none =>
          pure
            { bucketRefPrivate := settings.bucket
              objectKeyPrivate := key
              versionIdPrivate := versionId
              sha256 := hexdigest body
              byteLength := body.length }

omit [CharacterTables] in
/-- A receipt of a source that an invoice has already. -/
def receiveDuplicate (upload : Upload) (invoiceId sourceId : Uuid) : Receive Received := do
  match ← orThrow (← perform (.loadInvoiceProjection invoiceId)) with
  | none => throw (.http 404 "INVOICE_NOT_FOUND")
  | some snapshot =>
    if snapshot.sourceId ≠ sourceId then
      throw (.raised (.ingestionState "DUPLICATE_SOURCE_BINDING_MISMATCH"))
    else
      let snapshot ← orThrow (← perform (.completeDuplicateIngestion upload.idempotencyKey
        upload.requestHash invoiceId sourceId upload.sha256 snapshot))
      pure ⟨snapshot, some upload.importSource, true⟩

/-- The source of a reservation, preserved unless it is stored already. -/
def storeSource (settings : StoreSettings) (upload : Upload) (reservation : IngestionReservation) :
    Receive StoredInvoiceSource := do
  match reservation.storedSource with
  | some source => pure source
  | none =>
    if settings.bucket = "" then throw (.intakeUnavailable "INTAKE_BUCKET_NOT_CONFIGURED")
    else
      let source ← preserve settings reservation.sourceId upload.body
      orThrow (← perform
        (.recordSourceStored upload.idempotencyKey upload.requestHash source))
      pure source

/-- A receipt of a new source. -/
def receiveSource (settings : StoreSettings) (upload : Upload)
    (reservation : IngestionReservation) : Receive Received := do
  let source ← storeSource settings upload reservation
  match ← orThrow (← perform .loadDemoCarrierId) with
  | none => throw (.intakeUnavailable "DEMO_CARRIER_NOT_CONFIGURED")
  | some carrierId =>
    let snapshot ← orThrow (← perform (.finalizeReceivedInvoice
      { idempotencyKey := upload.idempotencyKey
        requestHash := upload.requestHash
        carrierId
        displayName := upload.displayFilename
        mimeType := "application/pdf"
        storedSource := source
        actorId := upload.actorId
        actorDisplay := upload.actorDisplay }))
    pure ⟨snapshot, some upload.importSource, false⟩

/-- `receive_invoice`. -/
def receiveInvoice (settings : StoreSettings) (upload : Upload) : Receive Received := do
  if upload.importSource ∉ allowedImportSources then
    throw (.intakeUnavailable "INVALID_IMPORT_SOURCE")
  else
    let reservation ← orThrow (← perform
      (.reserveIngestion upload.idempotencyKey upload.requestHash))
    if reservation.state = .completed then
      match reservation.responseSnapshot with
      | none => throw (.intakeUnavailable "INGESTION_SNAPSHOT_UNAVAILABLE")
      | some snapshot => pure ⟨snapshot, none, true⟩
    else if reservation.state = .reserved ∧ reservation.isNew = false then
      throw (.raised (.ingestionState "REQUEST_IN_PROGRESS"))
    else
      match ← orThrow (← perform (.findInvoiceBySha upload.sha256)) with
      | some (invoiceId, sourceId) => receiveDuplicate upload invoiceId sourceId
      | none => receiveSource settings upload reservation

end Receiving

end Tally.Model.IntakeApi
