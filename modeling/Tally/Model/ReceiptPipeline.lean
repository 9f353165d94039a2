import Tally.Model.DecimalColumns
import Tally.Model.Reconstruction

/-!
# Persisting verified inputs

The embedding of `persist_verified_inputs` of `platform/receipt_pipeline.py` and of the checks it
makes: the rows of the tariff, of its clause, of the invoice and of its clerk run, each inserted
unless a row has its key, and compared with the inputs if one has. The tenant is fixed; columns
that are written and never read here are left out. How the database reads the text of a UUID and
of a timestamp is a parameter.
-/

set_option autoImplicit false

namespace Tally.Model.ReceiptPipeline
open Library Library.Calendar Library.Sha256 Tally.Model Tally.Model.Receipt
  Tally.Model.DecimalColumns
open Tally.Model.Applicability (Decimal)
open Tally.Model.VectorRetrieval (decodeUtf8)

/-! ## Inputs -/

/-- An object version that was read; a time without a zone is none. -/
structure RetainedObject where
  key : String
  versionId : String
  body : Bytes
  observedAt : Option Instant

structure Inputs where
  carrierId : String
  lane : String
  tariff : RetainedObject
  tariffSourceUrl : String
  extraction : TariffExtraction
  verification : TariffVerification
  invoice : RetainedObject
  invoiceClaim : InvoiceClaim

/-- `TariffVerification.reason`. -/
def reason (verification : TariffVerification) : String :=
  if verification.eligible then "verified" else "; ".intercalate verification.reasons

inductive PersistError where
  | notEligible
  | temporal (message : String)
  | valueError
  | unicodeDecode
  | invalidOperation
  | overflow
  | typeError
  /-- The database refuses a value. -/
  | refused
  | evidenceConflict (label : String)
deriving DecidableEq

/-! ## Times -/

def unzoned : PersistError := .temporal "evidence timestamps must include a timezone"

/-- `_as_utc` of a datetime. -/
def asUtc (value : Option Instant) : Except PersistError Instant :=
  match value with
  | some instant => .ok instant
  | none => .error unzoned

/-- `_as_utc` of a text; a datetime whose UTC date is no date overflows. -/
def asUtcText (value : String) : Except PersistError Instant :=
  let text := value.toList.flatMap fun c => if c = 'Z' then "+00:00".toList else [c]
  match AwareDatetime.fromisoformat (String.ofList text) with
  | none => .error .valueError
  | some none => .error unzoned
  | some (some parsed) =>
    if (Instant.date parsed.instant).isSome then .ok parsed.instant else .error .overflow

/-- `validate_receipt_chronology` without a dispute date. -/
def validateReceiptChronology (inputs : Inputs) : Except PersistError Unit :=
  let claim := inputs.invoiceClaim
  let extraction := inputs.extraction
  if claim.invoiceDate < extraction.effectiveFrom ∨
      extraction.effectiveTo.any (· < claim.invoiceDate) then
    .error (.temporal "tariff is not effective on the invoice date")
  else do
    let tariffObserved ← asUtc inputs.tariff.observedAt
    let invoiceObserved ← asUtc inputs.invoice.observedAt
    let invoiceReceived ← asUtcText claim.receivedAt
    if invoiceObserved < tariffObserved ∨ invoiceReceived < tariffObserved then
      .error (.temporal "tariff must be observed before the invoice")
    else pure ()

/-! ## Rows -/

structure SnapshotRow where
  id : String
  committedAt : String
  carrierId : String
  lane : String
  capturedAt : Instant
  s3Key : String
  sourceVersionId : Option String
  sourceByteSize : Option Int
  docSha256 : String
  docText : String
  sourceUrl : String

structure ClauseRow where
  id : String
  committedAt : String
  snapshotId : String
  sha256 : String
  carrierId : String
  clauseText : String
  rateAmount : Option Decimal
  rateCurrency : Option String
  rateUnit : Option String
  freeTimeBasis : Option String
  effectiveFrom : Option Date
  effectiveTo : Option Date
  verificationStatus : Option String
  verificationReason : Option String

structure InvoiceRow where
  id : String
  sha256 : String
  s3Key : String
  sourceVersionId : Option String
  rawText : Option String
  claimedRate : Option Decimal
  currency : Option String
  invoiceDate : Option Date
  rateUnit : Option String
  chargeDays : Option Int
  receivedAt : Instant

structure ClerkRow where
  id : String
  invoiceId : String
  createdAt : Instant

structure ReceiptDb where
  snapshots : List SnapshotRow
  clauses : List ClauseRow
  invoices : List InvoiceRow
  clerkRuns : List ClerkRow

/-- What the database gives the rows a call inserts. -/
structure Minted where
  snapshotId : String
  snapshotCommittedAt : String
  clauseId : String
  clauseCommittedAt : String
  invoiceId : String
  clerkId : String
  now : Instant

/-- How the database reads a UUID and a timestamp from a text. -/
class Literals where
  uuid : String → Option String
  timestamp : String → Option Instant

/-- `str(value)` of a column that may be null. -/
def textOr {α : Type} (value : Option α) (text : α → List Char) : List Char :=
  (value.map text).getD "None".toList

/-- A value the database accepts. -/
def stored {α : Type} (value : Option α) : Except PersistError α :=
  match value with
  | some value => .ok value
  | none => .error .refused

/-- The largest value of `INT8`. -/
def maxInt8 : Int := 2 ^ 63 - 1

/-! ## Reused rows -/

/-- `_assert_reused_row`. -/
def assertReusedRow (label : String) (same : Bool) : Except PersistError Unit :=
  if same then .ok () else .error (.evidenceConflict label)

section Persisting

variable [Sha256] [Literals]

omit [Sha256] [Literals] in
def checkSnapshot (inputs : Inputs) (tariffText : String) (row : SnapshotRow) :
    Except PersistError Unit :=
  assertReusedRow "tariff snapshot"
    (row.s3Key = inputs.tariff.key && row.sourceVersionId = some inputs.tariff.versionId &&
      row.sourceByteSize = some (inputs.tariff.body.length : Int) &&
      row.docSha256 = inputs.verification.sourceSha256 && row.docText = tariffText &&
      row.sourceUrl = inputs.tariffSourceUrl)

omit [Sha256] [Literals] in
/-- `_assert_reused_clause`; the text of a null rate is no decimal number. -/
def checkClause (inputs : Inputs) (row : ClauseRow) : Except PersistError Unit :=
  match row.rateAmount with
  | none => .error .invalidOperation
  | some rate =>
    assertReusedRow "tariff clause"
      (row.carrierId = inputs.carrierId && row.clauseText = inputs.extraction.clauseText &&
        equal rate inputs.extraction.rateAmount &&
        row.rateCurrency = some inputs.extraction.rateCurrency &&
        row.rateUnit = some inputs.extraction.rateUnit && row.freeTimeBasis = none &&
        row.effectiveFrom = some inputs.extraction.effectiveFrom &&
        row.effectiveTo = inputs.extraction.effectiveTo &&
        row.verificationStatus = some "VERIFIED" &&
        row.verificationReason = some (reason inputs.verification))

omit [Literals] in
def checkInvoice (inputs : Inputs) (invoiceText : String) (row : InvoiceRow) :
    Except PersistError Unit :=
  match row.chargeDays with
  | none => .error .typeError
  | some days => do
    let received ← asUtcText inputs.invoiceClaim.receivedAt
    assertReusedRow "invoice"
      (row.s3Key = inputs.invoice.key && row.sourceVersionId = some inputs.invoice.versionId &&
        row.sha256 = hexdigest inputs.invoice.body && row.rawText = some invoiceText &&
        textOr row.claimedRate decimalText = decimalText inputs.invoiceClaim.claimedRate &&
        row.currency = some inputs.invoiceClaim.rateCurrency &&
        row.invoiceDate = some inputs.invoiceClaim.invoiceDate &&
        row.rateUnit = some inputs.invoiceClaim.rateUnit &&
        days = inputs.invoiceClaim.chargeDays && row.receivedAt = received)

/-! ## Inserted rows -/

omit [Sha256] in
/-- The values of a snapshot as the database takes them. -/
def snapshotRow (inputs : Inputs) (minted : Minted) (tariffText : String) :
    Except PersistError SnapshotRow := do
  let carrierId ← stored (Literals.uuid inputs.carrierId)
  let capturedAt ← asUtc inputs.tariff.observedAt
  let _ ← stored (storeMoney inputs.extraction.rateAmount)
  pure
    { id := minted.snapshotId
      committedAt := minted.snapshotCommittedAt
      carrierId
      lane := inputs.lane
      capturedAt
      s3Key := inputs.tariff.key
      sourceVersionId := some inputs.tariff.versionId
      sourceByteSize := some inputs.tariff.body.length
      docSha256 := inputs.verification.sourceSha256
      docText := tariffText
      sourceUrl := inputs.tariffSourceUrl }

omit [Sha256] in
def clauseRow (inputs : Inputs) (minted : Minted) (snapshotId : String) :
    Except PersistError ClauseRow := do
  let carrierId ← stored (Literals.uuid inputs.carrierId)
  let rateAmount ← stored (storeMoney inputs.extraction.rateAmount)
  let _ ← stored (storeDecimal 5 4 inputs.extraction.confidence)
  pure
    { id := minted.clauseId
      committedAt := minted.clauseCommittedAt
      snapshotId
      sha256 := inputs.verification.clauseSha256
      carrierId
      clauseText := inputs.extraction.clauseText
      rateAmount := some rateAmount
      rateCurrency := some inputs.extraction.rateCurrency
      rateUnit := some inputs.extraction.rateUnit
      freeTimeBasis := none
      effectiveFrom := some inputs.extraction.effectiveFrom
      effectiveTo := inputs.extraction.effectiveTo
      verificationStatus := some "VERIFIED"
      verificationReason := some (reason inputs.verification) }

/-- `claimed_rate * charge_days`, for the days a claim can have. -/
def amountOf (claim : InvoiceClaim) : Except PersistError Decimal :=
  match multiply claim.chargeDays.toNat claim.claimedRate with
  | .ok amount => .ok amount
  | .error .overflow => .error .overflow
  | .error _ => .error .invalidOperation

def invoiceRow (inputs : Inputs) (minted : Minted) (invoiceText : String) :
    Except PersistError InvoiceRow := do
  let claim := inputs.invoiceClaim
  let _ ← stored (Literals.uuid inputs.carrierId)
  let receivedAt ← stored (Literals.timestamp claim.receivedAt)
  let amount ← amountOf claim
  let _ ← stored (storeMoney amount)
  let claimedRate ← stored (storeMoney claim.claimedRate)
  let chargeDays ← stored (if claim.chargeDays ≤ maxInt8 then some claim.chargeDays else none)
  pure
    { id := minted.invoiceId
      sha256 := hexdigest inputs.invoice.body
      s3Key := inputs.invoice.key
      sourceVersionId := some inputs.invoice.versionId
      rawText := some invoiceText
      claimedRate := some claimedRate
      currency := some claim.rateCurrency
      invoiceDate := some claim.invoiceDate
      rateUnit := some claim.rateUnit
      chargeDays := some chargeDays
      receivedAt }

/-! ## Persisting -/

/-- `INSERT ... ON CONFLICT DO NOTHING`, and the row of the key compared if there is one: the row
of the key, and the rows behind the statements. -/
def insertOrReuse {R : Type} (rows : List R) (hasKey : R → Bool) (row : R)
    (check : R → Except PersistError Unit) : Except PersistError (R × List R) :=
  match rows.find? hasKey with
  | some found => do
    check found
    pure (found, rows)
  | none => .ok (row, rows ++ [row])

/-- The clerk run of an invoice that was created first. -/
def firstRun (runs : List ClerkRow) (invoiceId : String) : Option ClerkRow :=
  (runs.filter fun run => run.invoiceId = invoiceId).foldr (fun run first =>
    match first with
    | none => some run
    | some other => if run.createdAt ≤ other.createdAt then some run else some other) none

/-- The first clerk run of an invoice, or a new one, and the runs behind the statements. -/
def clerkRunOf (runs : List ClerkRow) (run : ClerkRow) : ClerkRow × List ClerkRow :=
  match firstRun runs run.invoiceId with
  | some first => (first, runs)
  | none => (run, runs ++ [run])

def snapshotKey (row other : SnapshotRow) : Bool :=
  other.carrierId = row.carrierId && other.lane = row.lane && other.capturedAt = row.capturedAt

def clauseKey (row other : ClauseRow) : Bool :=
  other.snapshotId = row.snapshotId && other.sha256 = row.sha256

def invoiceKey (row other : InvoiceRow) : Bool := other.sha256 = row.sha256

omit [Sha256] in
def storeSnapshot (inputs : Inputs) (minted : Minted) (tariffText : String)
    (rows : List SnapshotRow) : Except PersistError (SnapshotRow × List SnapshotRow) := do
  let row ← snapshotRow inputs minted tariffText
  insertOrReuse rows (snapshotKey row) row (checkSnapshot inputs tariffText)

omit [Sha256] in
def storeClause (inputs : Inputs) (minted : Minted) (snapshotId : String)
    (rows : List ClauseRow) : Except PersistError (ClauseRow × List ClauseRow) := do
  let row ← clauseRow inputs minted snapshotId
  insertOrReuse rows (clauseKey row) row (checkClause inputs)

def storeInvoice (inputs : Inputs) (minted : Minted) (invoiceText : String)
    (rows : List InvoiceRow) : Except PersistError (InvoiceRow × List InvoiceRow) := do
  let row ← invoiceRow inputs minted invoiceText
  insertOrReuse rows (invoiceKey row) row (checkInvoice inputs invoiceText)

structure StoredReceiptInputs where
  snapshotId : String
  snapshotCommittedAt : String
  clauseId : String
  clauseCommittedAt : String
  invoiceId : String
  clerkRunId : String
deriving DecidableEq

/-- `body.decode("utf-8")`. -/
def decoded (body : Bytes) : Except PersistError String :=
  match decodeUtf8 body with
  | some text => .ok text
  | none => .error .unicodeDecode

def assertEligible (verification : TariffVerification) : Except PersistError Unit :=
  if verification.eligible then .ok () else .error .notEligible

/-- The answer of a call, and the rows it leaves. -/
def answerOf (snapshot : SnapshotRow × List SnapshotRow) (clause : ClauseRow × List ClauseRow)
    (invoice : InvoiceRow × List InvoiceRow) (run : ClerkRow × List ClerkRow) :
    StoredReceiptInputs × ReceiptDb :=
  ({ snapshotId := snapshot.1.id
     snapshotCommittedAt := snapshot.1.committedAt
     clauseId := clause.1.id
     clauseCommittedAt := clause.1.committedAt
     invoiceId := invoice.1.id
     clerkRunId := run.1.id },
    ⟨snapshot.2, clause.2, invoice.2, run.2⟩)

/-- `persist_verified_inputs`. -/
def persistVerifiedInputs (inputs : Inputs) (minted : Minted) (db : ReceiptDb) :
    Except PersistError (StoredReceiptInputs × ReceiptDb) := do
  assertEligible inputs.verification
  validateReceiptChronology inputs
  let tariffText ← decoded inputs.tariff.body
  let invoiceText ← decoded inputs.invoice.body
  let snapshot ← storeSnapshot inputs minted tariffText db.snapshots
  let clause ← storeClause inputs minted snapshot.1.id db.clauses
  let invoice ← storeInvoice inputs minted invoiceText db.invoices
  let run := clerkRunOf db.clerkRuns ⟨minted.clerkId, invoice.1.id, minted.now⟩
  pure (answerOf snapshot clause invoice run)

end Persisting

end Tally.Model.ReceiptPipeline
