import Tally.Library.Interleaving
import Tally.Library.Transaction
import Tally.Model.AuthoritySealRepository
import Tally.Model.ReceiptPipeline

/-!
# Filing a case

The embedding of `file_gate1_case` of `platform/receipt_pipeline.py` and of the transaction
`file_case` of `platform/clerk_pipeline.py`: the checks, the evidence, the read of a case that is
there already, and the insert of a finding, a case and its evidence. The tenant is fixed; columns
that are written and never read here are left out, and so is the query log.
-/

set_option autoImplicit false

namespace Tally.Model.CaseFiling
open Library Library.Calendar Library.Sha256 Tally.Model Tally.Model.Receipt
open Tally.Model.ReceiptPipeline
open Tally.Model.Applicability (Decimal)
open Tally.Model.AuthoritySealRepository (canonicalJsonBytes optionJson)

/-! ## Calls -/

/-- An object version that was read, with its bucket. -/
structure RetainedSource where
  bucket : String
  key : String
  versionId : String
  body : Bytes
  observedAt : Option AwareDatetime

def RetainedSource.retained (source : RetainedSource) : RetainedObject :=
  ⟨source.key, source.versionId, source.body, source.observedAt.map AwareDatetime.instant⟩

/-- `observed_at.isoformat()`; a time without a zone has not passed the chronology. -/
def RetainedSource.observedText (source : RetainedSource) : String :=
  match source.observedAt with
  | some time => time.isoformat
  | none => ""

/-- The arguments of `file_gate1_case`. -/
structure FilingCall where
  tenantId : String
  carrierId : String
  stored : StoredReceiptInputs
  tariff : RetainedSource
  invoice : RetainedSource
  extraction : TariffExtraction
  verification : TariffVerification
  invoiceClaim : InvoiceClaim
  pinDate : Date

/-- The arguments that the chronology shares with the persisting of inputs. -/
def FilingCall.inputs (call : FilingCall) : Inputs :=
  { carrierId := call.carrierId
    lane := ""
    tariff := call.tariff.retained
    tariffSourceUrl := ""
    extraction := call.extraction
    verification := call.verification
    invoice := call.invoice.retained
    invoiceClaim := call.invoiceClaim }

inductive FilingError where
  /-- What `validate_receipt_chronology` raises. -/
  | chronology (error : PersistError)
  /-- What `calculate_overcharge` raises. -/
  | calculation (error : ReceiptError)
  /-- `ExistingReceiptConflictError`. -/
  | existingReceiptConflict
  /-- `psycopg.errors.UniqueViolation`. -/
  | uniqueViolation
  /-- Any other error of the database. -/
  | database
deriving DecidableEq

/-! ## Checks -/

/-- `datetime.combine(dispute_date, time.max, tzinfo=UTC)`. -/
def disputeCutoff (date : Date) : Instant := ((date.toOrdinal + 1) * dayMicros - 1 : Nat)

/-- `validate_receipt_chronology` with the dispute date. -/
def validateDisputeChronology (call : FilingCall) : Except PersistError Unit := do
  validateReceiptChronology call.inputs
  let invoiceObserved ← asUtc call.inputs.invoice.observedAt
  let invoiceReceived ← asUtcText call.invoiceClaim.receivedAt
  let cutoff := disputeCutoff call.pinDate
  if cutoff < invoiceObserved ∨ cutoff < invoiceReceived then
    .error (.temporal "invoice must be observed before the dispute date")
  else pure ()

/-- `OverchargeCalculation.should_file`. -/
def shouldFile (calculation : OverchargeCalculation) : Except ReceiptError Bool :=
  less zero calculation.overcharge

/-- What is computed before the first read: the calculation, and whether it gives a case. -/
def checked (call : FilingCall) : Except FilingError (OverchargeCalculation × Bool) :=
  match validateDisputeChronology call with
  | .error error => .error (.chronology error)
  | .ok () =>
    match calculateOvercharge call.extraction.rateAmount call.invoiceClaim.claimedRate
        call.invoiceClaim.chargeDays with
    | .error error => .error (.calculation error)
    | .ok calculation =>
      match shouldFile calculation with
      | .error error => .error (.calculation error)
      | .ok files => .ok (calculation, files)

/-! ## Texts and mappings -/

/-- The members of a JSON object. -/
abbrev Mapping := List (String × Json)

/-- `format(value, ".2f")`. -/
def fixedTwo : Decimal → String
  | .nan => "NaN"
  | .infinity negative => (if negative then "-" else "") ++ "Infinity"
  | .finite negative coefficient exponent =>
    let cents := if -2 ≤ exponent then coefficient * 10 ^ (exponent + 2).toNat
      else roundHalfEven coefficient (10 ^ (-2 - exponent).toNat)
    (if negative then "-" else "") ++ Nat.repr (cents / 100) ++ "." ++
      String.ofList (pad 2 (cents % 100))

/-- `OverchargeCalculation.as_dict`. -/
def asDict (calculation : OverchargeCalculation) : Mapping :=
  [("recorded_rate", .str (fixedTwo calculation.recordedRate)),
    ("claimed_rate", .str (fixedTwo calculation.claimedRate)),
    ("charge_days", .int calculation.chargeDays),
    ("overcharge", .str (fixedTwo calculation.overcharge)),
    ("recommendation", .str calculation.recommendation)]

/-- The calculation as it is stored. -/
def expectedCalculation (call : FilingCall) (calculation : OverchargeCalculation) : Mapping :=
  asDict calculation ++
    [("rate_currency", .str call.extraction.rateCurrency),
      ("rate_unit", .str call.extraction.rateUnit)]

section Evidence

variable [Sha256]

/-- `build_receipt_evidence`. -/
def buildReceiptEvidence (call : FilingCall) (calculation : OverchargeCalculation) : Mapping :=
  [("tenant_id", .str call.tenantId),
    ("carrier_id", .str call.carrierId),
    ("capture_id", .str call.stored.snapshotId),
    ("s3_bucket", .str call.tariff.bucket),
    ("s3_key", .str call.tariff.key),
    ("s3_version_id", .str call.tariff.versionId),
    ("source_sha256", .str call.verification.sourceSha256),
    ("source_size", .int call.tariff.body.length),
    ("clause_id", .str call.stored.clauseId),
    ("clause_sha256", .str call.verification.clauseSha256),
    ("clause_text", .str call.extraction.clauseText),
    ("verification_status", .str "VERIFIED"),
    ("verification_reason", .str (reason call.verification)),
    ("rate_amount", .str (fixedTwo call.extraction.rateAmount)),
    ("rate_currency", .str call.extraction.rateCurrency),
    ("rate_unit", .str call.extraction.rateUnit),
    ("effective_from", .str call.extraction.effectiveFrom.isoformat),
    ("effective_to", optionJson (fun date => .str date.isoformat) call.extraction.effectiveTo),
    ("observed_at", .str call.tariff.observedText),
    ("committed_at", .str call.stored.snapshotCommittedAt),
    ("clause_committed_at", .str call.stored.clauseCommittedAt),
    ("invoice_id", .str call.stored.invoiceId),
    ("invoice_s3_bucket", .str call.invoice.bucket),
    ("invoice_s3_key", .str call.invoice.key),
    ("invoice_s3_version_id", .str call.invoice.versionId),
    ("invoice_sha256", .str (hexdigest call.invoice.body)),
    ("invoice_source_size", .int call.invoice.body.length),
    ("invoice_no", .str call.invoiceClaim.invoiceNo),
    ("invoice_observed_at", .str call.invoice.observedText),
    ("invoice_received_at", .str call.invoiceClaim.receivedAt),
    ("invoice_date", .str call.invoiceClaim.invoiceDate.isoformat),
    ("invoice_claimed_rate", .str (fixedTwo call.invoiceClaim.claimedRate)),
    ("charge_days", .int call.invoiceClaim.chargeDays),
    ("calculation", .obj (expectedCalculation call calculation)),
    ("recommendation", .str calculation.recommendation),
    ("human_approval_state", .str "NOT_PRESSED")]

end Evidence

/-! ## Tables -/

/-- A column of JSON objects gives back the value that its text stands for. -/
structure Finding where
  id : String
  invoiceId : String
  clerkRunId : String
  tariffClauseId : Option String
  calculation : Option Mapping
  recommendation : Option String

structure FiledCase where
  id : String
  invoiceId : String
  findingId : String
  carrierId : String
  pinDate : Date

structure CaseEvidence where
  id : String
  caseId : String
  kind : String
  sourceTable : String
  sourceId : String
  content : Mapping
  contentSha256 : String

structure InvoiceStatusRow where
  id : String
  status : String

inductive FilingTable where
  | findings | cases | caseEvidence | invoices
deriving DecidableEq

@[reducible] def FilingRow : FilingTable → Type
  | .findings => Finding
  | .cases => FiledCase
  | .caseEvidence => CaseEvidence
  | .invoices => InvoiceStatusRow

abbrev FilingDb := Store FilingRow

/-- The unique indexes `findings_invoice_idx` and `cases_invoice_idx`, and the primary keys. -/
def filingConflicts : (t : FilingTable) → FilingRow t → FilingRow t → Bool
  | .findings, a, b => a.id = b.id ∨ (a.invoiceId = b.invoiceId ∧ a.clerkRunId = b.clerkRunId)
  | .cases, a, b => a.id = b.id ∨ a.invoiceId = b.invoiceId
  | .caseEvidence, a, b => a.id = b.id
  | .invoices, a, b => a.id = b.id

/-- The foreign key `ev_case_fk`; a case need not have its finding. -/
def filingReferences : (t : FilingTable) → FilingDb → FilingRow t → Bool
  | .caseEvidence, db, row => (db .cases).any fun c => c.id = row.caseId
  | .findings, _, _ => true
  | .cases, _, _ => true
  | .invoices, _, _ => true

@[reducible] def filingSchema : Schema FilingRow := ⟨filingConflicts, filingReferences⟩

/-! ## The filing transaction -/

inductive FilingFault where
  | integrityError (violation : Violation)
  /-- The database refuses a value. -/
  | dataError
deriving DecidableEq

abbrev FilingTx := Txn FilingDb FilingFault

structure EvidenceItem where
  kind : String
  sourceTable : String
  sourceId : String
  content : Mapping

structure ReceiptBinding where
  tariffClauseId : String
  calculation : Mapping

/-- The arguments of `file_case`. -/
structure Filing where
  invoiceId : String
  clerkRunId : String
  carrierId : String
  pinDate : Date
  evidenceItems : List EvidenceItem
  receiptBinding : Option ReceiptBinding

/-- The ids the database gives the rows of a filing. -/
structure MintedIds where
  findingId : String
  caseId : String
  evidenceId : Nat → String

/-- `{"case_id", "finding_id"}`. -/
structure FiledIds where
  caseId : String
  findingId : String

def insertRow (t : FilingTable) (row : FilingRow t) : FilingTx Unit :=
  filingSchema.insert FilingFault.integrityError t row

/-- A text column of a mapping's value. -/
def textAt (key : String) (members : Mapping) : Option String :=
  match members.lookup key with
  | some (.str text) => some text
  | _ => none

section Transactions

variable [Literals]

/-- A UUID parameter. -/
def uuidOf (text : String) : FilingTx String := .orRaise .dataError (Literals.uuid text)

/-- A UUID parameter that may be null. -/
def optionalUuid : Option String → FilingTx (Option String)
  | none => pure none
  | some text => do
    let id ← uuidOf text
    pure (some id)

variable [Sha256]

/-- One copy of an evidence item. -/
def insertEvidence (minted : MintedIds) (i : Nat) (item : EvidenceItem) : FilingTx Unit := do
  let sourceId ← uuidOf item.sourceId
  insertRow .caseEvidence
    { id := minted.evidenceId i
      caseId := minted.caseId
      kind := item.kind
      sourceTable := item.sourceTable
      sourceId
      content := item.content
      contentSha256 := hexdigest (canonicalJsonBytes (.obj item.content)) }

/-- `file_case`. -/
def fileCase (minted : MintedIds) (filing : Filing) : FilingTx FiledIds := do
  let invoiceId ← uuidOf filing.invoiceId
  let clerkRunId ← uuidOf filing.clerkRunId
  let tariffClauseId ← optionalUuid (filing.receiptBinding.map ReceiptBinding.tariffClauseId)
  let calculation := (filing.receiptBinding.map ReceiptBinding.calculation).getD []
  insertRow .findings
    { id := minted.findingId
      invoiceId
      clerkRunId
      tariffClauseId
      calculation := some calculation
      recommendation := textAt "recommendation" calculation }
  let carrierId ← uuidOf filing.carrierId
  insertRow .cases
    { id := minted.caseId
      invoiceId
      findingId := minted.findingId
      carrierId
      pinDate := filing.pinDate }
  .forEach (insertEvidence minted) 0 filing.evidenceItems
  Schema.update .invoices (fun row => row.id = invoiceId) fun row =>
    { row with status := "ANALYZED" }
  pure ⟨minted.caseId, minted.findingId⟩

end Transactions

/-! ## The case that is there -/

/-- A row of `existing_sql`. -/
structure ExistingCase where
  caseId : String
  findingId : String
  tariffClauseId : Option String
  calculation : Option Mapping
  recommendation : Option String
  evidence : Option CaseEvidence

/-- The evidence of a case, or one row without any. -/
def joinEvidence (evidence : List CaseEvidence) : List (Option CaseEvidence) :=
  match evidence with
  | [] => [none]
  | evidence => evidence.map some

/-- The rows of `existing_sql`, in some order. -/
def existingRows (invoiceId : String) (db : FilingDb) : List ExistingCase :=
  ((db .cases).filter fun c => c.invoiceId = invoiceId).flatMap fun c =>
    ((db .findings).filter fun f => f.id = c.findingId).flatMap fun f =>
      (joinEvidence ((db .caseEvidence).filter fun e => e.caseId = c.id)).map fun evidence =>
        { caseId := c.id
          findingId := c.findingId
          tariffClauseId := f.tariffClauseId
          calculation := f.calculation
          recommendation := f.recommendation
          evidence }

/-- `_json_mapping` of a column of JSON objects. -/
def jsonMapping (value : Option Mapping) : Json := .obj (value.getD [])

/-- The answer of `file_gate1_case`. -/
inductive FilingAnswer where
  | notFiled (calculation : Mapping)
  | filed (alreadyFiled : Bool) (caseId findingId : String) (calculation : Mapping)

section Filing

variable [Sha256]

/-- `binding_matches` of one row. -/
def bindingMatches (call : FilingCall) (calculation : OverchargeCalculation)
    (row : ExistingCase) : Bool :=
  row.tariffClauseId.getD "None" = call.stored.clauseId &&
    canonicalJsonBytes (jsonMapping row.calculation) =
      canonicalJsonBytes (.obj (expectedCalculation call calculation)) &&
    row.recommendation = some calculation.recommendation &&
    row.evidence.map CaseEvidence.kind = some "tariff_invoice_receipt" &&
    row.evidence.map CaseEvidence.sourceTable = some "tariff_clauses" &&
    (row.evidence.map CaseEvidence.sourceId).getD "None" = call.stored.clauseId &&
    canonicalJsonBytes (jsonMapping (row.evidence.map CaseEvidence.content)) =
      canonicalJsonBytes (.obj (buildReceiptEvidence call calculation))

/-- `_existing_case_result` of a row and the ones behind it. -/
def existingCaseResult (call : FilingCall) (calculation : OverchargeCalculation)
    (row : ExistingCase) (others : List ExistingCase) : Except FilingError FilingAnswer :=
  if others.isEmpty && bindingMatches call calculation row then
    .ok (.filed true row.caseId row.findingId (asDict calculation))
  else .error .existingReceiptConflict

/-- The case a call files. -/
def filingOf (call : FilingCall) (calculation : OverchargeCalculation) : Filing :=
  { invoiceId := call.stored.invoiceId
    clerkRunId := call.stored.clerkRunId
    carrierId := call.carrierId
    pinDate := call.pinDate
    evidenceItems :=
      [{ kind := "tariff_invoice_receipt"
         sourceTable := "tariff_clauses"
         sourceId := call.stored.clauseId
         content := buildReceiptEvidence call calculation }]
    receiptBinding := some
      { tariffClauseId := call.stored.clauseId
        calculation := expectedCalculation call calculation } }

/-! ## The call -/

/-- How a statement or a transaction fails. -/
inductive DatabaseFailure where
  | uniqueViolation
  /-- A refused value, a lost connection or an exhausted retry. -/
  | other
deriving DecidableEq

inductive FilingEffect where
  | readExisting (invoiceId : String)
  | fileCase (filing : Filing)

@[reducible] def FilingReply : FilingEffect → Type
  | .readExisting _ => Except DatabaseFailure (List ExistingCase)
  | .fileCase _ => Except DatabaseFailure FiledIds

abbrev FilingProg := Prog FilingEffect FilingReply (Except FilingError FilingAnswer)

def failureError : DatabaseFailure → FilingError
  | .uniqueViolation => .uniqueViolation
  | .other => .database

/-- `dal.execute(existing_sql, ..)`. -/
def readExisting (invoiceId : String) :
    Prog FilingEffect FilingReply (Except DatabaseFailure (List ExistingCase)) :=
  Prog.call (FilingEffect.readExisting invoiceId)

/-- `file_case`, run with retries. -/
def runFiling (filing : Filing) :
    Prog FilingEffect FilingReply (Except DatabaseFailure FiledIds) :=
  Prog.call (FilingEffect.fileCase filing)

/-- The handler of a violated index: the case that another filer has filed. -/
def readRaced (call : FilingCall) (calculation : OverchargeCalculation) : FilingProg := do
  match ← readExisting call.stored.invoiceId with
  | .error failure => pure (.error (failureError failure))
  | .ok [] => pure (.error .uniqueViolation)
  | .ok (row :: others) => pure (existingCaseResult call calculation row others)

/-- `file_gate1_case` behind its checks. -/
def fileOrFind (call : FilingCall) (calculation : OverchargeCalculation) : FilingProg := do
  match ← readExisting call.stored.invoiceId with
  | .error failure => pure (.error (failureError failure))
  | .ok (row :: others) => pure (existingCaseResult call calculation row others)
  | .ok [] =>
    match ← runFiling (filingOf call calculation) with
    | .ok ids => pure (.ok (.filed false ids.caseId ids.findingId (asDict calculation)))
    | .error .other => pure (.error .database)
    | .error .uniqueViolation => readRaced call calculation

/-- `file_gate1_case`. -/
def fileGate1Case (call : FilingCall) : FilingProg :=
  match checked call with
  | .error error => pure (.error error)
  | .ok (calculation, false) => pure (.ok (.notFiled (asDict calculation)))
  | .ok (calculation, true) => fileOrFind call calculation

end Filing

/-! ## The database of several callers -/

/-- The ids are ones that no row has. -/
structure MintedIds.Fresh (minted : MintedIds) (db : FilingDb) : Prop where
  finding : ∀ f ∈ db .findings, f.id ≠ minted.findingId
  filed : ∀ c ∈ db .cases, c.id ≠ minted.caseId
  evidence : ∀ e ∈ db .caseEvidence, ∀ i, e.id ≠ minted.evidenceId i
  distinct : Function.Injective minted.evidenceId

variable [Literals] [Sha256]

/-- A filing commits with new ids. -/
def Files (filing : Filing) (db : FilingDb) (ids : FiledIds) (db' : FilingDb) : Prop :=
  ∃ minted : MintedIds, minted.Fresh db ∧ fileCase minted filing db = .ok (ids, db')

/-- An effect on the database: a read sees the committed rows; a filing commits as a whole and
replies with its ids, or its reply is lost, or it fails and leaves the rows. -/
def Handle : (e : FilingEffect) → FilingDb → FilingReply e → FilingDb → Prop
  | .readExisting invoiceId, db, .ok rows, db' => db' = db ∧
      ∃ id, Literals.uuid invoiceId = some id ∧ rows.Perm (existingRows id db)
  | .readExisting _, db, .error failure, db' => db' = db ∧ failure = .other
  | .fileCase filing, db, .ok ids, db' => Files filing db ids db'
  | .fileCase filing, db, .error .uniqueViolation, db' => db' = db ∧
      ∃ minted : MintedIds, minted.Fresh db ∧
        fileCase minted filing db = .error (.integrityError .unique)
  | .fileCase filing, db, .error .other, db' => db' = db ∨ ∃ ids, Files filing db ids db'

end Tally.Model.CaseFiling
