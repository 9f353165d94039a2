import Tally.Model.ContestWorkflow
import Tally.Model.EvidenceBindings
import Tally.Model.Extraction

/-!
# Sealed memory

The embedding of `validate_sealed_case_memory` of `core/sealed_memory.py`. A row is what the
managed service returns, a decoded object; the first row says what the case is, and every row is
compared with the first one and bound to its item of the manifest.
-/

set_option autoImplicit false

namespace Tally.Model.SealedMemory
open Library Library.Calendar Library.Sha256 Tally.Model
open Tally.Model.CaseSeal
  (Mapping get canonicalJsonBytes contentHash evidenceHash storedContentHashMatches timestampText)
open Tally.Model.CockroachMcp (JsonDecoder equalsInt)
open Tally.Model.ContestWorkflow (uuidOf decimalOf isBlank)
open Tally.Model.EvidenceBindings (hasMember isText sameJson)
open Tally.Model.Extraction (truthy)

inductive MemoryError where
  /-- `SealedMemoryValidationError`. -/
  | validation (message : String)
  /-- Another `ValueError` of `json.loads`. -/
  | valueError
  | overflow
deriving DecidableEq

/-- A check that is made before what follows. -/
def require (passes : Bool) (message : String) : Except MemoryError Unit :=
  if passes then .ok () else .error (.validation message)

/-! ## Equality of values -/

/-- The number a value is; a boolean is one. -/
def numberOf : Value → Option FloatNumber
  | .bool value => some (.finite (if value then 1 else 0))
  | .int value => some (.finite value)
  | .float value => some value.number
  | _ => none

/-- Both are the same number; what the decoder reads as no number is one object. -/
def sameNumber (left right : Value) : Bool :=
  match numberOf left, numberOf right with
  | some left, some right => left = right
  | _, _ => false

mutual
/-- The equality of items and members, where an object equals itself. -/
def same : Value → Value → Bool
  | .null, .null => true
  | .str left, .str right => left = right
  | .list left, .list right => sameItems left right
  | .dict left, .dict right => left.length = right.length && sameMembers left right
  | .bool left, right => sameNumber (.bool left) right
  | .int left, right => sameNumber (.int left) right
  | .float left, right => sameNumber (.float left) right
  | _, _ => false
def sameItems : List Value → List Value → Bool
  | [], [] => true
  | left :: lefts, right :: rights => same left right && sameItems lefts rights
  | _, _ => false
/-- Every member has one of its key in the other dict. -/
def sameMembers : List (String × Value) → List (String × Value) → Bool
  | [], _ => true
  | (key, left) :: lefts, rights =>
    (match getMember rights key with
      | some right => same left right
      | none => false) && sameMembers lefts rights
end

/-- `left == right`; what is no number does not equal itself. -/
def equals (left right : Value) : Bool := same left right && numberOf left ≠ some .nan

section Validation

variable [Interpreter] [Sha256] [JsonDecoder]

/-! ## Values of a row -/

/-- `_mapping`. -/
def mapping (value : Value) (field : String) : Except MemoryError Mapping :=
  match value with
  | .dict members => .ok members
  | .str text =>
    match JsonDecoder.loads text.toList with
    | .ok (.dict members) => .ok members
    | .ok _ => .error (.validation (field ++ " must be a JSON object"))
    | .error .jsonDecodeError => .error (.validation (field ++ " is not valid JSON"))
    | .error .valueError => .error .valueError
  | _ => .error (.validation (field ++ " must be a JSON object"))

/-- `_canonical_uuid`. -/
def canonicalUuid (value : Value) (field : String) : Except MemoryError String :=
  match uuidOf value.text with
  | some id => .ok (uuidText id)
  | none => .error (.validation (field ++ " must be a UUID"))

/-- `_required_text` of the value of a field. -/
def requiredText (value : Value) (field : String) : Except MemoryError String :=
  match value with
  | .null => .error (.validation (field ++ " is required"))
  | value =>
    if isBlank value.text then .error (.validation (field ++ " is required")) else .ok value.text

/-- `_timestamp`; a datetime whose UTC date is no date overflows. -/
def timestamp (value : Value) (field : String) : Except MemoryError String :=
  let text := (stripText value.text.toList).flatMap fun c =>
    if c = 'Z' then "+00:00".toList else [c]
  match AwareDatetime.fromisoformat (String.ofList text) with
  | none => .error (.validation (field ++ " must be a timestamp"))
  | some none => .error (.validation (field ++ " must include a timezone"))
  | some (some parsed) =>
    if (Instant.date parsed.instant).isSome then .ok (timestampText parsed.instant)
    else .error .overflow

/-- `_same_decimal`. -/
def sameDecimal (left right : Value) : Bool :=
  match decimalOf left.text, decimalOf right.text with
  | some left, some right => Receipt.equal left right
  | _, _ => false

/-- `int(value)` with the two errors that are caught. -/
def intOf (value : Value) (message : String) : Except MemoryError Int :=
  match value.toInt with
  | .ok number => .ok number
  | .error .overflowError => .error .overflow
  | .error _ => .error (.validation message)

/-! ## The first row -/

/-- What is read of the first row. -/
structure CaseColumns where
  tenantId : Value
  caseId : Value
  contestId : Value
  contestStatus : Value
  invoiceId : Value
  findingId : Value
  currentState : Value
  manifestVersion : Value
  evidenceManifest : Value
  evidenceHash : Value
  approvedBy : Value
  sealedAt : Value
  sealedTxnTs : Value
  currentInvoiceNo : Value
  currentInvoiceVersionId : Value
  currentInvoiceSha256 : Value
  currentInvoiceClaimedRate : Value
  currentInvoiceCurrency : Value
  currentInvoiceRateUnit : Value
  currentInvoiceChargeDays : Value
  currentRecommendation : Value
  currentCalculation : Value
  currentApprovalState : Value
  currentClauseId : Value
  currentRecordedRate : Value
  currentFindingClaimedRate : Value
  currentFindingRateUnit : Value
  currentFindingChargeDays : Value

def caseColumns (row : Mapping) : CaseColumns where
  tenantId := get row "tenant_id"
  caseId := get row "case_id"
  contestId := get row "contest_id"
  contestStatus := get row "contest_status"
  invoiceId := get row "invoice_id"
  findingId := get row "finding_id"
  currentState := get row "current_state"
  manifestVersion := get row "manifest_version"
  evidenceManifest := get row "evidence_manifest"
  evidenceHash := get row "evidence_hash"
  approvedBy := get row "approved_by"
  sealedAt := get row "sealed_at"
  sealedTxnTs := get row "sealed_txn_ts"
  currentInvoiceNo := get row "current_invoice_no"
  currentInvoiceVersionId := get row "current_invoice_version_id"
  currentInvoiceSha256 := get row "current_invoice_sha256"
  currentInvoiceClaimedRate := get row "current_invoice_claimed_rate"
  currentInvoiceCurrency := get row "current_invoice_currency"
  currentInvoiceRateUnit := get row "current_invoice_rate_unit"
  currentInvoiceChargeDays := get row "current_invoice_charge_days"
  currentRecommendation := get row "current_recommendation"
  currentCalculation := get row "current_calculation"
  currentApprovalState := get row "current_approval_state"
  currentClauseId := get row "current_clause_id"
  currentRecordedRate := get row "current_recorded_rate"
  currentFindingClaimedRate := get row "current_finding_claimed_rate"
  currentFindingRateUnit := get row "current_finding_rate_unit"
  currentFindingChargeDays := get row "current_finding_charge_days"

/-- The ids the caller expects. -/
structure ExpectedIds where
  tenantId : String
  caseId : String
  contestId : String

/-- The ids as they are written. -/
def canonicalIds (expected : ExpectedIds) : Except MemoryError ExpectedIds := do
  let tenantId ← canonicalUuid (.str expected.tenantId) "expected_tenant_id"
  let caseId ← canonicalUuid (.str expected.caseId) "expected_case_id"
  let contestId ← canonicalUuid (.str expected.contestId) "expected_contest_id"
  .ok ⟨tenantId, caseId, contestId⟩

/-- `SEALED_CASE_STATES`. -/
def sealedCaseStates : List String := ["FILED", "CONTESTED", "RESOLVED"]

/-- The items of the manifest by their ids, in the order of the manifest. -/
abbrev ManifestItems := List (String × Mapping)

/-- The loop over the items of the manifest. -/
def indexItems : ManifestItems → List Value → Except MemoryError ManifestItems
  | items, [] => .ok items
  | items, value :: values => do
    let item ← mapping value "manifest evidence"
    let evidenceId ← canonicalUuid (get item "evidence_id") "manifest evidence_id"
    require (evidenceId ∉ items.map Prod.fst) "manifest contains duplicate evidence IDs"
    indexItems (items ++ [(evidenceId, item)]) values

/-- What the checks of the first row find. -/
structure Head where
  contestId : String
  caseId : String
  invoiceId : String
  findingId : String
  currentState : String
  approvedBy : String
  sealedAt : String
  evidenceHash : String
  manifest : Mapping
  items : ManifestItems

/-- The list `evidence` of the manifest, which is not empty. -/
def evidenceList (manifest : Mapping) : Except MemoryError (List Value) :=
  match get manifest "evidence" with
  | .list (item :: items) => .ok (item :: items)
  | _ => .error (.validation "manifest has no evidence")

/-- The checks before the rows are looked at one by one. -/
def checkFirst (expected : ExpectedIds) (first : CaseColumns) : Except MemoryError Head := do
  let tenantId ← canonicalUuid first.tenantId "tenant_id"
  require (tenantId = expected.tenantId) "returned tenant does not match trusted context"
  let caseId ← canonicalUuid first.caseId "case_id"
  require (caseId = expected.caseId) "returned case does not match requested case"
  let contestId ← canonicalUuid first.contestId "contest_id"
  require (contestId = expected.contestId) "returned contest does not match trusted context"
  require (first.currentState.text ∈ sealedCaseStates) "case has no filed seal"
  require (equalsInt 1 first.manifestVersion) "unsupported manifest version"
  let manifest ← mapping first.evidenceManifest "evidence_manifest"
  let stored ← requiredText first.evidenceHash "evidence_hash"
  require (evidenceHash manifest = stored) "manifest hash mismatch"
  require (equalsInt 1 (get manifest "manifest_version")) "manifest version mismatch"
  let manifestTenant ← canonicalUuid (get manifest "tenant_id") "manifest tenant_id"
  require (manifestTenant = expected.tenantId) "manifest tenant mismatch"
  let manifestCase ← canonicalUuid (get manifest "case_id") "manifest case_id"
  require (manifestCase = expected.caseId) "manifest case mismatch"
  let invoiceId ← canonicalUuid first.invoiceId "invoice_id"
  let findingId ← canonicalUuid first.findingId "finding_id"
  let manifestInvoice ← canonicalUuid (get manifest "invoice_id") "manifest invoice_id"
  require (manifestInvoice = invoiceId) "manifest invoice mismatch"
  let manifestFinding ← canonicalUuid (get manifest "finding_id") "manifest finding_id"
  require (manifestFinding = findingId) "manifest finding mismatch"
  let approvedBy ← canonicalUuid first.approvedBy "approved_by"
  let manifestApprover ← canonicalUuid (get manifest "approved_by") "manifest approved_by"
  require (manifestApprover = approvedBy) "manifest approver mismatch"
  let sealedAt ← timestamp first.sealedAt "sealed_at"
  let approvedAt ← timestamp (get manifest "approved_at") "manifest approved_at"
  require (approvedAt = sealedAt) "manifest approval time mismatch"
  let values ← evidenceList manifest
  let items ← indexItems [] values
  .ok { contestId := expected.contestId
        caseId := expected.caseId
        invoiceId := invoiceId
        findingId := findingId
        currentState := first.currentState.text
        approvedBy := approvedBy
        sealedAt := sealedAt
        evidenceHash := stored
        manifest := manifest
        items := items }

/-! ## Every row -/

/-- The fields in which every row is compared with the first one. -/
def comparedFields : List String :=
  ["tenant_id", "case_id", "invoice_id", "finding_id", "current_state", "manifest_version",
    "evidence_hash", "approved_by", "sealed_at", "sealed_txn_ts", "contest_id", "contest_status",
    "current_invoice_no", "current_invoice_version_id", "current_invoice_sha256",
    "current_invoice_claimed_rate", "current_invoice_currency", "current_invoice_rate_unit",
    "current_invoice_charge_days", "current_recommendation", "current_calculation",
    "current_approval_state", "current_clause_id", "current_recorded_rate",
    "current_finding_claimed_rate", "current_finding_rate_unit", "current_finding_charge_days"]

/-- The comparison of a row with the first one. -/
def compareWith (first row : Mapping) : Except MemoryError Unit :=
  match comparedFields.find? fun field => !equals (get row field) (get first field) with
  | some field => .error (.validation ("inconsistent case field across rows: " ++ field))
  | none => .ok ()

/-- What the item must say of a row besides its content. -/
def comparisons (row : Mapping) : List (String × Value) :=
  [("kind", get row "evidence_kind"), ("source_table", get row "source_table"),
    ("source_id", get row "source_id"), ("content_sha256", get row "content_sha256")]

def flattenedMember (item : Mapping) (member : String × Value) : Bool :=
  hasMember item member.1 && sameJson (get item member.1) member.2

/-- The members of the content stand in the item as well. -/
def checkFlattened (item content : Mapping) : Except MemoryError Unit :=
  match content.find? fun member => !flattenedMember item member with
  | some member => .error (.validation
      ("flattened evidence " ++ member.1 ++ " does not match sealed content"))
  | none => .ok ()

/-- The loop over the comparisons. -/
def checkComparisons (row item : Mapping) : Except MemoryError Unit :=
  match (comparisons row).find? fun c => (get item c.1).text ≠ c.2.text with
  | some c => .error (.validation ("evidence " ++ c.1 ++ " does not match manifest"))
  | none => .ok ()

/-- The checks that bind a row to its item of the manifest. -/
def checkBinding (row item : Mapping) : Except MemoryError Unit := do
  require (match get row "evidence_sealed" with | .bool value => value | _ => false)
    "returned evidence is not sealed"
  let content ← mapping (get row "evidence_content") "evidence_content"
  require (storedContentHashMatches (get row "content_sha256").text (contentHash content))
    "evidence content hash mismatch"
  require (sameJson (get item "content") (.dict content))
    "evidence content does not match manifest"
  checkFlattened item content
  checkComparisons row item

/-- The item of an id. -/
def itemOf (items : ManifestItems) (evidenceId : String) : Except MemoryError Mapping :=
  match items.find? fun item => item.1 = evidenceId with
  | some item => .ok item.2
  | none => .error (.validation "returned evidence is absent from manifest")

/-- The loop over the rows; the ids that were returned so far come first. -/
def checkRows (first : Mapping) (items : ManifestItems) :
    List String → List Mapping → Except MemoryError (List String)
  | returned, [] => .ok returned
  | returned, row :: rows => do
    compareWith first row
    let evidenceId ← canonicalUuid (get row "evidence_id") "evidence_id"
    require (evidenceId ∉ returned) "duplicate returned evidence ID"
    let item ← itemOf items evidenceId
    checkBinding row item
    checkRows first items (returned ++ [evidenceId]) rows

/-! ## The memory -/

/-- `SealedCaseMemory`. -/
structure SealedCaseMemory where
  contestId : String
  contestStatus : String
  caseId : String
  invoiceId : String
  invoiceNo : String
  findingId : String
  currentState : String
  recommendation : String
  recordedRate : String
  claimedRate : String
  rateCurrency : String
  rateUnit : String
  chargeDays : Int
  clauseId : String
  clauseText : String
  captureId : String
  sourceVersionId : String
  sourceSha256 : String
  invoiceSourceVersionId : String
  invoiceSourceSha256 : String
  approvedBy : String
  sealedAt : String
  sealedTxnTs : String
  manifestVersion : Int
  evidenceHash : String
  evidenceIds : List String
deriving DecidableEq

/-- The first item with an exact version of a tariff. -/
def tariffItem (items : ManifestItems) : Except MemoryError Mapping :=
  match items.find? fun item => truthy (get item.2 "clause_id") &&
      truthy (get item.2 "s3_version_id") && truthy (get item.2 "source_sha256") with
  | some item => .ok item.2
  | none => .error (.validation "manifest has no exact tariff evidence version")

/-- The checks of the invoice and the finding as they are now. -/
def checkCurrent (first : CaseColumns) (manifest item calculation : Mapping) :
    Except MemoryError Int := do
  require (isText (get item "source_table") "tariff_clauses")
    "tariff evidence source table is invalid"
  let sourceId ← canonicalUuid (get item "source_id") "tariff source_id"
  let clauseId ← canonicalUuid (get item "clause_id") "clause_id"
  require (sourceId = clauseId) "tariff evidence source does not match clause"
  require (truthy (get item "invoice_s3_version_id") && truthy (get item "invoice_sha256"))
    "manifest has no exact invoice evidence version"
  require (isText first.currentApprovalState "APPROVED") "current finding approval is not approved"
  require (first.currentInvoiceNo.text = (get item "invoice_no").text)
    "current invoice does not match manifest"
  require (first.currentInvoiceVersionId.text = (get item "invoice_s3_version_id").text &&
      first.currentInvoiceSha256.text = (get item "invoice_sha256").text)
    "current invoice source does not match manifest"
  require (equals first.currentRecommendation (get manifest "recommendation"))
    "current finding recommendation does not match manifest"
  let current ← mapping first.currentCalculation "current_calculation"
  require (sameJson (.dict current) (.dict calculation))
    "current finding calculation does not match manifest"
  let currentClauseId ← canonicalUuid first.currentClauseId "current_clause_id"
  require (currentClauseId = clauseId) "current finding clause does not match manifest"
  require (sameDecimal first.currentRecordedRate (get calculation "recorded_rate") &&
      sameDecimal first.currentFindingClaimedRate (get calculation "claimed_rate") &&
      sameDecimal first.currentInvoiceClaimedRate (get item "invoice_claimed_rate"))
    "current rate values do not match manifest"
  require (first.currentInvoiceCurrency.text = (get item "rate_currency").text)
    "current invoice currency does not match manifest"
  require (first.currentInvoiceRateUnit.text = (get item "rate_unit").text &&
      first.currentFindingRateUnit.text = (get item "rate_unit").text)
    "current rate unit does not match manifest"
  let chargeDays ← intOf (get item "charge_days") "charge_days must be an integer"
  let invoiceDays ← intOf first.currentInvoiceChargeDays "current charge days must be integers"
  let findingDays ← intOf first.currentFindingChargeDays "current charge days must be integers"
  require (invoiceDays = chargeDays && findingDays = chargeDays)
    "current charge days do not match manifest"
  .ok chargeDays

/-- The checks behind the rows, and the memory. -/
def project (first : CaseColumns) (head : Head) (evidenceIds : List String) :
    Except MemoryError SealedCaseMemory := do
  let item ← tariffItem head.items
  let calculation ← mapping (get head.manifest "calculation") "calculation"
  let chargeDays ← checkCurrent first head.manifest item calculation
  let contestStatus ← requiredText first.contestStatus "contest_status"
  let invoiceNo ← requiredText (get item "invoice_no") "invoice_no"
  let recommendation ← requiredText (get head.manifest "recommendation") "recommendation"
  let recordedRate ← requiredText (get calculation "recorded_rate") "recorded_rate"
  let claimedRate ← requiredText (get calculation "claimed_rate") "claimed_rate"
  let rateCurrency ← requiredText (get item "rate_currency") "rate_currency"
  let rateUnit ← requiredText (get item "rate_unit") "rate_unit"
  let clauseId ← canonicalUuid (get item "clause_id") "clause_id"
  let clauseText ← requiredText (get item "clause_text") "clause_text"
  let captureId ← canonicalUuid (get item "capture_id") "capture_id"
  let sourceVersionId ← requiredText (get item "s3_version_id") "s3_version_id"
  let sourceSha256 ← requiredText (get item "source_sha256") "source_sha256"
  let invoiceSourceVersionId ←
    requiredText (get item "invoice_s3_version_id") "invoice_s3_version_id"
  let invoiceSourceSha256 ← requiredText (get item "invoice_sha256") "invoice_sha256"
  let sealedTxnTs ← requiredText first.sealedTxnTs "sealed_txn_ts"
  .ok { contestId := head.contestId
        contestStatus := contestStatus
        caseId := head.caseId
        invoiceId := head.invoiceId
        invoiceNo := invoiceNo
        findingId := head.findingId
        currentState := head.currentState
        recommendation := recommendation
        recordedRate := recordedRate
        claimedRate := claimedRate
        rateCurrency := rateCurrency
        rateUnit := rateUnit
        chargeDays := chargeDays
        clauseId := clauseId
        clauseText := clauseText
        captureId := captureId
        sourceVersionId := sourceVersionId
        sourceSha256 := sourceSha256
        invoiceSourceVersionId := invoiceSourceVersionId
        invoiceSourceSha256 := invoiceSourceSha256
        approvedBy := head.approvedBy
        sealedAt := head.sealedAt
        sealedTxnTs := sealedTxnTs
        manifestVersion := 1
        evidenceHash := head.evidenceHash
        evidenceIds := evidenceIds }

/-- `sorted(returned_ids)`. -/
def sortedIds (returned : List String) : List String :=
  returned.insertionSort fun a b => a ≤ b

/-- `returned_ids == set(manifest_items)`. -/
def sameIds (returned : List String) (items : ManifestItems) : Bool :=
  returned.all (fun id => id ∈ items.map Prod.fst) &&
    (items.map Prod.fst).all fun id => id ∈ returned

/-- `validate_sealed_case_memory`. -/
def validateSealedCaseMemory (expected : ExpectedIds) (rows : List Mapping) :
    Except MemoryError (Option SealedCaseMemory) :=
  match rows with
  | [] => .ok none
  | first :: _ => do
    let ids ← canonicalIds expected
    let head ← checkFirst ids (caseColumns first)
    let returned ← checkRows first head.items [] rows
    require (sameIds returned head.items) "returned evidence set does not match manifest"
    let memory ← project (caseColumns first) head (sortedIds returned)
    .ok (some memory)

end Validation

end Tally.Model.SealedMemory
