import Tally.Model.EvidenceBindings
import Tally.Model.Receipt

/-!
# Verification of a sealed receipt

The embedding of `core/receipt_verifier.py`, over the rows that the loaders of
`platform/receipt_verifier.py` build: every check with its name and reason, in order, and the
report. A loader that raises or finds nothing gives no row, and a row has a column of its own for
every member that is read. How a decimal number is read from a text, and the claim from the bytes
of an invoice, are parameters.
-/

set_option autoImplicit false

namespace Tally.Model.ReceiptVerifier
open Library Library.Calendar Library.Sha256 Tally.Model CaseSeal EvidenceBindings Receipt
open Tally.Model.Applicability (Decimal)
open Tally.Model.AuthoritySealRepository (prefixedSha256)
open Tally.Model.CockroachMcp (equalsInt)
open Tally.Model.VectorRetrieval (normalizeText decodeUtf8)

/-! ## Rows -/

/-- What is read of an exact version of an object. -/
structure LoadedSource where
  bucket : String
  key : String
  versionId : String
  body : Bytes
  observedAt : Instant

structure StoredCase where
  id : String
  tenantId : String
  state : String
  manifestVersion : Option Int
  invoiceId : String
  findingId : String
  sealedBy : Option String
  sealedTxnTs : Option String
  sealedAtDisplay : Option Instant

structure CaptureRow where
  id : String
  tenantId : String
  carrierId : String
  s3Key : Option String
  sourceVersionId : Option String
  sourceByteSize : Option Int
  docSha256 : Option String
  capturedAt : Option Instant
  committedAt : Option Instant

structure ClauseRow where
  id : String
  tenantId : String
  snapshotId : String
  clauseText : Option String
  sha256 : Option String
  rateAmount : Option Decimal
  rateCurrency : Option String
  rateUnit : Option String
  effectiveFrom : Option Date
  effectiveTo : Option Date
  committedAt : Option Instant
  verificationStatus : Option String
  verificationReason : Option String

structure EvidenceRow where
  id : String
  tenantId : String
  caseId : String
  kind : Option String
  sourceTable : Option String
  sourceId : String
  content : Mapping
  contentSha256 : Option String
  sealed : Bool

structure InvoiceRow where
  id : String
  tenantId : String
  invoiceNo : Option String
  s3Key : Option String
  sourceVersionId : Option String
  sha256 : Option String
  claimedRate : Option Decimal
  rateCurrency : Option String
  rateUnit : Option String
  chargeDays : Option Int
  receivedAt : Option Instant
  invoiceDate : Option Date

structure FindingRow where
  id : String
  tenantId : String
  invoiceId : String
  recommendation : Option String
  calculation : Mapping
  humanApprovalState : Option String

/-- The loaders of the rows of a tenant and of the exact versions of objects. -/
structure Loaders where
  source : String → String → String → Option LoadedSource
  capture : String → String → Option CaptureRow
  clause : String → String → Option ClauseRow
  evidence : String → String → Option EvidenceRow
  invoice : String → String → Option InvoiceRow
  finding : String → String → Option FindingRow

/-! ## Parameters and errors -/

/-- `Decimal(text)`; none is an invalid operation. -/
class DecimalTexts where
  ofText : String → Option Decimal

/-- `json.loads` of the bytes of an invoice, with the fields of its claim. -/
class ClaimTexts where
  loads : Bytes → Option InvoiceClaim

/-- What a verification may raise. -/
inductive VerifyError where
  | overflow
  | calculation (error : ReceiptError)
deriving DecidableEq

/-! ## The report -/

structure ReceiptCheck where
  name : String
  passed : Bool
  reason : Option String
deriving DecidableEq

/-- `record`. -/
def record (name : String) (passed : Bool) (reason : String) : ReceiptCheck :=
  ⟨name, passed, if passed then none else some reason⟩

/-- The checks of a row or a source that is there. -/
def whenThere {α : Type} (row : Option α)
    (checks : α → Except VerifyError (List (String × Bool × String))) :
    Except VerifyError (List (String × Bool × String)) :=
  match row with
  | some row => checks row
  | none => .ok []

structure ReceiptVerificationReport where
  passed : Bool
  computedManifestHash : String
  checks : List ReceiptCheck

/-- `reasons`. -/
def ReceiptVerificationReport.reasons (report : ReceiptVerificationReport) : List String :=
  report.checks.filterMap ReceiptCheck.reason

/-! ## Comparisons -/

/-- `column == value` of a text column. -/
def sameText (column : Option String) (value : Value) : Bool :=
  match column, value with
  | none, .null => true
  | some text, value => isText value text
  | none, _ => false

/-- `column == value` of an integer column. -/
def sameInt (column : Option Int) (value : Value) : Bool :=
  match column, value with
  | none, .null => true
  | some number, value => equalsInt number value
  | none, _ => false

/-- `left == right` of two numbers that are there. -/
def sameDecimal (left right : Option Decimal) : Bool :=
  match left, right with
  | some left, some right => equal left right
  | _, _ => false

/-- `str(column)` of a date column. -/
def dateText (column : Option Date) : String := (column.map Date.isoformat).getD "None"

/-- `_stored_hash_matches` of a column. -/
def storedHashMatches (column : Option String) (computed : String) : Bool :=
  column.any fun stored => storedContentHashMatches stored computed

section Comparing

variable [Interpreter]

/-- `bool(text.strip())`. -/
def filled (text : String) : Bool := !(stripText text.toList).isEmpty

/-- `isinstance(value, str) and bool(value.strip())`. -/
def isReference : Value → Bool
  | .str text => filled text
  | _ => false

/-- `_present` of a column. -/
def presentText (column : Option String) : Bool := column.any filled

/-- `_present`. -/
def present : Value → Bool
  | .null => false
  | .str text => filled text
  | _ => true

/-- `normalized` of `_same_timestamp`, for what is no datetime; one whose UTC date is no date
overflows. A datetime without a zone has a text that no datetime with one has. -/
def normalizedText (value : Value) : Except VerifyError (Option String) :=
  let text := String.ofList ((stripText value.text.toList).flatMap fun c =>
    if c = 'Z' then "+00:00".toList else [c])
  match AwareDatetime.fromisoformat text with
  | none => .ok (some text)
  | some none => .ok none
  | some (some parsed) =>
    if (Instant.date parsed.instant).isSome then .ok (some (Instant.isoformat parsed.instant))
    else .error .overflow

/-- `_same_timestamp` of a column and a value. -/
def sameTimestamp (column : Option Instant) (value : Value) : Except VerifyError Bool :=
  match column with
  | none => .ok false
  | some instant =>
    if present value then do
      let text ← normalizedText value
      pure (text = some (Instant.isoformat instant))
    else .ok false

/-- `_decimal` of a value. -/
def decimal [DecimalTexts] (value : Value) : Option Decimal := DecimalTexts.ofText value.text

/-- `_integer` of a value. -/
def integer (value : Value) : Except VerifyError (Option Int) :=
  match value.toInt with
  | .error .overflowError => .error .overflow
  | .error .typeError => .ok none
  | .error .valueError => .ok none
  | .ok parsed =>
    .ok (if stripText value.text.toList = (toString parsed).toList then some parsed else none)

/-- `load`. -/
def load {α : Type} (loader : String → String → Option α) (tenantId rowId : Value) : Option α :=
  match tenantId, rowId with
  | .str tenantId, .str rowId =>
    if filled tenantId && filled rowId then loader tenantId rowId else none
  | _, _ => none

end Comparing

/-! ## Rates in clauses -/

section Clauses

variable [PatternTables]

open CharacterTables

/-- The matches of the pattern of a rate in a text, from the left. What follows a match is behind
it, and a digit there stands behind a character that is none. -/
def rateNumerals : Nat → List Char → List (List Char)
  | 0, _ => []
  | fuel + 1, text =>
    match rateNumeral text with
    | none => []
    | some numeral =>
      let found := text.dropWhile fun c => !isDecimal c
      numeral :: rateNumerals fuel (found.drop numeral.length)

/-- `_clause_contains_rate`; every match is longer than nothing. -/
def clauseContainsRate (clauseText : String) : Option Decimal → Bool
  | none => false
  | some rate =>
    (rateNumerals (clauseText.toList.length + 1) clauseText.toList).any fun numeral =>
      (decimalOf (numeral.filter (· ≠ ','))).any (equal · rate)

end Clauses

/-! ## Evidence -/

section Evidence

variable [Interpreter] [Sha256] [PatternTables] [DecimalTexts]

/-- The names of the checks of an item. -/
def itemName (index : Nat) (name : String) : String :=
  "evidence[" ++ toString index ++ "]." ++ name

def prefixed (index : Nat) (checks : List (String × Bool × String)) : List ReceiptCheck :=
  checks.map fun check => record (itemName index check.1) check.2.1 check.2.2

/-- The checks of the stored row of an item. -/
def rowChecks (manifest item : Mapping) (row : EvidenceRow) : List (String × Bool × String) :=
  [("row_identity",
      (get item "evidence_id").text = row.id &&
        (get manifest "tenant_id").text = row.tenantId &&
        (get manifest "case_id").text = row.caseId &&
        sameText row.kind (get item "kind") &&
        sameText row.sourceTable (get item "source_table") &&
        (get item "source_id").text = row.sourceId,
      "evidence_row_identity_mismatch"),
    ("row_sealed", row.sealed, "evidence_row_not_sealed"),
    ("content",
      match get item "content" with
      | .dict content => sameJson (.dict row.content) (.dict content)
      | _ => false,
      "evidence_content_mismatch"),
    ("flattened_binding",
      match get item "content" with
      | .dict content => flattenedBinding item content
      | _ => false,
      "evidence_flattened_binding_mismatch"),
    ("content_hash",
      storedHashMatches row.contentSha256 (contentHash row.content) &&
        hashMatches (get item "content_sha256") (contentHash row.content),
      "evidence_content_hash_mismatch")]

/-- The checks of the capture of an item. -/
def captureChecks (manifest item : Mapping) (row : CaptureRow) :
    Except VerifyError (List (String × Bool × String)) := do
  let observed ← sameTimestamp row.capturedAt (get item "observed_at")
  let committed ← sameTimestamp row.committedAt (get item "committed_at")
  pure
    [("capture_identity",
        (get item "capture_id").text = row.id && (get manifest "tenant_id").text = row.tenantId &&
          (get item "carrier_id").text = row.carrierId,
        "capture_identity_mismatch"),
      ("capture_key", sameText row.s3Key (get item "s3_key"), "capture_source_key_mismatch"),
      ("capture_version", sameText row.sourceVersionId (get item "s3_version_id"),
        "capture_source_version_mismatch"),
      ("capture_hash", sameText row.docSha256 (get item "source_sha256"),
        "capture_source_hash_mismatch"),
      ("capture_size", sameInt row.sourceByteSize (get item "source_size"),
        "capture_source_size_mismatch"),
      ("capture_observed", observed, "capture_observed_at_mismatch"),
      ("capture_committed", committed, "capture_committed_at_mismatch")]

/-- The checks of the exact version of an item's source. -/
def sourceChecks (item : Mapping) (source : LoadedSource) :
    Except VerifyError (List (String × Bool × String)) := do
  let observed ← sameTimestamp (some source.observedAt) (get item "observed_at")
  pure
    [("source_response_identity",
        isText (get item "s3_bucket") source.bucket && isText (get item "s3_key") source.key &&
          isText (get item "s3_version_id") source.versionId,
        "source_response_identity_mismatch"),
      ("source_observed", observed, "source_observed_at_mismatch"),
      ("source_hash", hashMatches (get item "source_sha256") (hexdigest source.body),
        "source_hash_mismatch"),
      ("source_size", equalsInt source.body.length (get item "source_size"),
        "source_size_mismatch")]

/-- The clause stands in the source, up to blanks. -/
def sourceContainsClause (clauseText : String) : Option LoadedSource → Bool
  | none => false
  | some source =>
    match decodeUtf8 source.body with
    | none => false
    | some text => normalizeText clauseText <:+: normalizeText text

/-- A text of a clause that is there and not blank. -/
def validClauseText (row : ClauseRow) : Option String := row.clauseText.filter filled

/-- `rate_ok`. -/
def rateOk (item : Mapping) (row : ClauseRow) : Bool :=
  sameDecimal row.rateAmount (decimal (get item "rate_amount")) &&
    sameText row.rateCurrency (get item "rate_currency") &&
    sameText row.rateUnit (get item "rate_unit") &&
    (get item "effective_from").text = dateText row.effectiveFrom &&
    (get item "effective_to").text = dateText row.effectiveTo

/-- The checks of the clause of an item. -/
def clauseChecks (manifest item : Mapping) (source : Option LoadedSource) (row : ClauseRow) :
    Except VerifyError (List (String × Bool × String)) := do
  let committed ← sameTimestamp row.committedAt (get item "clause_committed_at")
  pure
    [("clause_identity",
        (get item "clause_id").text = row.id && (get manifest "tenant_id").text = row.tenantId &&
          (get item "capture_id").text = row.snapshotId,
        "clause_identity_mismatch"),
      ("clause_committed", committed, "clause_committed_at_mismatch"),
      ("clause_verification",
        sameText row.verificationStatus (get item "verification_status") &&
          isText (get item "verification_status") "VERIFIED" &&
          presentText row.verificationReason &&
          sameText row.verificationReason (get item "verification_reason"),
        "clause_verification_mismatch"),
      ("clause_hash",
        (validClauseText row).any fun text =>
          hashMatches (get item "clause_sha256") (hexdigest (encode text)) &&
            storedHashMatches row.sha256 (hexdigest (encode text)),
        "clause_hash_mismatch"),
      ("clause_source", (validClauseText row).any (sourceContainsClause · source),
        "clause_absent_from_source"),
      ("clause_rate", rateOk item row, "clause_rate_mismatch"),
      ("clause_rate_text",
        (validClauseText row).any (clauseContainsRate · (decimal (get item "rate_amount"))),
        "rate_absent_from_clause")]

/-- The members of an item that refer to its rows and its source. -/
def references : List String :=
  ["evidence_id", "capture_id", "clause_id", "s3_bucket", "s3_key", "s3_version_id"]

def completeReference (item : Mapping) : Bool :=
  references.all fun key => isReference (get item key)

/-- The source of an item, when the reference is complete. -/
def itemSource (loaders : Loaders) (item : Mapping) : Option LoadedSource :=
  if completeReference item then
    match get item "s3_bucket", get item "s3_key", get item "s3_version_id" with
    | .str bucket, .str key, .str versionId => loaders.source bucket key versionId
    | _, _, _ => none
  else none

/-- The body of the loop over the evidence: the checks, and the rate of a clause that has it. -/
def verifyItem (loaders : Loaders) (manifest item : Mapping) :
    Except VerifyError (List (String × Bool × String) × Option Decimal) := do
  let tenantId := get manifest "tenant_id"
  let storedEvidence := load loaders.evidence tenantId (get item "evidence_id")
  let capture := load loaders.capture tenantId (get item "capture_id")
  let source := itemSource loaders item
  let clause := load loaders.clause tenantId (get item "clause_id")
  let captured ← whenThere capture (captureChecks manifest item)
  let fetched ← whenThere source (sourceChecks item)
  let stated ← whenThere clause (clauseChecks manifest item source)
  pure
    ([("reference", completeReference item, "incomplete_evidence_reference"),
        ("source_identity",
          isText (get item "source_table") "tariff_clauses" &&
            (get item "source_id").text = (get item "clause_id").text,
          "evidence_source_identity_mismatch"),
        ("row", storedEvidence.isSome, "evidence_row_missing")] ++
      (storedEvidence.map (rowChecks manifest item)).getD [] ++
      [("capture", capture.isSome, "capture_missing")] ++ captured ++
      [("source_fetch", source.isSome, "source_version_fetch_failed")] ++ fetched ++
      [("clause", clause.isSome, "clause_missing")] ++ stated,
    if clause.any (rateOk item) then decimal (get item "rate_amount") else none)

/-- The loop over the evidence. -/
def verifyItems (loaders : Loaders) (manifest : Mapping) :
    Nat → List Value → Except VerifyError (List ReceiptCheck × List Decimal)
  | _, [] => pure ([], [])
  | index, .dict item :: items => do
    let (checks, rate) ← verifyItem loaders manifest item
    let (later, rates) ← verifyItems loaders manifest (index + 1) items
    pure (prefixed index checks ++ later, rate.toList ++ rates)
  | index, _ :: items => do
    let (later, rates) ← verifyItems loaders manifest (index + 1) items
    pure (prefixed index [("shape", false, "invalid_evidence")] ++ later, rates)

end Evidence

/-! ## The invoice -/

/-- `format(value, ".2f")` as the number it spells. -/
def roundCents : Decimal → Decimal
  | .finite negative coefficient exponent =>
    if -2 ≤ exponent then .finite negative (coefficient * 10 ^ (exponent + 2).toNat) (-2)
    else .finite negative (roundHalfEven coefficient (10 ^ (-2 - exponent).toNat)) (-2)
  | value => value

section Invoices

variable [Interpreter] [Sha256] [PatternTables] [DecimalTexts] [ClaimTexts]

/-- The claim in the bytes of an invoice is the one of the row and of the evidence. -/
def sourceClaimOk (evidence : Mapping) (row : InvoiceRow) (body : Bytes) :
    Except VerifyError Bool :=
  match parseInvoiceClaim ClaimTexts.loads body with
  | .error _ => .ok false
  | .ok claim =>
    if row.invoiceNo = some claim.invoiceNo && isText (get evidence "invoice_no") claim.invoiceNo &&
        sameDecimal (some claim.claimedRate) row.claimedRate &&
        sameDecimal (some claim.claimedRate) (decimal (get evidence "invoice_claimed_rate")) &&
        row.rateCurrency = some claim.rateCurrency && row.rateUnit = some claim.rateUnit &&
        row.chargeDays = some claim.chargeDays then do
      let chargeDays ← integer (get evidence "charge_days")
      if chargeDays = some claim.chargeDays ∧ claim.invoiceDate.isoformat = dateText row.invoiceDate
        then sameTimestamp row.receivedAt (.str claim.receivedAt)
        else pure false
    else .ok false

/-- The checks of the exact version of an invoice. -/
def invoiceSourceChecks (evidence : Mapping) (row : InvoiceRow) (source : LoadedSource) :
    Except VerifyError (List (String × Bool × String)) := do
  let observed ← sameTimestamp (some source.observedAt) (get evidence "invoice_observed_at")
  let claimed ← sourceClaimOk evidence row source.body
  pure
    [("invoice_source_response_identity",
        isText (get evidence "invoice_s3_bucket") source.bucket &&
          isText (get evidence "invoice_s3_key") source.key &&
          isText (get evidence "invoice_s3_version_id") source.versionId,
        "invoice_source_response_identity_mismatch"),
      ("invoice_source_observed", observed, "invoice_source_observed_at_mismatch"),
      ("invoice_source_hash",
        storedHashMatches row.sha256 (hexdigest source.body) &&
          hashMatches (get evidence "invoice_sha256") (hexdigest source.body),
        "invoice_source_hash_mismatch"),
      ("invoice_source_size", equalsInt source.body.length (get evidence "invoice_source_size"),
        "invoice_source_size_mismatch"),
      ("invoice_source_claim", claimed, "invoice_source_claim_mismatch")]

/-- The exact version of the invoice, when the reference is complete. -/
def invoiceSource (loaders : Loaders) (evidence : Mapping) : Option LoadedSource :=
  match get evidence "invoice_s3_bucket", get evidence "invoice_s3_key",
      get evidence "invoice_s3_version_id" with
  | .str bucket, .str key, .str versionId =>
    if filled bucket && filled key && filled versionId then loaders.source bucket key versionId
    else none
  | _, _, _ => none

/-- `invoice_claim_ok`, with the rate and the days that are claimed. -/
def invoiceClaim (calculation : Mapping) (row : InvoiceRow) :
    Except VerifyError (Option (Decimal × Int)) :=
  match row.claimedRate, row.chargeDays with
  | some claimedRate, some chargeDays =>
    if 0 < chargeDays ∧ sameText row.rateCurrency (get calculation "rate_currency") ∧
        sameText row.rateUnit (get calculation "rate_unit") ∧
        sameDecimal (some claimedRate) (decimal (get calculation "claimed_rate")) then do
      let days ← integer (get calculation "charge_days")
      pure (if days = some chargeDays then some (claimedRate, chargeDays) else none)
    else .ok none
  | _, _ => .ok none

/-- `len(set(evidence_rates)) == 1`, and the rate. -/
def consistentRate : List Decimal → Option Decimal
  | [] => none
  | rate :: rates => if rates.all (equal rate ·) then some rate else none

/-- `calculation_ok`. -/
def calculationOk (calculation : Mapping) (rates : List Decimal) (claim : Option (Decimal × Int)) :
    Except VerifyError Bool :=
  match consistentRate rates, claim with
  | some rate, some (claimedRate, chargeDays) =>
    match calculateOvercharge rate claimedRate chargeDays with
    | .error error => .error (.calculation error)
    | .ok recomputed =>
      .ok (sameDecimal (decimal (get calculation "recorded_rate"))
          (some (roundCents recomputed.recordedRate)) &&
        sameDecimal (decimal (get calculation "overcharge"))
          (some (roundCents recomputed.overcharge)) &&
        isText (get calculation "recommendation") recomputed.recommendation)
  | _, _ => .ok false

/-- The checks of the invoice that is there. -/
def invoiceChecks (loaders : Loaders) (manifest evidence calculation : Mapping)
    (rates : List Decimal) (row : InvoiceRow) :
    Except VerifyError (List (String × Bool × String)) := do
  let received ← sameTimestamp row.receivedAt (get evidence "invoice_received_at")
  let source := invoiceSource loaders evidence
  let fetched ← whenThere source (invoiceSourceChecks evidence row)
  let claim ← invoiceClaim calculation row
  let calculated ← calculationOk calculation rates claim
  pure
    ([("invoice_identity",
        (get manifest "invoice_id").text = row.id && (get manifest "tenant_id").text = row.tenantId,
        "invoice_identity_mismatch"),
      ("invoice_source_identity",
        (get evidence "invoice_id").text = (get manifest "invoice_id").text &&
          sameText row.s3Key (get evidence "invoice_s3_key") &&
          sameText row.sourceVersionId (get evidence "invoice_s3_version_id") &&
          sameText row.sha256 (get evidence "invoice_sha256"),
        "invoice_source_identity_mismatch"),
      ("invoice_received_at", received, "invoice_received_at_mismatch"),
      ("invoice_date", (get evidence "invoice_date").text = dateText row.invoiceDate,
        "invoice_date_mismatch"),
      ("invoice_source_fetch", source.isSome, "invoice_source_fetch_failed")] ++ fetched ++
      [("invoice_claim", claim.isSome, "invoice_claim_mismatch"),
        ("calculation", calculated, "calculation_mismatch")])

end Invoices

/-! ## The receipt -/

/-- `SEALED_CASE_STATES`. -/
def sealedCaseStates : List String := ["FILED", "CONTESTED", "RESOLVED"]

/-- A value that is a dict, or the empty one. -/
def mappingOf : Value → Mapping
  | .dict members => members
  | _ => []

/-- A value that is a list, or the empty one. -/
def itemsOf : Value → List Value
  | .list items => items
  | _ => []

section Receipts

variable [Interpreter] [Sha256]

/-- The checks of the manifest and of the case. -/
def caseChecks (manifest : Mapping) (storedEvidenceHash : String) (storedCase : StoredCase)
    (expectedTenantId expectedCaseId : String) :
    Except VerifyError (List (String × Bool × String)) := do
  let sealedAt ← sameTimestamp storedCase.sealedAtDisplay (get manifest "approved_at")
  pure
    [("manifest_hash", storedEvidenceHash = evidenceHash manifest, "manifest_hash_mismatch"),
      ("manifest_version", isOne (get manifest "manifest_version"), "unsupported_manifest_version"),
      ("tenant", isText (get manifest "tenant_id") expectedTenantId, "tenant_mismatch"),
      ("case", isText (get manifest "case_id") expectedCaseId, "case_mismatch"),
      ("case_identity",
        (get manifest "case_id").text = storedCase.id &&
          (get manifest "tenant_id").text = storedCase.tenantId,
        "stored_case_identity_mismatch"),
      ("case_sealed", storedCase.state ∈ sealedCaseStates, "case_not_sealed"),
      ("stored_manifest_version",
        sameInt storedCase.manifestVersion (get manifest "manifest_version") &&
          isOne (get manifest "manifest_version"),
        "stored_manifest_version_mismatch"),
      ("case_invoice", (get manifest "invoice_id").text = storedCase.invoiceId,
        "case_invoice_mismatch"),
      ("case_finding", (get manifest "finding_id").text = storedCase.findingId,
        "case_finding_mismatch"),
      ("sealed_by",
        presentText storedCase.sealedBy &&
          storedCase.sealedBy = some (get manifest "approved_by").text,
        "sealed_by_mismatch"),
      ("sealed_txn_ts", presentText storedCase.sealedTxnTs, "sealed_txn_ts_missing"),
      ("sealed_at", sealedAt, "sealed_at_mismatch"),
      ("evidence", !(itemsOf (get manifest "evidence")).isEmpty, "empty_evidence")]

/-- The checks of the finding that is there. -/
def findingChecks (manifest calculation : Mapping) (row : FindingRow) :
    List (String × Bool × String) :=
  [("finding_identity",
      (get manifest "finding_id").text = row.id && (get manifest "tenant_id").text = row.tenantId &&
        (get manifest "invoice_id").text = row.invoiceId,
      "finding_identity_mismatch"),
    ("human_approval", row.humanApprovalState = some "APPROVED", "human_approval_missing"),
    ("finding_binding",
      sameText row.recommendation (get manifest "recommendation") &&
        sameJson (.dict row.calculation) (.dict calculation),
      "finding_binding_mismatch")]

def recorded (checks : List (String × Bool × String)) : List ReceiptCheck :=
  checks.map fun check => record check.1 check.2.1 check.2.2

variable [PatternTables] [DecimalTexts] [ClaimTexts]

/-- `verify_sealed_receipt`. -/
def verifySealedReceipt (loaders : Loaders) (manifest : Mapping) (storedEvidenceHash : String)
    (storedCase : StoredCase) (expectedTenantId expectedCaseId : String) :
    Except VerifyError ReceiptVerificationReport := do
  let tenantId := get manifest "tenant_id"
  let items := itemsOf (get manifest "evidence")
  let calculation := mappingOf (get manifest "calculation")
  let cased ← caseChecks manifest storedEvidenceHash storedCase expectedTenantId expectedCaseId
  let (evidence, rates) ← verifyItems loaders manifest 0 items
  let invoice := load loaders.invoice tenantId (get manifest "invoice_id")
  let invoiced ← whenThere invoice
    (invoiceChecks loaders manifest (mappingOf (items.headD .null)) calculation rates)
  let finding := load loaders.finding tenantId (get manifest "finding_id")
  let checks := recorded cased ++ evidence ++
    recorded ([("invoice", invoice.isSome, "invoice_missing")] ++ invoiced ++
      [("finding", finding.isSome, "finding_missing")] ++
      (finding.map (findingChecks manifest calculation)).getD [])
  pure ⟨checks.all ReceiptCheck.passed, evidenceHash manifest, checks⟩

end Receipts

end Tally.Model.ReceiptVerifier
