import Tally.Model.AccessEvidenceRepository

/-!
# Approval and seal

The embedding of `core/seal_manifest.py` and
`platform/authority_seal_repository.py`: the manifest a seal binds, its digest,
and the transaction that records one approval with its seal.
-/

set_option autoImplicit false

namespace Tally.Model.AuthoritySealRepository
open Library Library.Calendar Tally.Model

/-! ## The manifest -/

/-- `canonical_json_bytes`. -/
def canonicalJsonBytes (value : Json) : Bytes := encode (Json.dumps .compact value.sortKeys)

/-- `prefixed_sha256`. -/
def prefixedSha256 [Sha256] (data : Bytes) : String := "sha256:" ++ Sha256.hexdigest data

def optionJson {α : Type} (f : α → Json) : Option α → Json
  | some a => f a
  | none => .null

structure SealInputs where
  invoiceId : Uuid
  reconstructionId : Uuid
  reconstructionVersion : Nat
  recommendationId : Uuid
  recommendationVersion : Nat
  recommendationType : RecommendationType
  recommendationDigest : String
  disputedAmountMinor : Int
  supportedAmountMinor : Int
  claimedAmountMinor : Int
  currency : String
  applicableRuleId : Option Uuid
  applicableRuleDigest : Option String
  claimSetVersion : Nat
  invoiceSourceRef : String
  dayJudgmentDigests : List String
  approverDisplay : String
  approverKind : String
deriving DecidableEq

/-- `build_seal_manifest`. -/
def buildSealManifest [Sha256] (inputs : SealInputs) (revision : Nat) : Json :=
  .obj [
    ("schema_version", .int 1),
    ("revision", .int revision),
    ("invoice_id", .str (uuidText inputs.invoiceId)),
    ("reconstruction", .obj [
      ("id", .str (uuidText inputs.reconstructionId)),
      ("version", .int inputs.reconstructionVersion)]),
    ("recommendation", .obj [
      ("id", .str (uuidText inputs.recommendationId)),
      ("version", .int inputs.recommendationVersion),
      ("type", .str inputs.recommendationType.value),
      ("digest", .str inputs.recommendationDigest),
      ("disputed_amount_minor", .int inputs.disputedAmountMinor),
      ("supported_amount_minor", .int inputs.supportedAmountMinor),
      ("claimed_amount_minor", .int inputs.claimedAmountMinor),
      ("currency", .str inputs.currency)]),
    ("applicable_rule", .obj [
      ("id", optionJson (fun id => .str (uuidText id)) inputs.applicableRuleId),
      ("digest", optionJson .str inputs.applicableRuleDigest)]),
    ("claim_set_version", .int inputs.claimSetVersion),
    ("invoice_source_binding_sha256", .str (Sha256.hexdigest (encode inputs.invoiceSourceRef))),
    ("day_judgments", .arr (inputs.dayJudgmentDigests.map .str)),
    ("approver", .obj [
      ("display", .str inputs.approverDisplay), ("kind", .str inputs.approverKind)])]

/-- `seal_digest`. -/
def sealDigest [Sha256] (manifest : Json) : String := prefixedSha256 (canonicalJsonBytes manifest)

/-- The payload of an approval request. -/
def approvalRequest (recommendationId : Uuid) (recommendationVersion : Int)
    (recommendationDigest decision : String) : Json :=
  .obj [("rec", .str (uuidText recommendationId)), ("v", .int recommendationVersion),
    ("digest", .str recommendationDigest), ("decision", .str decision)]

/-- `approval_request_hash`. -/
def approvalRequestHash [Sha256] (recommendationId : Uuid) (recommendationVersion : Int)
    (recommendationDigest decision : String) : String :=
  Sha256.hexdigest (canonicalJsonBytes
    (approvalRequest recommendationId recommendationVersion recommendationDigest decision))

/-- `is_stale`. -/
def isStale (expectedVersion currentVersion : Int) (expectedDigest currentDigest : String) : Bool :=
  expectedVersion ≠ currentVersion ∨ expectedDigest ≠ currentDigest

/-! ## The bound inputs -/

/-- `_invoice_bindings`. -/
def invoiceBindings (env : TxnEnv) (db : Db) (invoiceId : Uuid) : Nat × String :=
  let invoice := (db .invoices).find? fun i => i.id = invoiceId
  let source := fetchOne env ((db .invoiceSources).filter fun s => s.invoiceId = invoiceId)
  ((invoice.bind Invoice.activeClaimSetVersion).getD 1,
    match source with
    | some s => s.source.objectKeyPrivate ++ "@" ++ s.source.versionIdPrivate
    | none => "unbound-source:" ++ uuidText invoiceId)

/-- `_reconstruction_version`. -/
def reconstructionVersion (db : Db) (reconstructionId : Uuid) : Nat :=
  (((db .reconstructions).find? fun r => r.id = reconstructionId).map
    ReconstructionRow.version).getD 1

/-- `_rule_digest`. -/
def ruleDigest [Sha256] (db : Db) (ruleId : Uuid) : Option String :=
  ((db .applicableRules).find? fun r => r.id = ruleId).map fun r =>
    prefixedSha256 (canonicalJsonBytes (.obj [
      ("ref", .str r.publicRef), ("rate", .int r.rateMinor), ("cur", .str r.currency),
      ("from", .str r.effectiveFrom.isoformat),
      ("to", optionJson (fun d => .str d.isoformat) r.effectiveTo)]))

/-- The judgments of a recommendation in the order of their dates. -/
def judgmentsOf (db : Db) (recommendationId : Uuid) : List ChargedDayJudgment :=
  ((db .chargedDayJudgments).filter fun j => j.recommendationId = recommendationId).insertionSort
    fun a b => a.chargeDate ≤ b.chargeDate

/-- `_day_judgment_digests`. -/
def dayJudgmentDigests [Sha256] (db : Db) (recommendationId : Uuid) : List String :=
  (judgmentsOf db recommendationId).map fun j =>
    prefixedSha256 (canonicalJsonBytes (.obj [
      ("d", .str j.chargeDate.isoformat), ("inv", .int j.invoiceRateMinor),
      ("app", optionJson .int j.applicableRateMinor), ("disc", .int j.discrepancyMinor),
      ("o", .str j.outcome.value)]))

/-- `_next_revision`. -/
def nextRevision (db : Db) (invoiceId : Uuid) : Nat :=
  nextNumber (((db .decisionSeals).filter fun s => s.invoiceId = invoiceId).map
    DecisionSeal.revision)

/-! ## The transaction -/

structure ApprovalRequest where
  recommendationId : Uuid
  expectedVersion : Int
  expectedDigest : String
  idempotencyKey : String
  approverDisplay : String
  approverKind : String := "SYNTHETIC_DEMO"
  decision : String := "APPROVE"
deriving DecidableEq

def ApprovalRequest.hash [Sha256] (request : ApprovalRequest) : String :=
  approvalRequestHash request.recommendationId request.expectedVersion request.expectedDigest
    request.decision

structure SealResult where
  approvalId : Uuid
  sealId : Uuid
  revision : Nat
  sealDigest : String
  recommendationType : RecommendationType
  alreadySealed : Bool
deriving DecidableEq

/-- The inputs the manifest of a recommendation binds. -/
def sealInputs [Sha256] (env : TxnEnv) (db : Db) (rec : RecommendationRow)
    (request : ApprovalRequest) : SealInputs :=
  let (claimSetVersion, invoiceSourceRef) := invoiceBindings env db rec.invoiceId
  { invoiceId := rec.invoiceId
    reconstructionId := rec.reconstructionId
    reconstructionVersion := reconstructionVersion db rec.reconstructionId
    recommendationId := rec.id
    recommendationVersion := rec.version
    recommendationType := rec.recommendationType
    recommendationDigest := rec.digest
    disputedAmountMinor := rec.disputedAmountMinor
    supportedAmountMinor := rec.supportedAmountMinor
    claimedAmountMinor := rec.claimedAmountMinor
    currency := rec.currency
    applicableRuleId := rec.applicableRuleId
    applicableRuleDigest := rec.applicableRuleId.bind (ruleDigest db)
    claimSetVersion
    invoiceSourceRef
    dayJudgmentDigests := dayJudgmentDigests db rec.id
    approverDisplay := request.approverDisplay
    approverKind := request.approverKind }

/-- The status a sealed recommendation projects. -/
def outcomeStatus : RecommendationType → InvoiceStatus
  | .dispute => .disputed
  | .approveForPayment => .approvedForPayment
  | .requestEvidence => .readyToSend

/-- `outcome_status.lower().replace("_", " ")` of the three statuses. -/
def outcomeText : RecommendationType → String
  | .dispute => "disputed"
  | .approveForPayment => "approved for payment"
  | .requestEvidence => "ready to send"

def decisionSealed (rec : RecommendationRow) (sealId : Uuid) (revision sequence : Nat) :
    EventFields :=
  { invoiceId := rec.invoiceId
    sequence
    eventType := "decision.sealed"
    state := "COMPLETED"
    aggregateStatus := outcomeStatus rec.recommendationType
    summary := "Decision sealed and " ++ outcomeText rec.recommendationType
    inputRefs := [.versioned "recommendation" rec.id 1]
    producedRefs := [.versioned "decision_seal" sealId revision] }

/-- `_advance_and_emit`. -/
def advanceAndEmit (env : TxnEnv) (k : Nat) (rec : RecommendationRow) (sealId : Uuid)
    (revision : Nat) : Tx Unit := do
  let status := outcomeStatus rec.recommendationType
  let sequence ← lockInvoiceAndAdvance rec.invoiceId .readyForReconstruction status 1 none
  insertEventRow ((decisionSealed rec sealId revision sequence).toRow env k "DECISION_ENGINE"
    "SEAL_DECISION" (some "CockroachDB transaction")) (env.uuid (k + 1))

def approvalRow [Sha256] (rec : RecommendationRow) (request : ApprovalRequest) (approvalId : Uuid)
    (snapshot : ApprovalSnapshot) : Approval :=
  { id := approvalId
    invoiceId := rec.invoiceId
    reconstructionId := rec.reconstructionId
    recommendationId := rec.id
    recommendationVersion := rec.version
    recommendationDigest := rec.digest
    idempotencyKey := request.idempotencyKey
    requestHash := request.hash
    approverDisplay := request.approverDisplay
    approverKind := request.approverKind
    decision := request.decision
    state := "APPROVED"
    responseSnapshot := snapshot }

def sealRow (rec : RecommendationRow) (request : ApprovalRequest) (approvalId : Uuid)
    (inputs : SealInputs) (snapshot : ApprovalSnapshot) : DecisionSeal :=
  { id := snapshot.sealId
    invoiceId := rec.invoiceId
    reconstructionId := rec.reconstructionId
    recommendationId := rec.id
    recommendationVersion := rec.version
    applicableRuleId := rec.applicableRuleId
    claimSetVersion := inputs.claimSetVersion
    approvalId
    approverDisplay := request.approverDisplay
    revision := snapshot.revision
    sealDigest := snapshot.sealDigest
    invoiceSourceRefPrivate := inputs.invoiceSourceRef }

/-- Approval, seal, invoice and event of a recommendation that passed the checks. -/
def sealRecommendation [Sha256] (env : TxnEnv) (rec : RecommendationRow)
    (request : ApprovalRequest) : Tx SealResult := do
  let inputs ← Txn.read fun db : Db => sealInputs env db rec request
  let revision ← Txn.read fun db : Db => nextRevision db rec.invoiceId
  let digest := sealDigest (buildSealManifest inputs revision)
  let approvalId := env.uuid 0
  let sealId := env.uuid 1
  let snapshot : ApprovalSnapshot :=
    { sealId, revision, sealDigest := digest, recommendationType := rec.recommendationType }
  insertRow .approvals (approvalRow rec request approvalId snapshot)
  insertOrIgnoreRow .decisionSeals (fun a b => a.recommendationId = b.recommendationId)
    (sealRow rec request approvalId inputs snapshot)
  advanceAndEmit env 2 rec sealId revision
  pure ⟨approvalId, sealId, revision, digest, rec.recommendationType, false⟩

/-- `approve_and_seal`. -/
def approveAndSeal [Sha256] (env : TxnEnv) (request : ApprovalRequest) : Tx SealResult := do
  let some rec ← selectRow .recommendations fun r => r.id = request.recommendationId
    | .raise (.recommendationNotApprovable "RECOMMENDATION_NOT_FOUND")
  let existing ← selectRow .approvals fun a => a.idempotencyKey = request.idempotencyKey
  match existing with
  | some approval =>
    if approval.requestHash ≠ request.hash then .raise .approvalConflict
    else
      let snapshot := approval.responseSnapshot
      pure ⟨approval.id, snapshot.sealId, snapshot.revision, snapshot.sealDigest,
        snapshot.recommendationType, true⟩
  | none =>
    if isStale request.expectedVersion rec.version request.expectedDigest rec.digest then
      .raise .staleRecommendation
    else if rec.state ≠ "FROZEN" then
      .raise (.recommendationNotApprovable "RECOMMENDATION_NOT_FROZEN")
    else sealRecommendation env rec request

end Tally.Model.AuthoritySealRepository
