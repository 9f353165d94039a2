import Tally.Model.Correspondence

/-!
# Drafting and sending

The embedding of `platform/correspondence_repository.py`, of the fresh gate
checks of `platform/send_gates.py` and of the selections the routes of
`platform/correspondence_api.py` make. The closure of a send runs in two parts
around the provider call, because what the provider delivered stays delivered
when the transaction is rolled back.
-/

set_option autoImplicit false

namespace Tally.Model.CorrespondenceRepository
open Library Library.Calendar Tally.Model Tally.Model.AuthoritySealRepository

/-! ## The sealed fact pack -/

/-- The claims the container query may return: one is read, with no version
filter. -/
def containerRows (db : Db) (invoiceId : Uuid) : List ExtractedClaim :=
  (db .extractedClaims).filter fun c => c.fieldName = "container_number" ∧
    (db .claimSets).any fun s => s.id = c.claimSetId ∧ s.invoiceId = invoiceId

/-- `_norm`: only a text is taken as it is; a decoded number or object raises. -/
def containerText : ClaimValue → Except PyError String
  | .text value => .ok value
  | .integer _ => .error .typeError
  | .money _ _ => .error .typeError

/-- `_charge_period`. -/
def chargePeriod (db : Db) (recommendationId : Uuid) : String × String :=
  let dates := (judgmentsOf db recommendationId).map ChargedDayJudgment.chargeDate
  match dates.head?, dates.getLast? with
  | some first, some last => (first.isoformat, last.isoformat)
  | _, _ => ("", "")

/-- `value or default`. -/
def orDefault (value : Option String) (default : String) : String :=
  if value.getD "" = "" then default else value.getD ""

/-- `load_sealed_fact_pack`. -/
def loadSealedFactPack (env : TxnEnv) (decisionSealId : Uuid) : Tx SealedFactPack := do
  let notFound {α : Type} : Tx α := .raise (.draftNotFound "SEAL_NOT_FOUND")
  let some s ← selectRow .decisionSeals fun s => s.id = decisionSealId | notFound
  let some r ← selectRow .recommendations fun r => r.id = s.recommendationId | notFound
  let some i ← selectRow .invoices fun i => i.id = s.invoiceId | notFound
  let rule ← selectRow .applicableRules fun a => some a.id = s.applicableRuleId
  let rows ← Txn.read fun db : Db => containerRows db s.invoiceId
  let period ← Txn.read fun db : Db => chargePeriod db s.recommendationId
  match (fetchOne env rows).map fun c => containerText c.normalizedValue with
  | some (.error e) => .raise (.pyError e)
  | container =>
    pure (
      { invoiceId := s.invoiceId
        decisionSealId
        sealDigest := s.sealDigest
        recommendationType := r.recommendationType
        disputedAmountMinor := r.disputedAmountMinor
        supportedAmountMinor := r.supportedAmountMinor
        currency := r.currency
        chargedPeriodStart := period.1
        chargedPeriodEnd := period.2
        containerRef := match container with
          | some (.ok text) => text
          | _ => "UNKNOWN"
        invoiceNo := orDefault i.invoiceNo "INV"
        ruleRef := orDefault (rule.map ApplicableRule.clauseRef) "UNKNOWN" } : SealedFactPack)

/-! ## Drafting -/

structure DraftResult where
  draftId : Uuid
  sealDigest : String
  validationState : ClaimValidationState
deriving DecidableEq

/-- `draft_from_sealed`, after the pack is loaded and the prose written. -/
def draftFromSealed [CharacterTables] (env : TxnEnv) (pack : SealedFactPack) (bodyProse : String) :
    Tx DraftResult := do
  let validation := validateDraftLockedFields pack (lockedFields pack)
  let proseValidation := validateDraftProse pack bodyProse
  match ← selectRow .correspondenceDrafts fun d => d.decisionSealId = pack.decisionSealId with
  | some d => pure ⟨d.id, pack.sealDigest, .validated⟩
  | none =>
    let overall : ClaimValidationState :=
      if validation.ok ∧ proseValidation.ok then .validated else .invalid
    insertRow .correspondenceDrafts
      { id := env.uuid 0
        invoiceId := pack.invoiceId
        decisionSealId := pack.decisionSealId
        sealDigest := pack.sealDigest
        subject := buildSubject pack
        bodyProse
        validationState := overall
        createdAt := env.now }
    pure ⟨env.uuid 0, pack.sealDigest, overall⟩

/-! ## Gate checks -/

/-- A gate check reads the database inside the transaction of the send. -/
abbrev GateCheck := Db → GateResult

def verifiedIf (ok : Bool) : GateState := if ok then .verified else .failed

/-- The row the memory gate reads: the highest version of the invoice. -/
def mcpGateRow (db : Db) (invoiceId : Uuid) : Option ReconstructionRow :=
  (((db .reconstructions).filter fun r => r.invoiceId = invoiceId).insertionSort
    fun a b => b.version ≤ a.version).head?

/-- The row the vector gate reads: some rule of the invoice. -/
def vectorGateRow (env : TxnEnv) (db : Db) (invoiceId : Uuid) : Option ApplicableRule :=
  fetchOne env ((db .applicableRules).filter fun r => r.invoiceId = invoiceId)

/-- The row the source gate reads. -/
def sourceGateRow (env : TxnEnv) (db : Db) (invoiceId : Uuid) : Option InvoiceSource :=
  fetchOne env ((db .invoiceSources).filter fun s => s.invoiceId = invoiceId)

/-- `build_fresh_gate_checks`; the seal it is given is not read. -/
def buildFreshGateChecks (env : TxnEnv) (invoiceId : Uuid) (_decisionSealId : Option Uuid) :
    List (Gate × GateCheck) :=
  [(.approvedMemoryMcp, fun db =>
      let ok := (mcpGateRow db invoiceId).any fun r => r.state = .complete
      ⟨.approvedMemoryMcp, verifiedIf ok,
        some (if ok then "reconstruction complete" else "no complete memory")⟩),
   (.vectorClauseBinding, fun db =>
      ⟨.vectorClauseBinding, verifiedIf ((vectorGateRow env db invoiceId).any fun r =>
        r.validationState = "VERIFIED"), none⟩),
   (.exactS3Source, fun db =>
      ⟨.exactS3Source, verifiedIf ((sourceGateRow env db invoiceId).any fun s =>
        s.preservationStatus = "VERSION_VERIFIED"), none⟩),
   (.noFallback, fun _ => ⟨.noFallback, .verified, some "no substitute used"⟩)]

/-! ## Sending -/

structure SendRequest where
  draftId : Uuid
  idempotencyKey : String
  secondApproverDisplay : String
deriving DecidableEq

structure SendResult where
  sendAttemptId : Uuid
  sendState : SendState
  gateState : AttemptGateState
  providerMessageId : Option String
  blockedReason : Option String
  duplicate : Bool
deriving DecidableEq

/-- The payload of a send request. -/
def sendRequestJson (draftId : Uuid) (sealDigest : String) : Json :=
  .obj [("draft", .str (uuidText draftId)), ("seal_digest", .str sealDigest)]

def sendRequestHash [Sha256] (draftId : Uuid) (sealDigest : String) : String :=
  prefixedSha256 (canonicalJsonBytes (sendRequestJson draftId sealDigest))

/-- The provider key of an attempt, the digest without its prefix. -/
def providerKey [Sha256] (attemptId : Uuid) (sealDigest : String) : String :=
  Sha256.hexdigest (canonicalJsonBytes
    (.obj [("attempt", .str (uuidText attemptId)), ("seal", .str sealDigest)]))

/-- The results of every gate, the two computed ones first. -/
def gateResults (db : Db) (draft : CorrespondenceDraft) (secondApproverDisplay : String)
    (gateChecks : List (Gate × GateCheck)) : List (Gate × GateResult) :=
  [(.secondAuthorization, ⟨.secondAuthorization, verifiedIf (secondApproverDisplay ≠ ""), none⟩),
   (.lockedFields, ⟨.lockedFields, verifiedIf (draft.validationState = .validated), none⟩)] ++
    gateChecks.map fun (code, check) => (code, check db)

/-- `_summary`. -/
def sendSummary : SendState → String
  | .sent => "Adjustment request sent to the controlled demonstration inbox"
  | .sendBlocked => "Send blocked. Required memory or evidence check failed."
  | .sendFailedRetryable => "Controlled provider did not acknowledge; will retry."
  | .pending => "correspondence.pending"

/-- The event type and the event state of a send outcome. -/
def sendEvent : SendState → String × String
  | .sent => ("correspondence.sent", "COMPLETED")
  | .sendBlocked => ("correspondence.send_blocked", "BLOCKED")
  | .sendFailedRetryable => ("correspondence.send_failed", "FAILED")
  | .pending => ("correspondence.pending", "PENDING")

/-- The status an invoice has after a send outcome: a successful send keeps its
own. -/
def sendStatus (outcome : SendState) (current : Option Invoice) : InvoiceStatus :=
  if outcome = .sent then (current.map Invoice.status).getD .readyToSend else .sendFailed

def sendRecorded (invoiceId : Uuid) (outcome : SendState) (aggregateStatus : InvoiceStatus)
    (publicError messageId : Option String) (sequence : Nat) : EventFields :=
  { invoiceId
    sequence
    eventType := (sendEvent outcome).1
    state := (sendEvent outcome).2
    aggregateStatus
    summary := sendSummary outcome
    inputRefs := []
    producedRefs := (messageId.map ObjectRef.sendReceipt).toList
    publicError }

/-- `_emit_send_event`. -/
def emitSendEvent (env : TxnEnv) (k : Nat) (invoiceId : Uuid) (outcome : SendState)
    (publicError messageId : Option String) : Tx Unit := do
  let current ← selectRow .invoices fun i => i.id = invoiceId
  let status := sendStatus outcome current
  let sequence ← lockInvoiceAndAdvance invoiceId .readyForReconstruction status 1 none
  insertEventRow ((sendRecorded invoiceId outcome status publicError messageId sequence).toRow env
    k "CORRESPONDENCE_AGENT" "SEND_CORRESPONDENCE" (some "Controlled mail provider"))
    (env.uuid (k + 1))

/-- How far a closure run gets before the provider: a finished result, or the
request to hand over for an attempt of an invoice. -/
inductive Prepared where
  | finished (result : SendResult)
  | ready (attemptId invoiceId : Uuid) (request : ProviderRequest)
deriving DecidableEq

/-- The attempt with one gate run for every gate. -/
def insertAttempt (env : TxnEnv) (attempt : SendAttempt) (runs : List GateResult) : Tx Unit := do
  insertRow .sendAttempts attempt
  Txn.forEach (fun index result => insertRow .sendGateRuns
    { id := env.uuid (3 + index)
      sendAttemptId := attempt.id
      gateCode := result.gateCode
      gateState := result.state
      detail := result.detail }) 0 runs

def attemptRow [Sha256] (attemptId : Uuid) (request : SendRequest) (draft : CorrespondenceDraft)
    (decision : SendDecision) : SendAttempt :=
  { id := attemptId
    invoiceId := draft.invoiceId
    draftId := draft.id
    decisionSealId := draft.decisionSealId
    idempotencyKey := request.idempotencyKey
    requestHash := sendRequestHash draft.id draft.sealDigest
    secondApproverDisplay := request.secondApproverDisplay
    gateState := if decision.permitted then .passed else .blocked
    sendState := if decision.permitted then .pending else .sendBlocked
    providerIdempotencyKey := providerKey attemptId draft.sealDigest
    blockedReason := decision.blockedReason }

/-- `approve_and_send` up to the provider call, of a draft without an attempt
under the key. -/
def prepareAttempt [Sha256] (env : TxnEnv) (request : SendRequest) (draft : CorrespondenceDraft)
    (gateChecks : List (Gate × GateCheck)) : Tx Prepared := do
  let attemptId := env.uuid 0
  let decision ← Txn.read fun db : Db => evaluateSendGates
    (gateResults db draft request.secondApproverDisplay gateChecks)
  insertAttempt env (attemptRow attemptId request draft decision) decision.gateResults
  if decision.permitted then
    pure (.ready attemptId draft.invoiceId
      { providerIdempotencyKey := providerKey attemptId draft.sealDigest
        subject := draft.subject
        body := draft.bodyProse
        recipientClass })
  else
    emitSendEvent env 1 draft.invoiceId .sendBlocked decision.blockedReason none
    pure (.finished ⟨attemptId, .sendBlocked, .blocked, none, decision.blockedReason, false⟩)

/-- The closure of `approve_and_send` up to the provider call. -/
def prepareSend [Sha256] (env : TxnEnv) (request : SendRequest)
    (gateChecks : List (Gate × GateCheck)) : Tx Prepared := do
  let some draft ← selectRow .correspondenceDrafts fun d => d.id = request.draftId
    | .raise (.draftNotFound "DRAFT_NOT_FOUND")
  match ← selectRow .sendAttempts fun a => a.idempotencyKey = request.idempotencyKey with
  | some a =>
    if a.requestHash ≠ sendRequestHash draft.id draft.sealDigest then .raise .sendConflict
    else pure (.finished
      ⟨a.id, a.sendState, a.gateState, a.providerMessageId, a.blockedReason, true⟩)
  | none => prepareAttempt env request draft gateChecks

/-- The closure of `approve_and_send` after the provider's reply. -/
def recordSend (env : TxnEnv) (attemptId invoiceId : Uuid)
    (reply : Except ControlledSendError ControlledSendReceipt) : Tx SendResult := do
  match reply with
  | .error e =>
    updateRows .sendAttempts (fun a => a.id = attemptId) fun a =>
      { a with sendState := .sendFailedRetryable, blockedReason := some e.text }
    emitSendEvent env 1 invoiceId .sendFailedRetryable (some e.text) none
    pure ⟨attemptId, .sendFailedRetryable, .passed, none, some e.text, false⟩
  | .ok receipt =>
    updateRows .sendAttempts (fun a => a.id = attemptId) fun a =>
      { a with sendState := .sent, providerMessageId := some receipt.providerMessageId }
    emitSendEvent env 1 invoiceId .sent none (some receipt.providerMessageId)
    pure ⟨attemptId, .sent, .passed, some receipt.providerMessageId, none, receipt.duplicate⟩

/-- One run of the closure: its transaction, and the messages delivered once it
has run. -/
def runSend [Sha256] (env : TxnEnv) (request : SendRequest) (gateChecks : List (Gate × GateCheck))
    (fail : Bool) (db : Db) (delivered : List Delivery) :
    Except Raised (SendResult × Db) × List Delivery :=
  match prepareSend env request gateChecks db with
  | .error e => (.error e, delivered)
  | .ok (.finished result, db') => (.ok (result, db'), delivered)
  | .ok (.ready attemptId invoiceId handedOver, db') =>
    let (reply, delivered') := providerSend fail delivered handedOver
    (recordSend env attemptId invoiceId reply db', delivered')

/-! ## The routes -/

/-- `_latest_decision_seal_id`. -/
def latestDecisionSealId (db : Db) (invoiceId : Uuid) : Option Uuid :=
  ((((db .decisionSeals).filter fun s => s.invoiceId = invoiceId).insertionSort
    fun a b => b.revision ≤ a.revision).head?).map DecisionSeal.id

/-- `_latest_draft_id`. -/
def latestDraftId (db : Db) (invoiceId : Uuid) : Option Uuid :=
  ((((db .correspondenceDrafts).filter fun d => d.invoiceId = invoiceId).insertionSort
    fun a b => b.createdAt ≤ a.createdAt).head?).map CorrespondenceDraft.id

end Tally.Model.CorrespondenceRepository
