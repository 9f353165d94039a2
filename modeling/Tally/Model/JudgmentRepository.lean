import Tally.Model.ApplicableRuleRepository

/-!
# Judgment tasks

The embedding of `platform/judgment_repository.py`: claiming a task, reading the
charged days back as judgment inputs, freezing one recommendation with its
judgments, and holding the access-binding task of a withheld decision.
-/

set_option autoImplicit false

namespace Tally.Model.JudgmentRepository
open Library Library.Calendar Tally.Model Tally.Model.ReconstructionRepository
  Tally.Model.ApplicableRuleRepository

structure JudgmentTaskLease extends LeaseKey where
  invoiceId : Uuid
  reconstructionId : Uuid
  initiatedBy : Option Uuid
  actorDisplay : String
deriving DecidableEq

structure JudgmentCompletion where
  recommendationId : Uuid
  version : Nat
  recommendationType : RecommendationType
  disputedAmountMinor : Int
  supportedAmountMinor : Int
  daysTotal : Nat
deriving DecidableEq

/-- `claim_next_judgment_task`; it writes no event. A lease without a
reconstruction reference would name no row any later statement finds. -/
def claimNextJudgmentTask (env : TxnEnv) (workerId : String) (leaseSeconds : Nat) :
    Tx (Option JudgmentTaskLease) := do
  let task ← Txn.read fun db : Db => nextTask env .judgeDays (fun _ => true) (db .workflowTasks)
  match task with
  | none => pure none
  | some w =>
    let reconstructionId ← Txn.orRaise (.pyError (.valueError "invalid UUID"))
      (reconstructionIdOf w.inputObjectRefs)
    let key := nextKey w workerId
    startAttempt env key leaseSeconds
    pure (some
      { toLeaseKey := key
        invoiceId := w.invoiceId
        reconstructionId
        initiatedBy := w.initiatedBy
        actorDisplay := w.actorDisplay })

def ReconstructionChargedDay.toDayInput (day : ReconstructionChargedDay) : DayInput :=
  { chargeDate := day.chargeDate
    invoiceRateMinor := day.invoiceRateMinor
    applicableRateMinor := day.applicableRateMinor
    currency := day.currency
    coverageState := day.coverageState
    chargeable := day.chargeability ≠ .notChargeable
    missingRequirements := day.missingRequirements }

/-- `load_day_inputs`. -/
def loadDayInputs (reconstructionId : Uuid) : Tx (List DayInput) :=
  .read fun db => (chargedDaysOf db reconstructionId).map ReconstructionChargedDay.toDayInput

/-- The order of `m.effective_from`, absent dates first. -/
def effectiveBefore (a b : ShipmentEventMemory) : Bool :=
  match a.effectiveFrom, b.effectiveFrom with
  | none, _ => true
  | some _, none => false
  | some x, some y => x ≤ y

/-- The pending terminal-access rows, of every shipment, that come first by their
date; none for an invoice without a claim set. -/
def pendingSnapshots (db : Db) (invoiceId : Uuid) : List ShipmentEventMemory :=
  let pending := (db .shipmentEventMemory).filter fun m =>
    m.eventType = "TERMINAL_ACCESS_SNAPSHOT" ∧ m.sourceVersionState = .pending
  if (db .claimSets).any fun s => s.invoiceId = invoiceId then
    pending.filter fun m => pending.all (effectiveBefore m)
  else []

/-- The held task that carries a pending snapshot. -/
def heldBindingTask [Sha256] (env : TxnEnv) (k : Nat) (lease : JudgmentTaskLease)
    (receivedAt : Instant) (request : ObjectRef) : WorkflowTask :=
  { id := env.uuid k
    invoiceId := lease.invoiceId
    taskType := .bindAccessEvidence
    taskVersion := 1
    state := .held
    initiatedBy := lease.initiatedBy
    actorDisplay := lease.actorDisplay
    knowledgeCutoffAt := receivedAt
    inputFingerprint := taskInputFingerprint .bindAccessEvidence [request]
    inputObjectRefs := [request]
    createdAt := env.now }

/-- `_enqueue_held_access_binding`. -/
def enqueueHeldAccessBinding [Sha256] (env : TxnEnv) (k : Nat) (lease : JudgmentTaskLease) :
    Tx Unit := do
  let rows ← Txn.read fun db : Db => pendingSnapshots db lease.invoiceId
  match fetchOne env rows with
  | none => pure ()
  | some row =>
    let snapshotDate ← Txn.orRaise (.pyError .attributeError) row.effectiveFrom
    match ← selectRow .invoices fun i => i.id = lease.invoiceId with
    | none => pure ()
    | some invoice =>
      emitTask (heldBindingTask env k lease invoice.receivedAt
        (.accessBindingRequest row.publicRef row.containerRef snapshotDate))

/-- `_insert_recommendation`. -/
def insertRecommendation (row : RecommendationRow) : Tx Unit :=
  insertOrIgnoreRow .recommendations
    (fun a b => a.reconstructionId = b.reconstructionId ∧ a.inputFingerprint = b.inputFingerprint)
    row

/-- `_insert_judgments`: one row per charged day of the judged date. -/
def insertJudgments (env : TxnEnv) (k : Nat) (lease : JudgmentTaskLease)
    (recommendationId : Uuid) (judgments : List DayJudgment) : Tx Unit :=
  Txn.forEach (fun index j => do
    let days ← selectRows .chargedDays fun d =>
      d.reconstructionId = lease.reconstructionId ∧ d.chargeDate = j.chargeDate
    Txn.forEach (fun _ day => insertRow .chargedDayJudgments
      { id := env.uuid (k + index)
        invoiceId := lease.invoiceId
        reconstructionId := lease.reconstructionId
        recommendationId
        chargedDayId := day.id
        chargeDate := j.chargeDate
        invoiceRateMinor := j.invoiceRateMinor
        applicableRateMinor := j.applicableRateMinor
        discrepancyMinor := j.discrepancyMinor
        outcome := j.outcome }) 0 days) 0 judgments

/-- The status and the event a recommendation projects. -/
def judgmentOutcome (rec : Recommendation) : InvoiceStatus × String :=
  if rec.recommendationType = .requestEvidence then
    (.needsEvidence, "decision.authority_withheld")
  else (.readyForReview, "decision.recommendation_ready")

/-- The event of a frozen recommendation. -/
def recommendationFrozen (lease : JudgmentTaskLease) (recommendationId : Uuid) (version : Nat)
    (rec : Recommendation) (sequence : Nat) : EventFields :=
  { invoiceId := lease.invoiceId
    sequence
    eventType := (judgmentOutcome rec).2
    state := "COMPLETED"
    aggregateStatus := (judgmentOutcome rec).1
    summary := rec.summary
    inputRefs := [reconstructionRef lease.reconstructionId 1]
    producedRefs := [.versioned "recommendation" recommendationId version]
    outputCount := some rec.daysTotal }

/-- The row `_insert_recommendation` inserts. -/
def recommendationRow (lease : JudgmentTaskLease) (recommendationId : Uuid) (version : Nat)
    (ruleId : Option Uuid) (fingerprint : String) (rec : Recommendation) : RecommendationRow :=
  { id := recommendationId
    invoiceId := lease.invoiceId
    reconstructionId := lease.reconstructionId
    applicableRuleId := ruleId
    version
    inputFingerprint := fingerprint
    recommendationType := rec.recommendationType
    disputedAmountMinor := rec.disputedAmountMinor
    supportedAmountMinor := rec.supportedAmountMinor
    claimedAmountMinor := rec.claimedAmountMinor
    currency := rec.currency
    daysTotal := rec.daysTotal
    daysCovered := rec.daysCovered
    state := "FROZEN"
    digest := rec.digest
    reasonCodes := rec.reasonCodes }

/-- The held task of a decision withheld for a missing access snapshot. -/
def holdAccessBinding [Sha256] (env : TxnEnv) (k : Nat) (lease : JudgmentTaskLease)
    (rec : Recommendation) : Tx Unit :=
  Txn.onlyIf
    (rec.recommendationType = .requestEvidence ∧ .missingDayAccessEvidence ∈ rec.reasonCodes)
    (enqueueHeldAccessBinding env k lease)

/-- `complete_judgment`. -/
def completeJudgment [Sha256] (env : TxnEnv) (lease : JudgmentTaskLease) (days : List DayInput) :
    Tx JudgmentCompletion := do
  match resolveRecommendation days with
  | .error e => .raise (.pyError e)
  | .ok rec =>
    let fingerprint := recommendationFingerprint days
    assertCurrentLease lease.toLeaseKey
    let existing ← selectRow .recommendations fun r =>
      r.reconstructionId = lease.reconstructionId ∧ r.inputFingerprint = fingerprint
    match existing with
    | some r =>
      finishTask lease.toLeaseKey
      pure ⟨r.id, r.version, r.recommendationType, r.disputedAmountMinor, r.supportedAmountMinor,
        r.daysTotal⟩
    | none =>
      let versions ← selectRows .recommendations fun r =>
        r.reconstructionId = lease.reconstructionId
      let version := nextNumber (versions.map RecommendationRow.version)
      let recommendationId := env.uuid 0
      let rule ← selectRow .applicableRules fun r =>
        r.reconstructionId = lease.reconstructionId ∧ r.validationState = "VERIFIED"
      insertRecommendation (recommendationRow lease recommendationId version
        (rule.map ApplicableRule.id) fingerprint rec)
      insertJudgments env 5 lease recommendationId rec.judgments
      finishTask lease.toLeaseKey
      let sequence ← lockInvoiceAndAdvance lease.invoiceId .readyForReconstruction
        (judgmentOutcome rec).1 1 none
      insertRuleEvent env 1 (recommendationFrozen lease recommendationId version rec sequence)
      holdAccessBinding env 3 lease rec
      pure ⟨recommendationId, version, rec.recommendationType, rec.disputedAmountMinor,
        rec.supportedAmountMinor, rec.daysTotal⟩

/-- `fail_judgment`; it writes no event. -/
def failJudgment (env : TxnEnv) (lease : JudgmentTaskLease) : Tx TaskState := do
  assertCurrentLease lease.toLeaseKey
  failTask env lease.toLeaseKey true .blocked

end Tally.Model.JudgmentRepository
