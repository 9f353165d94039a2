import Tally.Model.ReconstructionRepository

/-!
# Applicable-rule tasks

The embedding of `platform/applicable_rule_repository.py`: claiming a task with
the inputs of its reconstruction, persisting the retrieved candidates and the
applicability decision, and failing. The decision carries what
`decide_applicable_rule` guarantees of its result.
-/

set_option autoImplicit false

namespace Tally.Model.ApplicableRuleRepository
open Library Library.Calendar Tally.Model Tally.Model.ReconstructionRepository

inductive RuleValidationState where
  | verified | rejected | conflicted
deriving DecidableEq

/-- The fields of a retrieved clause that are persisted. -/
structure RuleCandidate where
  publicRef : String
  clauseRef : String
  rank : Nat
  rateCurrency : Option String
  effectiveFrom : Option Date
  effectiveTo : Option Date
deriving DecidableEq

structure CandidateValidation where
  candidate : RuleCandidate
  state : CandidateState
  rejectionCode : Option String
  rateMinor : Option Int
deriving DecidableEq

/-- An applicability decision: a rule is accepted exactly when the state is
VERIFIED, and a refusal names one of two public errors. -/
structure ApplicabilityDecision where
  state : RuleValidationState
  accepted : Option CandidateValidation
  candidateValidations : List CandidateValidation
  publicError : Option String
  verified_iff : state = .verified ↔ accepted.isSome = true
  refusal : accepted = none →
    publicError = some "NO_APPLICABLE_RULE" ∨ publicError = some "RULE_CONFLICT"
deriving DecidableEq

structure RuleTaskLease extends LeaseKey where
  invoiceId : Uuid
  reconstructionId : Uuid
  knowledgeCutoffAt : Instant
  carrierId : Option Uuid
  scopeCode : String
  chargeDates : List Date
  invoiceCurrency : String
  initiatedBy : Option Uuid
  actorDisplay : String
deriving DecidableEq

structure RuleCompletion where
  retrievalRunId : Uuid
  applicableRuleId : Option Uuid
  state : RuleValidationState
  candidateCount : Nat
  acceptedRateMinor : Option Int
deriving DecidableEq

/-- The identifier of the first reconstruction reference. -/
def reconstructionIdOf (refs : List ObjectRef) : Option Uuid :=
  refs.findSome? fun
    | .versioned "reconstruction" id _ => some id
    | _ => none

/-- The charged days of a reconstruction in the order of their dates. -/
def chargedDaysOf (db : Db) (reconstructionId : Uuid) : List ReconstructionChargedDay :=
  ((db .chargedDays).filter fun d => d.reconstructionId = reconstructionId).insertionSort
    fun a b => a.chargeDate ≤ b.chargeDate

def ruleSearchStarted (task : WorkflowTask) (sequence : Nat) : EventFields :=
  { invoiceId := task.invoiceId
    sequence
    eventType := "evidence.rule_search_started"
    state := "RUNNING"
    aggregateStatus := .reconstructing
    summary := "Searching recorded tariffs via Distributed Vector Indexing"
    inputRefs := task.inputObjectRefs }

/-- `claim_next_rule_task`; a task without a reconstruction reference raises on
the identifier `None`. -/
def claimNextRuleTask (env : TxnEnv) (workerId : String) (leaseSeconds : Nat) :
    Tx (Option RuleTaskLease) := do
  let task ← Txn.read fun db : Db =>
    nextTask env .findApplicableRule (fun _ => true) (db .workflowTasks)
  match task with
  | none => pure none
  | some w =>
    let reconstructionId ← Txn.orRaise (.pyError (.valueError "invalid UUID"))
      (reconstructionIdOf w.inputObjectRefs)
    let days ← Txn.read fun db : Db => chargedDaysOf db reconstructionId
    let invoice ← selectRow .invoices fun i => i.id = w.invoiceId
    let key := nextKey w workerId
    startAttempt env key leaseSeconds
    let sequence ← lockInvoiceAndAdvance w.invoiceId .readyForReconstruction .reconstructing 1
      none
    insertRuleEvent env 0 (ruleSearchStarted w sequence)
    pure (some
      { toLeaseKey := key
        invoiceId := w.invoiceId
        reconstructionId
        knowledgeCutoffAt := w.knowledgeCutoffAt
        carrierId := invoice.map Invoice.carrierId
        scopeCode := "DEMURRAGE:USOAK:DRY"
        chargeDates := days.map ReconstructionChargedDay.chargeDate
        invoiceCurrency := (days.head?.map ReconstructionChargedDay.currency).getD "USD"
        initiatedBy := w.initiatedBy
        actorDisplay := w.actorDisplay })

/-- The task `_emit_judgment_task` inserts. -/
def judgmentTask [Sha256] (env : TxnEnv) (k : Nat) (lease : RuleTaskLease) : WorkflowTask :=
  let refs := [reconstructionRef lease.reconstructionId 1]
  { id := env.uuid k
    invoiceId := lease.invoiceId
    taskType := .judgeDays
    taskVersion := 1
    state := .pending
    initiatedBy := lease.initiatedBy
    actorDisplay := lease.actorDisplay
    knowledgeCutoffAt := lease.knowledgeCutoffAt
    inputFingerprint := taskInputFingerprint .judgeDays refs
    inputObjectRefs := refs
    createdAt := env.now }

/-- `_coverage_complete`. -/
def coverageComplete (db : Db) (reconstructionId : Uuid) : Bool :=
  match (db .reconstructions).find? fun r => r.id = reconstructionId with
  | none => false
  | some r => r.daysTotal ≠ 0 ∧ r.daysComplete = r.daysTotal

/-- The candidate rows, each with the verdict `validations_by_ref` holds for it. -/
def insertCandidates (env : TxnEnv) (k : Nat) (runId : Uuid) (candidates : List RuleCandidate)
    (validations : List CandidateValidation) : Tx Unit :=
  Txn.forEach (fun index candidate =>
    let validation := validations.reverse.find? fun v =>
      v.candidate.publicRef = candidate.publicRef
    insertRow .ruleCandidates
      { id := env.uuid (k + index)
        retrievalRunId := runId
        clausePublicRef := candidate.publicRef
        rank := candidate.rank
        candidateState := (validation.map CandidateValidation.state).getD .retrieved
        rejectionCode := validation.bind CandidateValidation.rejectionCode }) 0 candidates

/-- `_insert_applicable_rule`: the rule, the rate stamped on the days and their
bindings. -/
def insertApplicableRule (env : TxnEnv) (k : Nat) (lease : RuleTaskLease) (runId : Uuid)
    (accepted : CandidateValidation) : Tx (Uuid × Int) := do
  let candidate := accepted.candidate
  let rateMinor ← Txn.orRaise (.integrityError .notNull) accepted.rateMinor
  let effectiveFrom ← Txn.orRaise (.integrityError .notNull) candidate.effectiveFrom
  let ruleId := env.uuid k
  let currency := candidate.rateCurrency.getD ""
  insertOrIgnoreRow .applicableRules (fun a b => a.reconstructionId = b.reconstructionId)
    { id := ruleId
      invoiceId := lease.invoiceId
      reconstructionId := lease.reconstructionId
      retrievalRunId := runId
      publicRef := candidate.publicRef
      clauseRef := candidate.clauseRef
      rateMinor
      currency := if currency = "" then "USD" else currency
      effectiveFrom
      effectiveTo := candidate.effectiveTo
      validationState := "VERIFIED" }
  updateRows .chargedDays (fun d => d.reconstructionId = lease.reconstructionId)
    fun d => { d with applicableRateMinor := some rateMinor }
  let days ← selectRows .chargedDays fun d => d.reconstructionId = lease.reconstructionId
  Txn.forEach (fun _ day => insertOrIgnoreRow .chargedDayRuleBindings (· = ·)
    { chargedDayId := day.id, applicableRuleId := ruleId }) 0 days
  pure (ruleId, rateMinor)

/-- The rule of an accepted decision, if it is one. -/
def insertDecision (env : TxnEnv) (k : Nat) (lease : RuleTaskLease) (runId : Uuid)
    (decision : ApplicabilityDecision) : Tx (Option (Uuid × Int)) := do
  match decision.accepted with
  | some accepted =>
    let inserted ← insertApplicableRule env k lease runId accepted
    pure (some inserted)
  | none => pure none

/-- The status, event type, event state and summary a decision projects. -/
def ruleOutcome (decision : ApplicabilityDecision) : InvoiceStatus × String × String × String :=
  match decision.accepted, decision.state with
  | some _, _ => (.reconstructing, "evidence.rule_verified", "COMPLETED",
      "Applicable tariff verified: exact rate, date, and scope")
  | none, .conflicted => (.needsEvidence, "evidence.rule_conflict", "BLOCKED",
      "Conflicting tariffs; evidence required")
  | none, _ => (.needsEvidence, "evidence.rule_not_applicable", "BLOCKED",
      "No applicable tariff verified; evidence required")

/-- The event of an applicability decision. -/
def ruleEvaluated (lease : RuleTaskLease) (runId : Uuid) (decision : ApplicabilityDecision)
    (ruleId : Option Uuid) (sequence : Nat) : EventFields :=
  let (aggregateStatus, eventType, state, summary) := ruleOutcome decision
  { invoiceId := lease.invoiceId
    sequence
    eventType
    state
    aggregateStatus
    summary
    inputRefs := [.versioned "rule_retrieval_run" runId 1]
    producedRefs := (ruleId.map fun id => ObjectRef.versioned "applicable_rule" id 1).toList
    publicError := if ruleId.isSome then none else decision.publicError }

/-- `_load_completion`. -/
def loadCompletion (runId : Uuid) : Tx RuleCompletion := do
  let some run ← selectRow .ruleRetrievalRuns fun r => r.id = runId
    | .raise (.runtimeError "retrieval run is absent")
  let rule ← selectRow .applicableRules fun r => r.retrievalRunId = runId
  pure
    { retrievalRunId := runId
      applicableRuleId := rule.map ApplicableRule.id
      state := if rule.isSome then .verified else .rejected
      candidateCount := run.candidateCount
      acceptedRateMinor := rule.map ApplicableRule.rateMinor }

/-- `complete_rule`. -/
def completeRule [Sha256] (env : TxnEnv) (lease : RuleTaskLease) (queryFingerprint : String)
    (candidates : List RuleCandidate) (decision : ApplicabilityDecision) : Tx RuleCompletion := do
  assertCurrentLease lease.toLeaseKey
  let existing ← selectRow .ruleRetrievalRuns fun r =>
    r.reconstructionId = lease.reconstructionId ∧ r.queryFingerprint = queryFingerprint
  match existing with
  | some run =>
    finishTask lease.toLeaseKey
    loadCompletion run.id
  | none =>
    let runId := env.uuid 0
    insertRow .ruleRetrievalRuns
      { id := runId, invoiceId := lease.invoiceId, reconstructionId := lease.reconstructionId,
        queryFingerprint, candidateCount := candidates.length }
    insertCandidates env 5 runId candidates decision.candidateValidations
    let rule ← insertDecision env 1 lease runId decision
    finishTask lease.toLeaseKey
    let covered ← Txn.read fun db : Db => coverageComplete db lease.reconstructionId
    Txn.onlyIf (rule.isSome ∨ covered) (emitTask (judgmentTask env 2 lease))
    let sequence ← lockInvoiceAndAdvance lease.invoiceId .readyForReconstruction
      (ruleOutcome decision).1 1 none
    insertRuleEvent env 3 (ruleEvaluated lease runId decision (rule.map Prod.fst) sequence)
    pure
      { retrievalRunId := runId
        applicableRuleId := rule.map Prod.fst
        state := decision.state
        candidateCount := candidates.length
        acceptedRateMinor := rule.map Prod.snd }

/-- `_public_error`. -/
def publicError (code : String) : String :=
  if "VECTOR_".toList <+: code.toList then "VECTOR_RETRIEVAL_UNAVAILABLE"
  else "NO_APPLICABLE_RULE"

def ruleSearchFailed (lease : RuleTaskLease) (errorCode : String) (retry : Bool)
    (taskState : TaskState) (sequence : Nat) : EventFields :=
  { invoiceId := lease.invoiceId
    sequence
    eventType := if retry then "evidence.rule_search_retry_scheduled"
      else "evidence.rule_search_failed"
    state := taskState.value
    aggregateStatus := if retry then .reconstructing else .needsEvidence
    summary := if retry then "Tariff search will retry"
      else "Tariff search unavailable. No substitute clause is used."
    inputRefs := [taskRef lease.taskId]
    publicError := some (publicError errorCode) }

/-- `fail_rule`. -/
def failRule (env : TxnEnv) (lease : RuleTaskLease) (errorCode : String) (retryable : Bool) :
    Tx TaskState := do
  assertCurrentLease lease.toLeaseKey
  let retry := willRetry lease.toLeaseKey retryable
  let taskState ← failTask env lease.toLeaseKey retryable .blocked
  let aggregateStatus : InvoiceStatus := if retry then .reconstructing else .needsEvidence
  let sequence ← lockInvoiceAndAdvance lease.invoiceId .readyForReconstruction aggregateStatus 1
    none
  insertRuleEvent env 0 (ruleSearchFailed lease errorCode retry taskState sequence)
  pure taskState

end Tally.Model.ApplicableRuleRepository
