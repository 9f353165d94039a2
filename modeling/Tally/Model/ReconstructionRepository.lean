import Tally.Model.IntakeTasks

/-!
# Reconstruction tasks

The embedding of `platform/reconstruction_repository.py` and of the pure part of
`platform/reconstruction_worker.py`: claiming a task with the claims of its claim
set, turning the returned rows into the work to persist, completing and failing.
-/

set_option autoImplicit false

namespace Tally.Model.ReconstructionRepository
open Library Library.Calendar Tally.Model

structure ReconstructionTaskLease extends LeaseKey where
  invoiceId : Uuid
  knowledgeCutoffAt : Instant
  inputFingerprint : String
  claimSetVersion : Nat
  shipmentRef : String
  containerRef : String
  invoiceRateMinor : Int
  currency : String
  chargeDates : List Date
  initiatedBy : Option Uuid
  actorDisplay : String
deriving DecidableEq

structure ReconstructionCompletion where
  reconstructionId : Uuid
  version : Nat
  state : ReconstructionState
  eventCount : Nat
  daysTotal : Nat
  daysComplete : Nat
deriving DecidableEq

/-! ## Claiming -/

structure ClaimInputs where
  containerRef : String
  dailyRateMinor : Int
  currency : String
  chargeDates : List Date
deriving DecidableEq

/-- `str(value)` of a decoded claim value. -/
def claimText : ClaimValue → String
  | .text value => value
  | .integer value => toString value
  | .money amountMinor currency =>
    "\x7b'amount_minor': " ++ toString amountMinor ++ ", 'currency': '" ++ currency ++ "'\x7d"

/-- Whether a decoded claim value is truthy. -/
def claimTruthy : ClaimValue → Bool
  | .text value => value ≠ ""
  | .integer value => value ≠ 0
  | .money _ _ => true

/-- `by_field[name]`: the last row of the field. -/
def byField (claims : List ExtractedClaim) (name : String) : Option ExtractedClaim :=
  claims.reverse.find? fun c => c.fieldName = name

/-- The truthy value of a period claim. -/
def periodValue (claims : List ExtractedClaim) (name : String) : Option ClaimValue :=
  ((byField claims name).map ExtractedClaim.normalizedValue).filter claimTruthy

/-- Every date from the first to the last. -/
def datesBetween (first last : Date) : List Date :=
  (List.range (last.toOrdinal + 1 - first.toOrdinal)).filterMap first.addDays

/-- `_expand_charge_dates`. -/
def expandChargeDates (claims : List ExtractedClaim) : Except PyError (List Date) :=
  match periodValue claims "period_start", periodValue claims "period_end" with
  | some startRaw, some endRaw =>
    match Date.fromisoformat (claimText startRaw), Date.fromisoformat (claimText endRaw) with
    | some first, some last => .ok (if last < first then [] else datesBetween first last)
    | _, _ => .error (.valueError "Invalid isoformat string")
  | _, _ => .ok []

/-- `_load_claim_inputs`, of the rows its query returns. -/
def claimInputs (claims : List ExtractedClaim) : Except PyError ClaimInputs := do
  let container := (byField claims "container_number").map ExtractedClaim.normalizedValue
  let daily := byField claims "daily_rate"
  let currency := (daily.bind ExtractedClaim.currency).getD ""
  let chargeDates ← expandChargeDates claims
  .ok
    { containerRef := match container.filter claimTruthy with
        | some value => claimText value
        | none => ""
      dailyRateMinor := (daily.bind ExtractedClaim.amountMinor).getD 0
      currency := if currency = "" then "USD" else currency
      chargeDates }

/-- The claims of an invoice's claim-set version. -/
def claimsOf (db : Db) (invoiceId : Uuid) (claimSetVersion : Nat) : List ExtractedClaim :=
  (db .extractedClaims).filter fun c => (db .claimSets).any fun s =>
    s.id = c.claimSetId ∧ s.invoiceId = invoiceId ∧ s.claimSetVersion = claimSetVersion

/-- `int(claim_ref.get("version", 0))` of the first claim-set reference. -/
def claimSetVersionOf (refs : List ObjectRef) : Nat :=
  (refs.findSome? fun
    | .versioned "claim_set" _ version => some version
    | _ => none).getD 0

def retrievalStarted (task : WorkflowTask) (sequence : Nat) : EventFields :=
  { invoiceId := task.invoiceId
    sequence
    eventType := "reconstruction.memory_retrieval_started"
    state := "RUNNING"
    aggregateStatus := .reconstructing
    summary := "Retrieving pre-invoice events through CockroachDB Managed MCP"
    inputRefs := task.inputObjectRefs }

/-- `claim_next_reconstruction_task`. -/
def claimNextReconstructionTask (env : TxnEnv) (workerId : String) (leaseSeconds : Nat) :
    Tx (Option ReconstructionTaskLease) := do
  let task ← Txn.read fun db : Db =>
    nextTask env .startReconstruction (fun _ => true) (db .workflowTasks)
  match task with
  | none => pure none
  | some w =>
    let claimSetVersion := claimSetVersionOf w.inputObjectRefs
    let claims ← Txn.read fun db : Db => claimsOf db w.invoiceId claimSetVersion
    match claimInputs claims with
    | .error e => .raise (.pyError e)
    | .ok inputs =>
      let key := nextKey w workerId
      startAttempt env key leaseSeconds
      let sequence ← lockInvoiceAndAdvance w.invoiceId .readyForReconstruction .reconstructing 1
        none
      insertReconEvent env 0 (retrievalStarted w sequence)
      pure (some
        { toLeaseKey := key
          invoiceId := w.invoiceId
          knowledgeCutoffAt := w.knowledgeCutoffAt
          inputFingerprint := w.inputFingerprint
          claimSetVersion
          shipmentRef := inputs.containerRef
          containerRef := inputs.containerRef
          invoiceRateMinor := inputs.dailyRateMinor
          currency := inputs.currency
          chargeDates := inputs.chargeDates
          initiatedBy := w.initiatedBy
          actorDisplay := w.actorDisplay })

/-! ## The work of one attempt -/

/-- What the worker hands to the completing write. -/
structure ReconstructionWork where
  events : List NormalizedEvent
  days : List ChargedDayResult
  coverage : List (CoverageRequirement × CoverageState)
  terminalState : ReconstructionState
  dayEventRoles : List (Date × List (EventRole × List String))
deriving DecidableEq

/-- `_day_event_roles`. -/
def dayEventRoles (days : List ChargedDayResult) (events : List NormalizedEvent) :
    List (Date × List (EventRole × List String)) :=
  let refs (eventType : ShipmentEventType) := (eventsOfType eventType events).map
    NormalizedEvent.publicRef
  (days.filter fun d => d.state = .sourceComplete ∨ d.state = .excludedNotChargeable).map fun d =>
    (d.chargeDate, [(.availabilityBoundary, refs .available),
      (.freeTimeBoundary, refs .freeTimeEnd), (.chargeEnd, refs .gateOut)])

/-- `run_one_reconstruction_task` between the read and the completing write. -/
def reconstructionWork [TzDatabase] (lease : ReconstructionTaskLease) (rows : List RawEventRow) :
    Except PyError ReconstructionWork := do
  let validation := validateEvents rows lease.knowledgeCutoffAt lease.shipmentRef
    lease.containerRef
  let boundary ← resolveChargeBoundary validation.accepted effectiveTimezone
  let days := adjudicateChargedDays lease.chargeDates lease.invoiceRateMinor lease.currency
    validation.accepted boundary
  .ok
    { events := validation.accepted
      days
      coverage := classifyCoverage validation.accepted true (lease.containerRef ≠ "")
        (!lease.chargeDates.isEmpty) (lease.invoiceRateMinor > 0)
      terminalState := resolveTerminalState days
      dayEventRoles := dayEventRoles days validation.accepted }

/-! ## Completing -/

def reconstructionRef (id : Uuid) (version : Nat) : ObjectRef :=
  .versioned "reconstruction" id version

def taskRef (taskId : Uuid) : ObjectRef := .versioned "workflow_task" taskId 1

/-- The task `_emit_rule_task` inserts. -/
def ruleTask [Sha256] (env : TxnEnv) (k : Nat) (lease : ReconstructionTaskLease)
    (reconstructionId : Uuid) (version : Nat) : WorkflowTask :=
  let refs := [reconstructionRef reconstructionId version]
  { id := env.uuid k
    invoiceId := lease.invoiceId
    taskType := .findApplicableRule
    taskVersion := 1
    state := .pending
    initiatedBy := lease.initiatedBy
    actorDisplay := lease.actorDisplay
    knowledgeCutoffAt := lease.knowledgeCutoffAt
    inputFingerprint := taskInputFingerprint .findApplicableRule refs
    inputObjectRefs := refs
    createdAt := env.now }

/-- `_summary`. -/
def completionSummary (state : ReconstructionState) (daysComplete daysTotal : Nat) : String :=
  if state = .complete then
    Nat.repr daysTotal ++ " charged days reconstructed with complete source coverage"
  else
    Nat.repr daysComplete ++ " of " ++ Nat.repr daysTotal ++
      " charged days sourced; evidence required"

/-- The identifiers of the event rows, under their public references. -/
def eventRowIds (env : TxnEnv) (k : Nat) (events : List NormalizedEvent) : List (String × Uuid) :=
  events.zipIdx.map fun (e, i) => (e.publicRef, env.uuid (k + i))

/-- One event of the version; its source artifact must exist. -/
def insertReconstructionEvent (env : TxnEnv) (k : Nat) (reconstructionId : Uuid) (index : Nat)
    (event : NormalizedEvent) : Tx Unit := do
  let some artifact ← selectRow .sourceArtifacts fun a => a.publicRef = event.sourcePublicRef
    | .raise (.missingSourceArtifact event.sourcePublicRef)
  insertRow .reconstructionEvents
    { id := env.uuid (k + index)
      reconstructionId
      publicRef := event.publicRef
      eventType := event.eventType
      sourceArtifactId := artifact.id
      displaySequence := index }

/-- The bindings of one day: `event_id_by_ref.get(ref)` per role and reference. -/
def dayBindings (rowIds : List (String × Uuid)) (dayId : Uuid)
    (roles : List (EventRole × List String)) : List ReconstructionDayEventBinding :=
  roles.flatMap fun (role, refs) => refs.filterMap fun ref =>
    (rowIds.reverse.find? fun p => p.1 = ref).map fun p => ⟨dayId, p.2, role⟩

/-- One charged day with its event bindings. -/
def insertChargedDay (env : TxnEnv) (k : Nat) (reconstructionId invoiceId : Uuid)
    (rowIds : List (String × Uuid)) (roles : List (Date × List (EventRole × List String)))
    (index : Nat) (day : ChargedDayResult) : Tx Unit := do
  let dayId := env.uuid (k + index)
  insertRow .chargedDays
    { id := dayId
      reconstructionId
      invoiceId
      chargeDate := day.chargeDate
      chargeability := day.chargeability
      coverageState := day.coverageState
      state := day.state
      invoiceRateMinor := day.invoiceRateMinor
      currency := day.currency
      missingRequirements := day.missingRequirements }
  let dayRoles := ((roles.reverse.find? fun p => p.1 = day.chargeDate).map Prod.snd).getD []
  Txn.forEach (fun _ binding => insertOrIgnoreRow .dayEventBindings (· = ·) binding) 0
    (dayBindings rowIds dayId dayRoles)

/-- The events, days, bindings and coverage of a version. -/
def insertReconstructionDetail (env : TxnEnv) (lease : ReconstructionTaskLease)
    (work : ReconstructionWork) (reconstructionId : Uuid) : Tx Unit := do
  let rowIds := eventRowIds env 10 work.events
  Txn.forEach (insertReconstructionEvent env 10 reconstructionId) 0 work.events
  Txn.forEach (insertChargedDay env (10 + work.events.length) reconstructionId lease.invoiceId
    rowIds work.dayEventRoles) 0 work.days
  Txn.forEach (fun _ (requirementCode, coverageState) => insertRow .reconstructionCoverage
    { reconstructionId, requirementCode, coverageState }) 0 work.coverage

/-- The aggregate status a version's terminal state projects. -/
def completionStatus (state : ReconstructionState) : InvoiceStatus :=
  if state = .complete then .reconstructing else .needsEvidence

def reconstructionFinished (lease : ReconstructionTaskLease) (work : ReconstructionWork)
    (ref : ObjectRef) (daysComplete sequence : Nat) : EventFields :=
  let complete := work.terminalState = .complete
  { invoiceId := lease.invoiceId
    sequence
    eventType := if complete then "reconstruction.completed" else "reconstruction.needs_evidence"
    state := if complete then "COMPLETED" else "BLOCKED"
    aggregateStatus := completionStatus work.terminalState
    summary := completionSummary work.terminalState daysComplete work.days.length
    inputRefs := [taskRef lease.taskId]
    producedRefs := [ref]
    outputCount := some work.events.length }

def coverageUpdated (lease : ReconstructionTaskLease) (work : ReconstructionWork)
    (ref : ObjectRef) (daysComplete sequence : Nat) : EventFields :=
  { invoiceId := lease.invoiceId
    sequence
    eventType := "reconstruction.coverage_updated"
    state := "COMPLETED"
    aggregateStatus := completionStatus work.terminalState
    summary := "Source coverage " ++ Nat.repr daysComplete ++ " of " ++
      Nat.repr work.days.length ++ " charged days"
    inputRefs := [ref]
    producedRefs := [ref]
    outputCount := some daysComplete }

/-- The completion event and the coverage event of a version. -/
def emitReconstructionEvents (env : TxnEnv) (lease : ReconstructionTaskLease)
    (work : ReconstructionWork) (ref : ObjectRef) (daysComplete : Nat) : Tx Unit := do
  let aggregateStatus := completionStatus work.terminalState
  let sequence ← lockInvoiceAndAdvance lease.invoiceId .readyForReconstruction aggregateStatus 1
    none
  insertReconEvent env 2 (reconstructionFinished lease work ref daysComplete sequence)
  let coverageSequence ← lockInvoiceAndAdvance lease.invoiceId .readyForReconstruction
    aggregateStatus 1 none
  insertReconEvent env 4 (coverageUpdated lease work ref daysComplete coverageSequence)

def ReconstructionWork.daysComplete (work : ReconstructionWork) : Nat :=
  (work.days.filter fun d => d.state = .sourceComplete).length

/-- The row of a new version. -/
def reconstructionRow (env : TxnEnv) (lease : ReconstructionTaskLease) (work : ReconstructionWork)
    (version : Nat) : ReconstructionRow :=
  { id := env.uuid 0
    invoiceId := lease.invoiceId
    version
    taskId := lease.taskId
    inputFingerprint := lease.inputFingerprint
    claimSetVersion := lease.claimSetVersion
    state := work.terminalState
    eventCount := work.events.length
    daysTotal := work.days.length
    daysComplete := work.daysComplete }

/-- `complete_reconstruction`. -/
def completeReconstruction [Sha256] (env : TxnEnv) (lease : ReconstructionTaskLease)
    (work : ReconstructionWork) : Tx ReconstructionCompletion := do
  assertCurrentLease lease.toLeaseKey
  let existing ← selectRow .reconstructions fun r =>
    r.invoiceId = lease.invoiceId ∧ r.inputFingerprint = lease.inputFingerprint
  match existing with
  | some r =>
    finishTask lease.toLeaseKey
    pure ⟨r.id, r.version, r.state, r.eventCount, r.daysTotal, r.daysComplete⟩
  | none =>
    let daysComplete := work.daysComplete
    let versions ← selectRows .reconstructions fun r => r.invoiceId = lease.invoiceId
    let version := nextNumber (versions.map ReconstructionRow.version)
    let reconstructionId := env.uuid 0
    insertRow .reconstructions (reconstructionRow env lease work version)
    insertReconstructionDetail env lease work reconstructionId
    finishTask lease.toLeaseKey
    Txn.onlyIf (work.terminalState = .complete ∨ work.terminalState = .needsEvidence)
      (emitTask (ruleTask env 1 lease reconstructionId version))
    emitReconstructionEvents env lease work (reconstructionRef reconstructionId version)
      daysComplete
    pure ⟨reconstructionId, version, work.terminalState, work.events.length, work.days.length,
      daysComplete⟩

/-! ## Failing -/

/-- `_public_error_code`. -/
def publicErrorCode (errorCode : String) : String :=
  if "SOURCE_".toList <+: errorCode.toList then "SOURCE_VERSION_UNAVAILABLE"
  else if errorCode = "MCP_EMPTY" ∨ errorCode = "PRIOR_MEMORY_EMPTY" then "PRIOR_MEMORY_EMPTY"
  else "PRIOR_MEMORY_UNAVAILABLE"

def retrievalFailed (lease : ReconstructionTaskLease) (errorCode : String) (retry : Bool)
    (taskState : TaskState) (sequence : Nat) : EventFields :=
  { invoiceId := lease.invoiceId
    sequence
    eventType := if retry then "reconstruction.memory_retrieval_retry_scheduled"
      else "reconstruction.memory_retrieval_failed"
    state := taskState.value
    aggregateStatus := if retry then .reconstructing else .blocked
    summary := if retry then "Prior memory retrieval will retry"
      else "Prior memory unavailable. No substitute data is shown."
    inputRefs := [taskRef lease.taskId]
    publicError := some (publicErrorCode errorCode) }

/-- `fail_reconstruction`. -/
def failReconstruction (env : TxnEnv) (lease : ReconstructionTaskLease) (errorCode : String)
    (retryable : Bool) : Tx TaskState := do
  assertCurrentLease lease.toLeaseKey
  let retry := willRetry lease.toLeaseKey retryable
  let taskState ← failTask env lease.toLeaseKey retryable .blocked
  let aggregateStatus : InvoiceStatus := if retry then .reconstructing else .blocked
  let sequence ← lockInvoiceAndAdvance lease.invoiceId .readyForReconstruction aggregateStatus 1
    none
  insertReconEvent env 0 (retrievalFailed lease errorCode retry taskState sequence)
  pure taskState

end Tally.Model.ReconstructionRepository
