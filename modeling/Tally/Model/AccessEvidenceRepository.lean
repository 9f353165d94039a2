import Tally.Model.JudgmentRepository

/-!
# Access-evidence binding

The embedding of `platform/access_evidence_repository.py`: the release of a held
task, its claim, and the transaction that verifies the pending snapshot, binds it
and enqueues a fresh reconstruction.
-/

set_option autoImplicit false

namespace Tally.Model.AccessEvidenceRepository
open Library Library.Calendar Tally.Model

structure AccessEvidenceLease extends LeaseKey where
  invoiceId : Uuid
  knowledgeCutoffAt : Instant
  snapshotPublicRef : String
  expectedContainerRef : String
  expectedDate : Date
  initiatedBy : Option Uuid
  actorDisplay : String
deriving DecidableEq

structure AccessBindingResult where
  outcome : AccessOutcome
  reasonCode : Option AccessRefusal
  snapshotPublicRef : String
  reconstructionRequeued : Bool
deriving DecidableEq

/-- The first binding request among the references. -/
def bindingRequestOf (refs : List ObjectRef) : Option (String × String × Date) :=
  refs.findSome? fun
    | .accessBindingRequest publicRef containerRef date => some (publicRef, containerRef, date)
    | _ => none

/-- `claim_next_access_evidence_task`; it writes no event. -/
def claimNextAccessEvidenceTask (env : TxnEnv) (workerId : String) (leaseSeconds : Nat) :
    Tx (Option AccessEvidenceLease) := do
  let task ← Txn.read fun db : Db =>
    nextTask env .bindAccessEvidence (fun _ => true) (db .workflowTasks)
  match task with
  | none => pure none
  | some w =>
    let (publicRef, containerRef, date) :=
      (bindingRequestOf w.inputObjectRefs).getD ("", "", Date.min)
    let key := nextKey w workerId
    startAttempt env key leaseSeconds
    pure (some
      { toLeaseKey := key
        invoiceId := w.invoiceId
        knowledgeCutoffAt := w.knowledgeCutoffAt
        snapshotPublicRef := publicRef
        expectedContainerRef := containerRef
        expectedDate := date
        initiatedBy := w.initiatedBy
        actorDisplay := w.actorDisplay })

/-- `_assert_lease`, which does not compare the attempt: RUNNING under the
worker. -/
def assertWorker (key : LeaseKey) : Tx Unit :=
  assertLease key.taskId fun w => w.state = .running ∧ w.leaseOwner = some key.workerId

/-- `_finish_task`, which leaves the attempt rows alone. -/
def finishBindingTask (key : LeaseKey) : Tx Unit :=
  updateRows .workflowTasks (fun w => w.id = key.taskId ∧ w.leaseOwner = some key.workerId)
    fun w => { w with state := .completed, leaseOwner := none, leaseExpiresAt := none }

/-- `str(facts.get(name, ""))`. -/
def factText (facts : List (String × String)) (name : String) : String :=
  (facts.lookup name).getD ""

/-- `_load_snapshot_facts`. -/
def loadSnapshotFacts (publicRef : String) : Tx AccessSnapshotFacts := do
  let some m ← selectRow .shipmentEventMemory fun m => m.publicRef = publicRef
    | .raise (.accessSnapshotMissing publicRef)
  let artifact ← selectRow .sourceArtifacts fun a => a.publicRef = m.sourcePublicRef
  pure (
    { publicRef := m.publicRef
      containerRef := m.containerRef
      snapshotDate := m.effectiveFrom
      exactSourceVerified :=
        (artifact.map ReconstructionSourceArtifact.verificationState) = some "VERIFIED"
      accessStatus := factText m.normalizedFacts "access_status"
      gateStatus := factText m.normalizedFacts "gate_status"
      blockingHold := factText m.normalizedFacts "blocking_hold" } : AccessSnapshotFacts)

/-- The references of the invoice's earliest START_RECONSTRUCTION task. -/
def baseRefs (invoiceId : Uuid) (tasks : List WorkflowTask) : List ObjectRef :=
  match ((tasks.filter fun w => w.invoiceId = invoiceId ∧
      w.taskType = .startReconstruction).insertionSort fun a b => a.createdAt ≤ b.createdAt).head? with
  | some w => w.inputObjectRefs
  | none => []

/-- The reconstruction task of a bound snapshot. -/
def resumedTask [Sha256] (env : TxnEnv) (k : Nat) (lease : AccessEvidenceLease)
    (base : List ObjectRef) : WorkflowTask :=
  let refs := base ++ [ObjectRef.snapshot "access_binding" lease.snapshotPublicRef]
  { id := env.uuid k
    invoiceId := lease.invoiceId
    taskType := .startReconstruction
    taskVersion := 1
    state := .pending
    initiatedBy := lease.initiatedBy
    actorDisplay := lease.actorDisplay
    knowledgeCutoffAt := lease.knowledgeCutoffAt
    inputFingerprint := taskInputFingerprint .startReconstruction refs
    inputObjectRefs := refs
    createdAt := env.now }

/-- `_emit_reconstruction_task`. -/
def emitReconstructionTask [Sha256] (env : TxnEnv) (k : Nat) (lease : AccessEvidenceLease) :
    Tx Unit := do
  let base ← Txn.read fun db : Db => baseRefs lease.invoiceId (db .workflowTasks)
  emitTask (resumedTask env k lease base)

def sourceBound (lease : AccessEvidenceLease) (sequence : Nat) : EventFields :=
  { invoiceId := lease.invoiceId
    sequence
    eventType := "reconstruction.source_bound"
    state := "COMPLETED"
    aggregateStatus := .reconstructing
    summary := "Terminal-access snapshot verified and bound for " ++ lease.expectedDate.isoformat
    inputRefs := [.snapshot "access_snapshot" lease.snapshotPublicRef]
    producedRefs := [.snapshot "access_binding" lease.snapshotPublicRef]
    outputCount := some 1 }

/-- The binding of a snapshot that passed: its state, the invoice, the event and
the new reconstruction task. -/
def bindSnapshot [Sha256] (env : TxnEnv) (lease : AccessEvidenceLease) : Tx Unit := do
  updateRows .shipmentEventMemory
    (fun m => m.publicRef = lease.snapshotPublicRef ∧ m.sourceVersionState = .pending)
    fun m => { m with sourceVersionState := .verified }
  let sequence ← lockInvoiceAndAdvance lease.invoiceId .readyForReconstruction .reconstructing 1
    none
  insertEvent env 1 "BIND_ACCESS_EVIDENCE" (some "CockroachDB Managed MCP")
    (sourceBound lease sequence)
  emitReconstructionTask env 3 lease

/-- `complete_access_binding`. -/
def completeAccessBinding [Sha256] (env : TxnEnv) (lease : AccessEvidenceLease) :
    Tx AccessBindingResult := do
  assertWorker lease.toLeaseKey
  let prior ← selectRow .accessEvidenceVerifications fun v =>
    v.taskId = lease.taskId ∧ v.snapshotPublicRef = lease.snapshotPublicRef
  match prior with
  | some v =>
    finishBindingTask lease.toLeaseKey
    pure ⟨v.outcome, v.reasonCode, lease.snapshotPublicRef, false⟩
  | none =>
    let facts ← loadSnapshotFacts lease.snapshotPublicRef
    let verdict := verifyAccessSnapshot facts lease.expectedContainerRef lease.expectedDate
    let outcome : AccessOutcome := if verdict.isNone then .verified else .refused
    insertRow .accessEvidenceVerifications
      { id := env.uuid 0
        invoiceId := lease.invoiceId
        taskId := lease.taskId
        snapshotPublicRef := lease.snapshotPublicRef
        containerRef := facts.containerRef
        snapshotDate := facts.snapshotDate
        outcome
        reasonCode := verdict }
    if verdict.isSome then
      finishBindingTask lease.toLeaseKey
      pure ⟨outcome, verdict, lease.snapshotPublicRef, false⟩
    else
      bindSnapshot env lease
      finishBindingTask lease.toLeaseKey
      pure ⟨outcome, none, lease.snapshotPublicRef, true⟩

/-- `release_access_evidence`. -/
def releaseAccessEvidence (invoiceId : Uuid) : Tx Bool := do
  let isHeld (w : WorkflowTask) : Bool :=
    w.invoiceId = invoiceId ∧ w.taskType = .bindAccessEvidence ∧ w.state = .held
  let held ← selectRows .workflowTasks isHeld
  updateRows .workflowTasks isHeld fun w => { w with state := .pending }
  pure (!held.isEmpty)

end Tally.Model.AccessEvidenceRepository
