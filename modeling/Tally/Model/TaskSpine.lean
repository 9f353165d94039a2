import Tally.Model.Schema

/-!
# The task and event spine

What the five task-driven repositories share: claiming the next runnable task,
the lease check, closing a task, advancing the invoice row, and inserting an
event together with its outbox row. The repositories repeat these statements with
their own constants; here each is one definition with those constants as
arguments.
-/

set_option autoImplicit false

namespace Tally.Model
open Library Library.Calendar

def maxAutomaticAttempts : Nat := 3

def seconds (n : Nat) : Int := n * 1000000

/-- The task, attempt and worker a lease was handed out for. -/
structure LeaseKey where
  taskId : Uuid
  attempt : Nat
  workerId : String
deriving DecidableEq

/-- SHA-256 over the sorted compact JSON of the task type and the input
references. -/
def taskInputFingerprint [Sha256] (taskType : TaskType) (inputRefs : List ObjectRef) : String :=
  let payload : Json := .obj [("task_type", .str taskType.value), ("input_refs", refsJson inputRefs)]
  Sha256.hexdigest (encode (Json.dumps .compactAscii payload.sortKeys))

/-! ## Claiming -/

/-- The runnable states of a task at a time. -/
def runnable (now : Instant) (w : WorkflowTask) : Bool :=
  match w.state with
  | .pending => true
  | .retryWait => w.notBefore.all (· ≤ now)
  | .leased | .running => w.leaseExpiresAt.any (· < now)
  | .completed | .blocked | .failed | .held => false

/-- `ORDER BY w.created_at, w.id`. -/
def WorkflowTask.queuedBefore (a b : WorkflowTask) : Prop :=
  a.createdAt < b.createdAt ∨ (a.createdAt = b.createdAt ∧ a.id.toNat ≤ b.id.toNat)

instance : DecidableRel WorkflowTask.queuedBefore := fun a b =>
  inferInstanceAs (Decidable (a.createdAt < b.createdAt ∨
    (a.createdAt = b.createdAt ∧ a.id.toNat ≤ b.id.toNat)))

/-- `SELECT .. LIMIT 1 FOR UPDATE OF w SKIP LOCKED`: the first runnable task of a
type that no other transaction has locked. -/
def nextTask (env : TxnEnv) (taskType : TaskType) (joins : WorkflowTask → Bool)
    (tasks : List WorkflowTask) : Option WorkflowTask :=
  ((tasks.filter fun w => w.taskType = taskType ∧ runnable env.now w ∧ joins w ∧
    w.id ∉ env.locked).insertionSort WorkflowTask.queuedBefore).head?

/-- The key under which a claimed task runs its next attempt. -/
def nextKey (w : WorkflowTask) (workerId : String) : LeaseKey :=
  ⟨w.id, w.currentAttempt + 1, workerId⟩

/-- Marks the task RUNNING under the key and records the attempt. -/
def startAttempt (env : TxnEnv) (key : LeaseKey) (leaseSeconds : Nat) : Tx Unit := do
  updateRows .workflowTasks (fun w => w.id = key.taskId) fun w =>
    { w with
      state := .running
      currentAttempt := key.attempt
      leaseOwner := some key.workerId
      leaseExpiresAt := some (env.now + seconds leaseSeconds) }
  insertRow .workflowTaskAttempts
    { taskId := key.taskId, attempt := key.attempt, state := .running, leaseOwner := key.workerId }

/-! ## The lease -/

def leaseLost {α : Type} : Tx α := .raise .taskLeaseLost

/-- The task row with the id, when it passes the check; else the lease is lost. -/
def assertLease (taskId : Uuid) (passes : WorkflowTask → Bool) : Tx Unit := do
  match ← selectRow .workflowTasks fun w => w.id = taskId with
  | some row => if passes row then pure () else leaseLost
  | none => leaseLost

/-- RUNNING under the attempt and the worker of the key. -/
def holdsLease (key : LeaseKey) (w : WorkflowTask) : Bool :=
  w.state = .running ∧ w.currentAttempt = key.attempt ∧ w.leaseOwner = some key.workerId

/-- `_assert_current_lease`, `_assert_recon_lease`, `_assert_rule_lease` and the
judgment repository's `_assert_lease`. -/
def assertCurrentLease (key : LeaseKey) : Tx Unit := assertLease key.taskId (holdsLease key)

/-- `UPDATE workflow_tasks .. WHERE id AND current_attempt AND lease_owner` and the
same for the attempt row. -/
def closeTask (key : LeaseKey) (state : TaskState) (notBefore : WorkflowTask → Option Instant) :
    Tx Unit := do
  updateRows .workflowTasks
    (fun w => w.id = key.taskId ∧ w.currentAttempt = key.attempt ∧
      w.leaseOwner = some key.workerId)
    fun w => { w with
      state, notBefore := notBefore w, leaseOwner := none, leaseExpiresAt := none }
  updateRows .workflowTaskAttempts
    (fun a => a.taskId = key.taskId ∧ a.attempt = key.attempt ∧ a.leaseOwner = key.workerId)
    fun a => { a with state }

/-- `_finish_task` of the repositories that record attempts. -/
def finishTask (key : LeaseKey) : Tx Unit := closeTask key .completed WorkflowTask.notBefore

/-- Whether a failed attempt is followed by another one. -/
def willRetry (key : LeaseKey) (retryable : Bool) : Bool :=
  retryable ∧ key.attempt < maxAutomaticAttempts

/-- A failed attempt: RETRY_WAIT with a backoff, or the terminal state. -/
def failTask (env : TxnEnv) (key : LeaseKey) (retryable : Bool) (terminal : TaskState) :
    Tx TaskState := do
  let state := if willRetry key retryable then .retryWait else terminal
  let notBefore := if willRetry key retryable then some (env.now + seconds (2 ^ key.attempt))
    else none
  closeTask key state fun _ => notBefore
  pure state

/-! ## New tasks -/

/-- The unique index a task insert may name as its conflict target. -/
def sameTaskIdentity (a b : WorkflowTask) : Bool :=
  a.invoiceId = b.invoiceId ∧ a.taskType = b.taskType ∧ a.taskVersion = b.taskVersion ∧
    a.inputFingerprint = b.inputFingerprint

/-- `INSERT INTO workflow_tasks .. ON CONFLICT (identity) DO NOTHING`. -/
def emitTask (task : WorkflowTask) : Tx Unit :=
  insertOrIgnoreRow .workflowTasks sameTaskIdentity task

/-! ## The invoice row and its events -/

/-- `_lock_invoice_and_advance`: the first of the sequence numbers it reserves. -/
def lockInvoiceAndAdvance (invoiceId : Uuid) (intakeState : IntakeState)
    (status : InvoiceStatus) (increment : Nat) (activeClaimSetVersion : Option Nat) :
    Tx Nat := do
  let some row ← selectRow .invoices fun i => i.id = invoiceId
    | .raise (.runtimeError "INVOICE_NOT_FOUND")
  updateRows .invoices (fun i => i.id = invoiceId) fun i =>
    { i with
      intakeState
      aggregateStatus := status
      status
      statusSequence := i.statusSequence + increment
      rowVersion := i.rowVersion + 1
      activeClaimSetVersion := activeClaimSetVersion.or i.activeClaimSetVersion }
  pure (row.statusSequence + 1)

/-- The event row and its PENDING outbox row. -/
def insertEventRow (event : InvoiceEvent) (outboxId : Uuid) : Tx Unit := do
  insertRow .invoiceEvents event
  insertRow .eventOutbox
    { id := outboxId, invoiceId := event.invoiceId, eventId := event.id, state := .pending,
      availableAt := event.occurredAt }

/-- The arguments the event inserts share. -/
structure EventFields where
  invoiceId : Uuid
  sequence : Nat
  eventType : String
  state : String
  aggregateStatus : InvoiceStatus
  summary : String
  inputRefs : List ObjectRef
  producedRefs : List ObjectRef := []
  outputCount : Option Nat := none
  publicError : Option String := none

/-- The event row of the given fields, role, task and tool; its identifier is the
`k`-th value of `uuid4`. -/
def EventFields.toRow (fields : EventFields) (env : TxnEnv) (k : Nat) (role task : String)
    (toolDisplayName : Option String) : InvoiceEvent :=
  { id := env.uuid k
    invoiceId := fields.invoiceId
    sequence := fields.sequence
    eventType := fields.eventType
    occurredAt := env.now
    role
    task
    toolDisplayName
    state := fields.state
    aggregateStatus := fields.aggregateStatus
    summary := fields.summary
    inputObjectRefs := fields.inputRefs
    producedObjectRefs := fields.producedRefs
    outputCount := fields.outputCount
    publicError := fields.publicError }

/-- `_insert_event` of `intake_tasks.py`. -/
def insertEvent (env : TxnEnv) (k : Nat) (task : String) (toolDisplayName : Option String)
    (fields : EventFields) : Tx Unit :=
  insertEventRow (fields.toRow env k "INTAKE_AGENT" task toolDisplayName) (env.uuid (k + 1))

/-- `_insert_recon_event`. -/
def insertReconEvent (env : TxnEnv) (k : Nat) (fields : EventFields) : Tx Unit :=
  insertEventRow (fields.toRow env k "RECONSTRUCTION_AGENT" "ASSEMBLE_RECONSTRUCTION"
    (some "CockroachDB Managed MCP")) (env.uuid (k + 1))

/-- `_insert_rule_event`. -/
def insertRuleEvent (env : TxnEnv) (k : Nat) (fields : EventFields) : Tx Unit :=
  insertEventRow (fields.toRow env k "EVIDENCE_AGENT" "FIND_APPLICABLE_RULE"
    (some "CockroachDB Distributed Vector Indexing")) (env.uuid (k + 1))

end Tally.Model
