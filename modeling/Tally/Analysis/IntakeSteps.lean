import Tally.Library.Selection
import Tally.Analysis.Effects
import Tally.Model.IntakeTasks

/-!
# What receipt and extraction do

One lemma per operation of `intake_repository.py` and `intake_tasks.py`: the task
row it starts, closes or adds, the events it appends, the claim set it writes, and
the tables it may touch at all.
-/

set_option autoImplicit false

namespace Tally.Analysis.Effects
open Library Library.Calendar Tally.Model IntakeRepository IntakeTasks
open Library.Schema (SameExcept sameExcept_refl sameExcept_trans sameExcept_modify)

/-! ## Claims of any type -/

/-- The join of a claim query: an extraction is claimed with its source. -/
def claimJoin (db : Db) : TaskType → WorkflowTask → Bool
  | .extractInvoiceClaims, w => (db .invoiceSources).any fun s => s.invoiceId = w.invoiceId
  | _, _ => true

/-- The task a claim query of the type selects. -/
def selectedTask (env : TxnEnv) (db : Db) (taskType : TaskType) : Option WorkflowTask :=
  nextTask env taskType (claimJoin db taskType) (db .workflowTasks)

/-- A claim of a task: the row it found, and the start of its next attempt. -/
structure Claims (env : TxnEnv) (taskType : TaskType) (w : WorkflowTask) (key : LeaseKey)
    (db db' : Db) : Prop where
  selected : selectedTask env db taskType = some w
  mem : w ∈ db .workflowTasks
  type : w.taskType = taskType
  runnable : runnable env.now w = true
  next : key.taskId = w.id ∧ key.attempt = w.currentAttempt + 1
  tasks : ∃ leaseSeconds,
    db' .workflowTasks = (db .workflowTasks).map (startTask env key leaseSeconds)
  attempts : db' .workflowTaskAttempts = db .workflowTaskAttempts ++ [startedAttempt key]

theorem nextTask_mem {env : TxnEnv} {taskType : TaskType} {joins : WorkflowTask → Bool}
    {tasks : List WorkflowTask} {w : WorkflowTask}
    (h : nextTask env taskType joins tasks = some w) :
    w ∈ tasks ∧ w.taskType = taskType ∧ runnable env.now w = true := by
  unfold nextTask at h
  have hmem := List.mem_of_mem_head? (Option.mem_def.mpr h)
  rw [List.mem_insertionSort, List.mem_filter] at hmem
  simp only [decide_eq_true_eq] at hmem
  exact ⟨hmem.1, hmem.2.1, hmem.2.2.1⟩

/-- The start of the attempt a claim hands out. -/
theorem claims_of_start {env : TxnEnv} {taskType : TaskType} {w : WorkflowTask}
    {workerId : String} {leaseSeconds : Nat} {a : Unit} {db db' : Db}
    (hnext : selectedTask env db taskType = some w)
    (hstart : startAttempt env (nextKey w workerId) leaseSeconds db = .ok (a, db')) :
    Claims env taskType w (nextKey w workerId) db db' := by
  obtain ⟨hmem, htype, hrunnable⟩ := nextTask_mem hnext
  obtain ⟨htasks, hattempts, _⟩ := startAttempt_ok hstart
  exact ⟨hnext, hmem, htype, hrunnable, ⟨rfl, rfl⟩, ⟨leaseSeconds, htasks⟩, hattempts⟩

/-- A claim that publishes its start as one event. -/
theorem claims_published (env : TxnEnv) {taskType : TaskType} {w : WorkflowTask} {workerId : String} {leaseSeconds : Nat} {invoiceId : Uuid}
    {intakeState : IntakeState} {status : InvoiceStatus} {sequence : Nat} {e : InvoiceEvent}
    {outboxId : Uuid} {a b : Unit} {db db₁ db₂ db' : Db}
    (hnext : selectedTask env db taskType = some w)
    (hstart : startAttempt env (nextKey w workerId) leaseSeconds db = .ok (a, db₁))
    (hlock : lockInvoiceAndAdvance invoiceId intakeState status 1 none db₁ = .ok (sequence, db₂))
    (hinsert : insertEventRow e outboxId db₂ = .ok (b, db'))
    (he : e.invoiceId = invoiceId ∧ e.sequence = sequence ∧ e.occurredAt = env.now ∧
      e.aggregateStatus = status) :
    SameExcept claimTables db db' ∧ Claims env taskType w (nextKey w workerId) db db' ∧
      Emits env invoiceId ⟨intakeState, none, 1⟩ [e] db db' := by
  obtain ⟨hemits, hsame⟩ := emits_one env hlock hinsert he
  obtain ⟨htasks, hattempts, hstarted⟩ := startAttempt_ok hstart
  obtain ⟨hmem, htype, hrunnable⟩ := nextTask_mem hnext
  refine ⟨?_, ⟨hnext, hmem, htype, hrunnable, ⟨rfl, rfl⟩, ⟨leaseSeconds, ?_⟩, ?_⟩,
    hemits.within hstarted (untouched _) (by decide) (by decide)⟩
  · intro t ht
    simp only [claimTables, List.mem_append, not_or] at ht
    rw [hsame t ht.2, hstarted t ht.1]
  · rw [hsame .workflowTasks (by decide), htasks]
  · rw [hsame .workflowTaskAttempts (by decide), hattempts]

/-! ## Receipt -/

theorem reserveIngestion_same (env : TxnEnv) (idempotencyKey requestHash : String) :
    Schema.Writes [.ingestionRequests] (reserveIngestion env idempotencyKey requestHash) := by
  unfold reserveIngestion
  refine Txn.keeps_bind sameExcept_trans (Schema.writes_insertOrIgnore (by simp)) fun _ => ?_
  refine Txn.keeps_bind sameExcept_trans (Txn.keeps_read sameExcept_refl _) fun r => ?_
  cases r with
  | none => exact Txn.keeps_raise _
  | some row =>
      dsimp only
      split
      · exact Txn.keeps_raise _
      · exact Txn.keeps_pure sameExcept_refl _

theorem loadRequest_ok {idempotencyKey requestHash : String} {row : IngestionRequest} {db db' : Db}
    (h : loadRequest idempotencyKey requestHash db = .ok (row, db')) :
    db' = db ∧ row ∈ db .ingestionRequests ∧ row.idempotencyKey = idempotencyKey ∧
      row.requestHash = requestHash := by
  unfold loadRequest at h
  rw [Txn.bind_ok] at h
  obtain ⟨r, db₁, hselect, h⟩ := h
  obtain ⟨hfind, rfl⟩ := selectRow_ok.mp hselect
  cases r with
  | none => exact (Txn.raise_ok.mp h).elim
  | some found =>
      rcases Txn.ite_ok.mp h with ⟨_, h⟩ | ⟨hhash, h⟩
      · exact (Txn.raise_ok.mp h).elim
      · obtain ⟨rfl, rfl⟩ := Txn.pure_ok.mp h
        exact ⟨rfl, List.mem_of_find?_eq_some hfind, by simpa using List.find?_some hfind,
          not_not.mp hhash⟩

theorem completedOr_ok {row : IngestionRequest} {proceed : Tx ReceiptSnapshot}
    {r : ReceiptSnapshot} {db db' : Db} (h : completedOr row proceed db = .ok (r, db')) :
    db' = db ∨ proceed db = .ok (r, db') := by
  rcases Txn.ite_ok.mp h with ⟨_, h⟩ | ⟨_, h⟩
  · exact Or.inl (Txn.orRaise_ok.mp h).2.symm
  · exact Or.inr h

theorem recordSourceStored_same {idempotencyKey requestHash : String}
    {source : StoredInvoiceSource} {a : Unit} {db db' : Db}
    (h : recordSourceStored idempotencyKey requestHash source db = .ok (a, db')) :
    SameExcept [.ingestionRequests] db db' := by
  unfold recordSourceStored at h
  rw [Txn.bind_ok] at h
  obtain ⟨row, db₁, hload, h⟩ := h
  obtain ⟨rfl, _⟩ := loadRequest_ok hload
  rcases Txn.ite_ok.mp h with ⟨_, h⟩ | ⟨_, h⟩
  · obtain ⟨_, rfl⟩ := Txn.pure_ok.mp h
    exact sameExcept_refl _
  · exact Schema.writes_update (by simp) _ _ _ h

theorem completeDuplicateIngestion_same {idempotencyKey requestHash : String}
    {invoiceId sourceId : Uuid} {sourceSha256 : String} {snapshot r : ReceiptSnapshot}
    {db db' : Db} (h : completeDuplicateIngestion idempotencyKey requestHash invoiceId sourceId
      sourceSha256 snapshot db = .ok (r, db')) :
    SameExcept [.ingestionRequests] db db' := by
  unfold completeDuplicateIngestion at h
  rw [Txn.bind_ok] at h
  obtain ⟨row, db₁, hload, h⟩ := h
  obtain ⟨rfl, _⟩ := loadRequest_ok hload
  rcases completedOr_ok h with rfl | h
  · exact sameExcept_refl _
  · rw [Txn.bind_ok] at h
    obtain ⟨bound, db₂, hread, h⟩ := h
    obtain ⟨_, rfl⟩ := Txn.read_ok.mp hread
    rcases Txn.ite_ok.mp h with ⟨_, h⟩ | ⟨_, h⟩
    · exact (Txn.raise_ok.mp h).elim
    · rw [Txn.bind_ok] at h
      obtain ⟨_, db₃, hupdate, h⟩ := h
      obtain ⟨_, rfl⟩ := Txn.pure_ok.mp h
      exact Schema.writes_update (by simp) _ _ _ hupdate

/-- A finalized receipt: a fresh invoice with its first task and its first
event. -/
structure Receives (env : TxnEnv) (invoice : Invoice) (task : WorkflowTask) (event : InvoiceEvent)
    (db db' : Db) : Prop where
  invoices : db' .invoices = db .invoices ++ [invoice]
  newInvoice : ∀ i ∈ db .invoices, i.id ≠ invoice.id
  tasks : db' .workflowTasks = db .workflowTasks ++ [task]
  newTask : ∀ w ∈ db .workflowTasks, w.id ≠ task.id
  log : db' .invoiceEvents = db .invoiceEvents ++ [event]
  newEvent : ∀ e ∈ db .invoiceEvents, e.id ≠ event.id
  outbox : ∃ o, PendingRow event o ∧ db' .eventOutbox = db .eventOutbox ++ [o]

def receiptTables : List Table :=
  [.ingestionRequests, .invoices, .invoiceSources, .workflowTasks, .invoiceEvents, .eventOutbox]

theorem insertReceipt_ok [Sha256] {env : TxnEnv} {command : FinalizeReceipt}
    {invoiceId sourceId : Uuid} {a : Unit} {db db' : Db}
    (h : insertReceipt env command invoiceId sourceId db = .ok (a, db')) :
    Receives env (receivedInvoice env command invoiceId)
      (firstExtractionTask env command invoiceId sourceId)
      (invoiceReceived env invoiceId sourceId) db db' ∧ SameExcept receiptTables db db' := by
  simp only [insertReceipt, Txn.bind_ok, insertRow_ok] at h
  obtain ⟨_, _, ⟨hinvoice, _, rfl⟩, _, _, ⟨_, _, rfl⟩, _, _, ⟨htask, _, rfl⟩, hevent⟩ := h
  obtain ⟨hfresh, hlog, ⟨o, ho, houtbox⟩, hsame⟩ := insertEventRow_ok hevent
  refine ⟨⟨?_, ?_, ?_, ?_, ?_, ?_, o, ho, ?_⟩, ?_⟩
  · rw [hsame .invoices (by decide)]
    simp
  · intro i hi
    have hconflict := hinvoice i hi
    simp only [conflicts, decide_eq_false_iff_not, not_or] at hconflict
    exact fun heq => hconflict.1 heq.symm
  · rw [hsame .workflowTasks (by decide)]
    simp
  · intro w hw
    have hconflict := htask w (by simpa using hw)
    simp only [conflicts, decide_eq_false_iff_not, not_or] at hconflict
    exact fun heq => hconflict.1 heq.symm
  · simpa using hlog
  · simpa using hfresh
  · simpa using houtbox
  · intro t ht
    simp only [receiptTables, List.mem_cons, List.not_mem_nil, or_false, not_or] at ht
    rw [hsame t (by simp [ht])]
    simp [ht]

theorem finalizeReceivedInvoice_ok [Sha256] {env : TxnEnv} {command : FinalizeReceipt}
    {r : ReceiptSnapshot} {db db' : Db}
    (h : finalizeReceivedInvoice env command db = .ok (r, db')) :
    SameExcept receiptTables db db' ∧
      (db' = db ∨ ∃ invoiceId sourceId,
        Receives env (receivedInvoice env command invoiceId)
          (firstExtractionTask env command invoiceId sourceId)
          (invoiceReceived env invoiceId sourceId) db db') := by
  unfold finalizeReceivedInvoice at h
  rw [Txn.bind_ok] at h
  obtain ⟨row, db₁, hload, h⟩ := h
  obtain ⟨rfl, _⟩ := loadRequest_ok hload
  rcases completedOr_ok h with rfl | h
  · exact ⟨sameExcept_refl _, Or.inl rfl⟩
  · rcases Txn.ite_ok.mp h with ⟨_, h⟩ | ⟨_, h⟩
    · exact (Txn.raise_ok.mp h).elim
    rcases Txn.ite_ok.mp h with ⟨_, h⟩ | ⟨_, h⟩
    · exact (Txn.raise_ok.mp h).elim
    · rw [Txn.bind_ok] at h
      obtain ⟨_, db₂, hreceipt, h⟩ := h
      rw [Txn.bind_ok] at h
      obtain ⟨_, db₃, hupdate, h⟩ := h
      obtain ⟨_, rfl⟩ := Txn.pure_ok.mp h
      obtain ⟨hreceives, hsame⟩ := insertReceipt_ok hreceipt
      have hupdated : SameExcept [.ingestionRequests] db₂ db₃ :=
        Schema.writes_update (by simp) _ _ _ hupdate
      refine ⟨?_, Or.inr ⟨row.reservedInvoiceId, row.reservedSourceId, ?_⟩⟩
      · refine sameExcept_trans _ _ _ hsame fun t ht => hupdated t ?_
        simp only [receiptTables, List.mem_cons, not_or] at ht
        simp [ht]
      · obtain ⟨o, ho, houtbox⟩ := hreceives.outbox
        refine ⟨?_, hreceives.newInvoice, ?_, hreceives.newTask, ?_, hreceives.newEvent, o, ho, ?_⟩
        · rw [hupdated .invoices (by decide), hreceives.invoices]
        · rw [hupdated .workflowTasks (by decide), hreceives.tasks]
        · rw [hupdated .invoiceEvents (by decide), hreceives.log]
        · rw [hupdated .eventOutbox (by decide), houtbox]

/-! ## Extraction -/

theorem claimNextExtractionTask_ok {env : TxnEnv} {workerId : String} {leaseSeconds : Nat}
    {r : Option ExtractionTaskLease} {db db' : Db}
    (h : claimNextExtractionTask env workerId leaseSeconds db = .ok (r, db')) :
    SameExcept claimTables db db' ∧
      ((r = none ∧ db' = db) ∨ ∃ lease w sequence, r = some lease ∧
        lease.workerId = workerId ∧ lease.invoiceId = w.invoiceId ∧
        Claims env .extractInvoiceClaims w lease.toLeaseKey db db' ∧
        Emits env w.invoiceId ⟨.initialProcessing, none, 1⟩
          [(extractionStarted w.invoiceId lease.sourceId sequence).toRow env
          0 "INTAKE_AGENT" "EXTRACT_INVOICE_CLAIMS" (some "Amazon Bedrock")] db db') := by
  unfold claimNextExtractionTask at h
  rw [Txn.bind_ok] at h
  obtain ⟨task, db₁, hread, h⟩ := h
  obtain ⟨hnext, rfl⟩ := Txn.read_ok.mp hread
  cases task with
  | none =>
      obtain ⟨rfl, rfl⟩ := Txn.pure_ok.mp h
      exact ⟨sameExcept_refl _, Or.inl ⟨rfl, rfl⟩⟩
  | some w =>
      rw [Txn.bind_ok] at h
      obtain ⟨source, db₁, hselect, h⟩ := h
      obtain ⟨_, rfl⟩ := selectRow_ok.mp hselect
      cases source with
      | none =>
          obtain ⟨rfl, rfl⟩ := Txn.pure_ok.mp h
          exact ⟨sameExcept_refl _, Or.inl ⟨rfl, rfl⟩⟩
      | some source =>
          rw [Txn.bind_ok] at h
          obtain ⟨_, db₂, hstart, h⟩ := h
          rw [Txn.bind_ok] at h
          obtain ⟨sequence, db₃, hlock, h⟩ := h
          rw [Txn.bind_ok] at h
          obtain ⟨_, db₄, hinsert, h⟩ := h
          obtain ⟨rfl, rfl⟩ := Txn.pure_ok.mp h
          obtain ⟨hsame, hclaims, hemits⟩ :=
            claims_published env hnext hstart hlock hinsert ⟨rfl, rfl, rfl, rfl⟩
          exact ⟨hsame, Or.inr ⟨_, w, sequence, rfl, rfl, rfl, hclaims, hemits⟩⟩

/-- The tables the claims of a completion are written to. -/
def claimSetTables : List Table := [.extractionRuns, .claimSets, .extractedClaims]

theorem insertClaims_ok {env : TxnEnv} {lease : ExtractionTaskLease} {validation : ClaimValidation}
    {version : Nat} {db db' : Db}
    (h : insertClaims env lease validation db = .ok (version, db')) :
    (∃ s rows, s.id = env.uuid 1 ∧ s.invoiceId = lease.invoiceId ∧ s.claimSetVersion = version ∧
      db' .claimSets = db .claimSets ++ [s] ∧
      version = nextNumber (((db .claimSets).filter fun s => s.invoiceId = lease.invoiceId).map
        ClaimSet.claimSetVersion) ∧
      db' .extractedClaims = db .extractedClaims ++ rows ∧
      (∀ c ∈ rows, c.claimSetId = env.uuid 1 ∧ c.currency.getD "USD" = "USD") ∧
      rows.Pairwise fun a b => conflicts .extractedClaims b a = false) ∧
      (∀ s ∈ db .claimSets, s.id ≠ env.uuid 1) ∧ SameExcept claimSetTables db db' := by
  unfold insertClaims at h
  rw [Txn.bind_ok] at h
  obtain ⟨sets, db₁, hselect, h⟩ := h
  obtain ⟨rfl, rfl⟩ := selectRows_ok.mp hselect
  rw [Txn.bind_ok] at h
  obtain ⟨bound, db₁, hread, h⟩ := h
  obtain ⟨_, rfl⟩ := Txn.read_ok.mp hread
  rw [Txn.bind_ok] at h
  obtain ⟨_, db₁, hrun, h⟩ := h
  have hruns : SameExcept [.extractionRuns] db db₁ := by
    rcases Txn.onlyIf_ok.mp hrun with ⟨_, hrun⟩ | ⟨_, rfl⟩
    · exact Schema.writes_insert (by simp) _ _ _ hrun
    · exact sameExcept_refl _
  rw [Txn.bind_ok] at h
  obtain ⟨_, db₂, hset, h⟩ := h
  obtain ⟨hfresh, _, rfl⟩ := insertRow_ok.mp hset
  rw [Txn.bind_ok] at h
  obtain ⟨_, db₃, hclaims, h⟩ := h
  obtain ⟨rfl, rfl⟩ := Txn.pure_ok.mp h
  obtain ⟨hrows, hsame⟩ := forEach_insertRow_ok hclaims
  rw [Store.modify_of_ne _ _ (by decide), hruns .extractedClaims (by decide)] at hrows
  refine ⟨⟨claimSetRow env lease validation (nextNumber (((db .claimSets).filter fun s =>
    s.invoiceId = lease.invoiceId).map ClaimSet.claimSetVersion)), _, rfl, rfl, rfl, ?_, rfl, hrows,
    ?_, forEach_insertRow_unique hclaims⟩, ?_, ?_⟩
  · rw [hsame .claimSets (by decide), Store.modify_same, hruns .claimSets (by decide)]
  · intro c hc
    obtain ⟨p, _, rfl⟩ := List.mem_map.mp hc
    exact ⟨rfl, p.1.currency_usd⟩
  · intro s hs
    have hconflict := hfresh s (by rwa [hruns .claimSets (by decide)])
    simp only [conflicts, decide_eq_false_iff_not, not_or] at hconflict
    exact fun heq => hconflict.1 heq.symm
  · intro t ht
    simp only [claimSetTables, List.mem_cons, List.not_mem_nil, or_false, not_or] at ht
    rw [hsame t (by simp [ht]), Store.modify_of_ne _ _ (by simp [ht]), hruns t (by simp [ht])]

/-- The events a completed extraction appends. -/
def extractionEvents (env : TxnEnv) (lease : ExtractionTaskLease) (validation : ClaimValidation)
    (claimSet : ObjectRef) (sequence : Nat) : List InvoiceEvent :=
  let count := validation.claims.length
  if validation.passed then
    [(claimsValidated lease count claimSet sequence).toRow env 3 "INTAKE_AGENT"
      "VALIDATE_INVOICE_CLAIMS" none,
     (reconstructionStarted lease claimSet (env.uuid 2) (sequence + 1)).toRow env 5 "INTAKE_AGENT"
      "START_RECONSTRUCTION" (some "CockroachDB Managed MCP")]
  else
    [(claimsNeedEvidence lease count claimSet sequence).toRow env 2 "INTAKE_AGENT"
      "VALIDATE_INVOICE_CLAIMS" none]

/-- The intake state after a completed extraction. -/
def extractedState (validation : ClaimValidation) : IntakeState :=
  if validation.passed then .readyForReconstruction else .requiredFieldMissing

def completeExtractionTables : List Table := claimSetTables ++ claimTables

theorem completeExtraction_ok [Sha256] {env : TxnEnv} {lease : ExtractionTaskLease}
    {validation : ClaimValidation} {r : ExtractionCompletion} {db db' : Db}
    (h : completeExtraction env lease validation db = .ok (r, db')) :
    SameExcept completeExtractionTables db db' ∧ ∃ w new s rows sequence,
      Ends lease.toLeaseKey w .completed new db db' ∧
      (new = [] ∨ (validation.passed = true ∧
        Added (reconstructionTask env 2 lease (claimSetRef s.id s.claimSetVersion))
          (db .workflowTasks) new)) ∧
      r.claimSetId = s.id ∧ s.invoiceId = lease.invoiceId ∧
      (∀ s' ∈ db .claimSets, s'.id ≠ s.id) ∧
      s.claimSetVersion = nextNumber (((db .claimSets).filter fun s =>
        s.invoiceId = lease.invoiceId).map ClaimSet.claimSetVersion) ∧
      db' .claimSets = db .claimSets ++ [s] ∧
      db' .extractedClaims = db .extractedClaims ++ rows ∧
      ((∀ c ∈ rows, c.claimSetId = s.id ∧ c.currency.getD "USD" = "USD") ∧
        rows.Pairwise fun a b => conflicts .extractedClaims b a = false) ∧
      Emits env lease.invoiceId ⟨extractedState validation, some s.claimSetVersion, 1⟩
        (extractionEvents env lease validation (claimSetRef s.id s.claimSetVersion) sequence)
        db db' := by
  unfold completeExtraction at h
  rw [Txn.bind_ok] at h
  obtain ⟨_, db₁, hassert, h⟩ := h
  obtain ⟨rfl, w, hholds⟩ := assertCurrentLease_ok.mp hassert
  rw [Txn.bind_ok] at h
  obtain ⟨version, db₁, hclaims, h⟩ := h
  obtain ⟨⟨s, rows, hid, hinvoice, hversion, hsets, hnext, hrows, hrow⟩, hfresh, hsame₁⟩ :=
    insertClaims_ok hclaims
  rw [Txn.bind_ok] at h
  obtain ⟨_, db₂, hfinish, h⟩ := h
  have hsame₂ := (closeTask_ok hfinish).2.2
  rw [← hid, ← hversion] at h
  rcases Txn.ite_ok.mp h with ⟨hpassed, h⟩ | ⟨hpassed, h⟩
  · rw [Txn.bind_ok] at h
    obtain ⟨_, db₃, hemit, h⟩ := h
    rw [Txn.bind_ok] at h
    obtain ⟨sequence, db₄, hlock, h⟩ := h
    rw [Txn.bind_ok] at h
    obtain ⟨_, db₅, hevent₁, h⟩ := h
    rw [Txn.bind_ok] at h
    obtain ⟨_, db₆, hevent₂, h⟩ := h
    obtain ⟨rfl, rfl⟩ := Txn.pure_ok.mp h
    obtain ⟨hemits, hsame₄⟩ := emits_two env hlock hevent₁ hevent₂ ⟨rfl, rfl, rfl⟩
      ⟨rfl, rfl, rfl, rfl⟩
    obtain ⟨new, hends, hadded⟩ := ends_of_emit hholds hsame₁ hfinish
      (untouched _) hemit hsame₄ (by decide) (by decide) (by decide)
    have hsame₃ := (emitTask_ok hemit).2
    refine ⟨?_, w, new, s, rows, sequence, hends, Or.inr ⟨hpassed, hadded⟩, rfl, hinvoice, ?_,
      hversion ▸ hnext, ?_, ?_, ?_, ?_⟩
    · intro t ht
      simp only [completeExtractionTables, claimTables, List.mem_append, not_or] at ht
      rw [hsame₄ t ht.2.2, hsame₃ t (by simp_all [taskTables]), hsame₂ t ht.2.1, hsame₁ t ht.1]
    · rw [hid]
      exact hfresh
    · rw [hsame₄ .claimSets (by decide), hsame₃ .claimSets (by decide),
        hsame₂ .claimSets (by decide), hsets]
    · rw [hsame₄ .extractedClaims (by decide), hsame₃ .extractedClaims (by decide),
        hsame₂ .extractedClaims (by decide), hrows]
    · rw [hid]
      exact hrow
    · have hbefore : SameExcept (claimSetTables ++ [.workflowTasks, .workflowTaskAttempts]) db db₃ := by
        intro t ht
        simp only [List.mem_append, not_or] at ht
        rw [hsame₃ t (by simp_all), hsame₂ t ht.2, hsame₁ t ht.1]
      have hemits' := hemits.within hbefore (untouched _) (by decide) (by decide)
      rw [extractionEvents, extractedState, if_pos hpassed, if_pos hpassed]
      exact hemits'
  · rw [Txn.bind_ok] at h
    obtain ⟨sequence, db₃, hlock, h⟩ := h
    rw [Txn.bind_ok] at h
    obtain ⟨_, db₄, hevent, h⟩ := h
    obtain ⟨rfl, rfl⟩ := Txn.pure_ok.mp h
    obtain ⟨hemits, hsame₃⟩ := emits_one env hlock hevent ⟨rfl, rfl, rfl, rfl⟩
    refine ⟨?_, w, [], s, rows, sequence, ends_of_close hholds hsame₁ hfinish hsame₃ (by decide)
      (by decide), Or.inl rfl, rfl, hinvoice, ?_, hversion ▸ hnext, ?_, ?_, ?_, ?_⟩
    · intro t ht
      simp only [completeExtractionTables, claimTables, List.mem_append, not_or] at ht
      rw [hsame₃ t ht.2.2, hsame₂ t ht.2.1, hsame₁ t ht.1]
    · rw [hid]
      exact hfresh
    · rw [hsame₃ .claimSets (by decide), hsame₂ .claimSets (by decide), hsets]
    · rw [hsame₃ .extractedClaims (by decide), hsame₂ .extractedClaims (by decide), hrows]
    · rw [hid]
      exact hrow
    · have hbefore : SameExcept (claimSetTables ++ [.workflowTasks, .workflowTaskAttempts]) db db₂ := by
        intro t ht
        simp only [List.mem_append, not_or] at ht
        rw [hsame₂ t ht.2, hsame₁ t ht.1]
      have hemits' := hemits.within hbefore (untouched _) (by decide) (by decide)
      rw [extractionEvents, extractedState, if_neg hpassed, if_neg hpassed]
      exact hemits'

/-- The event a failed attempt of an extraction appends. -/
def extractionFailedEvent (env : TxnEnv) (lease : ExtractionTaskLease) (retryable : Bool)
    (state : TaskState) (sequence : Nat) : InvoiceEvent :=
  (extractionFailed lease (willRetry lease.toLeaseKey retryable) state sequence).toRow env 0
    "INTAKE_AGENT" "EXTRACT_INVOICE_CLAIMS" (some "Amazon Bedrock")

/-- The intake state after a failed attempt of an extraction. -/
def failedState (key : LeaseKey) (errorCode : String) (retryable : Bool) : IntakeState :=
  if willRetry key retryable then .initialProcessing
  else if "SOURCE_".toList <+: errorCode.toList then .blockedSourceVersionUnavailable
  else .extractionFailed

theorem failExtraction_ok {env : TxnEnv} {lease : ExtractionTaskLease} {errorCode : String}
    {retryable : Bool} {r : TaskState} {db db' : Db}
    (h : failExtraction env lease errorCode retryable db = .ok (r, db')) :
    SameExcept claimTables db db' ∧ ∃ w sequence, Ends lease.toLeaseKey w r [] db db' ∧
      ((r = .retryWait ∧ lease.attempt < maxAutomaticAttempts) ∨ r = .failed) ∧
      Emits env lease.invoiceId ⟨failedState lease.toLeaseKey errorCode retryable, none, 1⟩
        [extractionFailedEvent env lease retryable r sequence] db db' := by
  unfold failExtraction at h
  rw [Txn.bind_ok] at h
  obtain ⟨_, db₁, hassert, h⟩ := h
  obtain ⟨rfl, w, hholds⟩ := assertCurrentLease_ok.mp hassert
  rw [Txn.bind_ok] at h
  obtain ⟨state, db₁, hfail, h⟩ := h
  obtain ⟨hstate, notBefore, _, hclose⟩ := failTask_ok hfail
  rw [Txn.bind_ok] at h
  obtain ⟨sequence, db₂, hlock, h⟩ := h
  rw [Txn.bind_ok] at h
  obtain ⟨_, db₃, hevent, h⟩ := h
  obtain ⟨rfl, rfl⟩ := Txn.pure_ok.mp h
  obtain ⟨hsame, hends, hemits⟩ :=
    ends_published env hholds hclose hlock hevent ⟨rfl, rfl, rfl, rfl⟩
  refine ⟨hsame, w, sequence, hends, ?_, hemits⟩
  exact failTask_state hstate

/-- The state a failed attempt of an extraction leaves its task in. -/
theorem failExtraction_state {env : TxnEnv} {lease : ExtractionTaskLease} {errorCode : String}
    {retryable : Bool} {r : TaskState} {db db' : Db}
    (h : failExtraction env lease errorCode retryable db = .ok (r, db')) :
    r = if willRetry lease.toLeaseKey retryable then .retryWait else .failed := by
  unfold failExtraction at h
  rw [Txn.bind_ok] at h
  obtain ⟨_, db₁, _, h⟩ := h
  rw [Txn.bind_ok] at h
  obtain ⟨state, db₂, hfail, h⟩ := h
  rw [Txn.bind_ok] at h
  obtain ⟨_, db₃, _, h⟩ := h
  rw [Txn.bind_ok] at h
  obtain ⟨_, db₄, _, h⟩ := h
  obtain ⟨rfl, _⟩ := Txn.pure_ok.mp h
  exact (failTask_ok hfail).1

/-- A maximal version comes first. -/
theorem latestExtractionTask_max {invoiceId : Uuid} {tasks : List WorkflowTask} {w : WorkflowTask}
    (h : latestExtractionTask invoiceId tasks = some w) :
    w ∈ tasks ∧ w.invoiceId = invoiceId ∧ w.taskType = .extractInvoiceClaims ∧
      ∀ v ∈ tasks, v.invoiceId = invoiceId → v.taskType = .extractInvoiceClaims →
        v.taskVersion ≤ w.taskVersion := by
  obtain ⟨hmem, hp, hmax⟩ := latest_max WorkflowTask.taskVersion h
  simp only [decide_eq_true_eq] at hp
  exact ⟨hmem, hp.1, hp.2, fun v hv hinvoice htype => hmax v hv (by simp [hinvoice, htype])⟩

def retryTables : List Table := [.workflowRetryRequests, .workflowTasks] ++ emitTables

/-- The event a retry appends. -/
def retryRequestedEvent (env : TxnEnv) (task : WorkflowTask) (sequence : Nat) : InvoiceEvent :=
  (retryRequested task sequence).toRow env 1 "INTAKE_AGENT" "EXTRACT_INVOICE_CLAIMS" none

/-- A retry adds the next version after a failed latest one. -/
structure Retries (env : TxnEnv) (previous task : WorkflowTask) (sequence : Nat) (db db' : Db) :
    Prop where
  latest : latestExtractionTask previous.invoiceId (db .workflowTasks) = some previous
  failed : previous.state = .failed
  version : ∃ initiatedBy actorDisplay, task = retriedTask env previous initiatedBy actorDisplay
  tasks : db' .workflowTasks = db .workflowTasks ++ [task]
  newTask : ∀ w ∈ db .workflowTasks, w.id ≠ task.id
  emits : Emits env previous.invoiceId ⟨.received, none, 1⟩
    [retryRequestedEvent env task sequence] db db'

/-- The request a key stands for. -/
def requestOf (db : Db) (idempotencyKey : String) : Option WorkflowRetryRequest :=
  (db .workflowRetryRequests).find? fun r => r.idempotencyKey = idempotencyKey

/-- A request row once the request of the key has its response. -/
def answerRequest (idempotencyKey : String) (snapshot : RetrySnapshot)
    (r : WorkflowRetryRequest) : WorkflowRetryRequest :=
  if r.idempotencyKey = idempotencyKey then
    { r with state := .completed, responseSnapshot := some snapshot }
  else r

/-- A request that was open gets its response. -/
structure Answers (idempotencyKey requestHash : String) (invoiceId : Uuid)
    (snapshot : RetrySnapshot) (db db' : Db) : Prop where
  unanswered : ∀ q, requestOf db idempotencyKey = some q → q.state ≠ .completed
  answered : requestOf db' idempotencyKey =
    some ⟨idempotencyKey, invoiceId, requestHash, .completed, some snapshot⟩
  others : ∀ key, key ≠ idempotencyKey → requestOf db' key = requestOf db key

theorem requestOf_answer {db db' : Db} {idempotencyKey : String} {snapshot : RetrySnapshot}
    (h : db' .workflowRetryRequests =
      (db .workflowRetryRequests).map (answerRequest idempotencyKey snapshot)) (key : String) :
    requestOf db' key = (requestOf db key).map (answerRequest idempotencyKey snapshot) := by
  unfold requestOf
  rw [h, List.find?_map]
  congr 2
  funext r
  simp only [Function.comp_apply, answerRequest]
  split <;> rfl

/-- The invoice and the result of a retry that no response answered. -/
structure RetryFresh (env : TxnEnv) (invoiceId : Uuid) (r : RetryResult)
    (previous task : WorkflowTask) (sequence : Nat) (db db' : Db) : Prop
    extends Retries env previous task sequence db db' where
  invoice : previous.invoiceId = invoiceId
  result : ∃ i, findInvoice db invoiceId = some i ∧
    r = ⟨task.id, task.taskVersion, i.rowVersion + 1, false⟩

theorem retryFailedTask_ok {env : TxnEnv} {invoiceId : Uuid} {idempotencyKey : String}
    {expectedRowVersion : Nat} {initiatedBy : Option Uuid} {actorDisplay : String}
    {r : RetryResult} {db db' : Db}
    (h : retryFailedTask env invoiceId idempotencyKey expectedRowVersion initiatedBy actorDisplay
      db = .ok (r, db')) :
    SameExcept retryTables db db' ∧ db' .workflowRetryRequests = (db .workflowRetryRequests).map
        (answerRequest idempotencyKey ⟨r.taskId, r.taskVersion, r.rowVersion⟩) ∧
      ∃ previous task sequence, RetryFresh env invoiceId r previous task sequence db db' := by
  unfold retryFailedTask at h
  simp only [Bind.bindLeft] at h
  rw [Txn.bind_ok] at h
  obtain ⟨invoice, db₁, hinvoice, h⟩ := h
  rw [Txn.bind_ok] at hinvoice
  obtain ⟨_, db₂, hselect, hinvoice⟩ := hinvoice
  obtain ⟨hfind, rfl⟩ := selectRow_ok.mp hselect
  obtain ⟨rfl, rfl⟩ := Txn.orRaise_ok.mp hinvoice
  rw [Txn.bind_ok] at h
  obtain ⟨_, db₂, hstale, h⟩ := h
  rcases Txn.onlyIf_ok.mp hstale with ⟨_, hstale⟩ | ⟨_, rfl⟩
  · exact (Txn.raise_ok.mp hstale).elim
  rw [Txn.bind_ok] at h
  obtain ⟨previous, db₂, hprevious, h⟩ := h
  rw [Txn.bind_ok] at hprevious
  obtain ⟨_, db₃, hread, hprevious⟩ := hprevious
  obtain ⟨rfl, rfl⟩ := Txn.read_ok.mp hread
  obtain ⟨hlatest, rfl⟩ := Txn.orRaise_ok.mp hprevious
  rw [Txn.bind_ok] at h
  obtain ⟨_, db₃, hfailed, h⟩ := h
  rcases Txn.onlyIf_ok.mp hfailed with ⟨_, hfailed⟩ | ⟨hstate, rfl⟩
  · exact (Txn.raise_ok.mp hfailed).elim
  rw [Txn.bind_ok] at h
  obtain ⟨_, db₃, hinsert, h⟩ := h
  obtain ⟨hfresh, _, rfl⟩ := insertRow_ok.mp hinsert
  rw [Txn.bind_ok] at h
  obtain ⟨sequence, db₄, hlock, h⟩ := h
  rw [Txn.bind_ok] at h
  obtain ⟨_, db₅, hevent, h⟩ := h
  rw [Txn.bind_ok] at h
  obtain ⟨_, db₆, hupdate, h⟩ := h
  obtain ⟨rfl, rfl⟩ := Txn.pure_ok.mp h
  obtain rfl : previous.invoiceId = invoiceId := (latestExtractionTask_max hlatest).2.1
  obtain ⟨hemits, hsame⟩ := emits_one env hlock hevent ⟨rfl, rfl, rfl, rfl⟩
  have hupdated : SameExcept [.workflowRetryRequests] db₅ db₆ :=
    Schema.writes_update (by simp) _ _ _ hupdate
  have hadded : SameExcept [.workflowTasks] db (Store.modify db .workflowTasks
      (· ++ [retriedTask env previous initiatedBy actorDisplay])) :=
    sameExcept_modify db (by simp) _
  refine ⟨?_, ?_, previous, retriedTask env previous initiatedBy actorDisplay, sequence,
    ⟨hlatest, not_not.mp hstate, ⟨_, _, rfl⟩, ?_, ?_, ?_⟩, rfl, invoice, hfind, rfl⟩
  · intro t ht
    simp only [retryTables, List.mem_append, List.mem_cons, List.not_mem_nil, or_false,
      not_or] at ht
    rw [hupdated t (by simp [ht]), hsame t ht.2, hadded t (by simp [ht])]
  · rw [← updateRows_ok.mp hupdate, Store.modify_same, hsame .workflowRetryRequests (by decide),
      hadded .workflowRetryRequests (by decide)]
    simp only [decide_eq_true_eq]
    rfl
  · rw [hupdated .workflowTasks (by decide), hsame .workflowTasks (by decide), Store.modify_same]
  · intro w hw
    have hconflict := hfresh w hw
    simp only [conflicts, decide_eq_false_iff_not, not_or] at hconflict
    exact fun heq => hconflict.1 heq.symm
  · exact hemits.within hadded hupdated (by decide) (by decide)

/-- SHA-256 of what a retry asks for. -/
def retryHash [Sha256] (invoiceId : Uuid) (expectedRowVersion : Nat) : String :=
  taskInputFingerprint .extractInvoiceClaims [.versioned "invoice" invoiceId expectedRowVersion]

/-- The answer to a request for a retry. -/
def Answered [Sha256] (db : Db) (idempotencyKey : String) (invoiceId : Uuid)
    (expectedRowVersion : Nat) (snapshot : RetrySnapshot) : Prop :=
  requestOf db idempotencyKey = some
    ⟨idempotencyKey, invoiceId, retryHash invoiceId expectedRowVersion, .completed, some snapshot⟩

/-- A retry either reads the answer to its request back or is a fresh one. -/
theorem retryExtractionTask_ok [Sha256] {env : TxnEnv} {invoiceId : Uuid}
    {idempotencyKey : String} {expectedRowVersion : Nat} {initiatedBy : Option Uuid}
    {actorDisplay : String} {r : RetryResult} {db db' : Db}
    (h : retryExtractionTask env invoiceId idempotencyKey expectedRowVersion initiatedBy
      actorDisplay db = .ok (r, db')) :
    SameExcept retryTables db db' ∧ ((db' = db ∧ r.replay = true ∧
        Answered db idempotencyKey invoiceId expectedRowVersion
          ⟨r.taskId, r.taskVersion, r.rowVersion⟩) ∨
      Answers idempotencyKey (retryHash invoiceId expectedRowVersion) invoiceId
          ⟨r.taskId, r.taskVersion, r.rowVersion⟩ db db' ∧
        ∃ previous task sequence, RetryFresh env invoiceId r previous task sequence db db') := by
  unfold retryExtractionTask at h
  simp only [Bind.bindLeft] at h
  rw [Txn.bind_ok] at h
  obtain ⟨_, db₁, hreserve, h⟩ := h
  have hreserved : SameExcept [.workflowRetryRequests] db db₁ :=
    Schema.writes_insertOrIgnore (by simp) _ _ _ hreserve
  rw [Txn.bind_ok] at h
  obtain ⟨request, db₂, hrequest, h⟩ := h
  rw [Txn.bind_ok] at hrequest
  obtain ⟨_, db₃, hselect, hrequest⟩ := hrequest
  obtain ⟨hfind, rfl⟩ := selectRow_ok.mp hselect
  obtain ⟨rfl, rfl⟩ := Txn.orRaise_ok.mp hrequest
  have hfound : requestOf db₁ idempotencyKey = some request := hfind
  have hkey : request.idempotencyKey = idempotencyKey := by simpa using List.find?_some hfind
  -- a request reserved by this call is a new row, so it has no response
  have hopen : db₁ = db ∨ (requestOf db idempotencyKey = none ∧ request.state = .reserved ∧
      ∀ key, key ≠ idempotencyKey → requestOf db₁ key = requestOf db key) := by
    rcases insertOrIgnoreRow_ok.mp hreserve with ⟨_, rfl⟩ | ⟨hnone, _, _, rfl⟩
    · exact Or.inl rfl
    · have habsent : requestOf db idempotencyKey = none := by
        unfold requestOf
        rw [List.find?_eq_none]
        intro q hq hqkey
        rw [List.any_eq_false] at hnone
        exact hnone q hq (decide_eq_true (of_decide_eq_true hqkey).symm)
      refine Or.inr ⟨habsent, ?_, ?_⟩
      · unfold requestOf at hfound habsent
        rw [Store.modify_same, List.find?_append, habsent] at hfound
        simp only [Option.none_or, List.find?_cons, decide_true] at hfound
        rw [← Option.some.inj hfound]
      · intro key hne
        unfold requestOf
        rw [Store.modify_same, List.find?_append]
        simp [Ne.symm hne]
  have hreplay : SameExcept retryTables db db₁ := by
    intro t ht
    simp only [retryTables, List.cons_append, List.mem_cons, not_or] at ht
    exact hreserved t (by simp [ht])
  rcases Txn.ite_ok.mp h with ⟨_, h⟩ | ⟨hsame, h⟩
  · exact (Txn.raise_ok.mp h).elim
  rw [not_or, not_not, not_not] at hsame
  rcases Txn.ite_ok.mp h with ⟨hcompleted, h⟩ | ⟨hincomplete, h⟩
  · rw [Txn.bind_ok] at h
    obtain ⟨s, db₂, hsnapshot, h⟩ := h
    obtain ⟨hresponse, rfl⟩ := Txn.orRaise_ok.mp hsnapshot
    obtain ⟨rfl, rfl⟩ := Txn.pure_ok.mp h
    rcases hopen with rfl | ⟨_, hstate, _⟩
    · refine ⟨sameExcept_refl _, Or.inl ⟨rfl, rfl, ?_⟩⟩
      have hrow : request = ⟨idempotencyKey, invoiceId, retryHash invoiceId expectedRowVersion,
          .completed, some s⟩ := by
        cases request
        simp only [WorkflowRetryRequest.mk.injEq]
        exact ⟨hkey, hsame.1, hsame.2, hcompleted, hresponse⟩
      rw [hrow] at hfound
      exact hfound
    · rw [hcompleted] at hstate
      exact absurd hstate (by decide)
  · obtain ⟨hwritten, hrequests, previous, task, sequence, hretries⟩ := retryFailedTask_ok h
    have htasks := hreserved .workflowTasks (by decide)
    refine ⟨sameExcept_trans _ _ _ hreplay hwritten, Or.inr ⟨⟨?_, ?_, ?_⟩, previous, task, sequence,
      ⟨?_, hretries.failed, hretries.version, ?_, ?_, ?_⟩, hretries.invoice, ?_⟩⟩
    · intro q hq hdone
      rcases hopen with rfl | ⟨hnone, _, _⟩
      · obtain rfl : request = q := Option.some.inj (hfound.symm.trans hq)
        exact hincomplete hdone
      · rw [hnone] at hq
        exact absurd hq (by simp)
    · rw [requestOf_answer hrequests, hfound, Option.map_some]
      unfold answerRequest
      rw [if_pos hkey, hkey, hsame.1, hsame.2]
      rfl
    · intro key hne
      rw [requestOf_answer hrequests]
      have hother : requestOf db₁ key = requestOf db key := by
        rcases hopen with rfl | ⟨_, _, hothers⟩
        · rfl
        · exact hothers key hne
      rw [hother]
      cases hq : requestOf db key with
      | none => rfl
      | some q =>
          have hqkey : q.idempotencyKey = key := by simpa using List.find?_some hq
          rw [Option.map_some, answerRequest, if_neg (hqkey ▸ hne)]
    · rw [← htasks]
      exact hretries.latest
    · rw [← htasks]
      exact hretries.tasks
    · rw [← htasks]
      exact hretries.newTask
    · exact hretries.emits.within hreserved (untouched _) (by decide)
        (by decide)
    · obtain ⟨i, hi, hr⟩ := hretries.result
      refine ⟨i, ?_, hr⟩
      unfold findInvoice at hi ⊢
      rw [← hreserved .invoices (by decide)]
      exact hi

end Tally.Analysis.Effects
