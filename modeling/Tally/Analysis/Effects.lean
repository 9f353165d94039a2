import Tally.Model.TaskSpine

/-!
# What the spine does

The effect of each shared statement of the repositories when it succeeds: the
query lemmas, the rows a claim starts, the rows a completion or a failure closes,
the task an emission adds, and the events a transaction appends together with the
numbers it takes from the invoice row.
-/

set_option autoImplicit false

namespace Tally.Analysis.Effects
open Library Library.Calendar Tally.Model
open Library.Schema (SameExcept sameExcept_refl sameExcept_trans sameExcept_modify)

theorem untouched (db : Db) : SameExcept [] db db := sameExcept_refl db

/-! ## Queries and writes -/

@[simp] theorem selectRow_ok {t : Table} {p : Row t → Bool} {r : Option (Row t)} {db db' : Db} :
    selectRow t p db = .ok (r, db') ↔ (db t).find? p = r ∧ db = db' :=
  Txn.read_ok

/-- A query of one row reads, and what follows sees the same tables. -/
theorem selectRow_run {α : Type} (t : Table) (selects : Row t → Bool) (f : Option (Row t) → Tx α)
    (db : Db) : (selectRow t selects >>= f) db = f ((db t).find? selects) db := rfl

@[simp] theorem selectRows_ok {t : Table} {p : Row t → Bool} {r : List (Row t)} {db db' : Db} :
    selectRows t p db = .ok (r, db') ↔ (db t).filter p = r ∧ db = db' :=
  Txn.read_ok

@[simp] theorem insertRow_ok {t : Table} {row : Row t} {a : Unit} {db db' : Db} :
    insertRow t row db = .ok (a, db') ↔
      tallySchema.Fresh db t row ∧ references t db row = true ∧
        db.modify t (· ++ [row]) = db' :=
  Schema.insert_ok

@[simp] theorem insertOrIgnoreRow_ok {t : Table} {target : Row t → Row t → Bool} {row : Row t}
    {a : Unit} {db db' : Db} :
    insertOrIgnoreRow t target row db = .ok (a, db') ↔
      ((db t).any (target row) = true ∧ db = db') ∨
      ((db t).any (target row) = false ∧ tallySchema.Fresh db t row ∧
        references t db row = true ∧ db.modify t (· ++ [row]) = db') :=
  Schema.insertOrIgnore_ok

@[simp] theorem updateRows_ok {t : Table} {selects : Row t → Bool} {change : Row t → Row t}
    {a : Unit} {db db' : Db} :
    updateRows t selects change db = .ok (a, db') ↔
      db.modify t (·.map fun row => if selects row then change row else row) = db' :=
  Schema.update_ok

@[simp] theorem leaseLost_ok {α : Type} {a : α} {db db' : Db} :
    (leaseLost : Tx α) db = .ok (a, db') ↔ False :=
  Txn.raise_ok

/-- A loop of inserts into one table adds no row that shares a key with an older one. -/
theorem forEach_insertRow_fresh {γ : Type} {t : Table} {row : Nat → γ → Row t} {k : Nat}
    {xs : List γ} {a : Unit} {db db' : Db}
    (h : Txn.forEach (fun i x => insertRow t (row i x)) k xs db = .ok (a, db')) :
    ∀ old ∈ db t, ∀ r ∈ (xs.zipIdx k).map (fun p => row p.2 p.1), conflicts t r old = false := by
  induction xs generalizing k db with
  | nil => exact fun _ _ _ hr => absurd hr List.not_mem_nil
  | cons x xs ih =>
      unfold Txn.forEach at h
      rw [Txn.bind_ok] at h
      obtain ⟨_, db₁, hinsert, h⟩ := h
      obtain ⟨hfresh, _, rfl⟩ := insertRow_ok.mp hinsert
      intro old hold r hr
      rw [List.zipIdx_cons, List.map_cons, List.mem_cons] at hr
      rcases hr with rfl | hr
      · exact hfresh old hold
      · refine ih h old ?_ r hr
        rw [Store.modify_same]
        exact List.mem_append_left _ hold

/-- A loop of inserts into one table appends its rows in order. -/
theorem forEach_insertRow_ok {γ : Type} {t : Table} {row : Nat → γ → Row t} {k : Nat} {xs : List γ}
    {a : Unit} {db db' : Db}
    (h : Txn.forEach (fun i x => insertRow t (row i x)) k xs db = .ok (a, db')) :
    db' t = db t ++ (xs.zipIdx k).map (fun p => row p.2 p.1) ∧ SameExcept [t] db db' := by
  induction xs generalizing k db with
  | nil =>
      obtain ⟨_, rfl⟩ := Txn.pure_ok.mp h
      exact ⟨(List.append_nil _).symm, sameExcept_refl _⟩
  | cons x xs ih =>
      unfold Txn.forEach at h
      rw [Txn.bind_ok] at h
      obtain ⟨_, db₁, hinsert, h⟩ := h
      obtain ⟨_, _, rfl⟩ := insertRow_ok.mp hinsert
      obtain ⟨hrows, hsame⟩ := ih h
      refine ⟨?_, sameExcept_trans _ _ _ (sameExcept_modify db (by simp) _) hsame⟩
      rw [hrows, Store.modify_same, List.append_assoc]
      rfl

/-- A loop of inserts into one table adds no two rows that share a key. -/
theorem forEach_insertRow_unique {γ : Type} {t : Table} {row : Nat → γ → Row t} {k : Nat}
    {xs : List γ} {a : Unit} {db db' : Db}
    (h : Txn.forEach (fun i x => insertRow t (row i x)) k xs db = .ok (a, db')) :
    ((xs.zipIdx k).map fun p => row p.2 p.1).Pairwise fun a b => conflicts t b a = false := by
  induction xs generalizing k db with
  | nil => exact List.Pairwise.nil
  | cons x xs ih =>
      unfold Txn.forEach at h
      rw [Txn.bind_ok] at h
      obtain ⟨_, db₁, hinsert, h⟩ := h
      obtain ⟨_, _, rfl⟩ := insertRow_ok.mp hinsert
      rw [List.zipIdx_cons, List.map_cons, List.pairwise_cons]
      refine ⟨fun r hr => ?_, ih h⟩
      exact forEach_insertRow_fresh h (row k x) (by simp) r hr

/-! ## The lease check -/

/-- The task row a lease check reads, and that it passes. -/
def Passes (taskId : Uuid) (passes : WorkflowTask → Bool) (w : WorkflowTask) (db : Db) : Prop :=
  (db .workflowTasks).find? (fun t => t.id = taskId) = some w ∧ passes w = true

theorem Passes.mem {taskId : Uuid} {passes : WorkflowTask → Bool} {w : WorkflowTask} {db : Db}
    (h : Passes taskId passes w db) : w ∈ db .workflowTasks ∧ w.id = taskId :=
  ⟨List.mem_of_find?_eq_some h.1, by simpa using List.find?_some h.1⟩

@[simp] theorem assertLease_ok {taskId : Uuid} {passes : WorkflowTask → Bool} {a : Unit}
    {db db' : Db} :
    assertLease taskId passes db = .ok (a, db') ↔
      db = db' ∧ ∃ w, Passes taskId passes w db := by
  unfold assertLease Passes
  rw [Txn.bind_ok]
  constructor
  · rintro ⟨r, db₁, hselect, h⟩
    obtain ⟨hfind, rfl⟩ := selectRow_ok.mp hselect
    cases r with
    | none => exact (leaseLost_ok.mp h).elim
    | some w =>
        by_cases hpass : passes w = true
        · simp only [hpass, if_true, Txn.pure_ok, true_and] at h
          exact ⟨h, w, hfind, hpass⟩
        · simp only [hpass, if_false, leaseLost_ok, Bool.false_eq_true] at h
  · rintro ⟨rfl, w, hfind, hpass⟩
    refine ⟨some w, db, selectRow_ok.mpr ⟨hfind, rfl⟩, ?_⟩
    simp [hpass]

@[simp] theorem assertCurrentLease_ok {key : LeaseKey} {a : Unit} {db db' : Db} :
    assertCurrentLease key db = .ok (a, db') ↔
      db = db' ∧ ∃ w, Passes key.taskId (holdsLease key) w db :=
  assertLease_ok

/-- The check of a lease that no row holds raises. -/
theorem assertLease_lost {taskId : Uuid} {passes : WorkflowTask → Bool} {db : Db}
    (h : ∀ w, ¬ Passes taskId passes w db) : assertLease taskId passes db = .error .taskLeaseLost := by
  unfold assertLease
  rw [selectRow_run]
  cases hfind : (db .workflowTasks).find? (fun w => w.id = taskId) with
  | none => rfl
  | some w =>
      have hpass : passes w = false := by
        by_contra hne
        exact h w ⟨hfind, by simpa using hne⟩
      simp only [hpass]
      rfl

/-! ## Task rows -/

/-- A row after a claim under the key. -/
def startTask (env : TxnEnv) (key : LeaseKey) (leaseSeconds : Nat) (w : WorkflowTask) :
    WorkflowTask :=
  if w.id = key.taskId then
    { w with
      state := .running
      currentAttempt := key.attempt
      leaseOwner := some key.workerId
      leaseExpiresAt := some (env.now + seconds leaseSeconds) }
  else w

/-- A row after its attempt ended. -/
def endTask (key : LeaseKey) (state : TaskState) (notBefore : WorkflowTask → Option Instant)
    (w : WorkflowTask) : WorkflowTask :=
  if w.id = key.taskId ∧ w.currentAttempt = key.attempt ∧ w.leaseOwner = some key.workerId then
    { w with state, notBefore := notBefore w, leaseOwner := none, leaseExpiresAt := none }
  else w

/-- The attempt row of a claim under the key. -/
def startedAttempt (key : LeaseKey) : WorkflowTaskAttempt :=
  ⟨key.taskId, key.attempt, .running, key.workerId⟩

/-- An attempt row after the attempt of the key ended. -/
def endAttempt (key : LeaseKey) (state : TaskState) (a : WorkflowTaskAttempt) :
    WorkflowTaskAttempt :=
  if a.taskId = key.taskId ∧ a.attempt = key.attempt ∧ a.leaseOwner = key.workerId then
    { a with state }
  else a

theorem startAttempt_ok {env : TxnEnv} {key : LeaseKey} {leaseSeconds : Nat} {a : Unit}
    {db db' : Db} (h : startAttempt env key leaseSeconds db = .ok (a, db')) :
    db' .workflowTasks = (db .workflowTasks).map (startTask env key leaseSeconds) ∧
      db' .workflowTaskAttempts = db .workflowTaskAttempts ++ [startedAttempt key] ∧
      SameExcept [.workflowTasks, .workflowTaskAttempts] db db' := by
  simp only [startAttempt, Txn.bind_ok, updateRows_ok, insertRow_ok] at h
  obtain ⟨_, _, rfl, _, _, rfl⟩ := h
  refine ⟨?_, ?_, ?_⟩
  · simp [startTask]
  · simp [startedAttempt]
  · intro t ht
    simp only [List.mem_cons, List.not_mem_nil, or_false, not_or] at ht
    simp [ht]

theorem closeTask_ok {key : LeaseKey} {state : TaskState}
    {notBefore : WorkflowTask → Option Instant} {a : Unit} {db db' : Db}
    (h : closeTask key state notBefore db = .ok (a, db')) :
    db' .workflowTasks = (db .workflowTasks).map (endTask key state notBefore) ∧
      db' .workflowTaskAttempts = (db .workflowTaskAttempts).map (endAttempt key state) ∧
      SameExcept [.workflowTasks, .workflowTaskAttempts] db db' := by
  simp only [closeTask, Txn.bind_ok, updateRows_ok] at h
  obtain ⟨_, _, rfl, rfl⟩ := h
  refine ⟨?_, ?_, ?_⟩
  · simp [endTask]
  · simp [endAttempt]
  · intro t ht
    simp only [List.mem_cons, List.not_mem_nil, or_false, not_or] at ht
    simp [ht]

/-- What an emission may have appended: nothing when the task exists, else the
task under a fresh identifier. -/
def Added (task : WorkflowTask) (tasks new : List WorkflowTask) : Prop :=
  (new = [] ∧ ∃ w ∈ tasks, sameTaskIdentity task w = true) ∨
    (new = [task] ∧ ∀ w ∈ tasks, w.id ≠ task.id ∧ sameTaskIdentity task w = false)

theorem emitTask_ok {task : WorkflowTask} {a : Unit} {db db' : Db}
    (h : emitTask task db = .ok (a, db')) :
    (∃ new, Added task (db .workflowTasks) new ∧
      db' .workflowTasks = db .workflowTasks ++ new) ∧ SameExcept [.workflowTasks] db db' := by
  simp only [emitTask, insertOrIgnoreRow_ok] at h
  rcases h with ⟨hexists, rfl⟩ | ⟨hnone, hfresh, _, rfl⟩
  · refine ⟨⟨[], Or.inl ⟨rfl, ?_⟩, (List.append_nil _).symm⟩, sameExcept_refl _⟩
    simpa using hexists
  · refine ⟨⟨[task], Or.inr ⟨rfl, ?_⟩, by simp⟩, ?_⟩
    · intro w hw
      have hconflict := hfresh w hw
      have hidentity : sameTaskIdentity task w = false := by
        simp only [List.any_eq_false, Bool.not_eq_true] at hnone
        exact hnone w hw
      simp only [conflicts, decide_eq_false_iff_not, not_or] at hconflict
      exact ⟨fun heq => hconflict.1 heq.symm, hidentity⟩
    · exact sameExcept_modify _ (by simp) _

/-! ## Events -/

/-- The invoice row a lock reads. -/
def findInvoice (db : Db) (invoiceId : Uuid) : Option Invoice :=
  (db .invoices).find? fun i => i.id = invoiceId

theorem findInvoice_mem {db : Db} {invoiceId : Uuid} {i : Invoice}
    (h : findInvoice db invoiceId = some i) : i ∈ db .invoices ∧ i.id = invoiceId :=
  ⟨List.mem_of_find?_eq_some h, by simpa using List.find?_some h⟩

theorem findInvoice_map {db db' : Db} {invoiceId : Uuid} {f : Invoice → Invoice}
    (hf : db' .invoices = (db .invoices).map f) (hid : ∀ i, (f i).id = i.id) :
    findInvoice db' invoiceId = (findInvoice db invoiceId).map f := by
  unfold findInvoice
  rw [hf, List.find?_map]
  congr 1
  refine congrArg (fun p => List.find? p (db .invoices)) (funext fun i => ?_)
  simp [hid i]

/-- How a transaction advances an invoice row, apart from what follows from the
events it publishes. -/
structure Advance where
  intakeState : IntakeState
  activeClaimSetVersion : Option Nat := none
  /-- how many times it locks and advances the row -/
  locks : Nat := 1

/-- The aggregate status that events leave behind. -/
def statusAfter (events : List InvoiceEvent) (status : InvoiceStatus) : InvoiceStatus :=
  (events.getLast?.map InvoiceEvent.aggregateStatus).getD status

/-- An invoice row after an advance that publishes events. -/
def advanceInvoice (invoiceId : Uuid) (a : Advance) (events : List InvoiceEvent) (i : Invoice) :
    Invoice :=
  if i.id = invoiceId then
    { i with
      intakeState := a.intakeState
      aggregateStatus := statusAfter events i.aggregateStatus
      status := statusAfter events i.status
      statusSequence := i.statusSequence + events.length
      rowVersion := i.rowVersion + a.locks
      activeClaimSetVersion := a.activeClaimSetVersion.or i.activeClaimSetVersion }
  else i

@[simp] theorem advanceInvoice_id (invoiceId : Uuid) (a : Advance) (events : List InvoiceEvent)
    (i : Invoice) : (advanceInvoice invoiceId a events i).id = i.id := by
  unfold advanceInvoice
  split <;> rfl

theorem statusAfter_append (es₁ es₂ : List InvoiceEvent) (status : InvoiceStatus) :
    statusAfter (es₁ ++ es₂) status = statusAfter es₂ (statusAfter es₁ status) := by
  unfold statusAfter
  rw [List.getLast?_append]
  cases es₂.getLast? <;> simp

/-- The advance of two transactions' worth of statements. -/
def Advance.followedBy (a b : Advance) : Advance :=
  ⟨b.intakeState, b.activeClaimSetVersion.or a.activeClaimSetVersion, a.locks + b.locks⟩

theorem advanceInvoice_followedBy (invoiceId : Uuid) (a b : Advance)
    (es₁ es₂ : List InvoiceEvent) (i : Invoice) :
    advanceInvoice invoiceId b es₂ (advanceInvoice invoiceId a es₁ i) =
      advanceInvoice invoiceId (a.followedBy b) (es₁ ++ es₂) i := by
  by_cases h : i.id = invoiceId
  · simp only [advanceInvoice, h, if_true, statusAfter_append, List.length_append,
      Advance.followedBy, Option.or_assoc, Nat.add_assoc]
  · simp only [advanceInvoice, h, if_false]

/-- The pending outbox row of an event. -/
def PendingRow (e : InvoiceEvent) (o : EventOutbox) : Prop :=
  o.eventId = e.id ∧ o.state = .pending ∧ o.availableAt = e.occurredAt ∧ o.leaseExpiresAt = none

/-- A transaction appends events of one invoice, numbered on from its row, each
with a pending outbox row. -/
structure Emits (env : TxnEnv) (invoiceId : Uuid) (advance : Advance)
    (events : List InvoiceEvent) (db db' : Db) : Prop where
  numbers : ∃ i, findInvoice db invoiceId = some i ∧
    events.map InvoiceEvent.sequence = List.range' (i.statusSequence + 1) events.length
  invoices : db' .invoices = (db .invoices).map (advanceInvoice invoiceId advance events)
  log : db' .invoiceEvents = db .invoiceEvents ++ events
  outbox : ∃ rows, db' .eventOutbox = db .eventOutbox ++ rows ∧
    List.Forall₂ PendingRow events rows
  members : ∀ e ∈ events, e.invoiceId = invoiceId ∧ e.occurredAt = env.now
  fresh : ∀ e ∈ events, ∀ e' ∈ db .invoiceEvents, e'.id ≠ e.id
  distinct : (events.map InvoiceEvent.id).Nodup

/-- The tables an emission writes. -/
def emitTables : List Table := [.invoices, .invoiceEvents, .eventOutbox]

theorem lockInvoiceAndAdvance_ok {invoiceId : Uuid} {intakeState : IntakeState}
    {status : InvoiceStatus} {count : Nat} {active : Option Nat} {sequence : Nat} {db db' : Db}
    (h : lockInvoiceAndAdvance invoiceId intakeState status count active db =
      .ok (sequence, db')) :
    (∃ i, findInvoice db invoiceId = some i ∧ sequence = i.statusSequence + 1) ∧
      (∀ events : List InvoiceEvent, events.length = count →
        (∀ s, statusAfter events s = status) →
        db' .invoices =
          (db .invoices).map (advanceInvoice invoiceId ⟨intakeState, active, 1⟩ events)) ∧
      SameExcept [.invoices] db db' := by
  unfold lockInvoiceAndAdvance at h
  obtain ⟨r, db₁, hselect, h⟩ := Txn.bind_ok.mp h
  obtain ⟨hfind, rfl⟩ := selectRow_ok.mp hselect
  cases r with
  | none => exact (Txn.raise_ok.mp h).elim
  | some i =>
      obtain ⟨_, db₂, hupdate, hpure⟩ := Txn.bind_ok.mp h
      obtain ⟨rfl, rfl⟩ := Txn.pure_ok.mp hpure
      have hupdated := updateRows_ok.mp hupdate
      refine ⟨⟨i, hfind, rfl⟩, ?_, ?_⟩
      · intro events hlength hstatus
        rw [← hupdated, Store.modify_same]
        refine List.map_congr_left fun j _ => ?_
        simp only [advanceInvoice, hlength, hstatus, decide_eq_true_eq]
      · rw [← hupdated]
        exact sameExcept_modify _ (by simp) _

theorem insertEventRow_ok {e : InvoiceEvent} {outboxId : Uuid} {a : Unit} {db db' : Db}
    (h : insertEventRow e outboxId db = .ok (a, db')) :
    (∀ e' ∈ db .invoiceEvents, e'.id ≠ e.id) ∧
      db' .invoiceEvents = db .invoiceEvents ++ [e] ∧
      (∃ o, PendingRow e o ∧ db' .eventOutbox = db .eventOutbox ++ [o]) ∧
      SameExcept [.invoiceEvents, .eventOutbox] db db' := by
  simp only [insertEventRow, Txn.bind_ok, insertRow_ok] at h
  obtain ⟨_, _, ⟨hfresh, _, rfl⟩, _, _, rfl⟩ := h
  refine ⟨?_, by simp, ⟨⟨outboxId, e.invoiceId, e.id, .pending, e.occurredAt, none, 0⟩,
    ⟨rfl, rfl, rfl, rfl⟩, by simp⟩, ?_⟩
  · intro e' he'
    have hconflict := hfresh e' he'
    simp only [conflicts, decide_eq_false_iff_not, not_or] at hconflict
    exact fun heq => hconflict.1 heq.symm
  · intro t ht
    simp only [List.mem_cons, List.not_mem_nil, or_false, not_or] at ht
    simp [ht]

/-- One reserved number, one event under it. -/
theorem emits_one (env : TxnEnv) {invoiceId : Uuid} {intakeState : IntakeState}
    {status : InvoiceStatus} {active : Option Nat} {sequence : Nat} {e : InvoiceEvent}
    {outboxId : Uuid} {a : Unit} {db db₁ db₂ : Db}
    (hlock : lockInvoiceAndAdvance invoiceId intakeState status 1 active db = .ok (sequence, db₁))
    (hinsert : insertEventRow e outboxId db₁ = .ok (a, db₂))
    (he : e.invoiceId = invoiceId ∧ e.sequence = sequence ∧ e.occurredAt = env.now ∧
      e.aggregateStatus = status) :
    Emits env invoiceId ⟨intakeState, active, 1⟩ [e] db db₂ ∧ SameExcept emitTables db db₂ := by
  obtain ⟨⟨i, hi, rfl⟩, hinvoices, hsame₁⟩ := lockInvoiceAndAdvance_ok hlock
  obtain ⟨hfresh, hlog, ⟨o, ho, houtbox⟩, hsame₂⟩ := insertEventRow_ok hinsert
  have hevents := hsame₁ .invoiceEvents (by decide)
  have hrows := hsame₁ .eventOutbox (by decide)
  refine ⟨⟨⟨i, hi, by simp [he.2.1]⟩, ?_, ?_, ⟨[o], ?_, ?_⟩, ?_, ?_, ?_⟩, ?_⟩
  · rw [hsame₂ .invoices (by decide)]
    exact hinvoices [e] rfl fun _ => he.2.2.2
  · rw [hlog, hevents]
  · rw [houtbox, hrows]
  · exact List.Forall₂.cons ho List.Forall₂.nil
  · intro e' he'
    rw [List.mem_singleton.mp he']
    exact ⟨he.1, he.2.2.1⟩
  · intro e' he'
    rw [List.mem_singleton.mp he', ← hevents]
    exact hfresh
  · simp
  · intro t ht
    simp only [emitTables, List.mem_cons, List.not_mem_nil, or_false, not_or] at ht
    rw [hsame₂ t (by simp [ht]), hsame₁ t (by simp [ht])]

/-- Two reserved numbers, two events under them. -/
theorem emits_two (env : TxnEnv) {invoiceId : Uuid} {intakeState : IntakeState}
    {status : InvoiceStatus} {active : Option Nat} {sequence : Nat} {e₁ e₂ : InvoiceEvent}
    {outboxId₁ outboxId₂ : Uuid} {a b : Unit} {db db₁ db₂ db₃ : Db}
    (hlock : lockInvoiceAndAdvance invoiceId intakeState status 2 active db = .ok (sequence, db₁))
    (hinsert₁ : insertEventRow e₁ outboxId₁ db₁ = .ok (a, db₂))
    (hinsert₂ : insertEventRow e₂ outboxId₂ db₂ = .ok (b, db₃))
    (he₁ : e₁.invoiceId = invoiceId ∧ e₁.sequence = sequence ∧ e₁.occurredAt = env.now)
    (he₂ : e₂.invoiceId = invoiceId ∧ e₂.sequence = sequence + 1 ∧ e₂.occurredAt = env.now ∧
      e₂.aggregateStatus = status) :
    Emits env invoiceId ⟨intakeState, active, 1⟩ [e₁, e₂] db db₃ ∧
      SameExcept emitTables db db₃ := by
  obtain ⟨⟨i, hi, rfl⟩, hinvoices, hsame₁⟩ := lockInvoiceAndAdvance_ok hlock
  obtain ⟨hfresh₁, hlog₁, ⟨o₁, ho₁, houtbox₁⟩, hsame₂⟩ := insertEventRow_ok hinsert₁
  obtain ⟨hfresh₂, hlog₂, ⟨o₂, ho₂, houtbox₂⟩, hsame₃⟩ := insertEventRow_ok hinsert₂
  have hevents := hsame₁ .invoiceEvents (by decide)
  have hrows := hsame₁ .eventOutbox (by decide)
  rw [hlog₁, hevents] at hfresh₂ hlog₂
  rw [hevents] at hfresh₁
  have hne : e₁.id ≠ e₂.id := hfresh₂ e₁ (by simp)
  refine ⟨⟨⟨i, hi, ?_⟩, ?_, ?_, ⟨[o₁, o₂], ?_, ?_⟩, ?_, ?_, ?_⟩, ?_⟩
  · simp [he₁.2.1, he₂.2.1, List.range'_succ]
  · rw [hsame₃ .invoices (by decide), hsame₂ .invoices (by decide)]
    exact hinvoices [e₁, e₂] rfl fun _ => he₂.2.2.2
  · rw [hlog₂, List.append_assoc]
    rfl
  · rw [houtbox₂, houtbox₁, hrows, List.append_assoc]
    rfl
  · exact List.Forall₂.cons ho₁ (List.Forall₂.cons ho₂ List.Forall₂.nil)
  · intro e he
    simp only [List.mem_cons, List.not_mem_nil, or_false] at he
    rcases he with rfl | rfl
    · exact ⟨he₁.1, he₁.2.2⟩
    · exact ⟨he₂.1, he₂.2.2.1⟩
  · intro e he e' he'
    simp only [List.mem_cons, List.not_mem_nil, or_false] at he
    rcases he with rfl | rfl
    · exact hfresh₁ e' he'
    · exact hfresh₂ e' (by simp [he'])
  · simp [hne]
  · intro t ht
    simp only [emitTables, List.mem_cons, List.not_mem_nil, or_false, not_or] at ht
    rw [hsame₃ t (by simp [ht]), hsame₂ t (by simp [ht]), hsame₁ t (by simp [ht])]

/-- Emissions of one invoice one after the other. -/
theorem Emits.trans {env : TxnEnv} {invoiceId : Uuid} {a b : Advance}
    {es₁ es₂ : List InvoiceEvent} {db db₁ db₂ : Db} (h₁ : Emits env invoiceId a es₁ db db₁)
    (h₂ : Emits env invoiceId b es₂ db₁ db₂) :
    Emits env invoiceId (a.followedBy b) (es₁ ++ es₂) db db₂ := by
  obtain ⟨i, hi, hnumbers₁⟩ := h₁.numbers
  obtain ⟨j, hj, hnumbers₂⟩ := h₂.numbers
  obtain ⟨rows₁, hrows₁, hpending₁⟩ := h₁.outbox
  obtain ⟨rows₂, hrows₂, hpending₂⟩ := h₂.outbox
  have hji : j = advanceInvoice invoiceId a es₁ i := by
    rw [findInvoice_map h₁.invoices (advanceInvoice_id invoiceId a es₁), hi] at hj
    exact (Option.some.inj hj).symm
  have hseq : j.statusSequence = i.statusSequence + es₁.length := by
    rw [hji, advanceInvoice, if_pos (findInvoice_mem hi).2]
  refine ⟨⟨i, hi, ?_⟩, ?_, ?_, ⟨rows₁ ++ rows₂, ?_, ?_⟩, ?_, ?_, ?_⟩
  · rw [List.map_append, hnumbers₁, hnumbers₂, hseq, List.length_append,
      show i.statusSequence + es₁.length + 1 = i.statusSequence + 1 + es₁.length by omega,
      List.range'_append_1]
  · rw [h₂.invoices, h₁.invoices, List.map_map]
    exact List.map_congr_left fun k _ => advanceInvoice_followedBy invoiceId a b es₁ es₂ k
  · rw [h₂.log, h₁.log, List.append_assoc]
  · rw [hrows₂, hrows₁, List.append_assoc]
  · exact List.rel_append hpending₁ hpending₂
  · intro e he
    rcases List.mem_append.mp he with he | he
    · exact h₁.members e he
    · exact h₂.members e he
  · intro e he e' he'
    rcases List.mem_append.mp he with he | he
    · exact h₁.fresh e he e' he'
    · refine h₂.fresh e he e' ?_
      rw [h₁.log]
      exact List.mem_append_left _ he'
  · rw [List.map_append, List.nodup_append]
    refine ⟨h₁.distinct, h₂.distinct, ?_⟩
    intro a ha b hb
    obtain ⟨x, hx, rfl⟩ := List.mem_map.mp ha
    obtain ⟨y, hy, rfl⟩ := List.mem_map.mp hb
    refine h₂.fresh y hy x ?_
    rw [h₁.log]
    exact List.mem_append_right _ hx

/-- An emission between statements that leave its tables alone. -/
theorem Emits.within {env : TxnEnv} {invoiceId : Uuid} {a : Advance}
    {es : List InvoiceEvent} {tables tables' : List Table} {db db₁ db₂ db' : Db}
    (h : Emits env invoiceId a es db₁ db₂) (hbefore : SameExcept tables db db₁)
    (hafter : SameExcept tables' db₂ db') (htables : ∀ t ∈ emitTables, t ∉ tables)
    (htables' : ∀ t ∈ emitTables, t ∉ tables') : Emits env invoiceId a es db db' := by
  have hinvoices := hbefore .invoices (htables _ (by decide))
  have hevents := hbefore .invoiceEvents (htables _ (by decide))
  have houtbox := hbefore .eventOutbox (htables _ (by decide))
  obtain ⟨i, hi, hnumbers⟩ := h.numbers
  obtain ⟨rows, hrows, hpending⟩ := h.outbox
  refine ⟨⟨i, ?_, hnumbers⟩, ?_, ?_, ⟨rows, ?_, hpending⟩, h.members, ?_,
    h.distinct⟩
  · unfold findInvoice at hi ⊢
    rw [← hi, hinvoices]
  · rw [hafter .invoices (htables' _ (by decide)), h.invoices, hinvoices]
  · rw [hafter .invoiceEvents (htables' _ (by decide)), h.log, hevents]
  · rw [hafter .eventOutbox (htables' _ (by decide)), hrows, houtbox]
  · intro e he e' he'
    rw [← hevents] at he'
    exact h.fresh e he e' he'

/-! ## The end of an attempt -/

/-- The tables of a task and its attempts. -/
def taskTables : List Table := [.workflowTasks, .workflowTaskAttempts]

/-- The end of an attempt: the row it holds, closed, and the tasks it adds. -/
structure Ends (key : LeaseKey) (w : WorkflowTask) (state : TaskState)
    (new : List WorkflowTask) (db db' : Db) : Prop where
  holds : Passes key.taskId (holdsLease key) w db
  tasks : ∃ notBefore,
    db' .workflowTasks = (db .workflowTasks).map (endTask key state notBefore) ++ new
  attempts : db' .workflowTaskAttempts = (db .workflowTaskAttempts).map (endAttempt key state)

/-- A closed attempt without a new task. -/
theorem ends_of_close {key : LeaseKey} {w : WorkflowTask} {state : TaskState}
    {notBefore : WorkflowTask → Option Instant} {tables tables' : List Table} {a : Unit}
    {db db₁ db₂ db' : Db} (hholds : Passes key.taskId (holdsLease key) w db)
    (hbefore : SameExcept tables db db₁) (hclose : closeTask key state notBefore db₁ = .ok (a, db₂))
    (hafter : SameExcept tables' db₂ db') (htables : ∀ t ∈ taskTables, t ∉ tables)
    (htables' : ∀ t ∈ taskTables, t ∉ tables') : Ends key w state [] db db' := by
  obtain ⟨htasks, hattempts, _⟩ := closeTask_ok hclose
  refine ⟨hholds, ⟨notBefore, ?_⟩, ?_⟩
  · rw [hafter _ (htables' _ (by decide)), htasks, hbefore _ (htables _ (by decide)),
      List.append_nil]
  · rw [hafter _ (htables' _ (by decide)), hattempts, hbefore _ (htables _ (by decide))]

@[simp] theorem endTask_id (key : LeaseKey) (state : TaskState)
    (notBefore : WorkflowTask → Option Instant) (w : WorkflowTask) :
    (endTask key state notBefore w).id = w.id := by
  unfold endTask
  split <;> rfl

theorem sameTaskIdentity_endTask (task : WorkflowTask) (key : LeaseKey) (state : TaskState)
    (notBefore : WorkflowTask → Option Instant) (w : WorkflowTask) :
    sameTaskIdentity task (endTask key state notBefore w) = sameTaskIdentity task w := by
  unfold endTask
  split <;> rfl

/-- Closing an attempt changes no identity an emission looks at. -/
theorem added_of_endTask {task : WorkflowTask} {key : LeaseKey} {state : TaskState}
    {notBefore : WorkflowTask → Option Instant} {tasks new : List WorkflowTask}
    (h : Added task (tasks.map (endTask key state notBefore)) new) : Added task tasks new := by
  rcases h with ⟨rfl, w, hw, hsame⟩ | ⟨rfl, hfresh⟩
  · obtain ⟨v, hv, rfl⟩ := List.mem_map.mp hw
    rw [sameTaskIdentity_endTask] at hsame
    exact Or.inl ⟨rfl, v, hv, hsame⟩
  · refine Or.inr ⟨rfl, fun v hv => ?_⟩
    have hv' := hfresh _ (List.mem_map_of_mem hv)
    rwa [endTask_id, sameTaskIdentity_endTask] at hv'

/-- A closed attempt with an emitted task. -/
theorem ends_of_emit {key : LeaseKey} {w task : WorkflowTask} {state : TaskState}
    {notBefore : WorkflowTask → Option Instant} {tables middle tables' : List Table} {a b : Unit}
    {db db₁ db₂ db₃ db₄ db' : Db} (hholds : Passes key.taskId (holdsLease key) w db)
    (hbefore : SameExcept tables db db₁) (hclose : closeTask key state notBefore db₁ = .ok (a, db₂))
    (hmiddle : SameExcept middle db₂ db₃) (hemit : emitTask task db₃ = .ok (b, db₄))
    (hafter : SameExcept tables' db₄ db') (htables : ∀ t ∈ taskTables, t ∉ tables)
    (hmiddle' : ∀ t ∈ taskTables, t ∉ middle) (htables' : ∀ t ∈ taskTables, t ∉ tables') :
    ∃ new, Ends key w state new db db' ∧
      Added task (db .workflowTasks) new := by
  obtain ⟨⟨new, hadded, htasks⟩, hsame⟩ := emitTask_ok hemit
  obtain ⟨hrows, hattempts, _⟩ := closeTask_ok hclose
  have hclosed : db₃ .workflowTasks = (db .workflowTasks).map (endTask key state notBefore) := by
    rw [hmiddle _ (hmiddle' _ (by decide)), hrows, hbefore _ (htables _ (by decide))]
  rw [hclosed] at hadded htasks
  refine ⟨new, ⟨hholds, ⟨notBefore, ?_⟩, ?_⟩, added_of_endTask hadded⟩
  · rw [hafter _ (htables' _ (by decide)), htasks]
  · rw [hafter _ (htables' _ (by decide)), hsame _ (by decide),
      hmiddle _ (hmiddle' _ (by decide)), hattempts, hbefore _ (htables _ (by decide))]

/-- The tables a claim or a failed attempt writes. -/
def claimTables : List Table := taskTables ++ emitTables

/-- A closed attempt whose end is published as one event. -/
theorem ends_published (env : TxnEnv) {key : LeaseKey} {w : WorkflowTask} {state : TaskState}
    {notBefore : WorkflowTask → Option Instant} {invoiceId : Uuid} {intakeState : IntakeState}
    {status : InvoiceStatus} {sequence : Nat} {e : InvoiceEvent} {outboxId : Uuid} {a b : Unit}
    {db db₁ db₂ db' : Db} (hholds : Passes key.taskId (holdsLease key) w db)
    (hclose : closeTask key state notBefore db = .ok (a, db₁))
    (hlock : lockInvoiceAndAdvance invoiceId intakeState status 1 none db₁ = .ok (sequence, db₂))
    (hinsert : insertEventRow e outboxId db₂ = .ok (b, db'))
    (he : e.invoiceId = invoiceId ∧ e.sequence = sequence ∧ e.occurredAt = env.now ∧
      e.aggregateStatus = status) :
    SameExcept claimTables db db' ∧ Ends key w state [] db db' ∧
      Emits env invoiceId ⟨intakeState, none, 1⟩ [e] db db' := by
  obtain ⟨hemits, hsame⟩ := emits_one env hlock hinsert he
  have hclosed := (closeTask_ok hclose).2.2
  refine ⟨?_, ends_of_close hholds (untouched _) hclose hsame (by decide)
    (by decide), hemits.within hclosed (untouched _) (by decide) (by decide)⟩
  intro t ht
  simp only [claimTables, List.mem_append, not_or] at ht
  rw [hsame t ht.2, hclosed t ht.1]

theorem failTask_ok {env : TxnEnv} {key : LeaseKey} {retryable : Bool} {terminal state : TaskState}
    {db db' : Db} (h : failTask env key retryable terminal db = .ok (state, db')) :
    state = (if willRetry key retryable then .retryWait else terminal) ∧
      ∃ notBefore a, closeTask key state notBefore db = .ok (a, db') := by
  unfold failTask at h
  rw [Txn.bind_ok] at h
  obtain ⟨a, db₁, hclose, h⟩ := h
  obtain ⟨rfl, rfl⟩ := Txn.pure_ok.mp h
  exact ⟨rfl, _, a, hclose⟩

/-- A retry is scheduled only below the bound. -/
theorem failTask_state {key : LeaseKey} {retryable : Bool} {terminal state : TaskState}
    (h : state = if willRetry key retryable then .retryWait else terminal) :
    (state = .retryWait ∧ key.attempt < maxAutomaticAttempts) ∨ state = terminal := by
  by_cases hretry : willRetry key retryable = true
  · rw [if_pos hretry] at h
    unfold willRetry at hretry
    rw [decide_eq_true_eq] at hretry
    exact Or.inl ⟨h, hretry.2⟩
  · rw [if_neg hretry] at h
    exact Or.inr h

end Tally.Analysis.Effects
