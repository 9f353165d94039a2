import Tally.Analysis.Lineage

/-!
# Operator retries

A retry adds the next version of a failed extraction and answers the request of its key.
The answer stays: every later call under the key with the same request reads it back.
The versions of an invoice's extraction count from one, and every one but the latest
has failed.
-/

set_option autoImplicit false

namespace Tally.Analysis.Retries
open Library Library.Calendar Tally.Model IntakeTasks Effects Pipeline

/-! ## Versions -/

/-- The extractions of an invoice, in the order of their insertion. -/
def extractionsOf (tasks : List WorkflowTask) (invoiceId : Uuid) : List WorkflowTask :=
  tasks.filter fun t => t.invoiceId = invoiceId ∧ t.taskType = .extractInvoiceClaims

/-- The versions of every invoice's extraction count from one. -/
def Versioned (tasks : List WorkflowTask) : Prop :=
  ∀ invoiceId, (extractionsOf tasks invoiceId).map WorkflowTask.taskVersion =
    List.range' 1 (extractionsOf tasks invoiceId).length

theorem mem_extractionsOf {tasks : List WorkflowTask} {invoiceId : Uuid} {t : WorkflowTask} :
    t ∈ extractionsOf tasks invoiceId ↔
      t ∈ tasks ∧ t.invoiceId = invoiceId ∧ t.taskType = .extractInvoiceClaims := by
  unfold extractionsOf
  rw [List.mem_filter, decide_eq_true_eq]

theorem extractionsOf_append (tasks new : List WorkflowTask) (invoiceId : Uuid) :
    extractionsOf (tasks ++ new) invoiceId =
      extractionsOf tasks invoiceId ++ extractionsOf new invoiceId :=
  List.filter_append _ _

theorem Versioned.moves {tasks : List WorkflowTask} (h : Versioned tasks)
    {f : WorkflowTask → WorkflowTask} (hf : Moves tasks f) : Versioned (tasks.map f) := by
  intro invoiceId
  have hrows : extractionsOf (tasks.map f) invoiceId = (extractionsOf tasks invoiceId).map f := by
    unfold extractionsOf
    rw [List.filter_map]
    congr 1
    refine List.filter_congr fun t ht => ?_
    rw [Function.comp_apply, (hf.same t ht).invoiceId, (hf.same t ht).taskType]
  rw [hrows, List.map_map, List.length_map, ← h invoiceId]
  refine List.map_congr_left fun t ht => ?_
  exact (hf.same t (mem_extractionsOf.mp ht).1).taskVersion

theorem Versioned.append {tasks new : List WorkflowTask} (h : Versioned tasks)
    (hnew : ∀ n ∈ new, n.taskType ≠ .extractInvoiceClaims) : Versioned (tasks ++ new) := by
  intro invoiceId
  have hnone : extractionsOf new invoiceId = [] := by
    unfold extractionsOf
    rw [List.filter_eq_nil_iff]
    intro n hn hmem
    exact hnew n hn (of_decide_eq_true hmem).2
  rw [extractionsOf_append, hnone, List.append_nil]
  exact h invoiceId

/-- The next version of an invoice, after its highest one. -/
theorem Versioned.append_next {tasks : List WorkflowTask} (h : Versioned tasks) {n : WorkflowTask}
    (htype : n.taskType = .extractInvoiceClaims)
    (hversion : n.taskVersion = (extractionsOf tasks n.invoiceId).length + 1) :
    Versioned (tasks ++ [n]) := by
  intro invoiceId
  rw [extractionsOf_append, List.map_append, h invoiceId]
  by_cases hinvoice : n.invoiceId = invoiceId
  · have hone : extractionsOf [n] invoiceId = [n] := by
      unfold extractionsOf
      rw [List.filter_singleton]
      simp [hinvoice, htype]
    rw [hinvoice] at hversion
    rw [hone, List.length_append, List.length_singleton, List.range'_concat, List.map_singleton,
      hversion, one_mul, Nat.add_comm 1]
  · have hnone : extractionsOf [n] invoiceId = [] := by
      unfold extractionsOf
      rw [List.filter_singleton]
      simp [hinvoice]
    rw [hnone, List.map_nil, List.append_nil, List.append_nil]

/-- The highest version counts the extractions of an invoice. -/
theorem Versioned.latest {tasks : List WorkflowTask} (h : Versioned tasks) {t : WorkflowTask}
    (ht : t ∈ tasks) (htype : t.taskType = .extractInvoiceClaims)
    (hmax : ∀ u ∈ tasks, u.invoiceId = t.invoiceId → u.taskType = .extractInvoiceClaims →
      u.taskVersion ≤ t.taskVersion) :
    t.taskVersion = (extractionsOf tasks t.invoiceId).length := by
  have hversions := h t.invoiceId
  have hmem : t ∈ extractionsOf tasks t.invoiceId := mem_extractionsOf.mpr ⟨ht, rfl, htype⟩
  have hpos : 0 < (extractionsOf tasks t.invoiceId).length := List.length_pos_of_mem hmem
  have hle : t.taskVersion ≤ (extractionsOf tasks t.invoiceId).length := by
    have hin : t.taskVersion ∈ (extractionsOf tasks t.invoiceId).map WorkflowTask.taskVersion :=
      List.mem_map_of_mem hmem
    rw [hversions, List.mem_range'_1] at hin
    omega
  have hge : (extractionsOf tasks t.invoiceId).length ≤ t.taskVersion := by
    have hlast : (extractionsOf tasks t.invoiceId).length ∈
        (extractionsOf tasks t.invoiceId).map WorkflowTask.taskVersion := by
      rw [hversions, List.mem_range'_1]
      omega
    obtain ⟨u, hu, hlength⟩ := List.mem_map.mp hlast
    obtain ⟨humem, huinvoice, hutype⟩ := mem_extractionsOf.mp hu
    have hbound := hmax u humem huinvoice hutype
    omega
  omega

theorem Versioned.step [Sha256] {o : Occasion} {p p' : State} (h : Versioned p.tasks)
    (hhealthy : Healthy p) (hstep : Step o p p') : Versioned p'.tasks := by
  have htasks := hhealthy.tasks
  have hended {t t' : WorkflowTask} {key : LeaseKey} {taskType : TaskType}
      {P : WorkflowTask → Prop} {new : List WorkflowTask} (hmem : t ∈ p.tasks)
      (hruns : RunsUnder key t) (hend : Ended .completed t t')
      (hnew : Follows p.tasks t taskType P new) (htype : taskType ≠ .extractInvoiceClaims) :
      Versioned (p.tasks.map (replaceTask t') ++ new) := by
    have hmoves := htasks.moves_replace hmem (running_active hruns.state) hend.toSameTask
    refine (h.moves hmoves).append fun n hn => ?_
    rcases hnew with rfl | ⟨m, rfl, _, hm, _⟩
    · exact absurd hn List.not_mem_nil
    · rwa [List.mem_singleton.mp hn, hm]
  cases hstep with
  | same => exact h
  | received n hnew htype hn =>
      refine h.append_next htype ?_
      have hnone : extractionsOf p.tasks n.invoiceId = [] := by
        rw [List.eq_nil_iff_forall_not_mem]
        intro u hu
        obtain ⟨hmem, hinvoice, _⟩ := mem_extractionsOf.mp hu
        exact (hnew u hmem).2 hinvoice
      rw [hnone, hn.2.2]
      rfl
  | started t t' key hmem hactive hstart hworker hsame hkey hrun =>
      exact h.moves (htasks.moves_replace hmem hactive hsame)
  | failed t t' key state hmem hruns htype hend hstate =>
      exact h.moves (htasks.moves_replace hmem (running_active hruns.state) hend.toSameTask)
  | retried t n hmem hfailed htype hlatest hnew hunstarted hn =>
      refine h.append_next hn.1 ?_
      rw [hn.2.2.1, hn.2.1, h.latest hmem htype hlatest]
  | extracted t t' key s new hmem hruns htype hend hinvoice hversion hfresh hnew =>
      exact hended hmem hruns hend hnew nofun
  | reconstructed t t' key rows new hmem hruns htype hend hrows =>
      rcases hrows with ⟨_, rfl⟩ | ⟨row, _, _, hnew⟩
      · have hnone : Follows p.tasks t .findApplicableRule (fun _ => True) [] := Or.inl rfl
        exact hended hmem hruns hend hnone nofun
      · exact hended hmem hruns hend hnew nofun
  | searched t t' key runs new hmem hruns htype hend hhands hnew =>
      exact hended hmem hruns hend hnew nofun
  | judged t t' key rows new hmem hruns htype hend hrows hnew =>
      exact hended hmem hruns hend hnew nofun
  | bound t t' key new hmem hruns htype hbinds hend hnew =>
      exact hended hmem hruns hend hnew nofun
  | released f hf hattempt => exact h.moves hf

/-! ## Requests -/

section Requests

variable [Sha256]

variable {invoiceId : Uuid} {idempotencyKey : String} {expectedRowVersion : Nat}

/-- A call whose request has an answer returns it and writes nothing. -/
theorem retry_of_answered {db : Db} {s : RetrySnapshot}
    (h : Answered db idempotencyKey invoiceId expectedRowVersion s) (env : TxnEnv)
    (initiatedBy : Option Uuid) (actorDisplay : String) :
    retryExtractionTask env invoiceId idempotencyKey expectedRowVersion initiatedBy actorDisplay
      db = .ok (⟨s.taskId, s.taskVersion, s.rowVersion, true⟩, db) := by
  have hmem := List.mem_of_find?_eq_some h
  have hany : (db .workflowRetryRequests).any
      (fun b => decide (idempotencyKey = b.idempotencyKey)) = true :=
    List.any_eq_true.mpr ⟨_, hmem, decide_eq_true rfl⟩
  unfold retryExtractionTask
  simp only [Bind.bindLeft]
  refine Txn.bind_ok.mpr ⟨(), db, insertOrIgnoreRow_ok.mpr (Or.inl ⟨hany, rfl⟩), ?_⟩
  refine Txn.bind_ok.mpr ⟨_, db, Txn.bind_ok.mpr ⟨_, db, selectRow_ok.mpr ⟨h, rfl⟩,
    Txn.orRaise_ok.mpr ⟨rfl, rfl⟩⟩, ?_⟩
  refine Txn.ite_ok.mpr (Or.inr ⟨?_, Txn.ite_ok.mpr (Or.inl ⟨rfl, ?_⟩)⟩)
  · rintro (hne | hne)
    · exact hne rfl
    · exact hne rfl
  · exact Txn.bind_ok.mpr ⟨s, db, Txn.orRaise_ok.mpr ⟨rfl, rfl⟩, Txn.pure_ok.mpr ⟨rfl, rfl⟩⟩

/-- The call that succeeds leaves its answer. -/
theorem answered_of_retry {env : TxnEnv} {initiatedBy : Option Uuid} {actorDisplay : String}
    {r : RetryResult} {db db' : Db}
    (h : retryExtractionTask env invoiceId idempotencyKey expectedRowVersion initiatedBy
      actorDisplay db = .ok (r, db')) :
    Answered db' idempotencyKey invoiceId expectedRowVersion
      ⟨r.taskId, r.taskVersion, r.rowVersion⟩ := by
  rcases (retryExtractionTask_ok h).2 with ⟨rfl, _, hanswered⟩ | ⟨hanswers, _⟩
  · exact hanswered
  · exact hanswers.answered

/-- A fresh retry returns the row version it commits. -/
theorem rowVersion_of_retry {env : TxnEnv} {initiatedBy : Option Uuid} {actorDisplay : String}
    {r : RetryResult} {db db' : Db}
    (h : retryExtractionTask env invoiceId idempotencyKey expectedRowVersion initiatedBy
      actorDisplay db = .ok (r, db')) (hfresh : r.replay = false) :
    ∃ i, findInvoice db' invoiceId = some i ∧ i.rowVersion = r.rowVersion := by
  rcases (retryExtractionTask_ok h).2 with ⟨_, hreplay, _⟩ | ⟨_, previous, task, sequence, hretries⟩
  · exact nomatch hfresh.symm.trans hreplay
  · obtain ⟨i, hfind, hr⟩ := hretries.result
    have hemits := hretries.emits
    rw [hretries.invoice] at hemits
    have hid := (findInvoice_mem hfind).2
    refine ⟨advanceInvoice invoiceId ⟨.received, none, 1⟩ [retryRequestedEvent env task sequence] i,
      ?_, ?_⟩
    · rw [findInvoice_map hemits.invoices (advanceInvoice_id _ _ _), hfind]
      rfl
    · unfold advanceInvoice
      rw [if_pos hid, hr]

variable [TzDatabase] [CharacterTables] {w w' : World}

/-- Only a retry writes requests, and it leaves answered ones alone. -/
theorem answered_step {env : TxnEnv} {c : Call} {s : RetrySnapshot}
    (h : Answered w.db idempotencyKey invoiceId expectedRowVersion s)
    (hstep : Transition w env c w') :
    Answered w'.db idempotencyKey invoiceId expectedRowVersion s := by
  have hsame {db : Db} (hrows : db .workflowRetryRequests = w.db .workflowRetryRequests) :
      Answered db idempotencyKey invoiceId expectedRowVersion s := by
    unfold Answered requestOf at h ⊢
    rw [hrows]
    exact h
  cases c with
  | retryExtraction invoice key version initiatedBy actorDisplay =>
      cases hstep with
      | refused => exact h
      | peripheral _ db hframe => exact hsame (hframe _ (by decide))
      | retried _ _ _ _ _ r db hok =>
          rcases (retryExtractionTask_ok hok).2 with ⟨rfl, _⟩ | ⟨hanswers, _⟩
          · exact h
          · have hne : idempotencyKey ≠ key := by
              rintro rfl
              exact hanswers.unanswered _ h rfl
            exact (hanswers.others idempotencyKey hne).trans h
  | _ => exact hsame (table_frame hstep rfl)

theorem answered_of_run {allowed : World → TxnEnv → Call → Prop} {s : RetrySnapshot}
    (h : Answered w.db idempotencyKey invoiceId expectedRowVersion s)
    (hrun : RunFrom allowed w w') :
    Answered w'.db idempotencyKey invoiceId expectedRowVersion s :=
  hrun.invariant (fun v => Answered v.db idempotencyKey invoiceId expectedRowVersion s) h
    fun _ _ _ _ hinv _ hstep => answered_step hinv hstep

end Requests

/-! ## Runs -/

section Runs

variable [Sha256] [TzDatabase] [CharacterTables]

/-- What a call of an operator does in a world, and what a repetition under its key does
after any further calls. -/
structure RetryContract (w : World) (env : TxnEnv) (invoiceId : Uuid) (idempotencyKey : String)
    (expectedRowVersion : Nat) (initiatedBy : Option Uuid) (actorDisplay : String) : Prop where
  /-- a fresh retry returns the row version it commits -/
  committed : ∀ r db, retryExtractionTask env invoiceId idempotencyKey expectedRowVersion
    initiatedBy actorDisplay w.db = .ok (r, db) → r.replay = false →
      ∃ i, findInvoice db invoiceId = some i ∧ i.rowVersion = r.rowVersion
  /-- the same request under the key returns the same, whatever happened in between -/
  repeated : ∀ r db, retryExtractionTask env invoiceId idempotencyKey expectedRowVersion
    initiatedBy actorDisplay w.db = .ok (r, db) → ∀ calls env' initiatedBy' actorDisplay',
      let w' := World.run { w with db } calls
      retryExtractionTask env' invoiceId idempotencyKey expectedRowVersion initiatedBy'
        actorDisplay' w'.db = .ok (⟨r.taskId, r.taskVersion, r.rowVersion, true⟩, w'.db)
  /-- a refused call leaves the world alone -/
  refused : ∀ e, (w.call env (.retryExtraction invoiceId idempotencyKey expectedRowVersion
    initiatedBy actorDisplay)).2 = some e → w.step env (.retryExtraction invoiceId idempotencyKey
      expectedRowVersion initiatedBy actorDisplay) = w

theorem retryContract (w : World) (env : TxnEnv) (invoiceId : Uuid) (idempotencyKey : String)
    (expectedRowVersion : Nat) (initiatedBy : Option Uuid) (actorDisplay : String) :
    RetryContract w env invoiceId idempotencyKey expectedRowVersion initiatedBy actorDisplay := by
  refine ⟨fun r db hok hfresh => rowVersion_of_retry hok hfresh, ?_, ?_⟩
  · intro r db hok calls env' initiatedBy' actorDisplay' w'
    have hanswered : Answered ({ w with db } : World).db idempotencyKey invoiceId expectedRowVersion
        ⟨r.taskId, r.taskVersion, r.rowVersion⟩ := answered_of_retry hok
    have hlater := answered_of_run hanswered (runFrom_run { w with db } calls)
    exact retry_of_answered hlater env' initiatedBy' actorDisplay'
  · intro e herror
    exact commit_refused herror

theorem versioned_of_run {allowed : World → TxnEnv → Call → Prop} {w : World}
    (h : Run allowed w) : Versioned (w.db .workflowTasks) :=
  pipeline_of_run (fun p => Versioned p.tasks) (fun _ => rfl)
    (fun _ _ _ _ hhealthy hinv _ hstep => Versioned.step hinv hhealthy hstep) h

/-- In every run: the extractions of an invoice have the versions one to their number;
all but the latest have failed, and at most one is still to end; and every call of an
operator keeps the contract of a retry. -/
theorem retries_idempotent (calls : List (TxnEnv × Call)) :
    let w := World.initial.run calls
    (∀ invoiceId, (extractionsOf (w.db .workflowTasks) invoiceId).map WorkflowTask.taskVersion =
      List.range' 1 (extractionsOf (w.db .workflowTasks) invoiceId).length) ∧
    (∀ invoiceId, ∀ t ∈ extractionsOf (w.db .workflowTasks) invoiceId,
      ∀ u ∈ extractionsOf (w.db .workflowTasks) invoiceId,
        (t.taskVersion < u.taskVersion → t.state = .failed) ∧
        (active t = true → active u = true → t = u)) ∧
    ∀ env invoiceId idempotencyKey expectedRowVersion initiatedBy actorDisplay,
      RetryContract w env invoiceId idempotencyKey expectedRowVersion initiatedBy actorDisplay := by
  intro w
  have hrun : Run (fun _ _ _ => True) w := runFrom_run World.initial calls
  have htasks : TasksInv (w.db .workflowTasks) := (healthy_of_run hrun).1.tasks
  refine ⟨versioned_of_run hrun, ?_, retryContract w⟩
  intro invoiceId t ht u hu
  obtain ⟨htmem, htinvoice, httype⟩ := mem_extractionsOf.mp ht
  obtain ⟨humem, huinvoice, hutype⟩ := mem_extractionsOf.mp hu
  have hinvoice : t.invoiceId = u.invoiceId := htinvoice.trans huinvoice.symm
  constructor
  · intro hlt
    rcases htasks.extractions t htmem u humem httype hutype hinvoice with
      hid | ⟨hfailed, _⟩ | ⟨_, hgt⟩
    · rw [htasks.eq_of_id htmem humem hid] at hlt
      omega
    · exact hfailed
    · omega
  · intro hactive hactive'
    exact htasks.eq_of_id htmem humem
      (htasks.oneActive t htmem u humem hactive hactive' hinvoice)

end Runs

end Tally.Analysis.Retries
