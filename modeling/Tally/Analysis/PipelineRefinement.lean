import Tally.Analysis.PipelineInvariants
import Tally.Analysis.Transitions

/-!
# The platform runs the pipeline

Every transition of the platform is a step of the pipeline: the rows that a
transaction closes under its lease are those of the one task the lease was handed
out for, and what it appends is what the pipeline hands over.
-/

set_option autoImplicit false

namespace Tally.Analysis.Pipeline
open Library Library.Calendar Tally.Model IntakeRepository IntakeTasks ReconstructionRepository
  ApplicableRuleRepository JudgmentRepository AccessEvidenceRepository Effects
open Library.Schema (SameExcept sameExcept_refl sameExcept_trans Appends)

/-! ## Leases and their tasks -/

/-- What a lease was handed out for is what its task says. -/
def Agrees (t : WorkflowTask) : Lease → Prop
  | .extraction l => t.taskType = .extractInvoiceClaims ∧ t.invoiceId = l.invoiceId
  | .reconstruction l => t.taskType = .startReconstruction ∧ t.invoiceId = l.invoiceId
  | .rule l => t.taskType = .findApplicableRule ∧ t.invoiceId = l.invoiceId ∧
      reconstructionIdOf t.inputObjectRefs = some l.reconstructionId
  | .judgment l => t.taskType = .judgeDays ∧ t.invoiceId = l.invoiceId ∧
      reconstructionIdOf t.inputObjectRefs = some l.reconstructionId
  | .access l => t.taskType = .bindAccessEvidence ∧ t.invoiceId = l.invoiceId

theorem agrees_of_same {t t' : WorkflowTask} {l : Lease} (h : SameTask t t') (ha : Agrees t l) :
    Agrees t' l := by
  cases l <;> simpa only [Agrees, h.taskType, h.invoiceId, h.inputObjectRefs] using ha

/-- Every lease has its task, and every task its invoice. -/
structure Linked (w : World) : Prop where
  leases : ∀ l ∈ w.leases, ∃ t ∈ w.db .workflowTasks, t.id = l.key.taskId ∧ Agrees t l
  invoices : ∀ t ∈ w.db .workflowTasks, ∃ i ∈ w.db .invoices, i.id = t.invoiceId

theorem linked_initial : Linked World.initial :=
  ⟨fun _ h => absurd h List.not_mem_nil, fun _ h => absurd h List.not_mem_nil⟩

/-- A change of the task table by moves and new tasks of known invoices. -/
theorem Linked.of_moves {w w' : World} (h : Linked w) (f : WorkflowTask → WorkflowTask)
    (new : List WorkflowTask) (hf : Moves (w.db .workflowTasks) f)
    (htasks : w'.db .workflowTasks = (w.db .workflowTasks).map f ++ new)
    (hinvoices : ∀ i ∈ w.db .invoices, ∃ j ∈ w'.db .invoices, j.id = i.id)
    (hnew : ∀ n ∈ new, ∃ i ∈ w'.db .invoices, i.id = n.invoiceId)
    (hleases : ∀ l ∈ w'.leases, l ∈ w.leases ∨
      ∃ t ∈ w.db .workflowTasks, t.id = l.key.taskId ∧ Agrees t l) : Linked w' := by
  constructor
  · intro l hl
    have hfound : ∃ t ∈ w.db .workflowTasks, t.id = l.key.taskId ∧ Agrees t l := by
      rcases hleases l hl with hl | hl
      · exact h.leases l hl
      · exact hl
    obtain ⟨t, ht, hid, hagrees⟩ := hfound
    refine ⟨f t, ?_, (hf.same t ht).id.trans hid, agrees_of_same (hf.same t ht) hagrees⟩
    rw [htasks]
    exact List.mem_append_left _ (List.mem_map_of_mem ht)
  · intro t' ht'
    rw [htasks] at ht'
    rcases List.mem_append.mp ht' with ht' | ht'
    · obtain ⟨t, ht, rfl⟩ := List.mem_map.mp ht'
      obtain ⟨i, hi, hid⟩ := h.invoices t ht
      obtain ⟨j, hj, hji⟩ := hinvoices i hi
      exact ⟨j, hj, hji.trans (hid.trans (hf.same t ht).invoiceId.symm)⟩
    · exact hnew t' ht'

theorem moves_id (tasks : List WorkflowTask) : Moves tasks id :=
  ⟨fun t _ => SameTask.refl t, fun _ _ _ => rfl⟩

/-- A change of one row by a function that leaves the other rows alone replaces it. -/
theorem map_eq_replace {tasks : List WorkflowTask} (h : TasksInv tasks) {t : WorkflowTask}
    {f : WorkflowTask → WorkflowTask} (ht : t ∈ tasks) (hid : (f t).id = t.id)
    (hother : ∀ u ∈ tasks, u.id ≠ t.id → f u = u) :
    tasks.map f = tasks.map (replaceTask (f t)) := by
  refine List.map_congr_left fun u hu => ?_
  unfold replaceTask
  split
  · rename_i heq
    rw [h.eq_of_id hu ht (heq.trans hid)]
  · rename_i hne
    exact hother u hu fun heq => hne (heq.trans hid.symm)

/-- The invoices after an emission. -/
theorem invoices_of_emits {env : TxnEnv} {invoiceId : Uuid} {a : Advance}
    {events : List InvoiceEvent} {db db' : Db} (h : Emits env invoiceId a events db db') :
    ∀ i ∈ db .invoices, ∃ j ∈ db' .invoices, j.id = i.id := by
  intro i hi
  refine ⟨advanceInvoice invoiceId a events i, ?_, advanceInvoice_id _ _ _ _⟩
  rw [h.invoices]
  exact List.mem_map_of_mem hi

theorem invoices_of_same {tables : List Table} {db db' : Db} (h : SameExcept tables db db')
    (ht : Table.invoices ∉ tables) : ∀ i ∈ db .invoices, ∃ j ∈ db' .invoices, j.id = i.id := by
  intro i hi
  exact ⟨i, by rwa [h _ ht], rfl⟩

/-! ## The rows of a lease -/

section Rows

variable {key : LeaseKey} {t : WorkflowTask} {db db' : Db}

/-- The row a successful check found, and what the lease says of it. -/
theorem runsUnder_of_holds {w : World} {l : Lease} (hlinked : Linked w)
    (htasks : TasksInv (w.db .workflowTasks)) (hl : l ∈ w.leases)
    (hholds : Passes l.key.taskId (holdsLease l.key) t w.db) :
    t ∈ w.db .workflowTasks ∧ RunsUnder l.key t ∧ Agrees t l := by
  obtain ⟨hmem, hid⟩ := hholds.mem
  have hpass := hholds.2
  unfold holdsLease at hpass
  simp only [decide_eq_true_eq] at hpass
  obtain ⟨u, hu, huid, hagrees⟩ := hlinked.leases l hl
  obtain rfl := htasks.eq_of_id hu hmem (huid.trans hid.symm)
  exact ⟨hmem, ⟨hid, hpass.1, hpass.2.2, fun _ => hpass.2.1⟩, hagrees⟩

theorem endTask_ended (hruns : RunsUnder key t) (htype : t.taskType ≠ .bindAccessEvidence)
    (state : TaskState) (notBefore : WorkflowTask → Option Instant) :
    Ended state t (endTask key state notBefore t) := by
  unfold endTask
  rw [if_pos ⟨hruns.id, hruns.attempt htype, hruns.owner⟩]
  exact ⟨⟨rfl, rfl, rfl, rfl, rfl, rfl⟩, rfl, rfl⟩

theorem map_endTask (htasks : TasksInv (db .workflowTasks)) (hmem : t ∈ db .workflowTasks)
    (hid : t.id = key.taskId) (state : TaskState) (notBefore : WorkflowTask → Option Instant) :
    (db .workflowTasks).map (endTask key state notBefore) =
      (db .workflowTasks).map (replaceTask (endTask key state notBefore t)) := by
  refine map_eq_replace htasks hmem (endTask_id _ _ _ _) fun u _ hne => ?_
  unfold endTask
  rw [if_neg fun hcase => hne (hcase.1.trans hid.symm)]

/-- The end of an attempt under a lease, as a replacement of the lease's row. -/
theorem ends_replace {w : World} {l : Lease} {state : TaskState} {new : List WorkflowTask}
    (hlinked : Linked w) (htasks : TasksInv (w.db .workflowTasks)) (hl : l ∈ w.leases)
    (hends : Ends l.key t state new w.db db') (hnot : ∀ a, l ≠ .access a) :
    t ∈ w.db .workflowTasks ∧ RunsUnder l.key t ∧ Agrees t l ∧
      ∃ t', Ended state t t' ∧
        db' .workflowTasks = (w.db .workflowTasks).map (replaceTask t') ++ new := by
  obtain ⟨hmem, hruns, hagrees⟩ := runsUnder_of_holds hlinked htasks hl hends.holds
  have htype : t.taskType ≠ .bindAccessEvidence := by
    cases l with
    | access a => exact absurd rfl (hnot a)
    | _ => rw [hagrees.1]; decide
  obtain ⟨notBefore, hrows⟩ := hends.tasks
  refine ⟨hmem, hruns, hagrees, endTask l.key state notBefore t,
    endTask_ended hruns htype state notBefore, ?_⟩
  rw [hrows, map_endTask htasks hmem hruns.id]

theorem running_active (h : t.state = .running) : active t = true := by
  unfold active
  rw [h]

/-- An emission adds its task only, and only as a new one. -/
theorem added_mem {tasks new : List WorkflowTask} {task : WorkflowTask}
    (h : Added task tasks new) : ∀ n ∈ new, n = task ∧ ∀ u ∈ tasks, u.id ≠ n.id := by
  rcases h with ⟨rfl, _⟩ | ⟨rfl, hfresh⟩
  · exact fun _ hn => absurd hn List.not_mem_nil
  · intro n hn
    obtain rfl := List.mem_singleton.mp hn
    exact ⟨rfl, fun u hu => (hfresh u hu).1⟩

/-- What an emission added, as what a completion hands over. -/
theorem follows_of_added {tasks new : List WorkflowTask} {n : WorkflowTask} {taskType : TaskType}
    {P : WorkflowTask → Prop} (h : new = [] ∨ Added n tasks new) (htype : n.taskType = taskType)
    (hinvoice : n.invoiceId = t.invoiceId) (hn : Unstarted n) (hP : P n) :
    Follows tasks t taskType P new := by
  rcases h with rfl | ⟨rfl, _⟩ | ⟨rfl, hfresh⟩
  · exact Or.inl rfl
  · exact Or.inl rfl
  · exact Or.inr ⟨n, rfl, fun u hu => (hfresh u hu).1, htype, hinvoice, hn, hP⟩

/-- The invoices of what a completion hands over. -/
theorem invoices_of_follows {tasks new : List WorkflowTask} {taskType : TaskType}
    {P : WorkflowTask → Prop} {invoices invoices' : List Invoice}
    (h : Follows tasks t taskType P new) (ht : ∃ i ∈ invoices, i.id = t.invoiceId)
    (hkept : ∀ i ∈ invoices, ∃ j ∈ invoices', j.id = i.id) :
    ∀ n ∈ new, ∃ i ∈ invoices', i.id = n.invoiceId := by
  rcases h with rfl | ⟨n, rfl, _, _, hinvoice, _⟩
  · exact fun _ hn => absurd hn List.not_mem_nil
  · intro m hm
    obtain ⟨i, hi, hid⟩ := ht
    obtain ⟨j, hj, hji⟩ := hkept i hi
    rw [List.mem_singleton.mp hm, hinvoice]
    exact ⟨j, hj, hji.trans hid⟩

/-- A lease that has run out by the time. -/
def ExpiredAt (now : Instant) (t : WorkflowTask) : Prop :=
  (t.state = .leased ∨ t.state = .running) ∧ t.leaseExpiresAt.any (· < now) = true

/-- The row a claim starts. -/
theorem claims_replace {env : TxnEnv} {taskType : TaskType}
    (htasks : TasksInv (db .workflowTasks)) (h : Claims env taskType t key db db') :
    t ∈ db .workflowTasks ∧ active t = true ∧
      (t.state = .pending ∨ t.state = .retryWait ∨ ExpiredAt env.now t) ∧ ∃ t', SameTask t t' ∧
      (t'.state = .running ∧ t'.currentAttempt = key.attempt ∧
        t'.leaseOwner = some key.workerId) ∧
      db' .workflowTasks = (db .workflowTasks).map (replaceTask t') := by
  obtain ⟨leaseSeconds, hrows⟩ := h.tasks
  have hrunnable := h.runnable
  unfold runnable at hrunnable
  have hactive : active t = true := by
    unfold active
    cases hstate : t.state <;> rw [hstate] at hrunnable <;> first | rfl | exact hrunnable
  have hstart : t.state = .pending ∨ t.state = .retryWait ∨ ExpiredAt env.now t := by
    unfold ExpiredAt
    cases hstate : t.state <;> rw [hstate] at hrunnable <;> simp_all
  have hid := h.next.1
  refine ⟨h.mem, hactive, hstart, startTask env key leaseSeconds t, ?_, ?_, ?_⟩
  · unfold startTask
    rw [if_pos hid.symm]
    exact ⟨rfl, rfl, rfl, rfl, rfl, rfl⟩
  · unfold startTask
    rw [if_pos hid.symm]
    exact ⟨rfl, rfl, rfl⟩
  · rw [hrows]
    refine map_eq_replace htasks h.mem ?_ fun u _ hne => ?_
    · unfold startTask
      rw [if_pos hid.symm]
    · unfold startTask
      rw [if_neg fun heq => hne (heq.trans hid)]

end Rows

/-! ## Transitions as steps -/

section Steps

variable {w w' : World} {o : Occasion}

/-- The tables of the pipeline besides its tasks. -/
def historyTables : List Table :=
  [.claimSets, .reconstructions, .ruleRetrievalRuns, .recommendations]

/-- Only the tasks, the keys, the attempts and the completions of the pipeline change. -/
theorem pipelineOf_eq {tables : List Table} (hsame : SameExcept tables w.db w'.db)
    (htables : ∀ t ∈ historyTables, t ∉ tables) :
    pipelineOf w' = { pipelineOf w with
      tasks := w'.db .workflowTasks
      keys := w'.leases.map Lease.key
      attempts := w'.db .workflowTaskAttempts
      completed := w'.completed } := by
  refine State.ext rfl rfl rfl rfl ?_ ?_ ?_ ?_
  · exact hsame .claimSets (htables _ (by decide))
  · exact hsame .reconstructions (htables _ (by decide))
  · exact hsame .ruleRetrievalRuns (htables _ (by decide))
  · exact hsame .recommendations (htables _ (by decide))

/-- A completed attempt: its row, and the invoices of what it hands over. -/
theorem completes_linked {t t' : WorkflowTask} {new : List WorkflowTask} {taskType : TaskType}
    {P : WorkflowTask → Prop} (h : Linked w) (htasks : TasksInv (w.db .workflowTasks))
    (hmem : t ∈ w.db .workflowTasks) (hactive : active t = true)
    (hended : Ended .completed t t')
    (hrows : w'.db .workflowTasks = (w.db .workflowTasks).map (replaceTask t') ++ new)
    (hfollows : Follows (w.db .workflowTasks) t taskType P new)
    (hinvoices : ∀ i ∈ w.db .invoices, ∃ j ∈ w'.db .invoices, j.id = i.id)
    (hleases : w'.leases = w.leases) : Linked w' := by
  refine h.of_moves _ _ (htasks.moves_replace hmem hactive hended.toSameTask) hrows hinvoices
    (invoices_of_follows hfollows (h.invoices t hmem) hinvoices) fun l hl => Or.inl ?_
  rwa [← hleases]

theorem le_foldl_max (ns : List Nat) (m : Nat) : m ≤ ns.foldl max m ∧ ∀ n ∈ ns, n ≤ ns.foldl max m := by
  induction ns generalizing m with
  | nil => exact ⟨le_refl m, fun _ h => absurd h List.not_mem_nil⟩
  | cons k ns ih =>
      obtain ⟨hm, hns⟩ := ih (max m k)
      rw [List.foldl_cons]
      refine ⟨(Nat.le_max_left m k).trans hm, fun n hn => ?_⟩
      rcases List.mem_cons.mp hn with rfl | hn
      · exact (Nat.le_max_right m n).trans hm
      · exact hns n hn

theorem lt_nextNumber {ns : List Nat} {n : Nat} (h : n ∈ ns) : n < nextNumber ns := by
  have hle := (le_foldl_max ns 0).2 n h
  unfold nextNumber
  omega

variable [Sha256]

/-- A transition that leaves the pipeline alone. -/
theorem unchanged {tables : List Table} (h : Linked w) (hsame : SameExcept tables w.db w'.db)
    (htables : ∀ t ∈ taskTables ++ historyTables, t ∉ tables)
    (hinvoices : ∀ i ∈ w.db .invoices, ∃ j ∈ w'.db .invoices, j.id = i.id)
    (hleases : w'.leases = w.leases) (hcompleted : w'.completed = w.completed) :
    Step o (pipelineOf w) (pipelineOf w') ∧ Linked w' := by
  have htasks : w'.db .workflowTasks = w.db .workflowTasks :=
    hsame _ (htables _ (by simp [taskTables]))
  have hattempts : w'.db .workflowTaskAttempts = w.db .workflowTaskAttempts :=
    hsame _ (htables _ (by simp [taskTables]))
  constructor
  · rw [pipelineOf_eq hsame fun t ht => htables t (List.mem_append_right _ ht), htasks, hleases,
      hattempts, hcompleted]
    exact .same
  · refine h.of_moves id [] (moves_id _) (by simp [htasks]) hinvoices
      (fun _ hn => absurd hn List.not_mem_nil) fun l hl => Or.inl ?_
    rwa [← hleases]

/-- A claim hands out a lease for the task it starts. -/
theorem claimed {env : TxnEnv} {taskType : TaskType} {t : WorkflowTask} (lease : Lease)
    {tables : List Table} (h : Linked w) (htasks : TasksInv (w.db .workflowTasks))
    (hclaims : Claims env taskType t lease.key w.db w'.db) (hagrees : Agrees t lease)
    (hsame : SameExcept tables w.db w'.db) (htables : ∀ t ∈ historyTables, t ∉ tables)
    (hinvoices : ∀ i ∈ w.db .invoices, ∃ j ∈ w'.db .invoices, j.id = i.id)
    (hleases : w'.leases = w.leases ++ [lease]) (hcompleted : w'.completed = w.completed)
    (hexpired : ExpiredAt env.now t → o.takesOver t) (hworker : o.worker lease.key.workerId) :
    Step o (pipelineOf w) (pipelineOf w') ∧ Linked w' := by
  obtain ⟨hmem, hactive, hstart, t', hsameTask, hrun, hrows⟩ := claims_replace htasks hclaims
  constructor
  · rw [pipelineOf_eq hsame htables, hrows, hleases, hclaims.attempts, hcompleted,
      List.map_append]
    exact .started t t' lease.key hmem hactive (hstart.imp_right (Or.imp_right hexpired)) hworker
      hsameTask hclaims.next hrun
  · refine h.of_moves _ [] (htasks.moves_replace hmem hactive hsameTask)
      (by rw [hrows, List.append_nil]) hinvoices (fun _ hn => absurd hn List.not_mem_nil) ?_
    intro l hl
    rw [hleases] at hl
    rcases List.mem_append.mp hl with hl | hl
    · exact Or.inl hl
    · rw [List.mem_singleton.mp hl]
      exact Or.inr ⟨t, hmem, hclaims.next.1.symm, hagrees⟩

/-- A failed attempt under a lease. -/
theorem failed {t : WorkflowTask} {lease : Lease} {state : TaskState} {tables : List Table}
    (h : Linked w) (htasks : TasksInv (w.db .workflowTasks)) (hlease : lease ∈ w.leases)
    (hends : Ends lease.key t state [] w.db w'.db) (hnot : ∀ a, lease ≠ .access a)
    (hstate : (state = .retryWait ∧ lease.key.attempt < maxAutomaticAttempts) ∨
      ((∃ l, lease = .extraction l) ∧ state = .failed) ∨
      ((∀ l, lease ≠ .extraction l) ∧ state = .blocked))
    (hsame : SameExcept tables w.db w'.db) (htables : ∀ t ∈ historyTables, t ∉ tables)
    (hinvoices : ∀ i ∈ w.db .invoices, ∃ j ∈ w'.db .invoices, j.id = i.id)
    (hleases : w'.leases = w.leases) (hcompleted : w'.completed = w.completed) :
    Step o (pipelineOf w) (pipelineOf w') ∧ Linked w' := by
  obtain ⟨hmem, hruns, hagrees, t', hended, hrows⟩ := ends_replace h htasks hlease hends hnot
  rw [List.append_nil] at hrows
  constructor
  · rw [pipelineOf_eq hsame htables, hrows, hleases, hends.attempts, hcompleted]
    have htype : t.taskType ≠ .bindAccessEvidence := by
      cases lease with
      | access a => exact absurd rfl (hnot a)
      | _ => rw [hagrees.1]; decide
    refine .failed t t' lease.key state hmem hruns htype hended ?_
    rcases hstate with hstate | ⟨⟨l, rfl⟩, hstate⟩ | ⟨hne, hstate⟩
    · exact Or.inl hstate
    · exact Or.inr (Or.inl ⟨hagrees.1, hstate⟩)
    · refine Or.inr (Or.inr ⟨?_, hstate⟩)
      cases lease with
      | extraction l => exact absurd rfl (hne l)
      | _ => rw [hagrees.1]; decide
  · refine h.of_moves _ [] (htasks.moves_replace hmem (running_active hruns.state)
      hended.toSameTask) (by rw [hrows, List.append_nil]) hinvoices
      (fun _ hn => absurd hn List.not_mem_nil) fun l hl => Or.inl ?_
    rwa [← hleases]

/-! ## Completions -/

theorem completedExtraction_step {env : TxnEnv} {lease : ExtractionTaskLease}
    {validation : ClaimValidation} {r : ExtractionCompletion} {db : Db} (h : Linked w)
    (htasks : TasksInv (w.db .workflowTasks)) (hlease : .extraction lease ∈ w.leases)
    (hok : completeExtraction env lease validation w.db = .ok (r, db)) :
    let w' := World.addCompleted lease.toLeaseKey (some r.claimSetId) { w with db }
    Step o (pipelineOf w) (pipelineOf w') ∧ Linked w' := by
  intro w'
  obtain ⟨hsame, t, new, s, rows, sequence, hends, hadded, hr, hinvoice, hfresh, hversion, hsets,
    _, _, hemits⟩ := completeExtraction_ok hok
  obtain ⟨hmem, hruns, hagrees, t', hended, hrows⟩ :=
    ends_replace h htasks hlease hends (fun _ => nofun)
  have hfollows : Follows (w.db .workflowTasks) t .startReconstruction (fun _ => True) new :=
    follows_of_added (hadded.imp_right And.right) rfl hagrees.2.symm ⟨Or.inl rfl, rfl⟩ trivial
  constructor
  · have heq : pipelineOf w' = { pipelineOf w with
        tasks := (w.db .workflowTasks).map (replaceTask t') ++ new
        attempts := (w.db .workflowTaskAttempts).map (endAttempt lease.toLeaseKey .completed)
        completed := w.completed ++ [⟨lease.toLeaseKey, some s.id⟩]
        claimSets := w.db .claimSets ++ [s] } := by
      refine State.ext hrows rfl hends.attempts ?_ hsets (hsame .reconstructions (by decide))
        (hsame .ruleRetrievalRuns (by decide)) (hsame .recommendations (by decide))
      rw [← hr]
      rfl
    rw [heq]
    rw [← hagrees.2] at hversion hinvoice
    exact .extracted t t' lease.toLeaseKey s new hmem hruns hagrees.1 hended hinvoice hversion
      hfresh hfollows
  · exact completes_linked h htasks hmem (running_active hruns.state) hended hrows hfollows
      (invoices_of_emits hemits) rfl

theorem completedReconstruction_step {env : TxnEnv} {lease : ReconstructionTaskLease}
    {work : ReconstructionWork} {r : ReconstructionCompletion} {db : Db} (h : Linked w)
    (htasks : TasksInv (w.db .workflowTasks)) (hlease : .reconstruction lease ∈ w.leases)
    (hok : completeReconstruction env lease work w.db = .ok (r, db)) :
    let w' := World.addCompleted lease.toLeaseKey none { w with db }
    Step o (pipelineOf w) (pipelineOf w') ∧ Linked w' := by
  intro w'
  obtain ⟨hsame, t, new, hends, hcase⟩ := completeReconstruction_ok hok
  obtain ⟨hmem, hruns, hagrees, t', hended, hrows⟩ :=
    ends_replace h htasks hlease hends (fun _ => nofun)
  have hother : w'.db .claimSets = w.db .claimSets ∧
      w'.db .ruleRetrievalRuns = w.db .ruleRetrievalRuns ∧
      w'.db .recommendations = w.db .recommendations :=
    ⟨hsame .claimSets (by decide), hsame .ruleRetrievalRuns (by decide),
      hsame .recommendations (by decide)⟩
  rcases hcase with ⟨rfl, hsame⟩ | ⟨row, hrow⟩
  · constructor
    · have heq : pipelineOf w' = { pipelineOf w with
          tasks := (w.db .workflowTasks).map (replaceTask t') ++ []
          attempts := (w.db .workflowTaskAttempts).map (endAttempt lease.toLeaseKey .completed)
          completed := w.completed ++ [⟨lease.toLeaseKey, none⟩]
          reconstructions := w.db .reconstructions ++ [] } :=
        State.ext hrows rfl hends.attempts rfl hother.1
          ((hsame .reconstructions (by decide)).trans (List.append_nil _).symm) hother.2.1
          hother.2.2
      rw [heq]
      exact .reconstructed t t' lease.toLeaseKey [] [] hmem hruns hagrees.1 hended
        (Or.inl ⟨rfl, rfl⟩)
    · have hfollows : Follows (w.db .workflowTasks) t .findApplicableRule (fun _ => True) [] :=
        Or.inl rfl
      exact completes_linked h htasks hmem (running_active hruns.state) hended hrows hfollows
        (invoices_of_same hsame (by decide)) rfl
  · obtain ⟨n, m, hemits⟩ := hrow.emits
    have hfollows : Follows (w.db .workflowTasks) t .findApplicableRule
        (fun n => reconstructionIdOf n.inputObjectRefs = some row.id) new :=
      follows_of_added hrow.added rfl hagrees.2.symm ⟨Or.inl rfl, rfl⟩ rfl
    have hversion : NewVersion (pipelineOf w) t row := by
      have hmade := hrow.made
      subst hmade
      refine ⟨hagrees.2.symm, ?_, hrow.fresh⟩
      intro r hr hinvoice
      refine lt_nextNumber (List.mem_map_of_mem (List.mem_filter.mpr ⟨hr, ?_⟩))
      rw [decide_eq_true_eq]
      exact hinvoice.trans hagrees.2
    constructor
    · have heq : pipelineOf w' = { pipelineOf w with
          tasks := (w.db .workflowTasks).map (replaceTask t') ++ new
          attempts := (w.db .workflowTaskAttempts).map (endAttempt lease.toLeaseKey .completed)
          completed := w.completed ++ [⟨lease.toLeaseKey, none⟩]
          reconstructions := w.db .reconstructions ++ [row] } :=
        State.ext hrows rfl hends.attempts rfl hother.1 hrow.rows hother.2.1 hother.2.2
      rw [heq]
      exact .reconstructed t t' lease.toLeaseKey [row] new hmem hruns hagrees.1 hended
        (Or.inr ⟨row, rfl, hversion, hfollows⟩)
    · exact completes_linked h htasks hmem (running_active hruns.state) hended hrows hfollows
        (invoices_of_emits hemits) rfl

/-- A rule search hands over to judgment when it accepted a rule, or when every
charged day of the reconstruction has its sources; without charged days there is
nothing to judge. -/
def RuleHandsOver (db : Db) (lease : RuleTaskLease) (decision : ApplicabilityDecision) : Prop :=
  decision.accepted.isSome = true ∨ coverageComplete db lease.reconstructionId = true ∨
    ∃ row ∈ db .reconstructions, row.id = lease.reconstructionId ∧ row.daysTotal = 0

instance (db : Db) (lease : RuleTaskLease) (decision : ApplicabilityDecision) :
    Decidable (RuleHandsOver db lease decision) :=
  inferInstanceAs (Decidable (_ ∨ _ ∨ _))

theorem completedRule_step {env : TxnEnv} {lease : RuleTaskLease} {queryFingerprint : String}
    {candidates : List RuleCandidate} {decision : ApplicabilityDecision} {r : RuleCompletion}
    {db : Db} (h : Linked w) (htasks : TasksInv (w.db .workflowTasks))
    (hlease : .rule lease ∈ w.leases) (ho : o.handsOver → RuleHandsOver w.db lease decision)
    (hok : completeRule env lease queryFingerprint candidates decision w.db = .ok (r, db)) :
    let w' := World.addCompleted lease.toLeaseKey none { w with db }
    Step o (pipelineOf w) (pipelineOf w') ∧ Linked w' := by
  intro w'
  obtain ⟨hsame, t, new, hends, hcase⟩ := completeRule_ok hok
  obtain ⟨hmem, hruns, hagrees, t', hended, hrows⟩ :=
    ends_replace h htasks hlease hends (fun _ => nofun)
  have hfollows : Follows (w.db .workflowTasks) t .judgeDays (fun n =>
      reconstructionIdOf n.inputObjectRefs = reconstructionIdOf t.inputObjectRefs) new := by
    rcases hcase with ⟨rfl, _⟩ | hsearch
    · exact Or.inl rfl
    · exact follows_of_added (hsearch.added.imp_left fun hstalled => hstalled.2.2) rfl
        hagrees.2.1.symm ⟨Or.inl rfl, rfl⟩ hagrees.2.2.symm
  have hhands : ∃ runs, w'.db .ruleRetrievalRuns = w.db .ruleRetrievalRuns ++ runs ∧
      Hands o.handsOver (pipelineOf w) t runs new := by
    rcases hcase with ⟨rfl, hsame, run, hrun, hid⟩ | hsearch
    · exact ⟨[], (hsame .ruleRetrievalRuns (by decide)).trans (List.append_nil _).symm,
        .repeated run hrun (hid ▸ hagrees.2.2)⟩
    · obtain ⟨runs, hruns, hreconstruction⟩ := hsearch.runs
      refine ⟨runs, hruns, .searched lease.reconstructionId runs new hagrees.2.2 hreconstruction ?_⟩
      intro hhands
      have hover := ho hhands
      rcases hsearch.added with ⟨hnone, hcovered, _⟩ | ⟨rfl, j, hj, hidentity⟩ | ⟨rfl, _⟩
      · rcases hover with hover | hover | hdayless
        · rw [hnone] at hover
          exact nomatch hover
        · rw [hcovered] at hover
          exact nomatch hover
        · exact Or.inl hdayless
      · unfold sameTaskIdentity at hidentity
        simp only [decide_eq_true_eq] at hidentity
        refine Or.inr ⟨j, List.mem_append_left _ hj, hidentity.2.1.symm, ?_,
          hidentity.2.2.2.symm⟩
        exact hidentity.1.symm.trans hagrees.2.1.symm
      · exact Or.inr ⟨_, List.mem_append_right _ (List.mem_singleton_self _), rfl,
          hagrees.2.1.symm, rfl⟩
  obtain ⟨runs, hrunRows, hhands⟩ := hhands
  have hinvoices : ∀ i ∈ w.db .invoices, ∃ j ∈ w'.db .invoices, j.id = i.id := by
    rcases hcase with ⟨_, hsame, _⟩ | hsearch
    · exact invoices_of_same hsame (by decide)
    · obtain ⟨_, _, _, hemits⟩ := hsearch.emits
      exact invoices_of_emits hemits
  constructor
  · have heq : pipelineOf w' = { pipelineOf w with
        tasks := (w.db .workflowTasks).map (replaceTask t') ++ new
        attempts := (w.db .workflowTaskAttempts).map (endAttempt lease.toLeaseKey .completed)
        completed := w.completed ++ [⟨lease.toLeaseKey, none⟩]
        runs := w.db .ruleRetrievalRuns ++ runs } :=
      State.ext hrows rfl hends.attempts rfl (hsame .claimSets (by decide))
        (hsame .reconstructions (by decide)) hrunRows (hsame .recommendations (by decide))
    rw [heq]
    exact .searched t t' lease.toLeaseKey runs new hmem hruns hagrees.1 hended hhands hfollows
  · exact completes_linked h htasks hmem (running_active hruns.state) hended hrows hfollows
      hinvoices rfl

theorem completedJudgment_step {env : TxnEnv} {lease : JudgmentTaskLease} {days : List DayInput}
    {r : JudgmentCompletion} {db : Db} (h : Linked w) (htasks : TasksInv (w.db .workflowTasks))
    (hlease : .judgment lease ∈ w.leases)
    (hok : completeJudgment env lease days w.db = .ok (r, db)) :
    let w' := World.addCompleted lease.toLeaseKey none { w with db }
    Step o (pipelineOf w) (pipelineOf w') ∧ Linked w' := by
  intro w'
  obtain ⟨hsame, t, new, hends, hcase⟩ := completeJudgment_ok hok
  obtain ⟨hmem, hruns, hagrees, t', hended, hrows⟩ :=
    ends_replace h htasks hlease hends (fun _ => nofun)
  have hinvoices : ∀ i ∈ w.db .invoices, ∃ j ∈ w'.db .invoices, j.id = i.id := by
    rcases hcase with ⟨_, hsame, _⟩ | ⟨_, _, hjudges⟩
    · exact invoices_of_same hsame (by decide)
    · obtain ⟨_, hemits⟩ := hjudges.emits
      exact invoices_of_emits hemits
  have hrecs : ∃ rows, w'.db .recommendations = w.db .recommendations ++ rows ∧
      ((rows = [] ∧ ∃ r ∈ w.db .recommendations,
          reconstructionIdOf t.inputObjectRefs = some r.reconstructionId) ∨
        ∃ row, rows = [row] ∧ NewRecommendation (pipelineOf w) t row) ∧
      Follows (w.db .workflowTasks) t .bindAccessEvidence
        (fun _ => ∀ row ∈ rows, row.recommendationType = .requestEvidence) new := by
    rcases hcase with ⟨rfl, hsame, r, hr, hid⟩ | ⟨rec, row, hjudges⟩
    · exact ⟨[], (hsame .recommendations (by decide)).trans (List.append_nil _).symm,
        Or.inl ⟨rfl, r, hr, hid ▸ hagrees.2.2⟩, Or.inl rfl⟩
    · have hadded := hjudges.added
      have hfresh := hjudges.fresh
      refine ⟨[row], hjudges.rows, Or.inr ⟨row, rfl, ?_⟩, ?_⟩
      · have hmade := hjudges.made
        subst hmade
        refine ⟨hagrees.2.1.symm, hagrees.2.2, ?_, hfresh⟩
        intro r hr hid
        exact lt_nextNumber (List.mem_map_of_mem (List.mem_filter.mpr ⟨hr, decide_eq_true hid⟩))
      · rcases hadded with rfl | ⟨receivedAt, request, hwithholds, hadded⟩
        · exact Or.inl rfl
        · refine follows_of_added (Or.inr hadded) rfl hagrees.2.1.symm ⟨Or.inr rfl, rfl⟩ ?_
          intro row' hrow'
          have hmade := hjudges.made
          rw [List.mem_singleton.mp hrow', hmade]
          exact hwithholds.withheld.1
  obtain ⟨rows, hrecRows, hnewRecs, hfollows⟩ := hrecs
  constructor
  · have heq : pipelineOf w' = { pipelineOf w with
        tasks := (w.db .workflowTasks).map (replaceTask t') ++ new
        attempts := (w.db .workflowTaskAttempts).map (endAttempt lease.toLeaseKey .completed)
        completed := w.completed ++ [⟨lease.toLeaseKey, none⟩]
        recommendations := w.db .recommendations ++ rows } :=
      State.ext hrows rfl hends.attempts rfl (hsame .claimSets (by decide))
        (hsame .reconstructions (by decide)) (hsame .ruleRetrievalRuns (by decide)) hrecRows
    rw [heq]
    exact .judged t t' lease.toLeaseKey rows new hmem hruns hagrees.1 hended hnewRecs hfollows
  · exact completes_linked h htasks hmem (running_active hruns.state) hended hrows hfollows
      hinvoices rfl

omit [Sha256] in
theorem endBinding_ended {key : LeaseKey} {t : WorkflowTask} (hruns : RunsUnder key t) :
    Ended .completed t (endBinding key t) := by
  unfold endBinding
  rw [if_pos ⟨hruns.id, hruns.owner⟩]
  exact ⟨⟨rfl, rfl, rfl, rfl, rfl, rfl⟩, rfl, rfl⟩

/-- An access binding that may complete: its worker still runs the task, and the
snapshot is known. -/
def BindingReady (db : Db) (lease : AccessEvidenceLease) : Prop :=
  SnapshotKnown db lease ∧
    ∃ t ∈ db .workflowTasks, t.id = lease.taskId ∧ holdsWorker lease.toLeaseKey t = true

instance (db : Db) (lease : AccessEvidenceLease) : Decidable (BindingReady db lease) :=
  inferInstanceAs (Decidable (_ ∧ _))

omit [Sha256] in
/-- The end of a binding under a lease, as a replacement of the lease's row. -/
theorem binds_replace {lease : AccessEvidenceLease} {t : WorkflowTask} {new : List WorkflowTask}
    {db : Db} (h : Linked w) (htasks : TasksInv (w.db .workflowTasks))
    (hlease : .access lease ∈ w.leases) (hbinds : Binds lease.toLeaseKey t new w.db db)
    (hfresh : ∀ n ∈ new, ∀ u ∈ w.db .workflowTasks, u.id ≠ n.id) :
    t ∈ w.db .workflowTasks ∧ RunsUnder lease.toLeaseKey t ∧ Agrees t (.access lease) ∧
      db .workflowTasks =
        (w.db .workflowTasks).map (replaceTask (endBinding lease.toLeaseKey t)) ++ new := by
  obtain ⟨hmem, hid⟩ := hbinds.holds.mem
  have hpass := hbinds.holds.2
  unfold holdsWorker at hpass
  simp only [decide_eq_true_eq] at hpass
  obtain ⟨u, hu, huid, hagrees⟩ := h.leases _ hlease
  obtain rfl := htasks.eq_of_id hu hmem (huid.trans hid.symm)
  refine ⟨hmem, ⟨hid, hpass.1, hpass.2, fun hne => absurd hagrees.1 hne⟩, hagrees, ?_⟩
  have hnew : new.map (endBinding lease.toLeaseKey) = new := by
    refine (List.map_congr_left fun n hn => ?_).trans (List.map_id _)
    unfold endBinding
    refine if_neg fun hbinding => ?_
    exact hfresh n hn u hmem (hid.trans hbinding.1.symm)
  rw [hbinds.tasks, List.map_append, hnew, map_eq_replace htasks hmem (endBinding_id _ _)]
  intro v _ hne
  unfold endBinding
  rw [if_neg fun hcase => hne (hcase.1.trans hid.symm)]

theorem completedAccessBinding_step {env : TxnEnv} {lease : AccessEvidenceLease}
    {r : AccessBindingResult} {db : Db} (h : Linked w) (htasks : TasksInv (w.db .workflowTasks))
    (hlease : .access lease ∈ w.leases) (ho : BindingReady w.db lease → o.binds)
    (hok : completeAccessBinding env lease w.db = .ok (r, db)) :
    let w' := World.addCompleted lease.toLeaseKey none { w with db }
    Step o (pipelineOf w) (pipelineOf w') ∧ Linked w' := by
  intro w'
  obtain ⟨hsame, u, new, hbinds, hknown, hcase⟩ := completeAccessBinding_ok hok
  have hfresh : ∀ n ∈ new, ∀ v ∈ w.db .workflowTasks, v.id ≠ n.id := by
    rcases hcase with ⟨_, rfl, _⟩ | ⟨_, hresumes⟩
    · exact fun _ hn => absurd hn List.not_mem_nil
    · exact fun n hn => (added_mem hresumes.added n hn).2
  obtain ⟨hmem, hruns, hagrees, hrows⟩ := binds_replace h htasks hlease hbinds hfresh
  have hfollows : Follows (w.db .workflowTasks) u .startReconstruction (fun _ => True) new := by
    rcases hcase with ⟨_, rfl, _⟩ | ⟨_, hresumes⟩
    · exact Or.inl rfl
    · exact follows_of_added (Or.inr hresumes.added) rfl hagrees.2.symm ⟨Or.inl rfl, rfl⟩ trivial
  have hinvoices : ∀ i ∈ w.db .invoices, ∃ j ∈ w'.db .invoices, j.id = i.id := by
    rcases hcase with ⟨_, _, hsame, _⟩ | ⟨_, hresumes⟩
    · exact invoices_of_same hsame (by decide)
    · obtain ⟨_, hemits⟩ := hresumes.emits
      exact invoices_of_emits hemits
  have hended := endBinding_ended hruns
  constructor
  · have heq : pipelineOf w' = { pipelineOf w with
        tasks := (w.db .workflowTasks).map (replaceTask (endBinding lease.toLeaseKey u)) ++ new
        completed := w.completed ++ [⟨lease.toLeaseKey, none⟩] } :=
      State.ext hrows rfl (hsame .workflowTaskAttempts (by decide)) rfl
        (hsame .claimSets (by decide)) (hsame .reconstructions (by decide))
        (hsame .ruleRetrievalRuns (by decide)) (hsame .recommendations (by decide))
    rw [heq]
    exact .bound u _ lease.toLeaseKey new hmem hruns hagrees.1
      (ho ⟨hknown, u, hmem, hruns.id, hbinds.holds.2⟩) hended hfollows
  · exact completes_linked h htasks hmem (running_active hruns.state) hended hrows hfollows
      hinvoices rfl

theorem released_step {invoiceId : Uuid} {r : Bool} {db : Db} (h : Linked w)
    (hok : releaseAccessEvidence invoiceId w.db = .ok (r, db)) :
    Step o (pipelineOf w) (pipelineOf { w with db }) ∧ Linked { w with db } := by
  obtain ⟨hrows, hsame⟩ := releaseAccessEvidence_ok hok
  have hf : Moves (w.db .workflowTasks) (releaseTask invoiceId) := by
    constructor
    · intro t _
      unfold releaseTask
      split <;> exact ⟨rfl, rfl, rfl, rfl, rfl, rfl⟩
    · intro t _ hended
      unfold releaseTask
      refine if_neg fun hcase => ?_
      unfold active at hended
      rw [hcase.2.2] at hended
      exact nomatch hended
  constructor
  · have heq : pipelineOf { w with db } =
        { pipelineOf w with tasks := (w.db .workflowTasks).map (releaseTask invoiceId) } :=
      State.ext hrows rfl (hsame .workflowTaskAttempts (by decide)) rfl
        (hsame .claimSets (by decide)) (hsame .reconstructions (by decide))
        (hsame .ruleRetrievalRuns (by decide)) (hsame .recommendations (by decide))
    rw [heq]
    refine .released (releaseTask invoiceId) hf fun t _ => ?_
    unfold releaseTask
    split
    · rename_i hheld
      exact ⟨rfl, Or.inr ⟨hheld.2.2, rfl⟩⟩
    · exact ⟨rfl, Or.inl rfl⟩
  · exact h.of_moves (releaseTask invoiceId) [] hf (hrows.trans (List.append_nil _).symm)
      (invoices_of_same hsame (by decide)) (fun _ hn => absurd hn List.not_mem_nil)
      fun l hl => Or.inl hl

/-- A send closure leaves the pipeline alone, committed or not. -/
theorem sent_step (h : Linked w) (env : TxnEnv) (request : CorrespondenceRepository.SendRequest)
    (gateChecks : List (Gate × CorrespondenceRepository.GateCheck)) (fail : Bool) (fate : Fate) :
    let w' := (w.send env request gateChecks fail fate).1
    Step o (pipelineOf w) (pipelineOf w') ∧ Linked w' := by
  intro w'
  rcases send_cases w env request gateChecks fail fate with heq | ⟨r, db, _, _, hsends, heq⟩
  · rw [show w' = _ from heq]
    exact unchanged h (untouched _) (by decide) (fun i hi => ⟨i, hi, rfl⟩)
      rfl rfl
  · rw [show w' = _ from heq]
    cases hsends with
    | replayed =>
        exact unchanged h (untouched _) (by decide) (fun i hi => ⟨i, hi, rfl⟩)
          rfl rfl
    | blocked _ _ _ _ _ hsame hemits =>
        obtain ⟨_, _, hemits⟩ := hemits
        exact unchanged h hsame (by decide) (invoices_of_emits hemits) rfl rfl
    | replied _ _ _ _ _ _ hsame hemits =>
        obtain ⟨_, _, hemits⟩ := hemits
        exact unchanged h hsame (by decide) (invoices_of_emits hemits) rfl rfl

/-! ## Receipt and retry -/

theorem finalized_step {env : TxnEnv} {command : FinalizeReceipt} {r : ReceiptSnapshot} {db : Db}
    (h : Linked w) (hok : finalizeReceivedInvoice env command w.db = .ok (r, db)) :
    Step o (pipelineOf w) (pipelineOf { w with db }) ∧ Linked { w with db } := by
  obtain ⟨hsame, rfl | ⟨invoiceId, sourceId, hreceives⟩⟩ := finalizeReceivedInvoice_ok hok
  · exact ⟨.same, h⟩
  · have hnew : ∀ t ∈ w.db .workflowTasks, t.invoiceId ≠ invoiceId := by
      intro t ht heq
      obtain ⟨i, hi, hid⟩ := h.invoices t ht
      exact hreceives.newInvoice i hi (hid.trans heq)
    constructor
    · have heq : pipelineOf { w with db } = { pipelineOf w with
          tasks := w.db .workflowTasks ++ [firstExtractionTask env command invoiceId sourceId] } :=
        State.ext hreceives.tasks rfl (hsame .workflowTaskAttempts (by decide)) rfl
          (hsame .claimSets (by decide)) (hsame .reconstructions (by decide))
          (hsame .ruleRetrievalRuns (by decide)) (hsame .recommendations (by decide))
      rw [heq]
      exact .received _ (fun t ht => ⟨hreceives.newTask t ht, hnew t ht⟩) rfl
        ⟨⟨Or.inl rfl, rfl⟩, rfl, rfl⟩
    · refine h.of_moves id _ (moves_id _) (by rw [List.map_id]; exact hreceives.tasks) ?_ ?_
        fun l hl => Or.inl hl
      · intro i hi
        refine ⟨i, ?_, rfl⟩
        show i ∈ db .invoices
        rw [hreceives.invoices]
        exact List.mem_append_left _ hi
      · intro n hn
        rw [List.mem_singleton.mp hn]
        refine ⟨receivedInvoice env command invoiceId, ?_, rfl⟩
        show _ ∈ db .invoices
        rw [hreceives.invoices]
        exact List.mem_append_right _ (List.mem_singleton_self _)

theorem retried_step {env : TxnEnv} {invoiceId : Uuid} {idempotencyKey : String}
    {expectedRowVersion : Nat} {initiatedBy : Option Uuid} {actorDisplay : String}
    {r : RetryResult} {db : Db} (h : Linked w)
    (hok : retryExtractionTask env invoiceId idempotencyKey expectedRowVersion initiatedBy
      actorDisplay w.db = .ok (r, db)) :
    Step o (pipelineOf w) (pipelineOf { w with db }) ∧ Linked { w with db } := by
  obtain ⟨hsame, hcase⟩ := retryExtractionTask_ok hok
  rcases hcase with ⟨rfl, _⟩ | ⟨_, previous, task, sequence, hretries⟩
  · exact ⟨.same, h⟩
  · obtain ⟨hmem, _, htype, hlatest⟩ := latestExtractionTask_max hretries.latest
    obtain ⟨by', display, hversion⟩ := hretries.version
    constructor
    · have heq : pipelineOf { w with db } =
          { pipelineOf w with tasks := w.db .workflowTasks ++ [task] } :=
        State.ext hretries.tasks rfl (hsame .workflowTaskAttempts (by decide)) rfl
          (hsame .claimSets (by decide)) (hsame .reconstructions (by decide))
          (hsame .ruleRetrievalRuns (by decide)) (hsame .recommendations (by decide))
      rw [heq]
      refine .retried previous task hmem hretries.failed htype hlatest hretries.newTask ?_ ?_
      · rw [hversion]
        exact ⟨Or.inl rfl, rfl⟩
      · rw [hversion]
        exact ⟨rfl, rfl, rfl, rfl⟩
    · refine h.of_moves id _ (moves_id _) (by rw [List.map_id]; exact hretries.tasks)
        (invoices_of_emits hretries.emits) ?_ fun l hl => Or.inl hl
      intro n hn
      obtain ⟨i, hi, hid⟩ := h.invoices previous hmem
      obtain ⟨j, hj, hji⟩ := invoices_of_emits hretries.emits i hi
      rw [List.mem_singleton.mp hn, hversion]
      exact ⟨j, hj, hji.trans hid⟩

/-! ## Every transition -/

variable [TzDatabase] [CharacterTables]

/-- Whether a call, if it completes a rule search, hands over what there is to judge. -/
def HandsOver (w : World) : Call → Prop
  | .completeRule lease _ _ decision => RuleHandsOver w.db lease decision
  | _ => True

instance (w : World) : DecidablePred (HandsOver w)
  | .completeRule lease _ _ decision =>
    inferInstanceAs (Decidable (RuleHandsOver w.db lease decision))
  | .reserveIngestion .. | .recordSourceStored .. | .completeDuplicateIngestion ..
  | .finalizeReceivedInvoice .. | .retainSnapshot .. | .retainArtifact .. | .claimExtraction ..
  | .completeExtraction .. | .failExtraction .. | .retryExtraction .. | .claimReconstruction ..
  | .completeReconstruction .. | .failReconstruction .. | .claimRule .. | .failRule ..
  | .claimJudgment .. | .loadDayInputs .. | .completeJudgment .. | .failJudgment ..
  | .claimAccessEvidence .. | .completeAccessBinding .. | .releaseAccessEvidence ..
  | .approveAndSeal .. | .loadSealedFactPack .. | .draftFromSealed .. | .selectSend ..
  | .sendSelected .. | .approveAndSend .. | .relayOutboxBatch .. | .connect .. | .reconnect ..
  | .poll .. => .isTrue trivial

/-- Whether a call claims a task for the worker. -/
def ClaimsFor (workerId : String) : Call → Prop
  | .claimExtraction id _ | .claimReconstruction id _ | .claimRule id _ | .claimJudgment id _
  | .claimAccessEvidence id _ => id = workerId
  | _ => False

/-- The type of task a call claims. -/
def claimedType : Call → Option TaskType
  | .claimExtraction _ _ => some .extractInvoiceClaims
  | .claimReconstruction _ _ => some .startReconstruction
  | .claimRule _ _ => some .findApplicableRule
  | .claimJudgment _ _ => some .judgeDays
  | .claimAccessEvidence _ _ => some .bindAccessEvidence
  | _ => none

instance (now : Instant) : DecidablePred (ExpiredAt now) := fun _ =>
  inferInstanceAs (Decidable (_ ∧ _))

/-- The task a claim takes over: the one it selects, when the lease it was running under
has expired. -/
def takenOver (w : World) (env : TxnEnv) (c : Call) : Option WorkflowTask :=
  ((claimedType c).bind (selectedTask env w.db)).filter fun t => ExpiredAt env.now t

/-- The lease under which a call completes an access binding. -/
def boundLease : Call → Option AccessEvidenceLease
  | .completeAccessBinding lease => some lease
  | _ => none

/-- Whether a call completes an access binding. -/
def BindsAccess (w : World) (c : Call) : Prop := ∃ lease ∈ boundLease c, BindingReady w.db lease

instance (w : World) : DecidablePred (BindsAccess w) := fun c =>
  inferInstanceAs (Decidable (∃ lease ∈ boundLease c, _))

omit [Sha256] [TzDatabase] [CharacterTables] in
theorem takenOver_eq {w : World} {env : TxnEnv} {c : Call} {taskType : TaskType}
    {t : WorkflowTask} (hc : claimedType c = some taskType) (hexpired : ExpiredAt env.now t)
    (hselected : selectedTask env w.db taskType = some t) : takenOver w env c = some t := by
  unfold takenOver
  rw [hc, Option.bind_some, hselected]
  simpa using hexpired

/-- The occasion of a call. -/
def occasionOf (w : World) (env : TxnEnv) (c : Call) : Occasion :=
  { takesOver := fun t => takenOver w env c = some t
    worker := fun workerId => ClaimsFor workerId c
    handsOver := HandsOver w c
    binds := BindsAccess w c }

/-- Every transition of the platform is a step of its pipeline. -/
theorem transition_step {env : TxnEnv} {c : Call} (h : Linked w)
    (htasks : TasksInv (w.db .workflowTasks)) (hstep : Transition w env c w') :
    Step (occasionOf w env c) (pipelineOf w) (pipelineOf w') ∧ Linked w' := by
  have hrefl : ∀ i ∈ w.db .invoices, ∃ j ∈ w.db .invoices, j.id = i.id := fun i hi => ⟨i, hi, rfl⟩
  have hnothing : SameExcept [] w.db w.db := sameExcept_refl _
  cases hstep with
  | refused => exact ⟨.same, h⟩
  | peripheral _ db hsame =>
      exact unchanged h hsame (by decide) (invoices_of_same hsame (by decide)) rfl rfl
  | finalized _ r db hok => exact finalized_step h hok
  | claimedExtraction _ _ r db hok =>
      obtain ⟨hsame, ⟨rfl, rfl⟩ | ⟨lease, t, _, rfl, hworker, hinvoice, hclaims, hemits⟩⟩ :=
        claimNextExtractionTask_ok hok
      · exact unchanged h hnothing (by decide) hrefl (List.append_nil _) rfl
      · exact claimed (.extraction lease) h htasks hclaims ⟨hclaims.type, hinvoice.symm⟩
          hsame (by decide) (invoices_of_emits hemits) rfl rfl
          (fun hexpired => takenOver_eq rfl hexpired hclaims.selected) hworker.symm
  | completedExtraction _ _ r db hlease hok => exact completedExtraction_step h htasks hlease hok
  | failedExtraction lease _ _ r db hlease hok =>
      obtain ⟨hsame, t, _, hends, hstate, hemits⟩ := failExtraction_ok hok
      refine failed h htasks hlease hends (fun _ => nofun) ?_ hsame (by decide)
        (invoices_of_emits hemits) rfl rfl
      exact hstate.imp_right fun hfailed => Or.inl ⟨⟨lease, rfl⟩, hfailed⟩
  | retried _ _ _ _ _ r db hok => exact retried_step h hok
  | claimedReconstruction _ _ r db hok =>
      obtain ⟨hsame, ⟨rfl, rfl⟩ | ⟨lease, t, _, rfl, hworker, hinvoice, _, _, hclaims, hemits⟩⟩ :=
        claimNextReconstructionTask_ok hok
      · exact unchanged h hnothing (by decide) hrefl (List.append_nil _) rfl
      · exact claimed (.reconstruction lease) h htasks hclaims
          ⟨hclaims.type, hinvoice.symm⟩ hsame (by decide) (invoices_of_emits hemits) rfl rfl
          (fun hexpired => takenOver_eq rfl hexpired hclaims.selected) hworker.symm
  | completedReconstruction _ _ work r db hlease _ hok =>
      exact completedReconstruction_step h htasks hlease hok
  | failedReconstruction lease _ _ r db hlease hok =>
      obtain ⟨hsame, t, _, hends, hstate, hemits⟩ := failReconstruction_ok hok
      refine failed h htasks hlease hends (fun _ => nofun) ?_ hsame (by decide)
        (invoices_of_emits hemits) rfl rfl
      exact hstate.imp_right fun hblocked => Or.inr ⟨fun _ => nofun, hblocked⟩
  | claimedRule _ _ r db hok =>
      obtain ⟨hsame, ⟨rfl, rfl⟩ | ⟨lease, t, _, rfl, hworker, hinvoice, hid, hclaims, hemits⟩⟩ :=
        claimNextRuleTask_ok hok
      · exact unchanged h hnothing (by decide) hrefl (List.append_nil _) rfl
      · exact claimed (.rule lease) h htasks hclaims ⟨hclaims.type, hinvoice.symm, hid⟩
          hsame (by decide) (invoices_of_emits hemits) rfl rfl
          (fun hexpired => takenOver_eq rfl hexpired hclaims.selected) hworker.symm
  | completedRule _ _ _ _ r db hlease hok => exact completedRule_step h htasks hlease id hok
  | failedRule lease _ _ r db hlease hok =>
      obtain ⟨hsame, t, _, hends, hstate, hemits⟩ := failRule_ok hok
      refine failed h htasks hlease hends (fun _ => nofun) ?_ hsame (by decide)
        (invoices_of_emits hemits) rfl rfl
      exact hstate.imp_right fun hblocked => Or.inr ⟨fun _ => nofun, hblocked⟩
  | claimedJudgment _ _ r db hok =>
      obtain ⟨hsame, ⟨rfl, rfl⟩ | ⟨lease, t, rfl, hworker, hinvoice, hid, hclaims⟩⟩ :=
        claimNextJudgmentTask_ok hok
      · exact unchanged h hnothing (by decide) hrefl (List.append_nil _) rfl
      · exact claimed (.judgment lease) h htasks hclaims
          ⟨hclaims.type, hinvoice.symm, hid⟩ hsame (by decide) (invoices_of_same hsame (by decide))
          rfl rfl
          (fun hexpired => takenOver_eq rfl hexpired hclaims.selected) hworker.symm
  | loadedDayInputs => exact unchanged h hnothing (by decide) hrefl rfl rfl
  | completedJudgment _ _ r db hlease _ hok => exact completedJudgment_step h htasks hlease hok
  | failedJudgment lease r db hlease hok =>
      obtain ⟨hsame, t, hends, hstate⟩ := failJudgment_ok hok
      refine failed h htasks hlease hends (fun _ => nofun) ?_ hsame (by decide)
        (invoices_of_same hsame (by decide)) rfl rfl
      exact hstate.imp_right fun hblocked => Or.inr ⟨fun _ => nofun, hblocked⟩
  | claimedAccessEvidence _ _ r db hok =>
      obtain ⟨hsame, ⟨rfl, rfl⟩ | ⟨lease, t, rfl, hworker, hinvoice, _, hclaims⟩⟩ :=
        claimNextAccessEvidenceTask_ok hok
      · exact unchanged h hnothing (by decide) hrefl (List.append_nil _) rfl
      · exact claimed (.access lease) h htasks hclaims ⟨hclaims.type, hinvoice.symm⟩
          hsame (by decide) (invoices_of_same hsame (by decide)) rfl rfl
          (fun hexpired => takenOver_eq rfl hexpired hclaims.selected) hworker.symm
  | completedAccessBinding _ r db hlease hok =>
      exact completedAccessBinding_step h htasks hlease (fun hready => ⟨_, rfl, hready⟩) hok
  | releasedAccessEvidence _ r db hok => exact released_step h hok
  | approvedAndSealed _ r db hok =>
      obtain ⟨hsame, _, _, _, ⟨rfl, _⟩ | ⟨_, _, _, hseals, _⟩⟩ := approveAndSeal_ok hok
      · exact ⟨.same, h⟩
      · obtain ⟨_, hemits⟩ := hseals.emits
        exact unchanged h hsame (by decide) (invoices_of_emits hemits) rfl rfl
  | loadedPack _ pack db hok =>
      obtain ⟨rfl, _⟩ := loadSealedFactPack_ok hok
      exact unchanged h hnothing (by decide) hrefl rfl rfl
  | drafted _ _ r db _ hok =>
      rcases draftFromSealed_ok hok with ⟨rfl, _⟩ | ⟨d, _, _, _, _, rfl⟩
      · exact ⟨.same, h⟩
      · have hsame : SameExcept [.correspondenceDrafts] w.db _ :=
          Schema.sameExcept_modify w.db (by simp) (· ++ [d])
        exact unchanged h hsame (by decide) (invoices_of_same hsame (by decide)) rfl rfl
  | selectedSend => exact unchanged h hnothing (by decide) hrefl rfl rfl
  | sentSelected selection fail fate _ => exact sent_step h _ _ _ _ _
  | approvedAndSent request gateChecks fail fate => exact sent_step h _ _ _ _ _
  | relayed _ n db hok =>
      have hsame := (relayOutboxBatch_ok hok).2
      exact unchanged h hsame (by decide) (invoices_of_same hsame (by decide)) rfl rfl
  | connected => exact unchanged h hnothing (by decide) hrefl rfl rfl
  | reconnected => exact unchanged h hnothing (by decide) hrefl rfl rfl
  | polled => exact unchanged h hnothing (by decide) hrefl rfl rfl

end Steps

/-! ## Runs -/

section Runs

variable [Sha256] [TzDatabase] [CharacterTables]

/-- In every run the pipeline keeps its invariants and its leases their tasks. -/
theorem healthy_of_run {allowed : World → TxnEnv → Call → Prop} {w : World} (h : Run allowed w) :
    Healthy (pipelineOf w) ∧ Linked w := by
  refine h.invariant (fun w => Healthy (pipelineOf w) ∧ Linked w)
    ⟨healthy_initial, linked_initial⟩ ?_
  rintro w env c w' ⟨hhealthy, hlinked⟩ _ hstep
  obtain ⟨hpipeline, hlinked'⟩ := transition_step hlinked hhealthy.tasks hstep
  exact ⟨hhealthy.step hpipeline, hlinked'⟩

/-- An invariant of the pipeline, from its steps on the occasions of a run. -/
theorem pipeline_of_run {allowed : World → TxnEnv → Call → Prop} (Inv : State → Prop)
    (hinitial : Inv (pipelineOf World.initial))
    (hstep : ∀ w env c p', Healthy (pipelineOf w) → Inv (pipelineOf w) → allowed w env c →
      Step (occasionOf w env c) (pipelineOf w) p' → Inv p')
    {w : World} (h : Run allowed w) : Inv (pipelineOf w) := by
  have hboth : (Healthy (pipelineOf w) ∧ Linked w) ∧ Inv (pipelineOf w) := by
    refine h.invariant (fun w => (Healthy (pipelineOf w) ∧ Linked w) ∧ Inv (pipelineOf w))
      ⟨⟨healthy_initial, linked_initial⟩, hinitial⟩ ?_
    rintro w env c w' ⟨⟨hhealthy, hlinked⟩, hinv⟩ hallowed htransition
    obtain ⟨hpipeline, hlinked'⟩ := transition_step hlinked hhealthy.tasks htransition
    exact ⟨⟨hhealthy.step hpipeline, hlinked'⟩, hstep w env c _ hhealthy hinv hallowed hpipeline⟩
  exact hboth.2

end Runs

end Tally.Analysis.Pipeline
