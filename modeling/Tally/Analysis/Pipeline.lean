import Tally.Analysis.Effects
import Tally.Model.World

/-!
# The pipeline of an invoice

What the workers do, without the statements that do it: tasks that are received,
started, failed, retried and completed, each completion handing over to the next
task of its invoice, and the claim sets, reconstructions and recommendations they
leave behind. The invariants of the machine say that an invoice is worked on by
one task at a time, that it has one claim set, and that a rule search or a judgment
under way is about the invoice's last reconstruction.
-/

set_option autoImplicit false

namespace Tally.Analysis.Pipeline
open Library Tally.Model ReconstructionRepository ApplicableRuleRepository Effects

/-! ## Tasks -/

/-- A task that a later step may still move. -/
def active (t : WorkflowTask) : Bool :=
  match t.state with
  | .pending | .leased | .running | .retryWait | .held => true
  | .completed | .blocked | .failed => false

/-- Two rows of one task. -/
structure SameTask (t t' : WorkflowTask) : Prop where
  id : t'.id = t.id
  invoiceId : t'.invoiceId = t.invoiceId
  taskType : t'.taskType = t.taskType
  taskVersion : t'.taskVersion = t.taskVersion
  inputFingerprint : t'.inputFingerprint = t.inputFingerprint
  inputObjectRefs : t'.inputObjectRefs = t.inputObjectRefs

theorem SameTask.refl (t : WorkflowTask) : SameTask t t := ⟨rfl, rfl, rfl, rfl, rfl, rfl⟩

/-- The row, or the new row of its task. -/
def replaceTask (t' t : WorkflowTask) : WorkflowTask := if t.id = t'.id then t' else t

/-- A change of rows that keeps every task and leaves ended tasks alone. -/
structure Moves (tasks : List WorkflowTask) (f : WorkflowTask → WorkflowTask) : Prop where
  same : ∀ t ∈ tasks, SameTask t (f t)
  ended : ∀ t ∈ tasks, active t = false → f t = t

/-- The tasks of the machine: one row a task, one active task an invoice, every
extraction but the latest failed, and an extraction completed before any other
task. -/
structure TasksInv (tasks : List WorkflowTask) : Prop where
  ids : (tasks.map WorkflowTask.id).Nodup
  oneActive : ∀ t ∈ tasks, ∀ u ∈ tasks, active t = true → active u = true →
    t.invoiceId = u.invoiceId → t.id = u.id
  extractions : ∀ t ∈ tasks, ∀ u ∈ tasks, t.taskType = .extractInvoiceClaims →
    u.taskType = .extractInvoiceClaims → t.invoiceId = u.invoiceId →
    t.id = u.id ∨ (t.state = .failed ∧ t.taskVersion < u.taskVersion) ∨
      (u.state = .failed ∧ u.taskVersion < t.taskVersion)
  extracted : ∀ t ∈ tasks, t.taskType ≠ .extractInvoiceClaims →
    ∃ e ∈ tasks, e.taskType = .extractInvoiceClaims ∧ e.invoiceId = t.invoiceId ∧
      e.state = .completed

theorem tasksInv_nil : TasksInv [] :=
  ⟨List.nodup_nil, fun _ ht => absurd ht List.not_mem_nil, fun _ ht => absurd ht List.not_mem_nil,
    fun _ ht => absurd ht List.not_mem_nil⟩

theorem TasksInv.eq_of_id {tasks : List WorkflowTask} (h : TasksInv tasks) {t u : WorkflowTask}
    (ht : t ∈ tasks) (hu : u ∈ tasks) (hid : t.id = u.id) : t = u :=
  List.inj_on_of_nodup_map h.ids ht hu hid

theorem Moves.active_of {tasks : List WorkflowTask} {f : WorkflowTask → WorkflowTask}
    (hf : Moves tasks f) {t : WorkflowTask} (ht : t ∈ tasks) (hactive : active (f t) = true) :
    active t = true := by
  by_contra hne
  rw [hf.ended t ht (by simpa using hne)] at hactive
  exact hne hactive

/-- A completed or failed row stays as it is. -/
theorem Moves.completed {tasks : List WorkflowTask} {f : WorkflowTask → WorkflowTask}
    (hf : Moves tasks f) {t : WorkflowTask} (ht : t ∈ tasks)
    (hstate : t.state = .completed ∨ t.state = .failed) : f t = t := by
  refine hf.ended t ht ?_
  unfold active
  rcases hstate with hstate | hstate <;> rw [hstate]

theorem Moves.map_id {tasks : List WorkflowTask} {f : WorkflowTask → WorkflowTask}
    (hf : Moves tasks f) : (tasks.map f).map WorkflowTask.id = tasks.map WorkflowTask.id := by
  rw [List.map_map]
  exact List.map_congr_left fun t ht => (hf.same t ht).id

theorem TasksInv.map {tasks : List WorkflowTask} {f : WorkflowTask → WorkflowTask}
    (h : TasksInv tasks) (hf : Moves tasks f) : TasksInv (tasks.map f) := by
  refine ⟨?_, ?_, ?_, ?_⟩
  · rw [hf.map_id]
    exact h.ids
  · intro t' ht' u' hu' hactive hactive' hinvoice
    obtain ⟨t, ht, rfl⟩ := List.mem_map.mp ht'
    obtain ⟨u, hu, rfl⟩ := List.mem_map.mp hu'
    rw [(hf.same t ht).id, (hf.same u hu).id]
    rw [(hf.same t ht).invoiceId, (hf.same u hu).invoiceId] at hinvoice
    exact h.oneActive t ht u hu (hf.active_of ht hactive) (hf.active_of hu hactive') hinvoice
  · intro t' ht' u' hu' htype htype' hinvoice
    obtain ⟨t, ht, rfl⟩ := List.mem_map.mp ht'
    obtain ⟨u, hu, rfl⟩ := List.mem_map.mp hu'
    rw [(hf.same t ht).taskType] at htype
    rw [(hf.same u hu).taskType] at htype'
    rw [(hf.same t ht).invoiceId, (hf.same u hu).invoiceId] at hinvoice
    rw [(hf.same t ht).id, (hf.same u hu).id, (hf.same t ht).taskVersion,
      (hf.same u hu).taskVersion]
    rcases h.extractions t ht u hu htype htype' hinvoice with hid | ⟨hfailed, hlt⟩ | ⟨hfailed, hlt⟩
    · exact Or.inl hid
    · exact Or.inr (Or.inl ⟨by rw [hf.completed ht (Or.inr hfailed), hfailed], hlt⟩)
    · exact Or.inr (Or.inr ⟨by rw [hf.completed hu (Or.inr hfailed), hfailed], hlt⟩)
  · intro t' ht' htype
    obtain ⟨t, ht, rfl⟩ := List.mem_map.mp ht'
    rw [(hf.same t ht).taskType] at htype
    obtain ⟨e, he, hetype, hinvoice, hstate⟩ := h.extracted t ht htype
    refine ⟨e, List.mem_map.mpr ⟨e, he, hf.completed he (Or.inl hstate)⟩, hetype, ?_, hstate⟩
    rw [hinvoice, (hf.same t ht).invoiceId]

/-- A new task for an invoice that no active task works on. -/
theorem TasksInv.append {tasks : List WorkflowTask} {n : WorkflowTask} (h : TasksInv tasks)
    (hid : ∀ u ∈ tasks, u.id ≠ n.id)
    (hidle : ∀ u ∈ tasks, active u = true → u.invoiceId ≠ n.invoiceId)
    (hlatest : n.taskType = .extractInvoiceClaims → ∀ u ∈ tasks,
      u.taskType = .extractInvoiceClaims → u.invoiceId = n.invoiceId →
      u.state = .failed ∧ u.taskVersion < n.taskVersion)
    (hextracted : n.taskType ≠ .extractInvoiceClaims → ∃ e ∈ tasks,
      e.taskType = .extractInvoiceClaims ∧ e.invoiceId = n.invoiceId ∧ e.state = .completed) :
    TasksInv (tasks ++ [n]) := by
  refine ⟨?_, ?_, ?_, ?_⟩
  · rw [List.map_append, List.nodup_append]
    refine ⟨h.ids, List.nodup_singleton _, ?_⟩
    intro a ha b hb
    obtain ⟨u, hu, rfl⟩ := List.mem_map.mp ha
    rw [List.map_singleton, List.mem_singleton] at hb
    rw [hb]
    exact hid u hu
  · intro t ht u hu hactive hactive' hinvoice
    rcases List.mem_append.mp ht with hold | hnew <;>
      rcases List.mem_append.mp hu with hold' | hnew'
    · exact h.oneActive t hold u hold' hactive hactive' hinvoice
    · rw [List.mem_singleton.mp hnew'] at hinvoice
      exact absurd hinvoice (hidle t hold hactive)
    · rw [List.mem_singleton.mp hnew] at hinvoice
      exact absurd hinvoice.symm (hidle u hold' hactive')
    · rw [List.mem_singleton.mp hnew, List.mem_singleton.mp hnew']
  · intro t ht u hu htype htype' hinvoice
    rcases List.mem_append.mp ht with hold | hnew <;>
      rcases List.mem_append.mp hu with hold' | hnew'
    · exact h.extractions t hold u hold' htype htype' hinvoice
    · rw [List.mem_singleton.mp hnew'] at htype' hinvoice ⊢
      exact Or.inr (Or.inl (hlatest htype' t hold htype hinvoice))
    · rw [List.mem_singleton.mp hnew] at htype hinvoice ⊢
      exact Or.inr (Or.inr (hlatest htype u hold' htype' hinvoice.symm))
    · exact Or.inl (by rw [List.mem_singleton.mp hnew, List.mem_singleton.mp hnew'])
  · intro t ht htype
    rcases List.mem_append.mp ht with hold | hnew
    · obtain ⟨e, he, hrest⟩ := h.extracted t hold htype
      exact ⟨e, List.mem_append_left _ he, hrest⟩
    · rw [List.mem_singleton.mp hnew] at htype ⊢
      obtain ⟨e, he, hrest⟩ := hextracted htype
      exact ⟨e, List.mem_append_left _ he, hrest⟩

theorem TasksInv.moves_replace {tasks : List WorkflowTask} {t t' : WorkflowTask}
    (h : TasksInv tasks) (ht : t ∈ tasks) (hactive : active t = true) (hsame : SameTask t t') :
    Moves tasks (replaceTask t') := by
  constructor
  · intro u hu
    unfold replaceTask
    split
    · obtain rfl := h.eq_of_id hu ht (by rwa [← hsame.id])
      exact hsame
    · exact SameTask.refl u
  · intro u hu hended
    unfold replaceTask
    split
    · obtain rfl := h.eq_of_id hu ht (by rwa [← hsame.id])
      rw [hactive] at hended
      exact nomatch hended
    · rfl

/-- Once the one active task of an invoice has ended, none is left. -/
theorem TasksInv.idle_of_ended {tasks : List WorkflowTask} {t t' : WorkflowTask}
    (h : TasksInv tasks) (ht : t ∈ tasks) (hactive : active t = true) (hsame : SameTask t t')
    (hended : active t' = false) :
    ∀ u ∈ tasks.map (replaceTask t'), active u = true → u.invoiceId ≠ t.invoiceId := by
  intro u' hu' hactive' hinvoice
  have hf := h.moves_replace ht hactive hsame
  obtain ⟨u, hu, rfl⟩ := List.mem_map.mp hu'
  rw [(hf.same u hu).invoiceId] at hinvoice
  have hid := h.oneActive u hu t ht (hf.active_of hu hactive') hactive hinvoice
  unfold replaceTask at hactive'
  rw [if_pos (hid.trans hsame.id.symm), hended] at hactive'
  exact nomatch hactive'

/-- An invoice whose latest extraction failed has nothing but failed extractions. -/
theorem TasksInv.failed_of_latest {tasks : List WorkflowTask} {t : WorkflowTask}
    (h : TasksInv tasks) (ht : t ∈ tasks) (hfailed : t.state = .failed)
    (htype : t.taskType = .extractInvoiceClaims)
    (hlatest : ∀ u ∈ tasks, u.invoiceId = t.invoiceId → u.taskType = .extractInvoiceClaims →
      u.taskVersion ≤ t.taskVersion) :
    ∀ u ∈ tasks, u.invoiceId = t.invoiceId →
      u.taskType = .extractInvoiceClaims ∧ u.state = .failed := by
  have hothers : ∀ u ∈ tasks, u.invoiceId = t.invoiceId → u.taskType = .extractInvoiceClaims →
      u.state = .failed := by
    intro u hu hinvoice hutype
    rcases h.extractions u hu t ht hutype htype hinvoice with hid | ⟨hstate, _⟩ | ⟨_, hlt⟩
    · rw [h.eq_of_id hu ht hid]
      exact hfailed
    · exact hstate
    · exact absurd (hlatest u hu hinvoice hutype) (by omega)
  intro u hu hinvoice
  by_cases hutype : u.taskType = .extractInvoiceClaims
  · exact ⟨hutype, hothers u hu hinvoice hutype⟩
  · obtain ⟨e, he, hetype, heinvoice, hestate⟩ := h.extracted u hu hutype
    rw [hothers e he (heinvoice.trans hinvoice) hetype] at hestate
    exact nomatch hestate

/-! ## The machine -/

@[ext] structure State where
  tasks : List WorkflowTask
  keys : List LeaseKey
  attempts : List WorkflowTaskAttempt
  completed : List CompletedTask
  claimSets : List ClaimSet
  reconstructions : List ReconstructionRow
  runs : List RuleRetrievalRun
  recommendations : List RecommendationRow

/-- The pipeline within the platform. -/
def pipelineOf (w : World) : State :=
  { tasks := w.db .workflowTasks
    keys := w.leases.map Lease.key
    attempts := w.db .workflowTaskAttempts
    completed := w.completed
    claimSets := w.db .claimSets
    reconstructions := w.db .reconstructions
    runs := w.db .ruleRetrievalRuns
    recommendations := w.db .recommendations }

/-- The task runs under the worker of the key and, except for a binding, under its
attempt. -/
structure RunsUnder (key : LeaseKey) (t : WorkflowTask) : Prop where
  id : t.id = key.taskId
  state : t.state = .running
  owner : t.leaseOwner = some key.workerId
  attempt : t.taskType ≠ .bindAccessEvidence → t.currentAttempt = key.attempt

/-- The row of a task after an attempt that ended in the state. -/
structure Ended (state : TaskState) (t t' : WorkflowTask) : Prop extends SameTask t t' where
  state : t'.state = state
  attempt : t'.currentAttempt = t.currentAttempt

/-- No attempt of the task has started. -/
structure Unstarted (t : WorkflowTask) : Prop where
  state : t.state = .pending ∨ t.state = .held
  attempt : t.currentAttempt = 0

/-- At most one new task, of the type and with the property, for the invoice of a
completed one. -/
def Follows (tasks : List WorkflowTask) (t : WorkflowTask) (taskType : TaskType)
    (P : WorkflowTask → Prop) (new : List WorkflowTask) : Prop :=
  new = [] ∨ ∃ n, new = [n] ∧ (∀ u ∈ tasks, u.id ≠ n.id) ∧ n.taskType = taskType ∧
    n.invoiceId = t.invoiceId ∧ Unstarted n ∧ P n

/-- The last reconstruction of an invoice. -/
def lastOf (rows : List ReconstructionRow) (invoiceId : Uuid) : Option ReconstructionRow :=
  (rows.filter fun r => r.invoiceId = invoiceId).getLast?

/-- A new version of the invoice of a task. -/
structure NewVersion (p : State) (t : WorkflowTask) (row : ReconstructionRow) : Prop where
  invoiceId : row.invoiceId = t.invoiceId
  version : ∀ r ∈ p.reconstructions, r.invoiceId = t.invoiceId → r.version < row.version
  fresh : ∀ r ∈ p.reconstructions, r.id ≠ row.id ∧
    ¬(r.invoiceId = row.invoiceId ∧ r.inputFingerprint = row.inputFingerprint)

/-- A new recommendation of the reconstruction a task refers to. -/
structure NewRecommendation (p : State) (t : WorkflowTask) (row : RecommendationRow) :
    Prop where
  invoiceId : row.invoiceId = t.invoiceId
  reconstruction : reconstructionIdOf t.inputObjectRefs = some row.reconstructionId
  version : ∀ r ∈ p.recommendations, r.reconstructionId = row.reconstructionId →
    r.version < row.version
  fresh : ∀ r ∈ p.recommendations, r.id ≠ row.id

/-- A judgment task whose input is the reconstruction. -/
structure JudgmentOf [Sha256] (invoiceId reconstructionId : Uuid) (j : WorkflowTask) : Prop where
  taskType : j.taskType = .judgeDays
  invoiceId : j.invoiceId = invoiceId
  fingerprint : j.inputFingerprint =
    taskInputFingerprint .judgeDays [reconstructionRef reconstructionId 1]

/-- What a completed rule search leaves behind: nothing new where the reconstruction
was searched before, else its run and, when it hands over, a judgment task for a
reconstruction with charged days. -/
inductive Hands [Sha256] (handsOver : Prop) (p : State) (t : WorkflowTask) :
    List RuleRetrievalRun → List WorkflowTask → Prop
  | repeated (run : RuleRetrievalRun) (hrun : run ∈ p.runs)
      (hid : reconstructionIdOf t.inputObjectRefs = some run.reconstructionId) :
      Hands handsOver p t [] []
  | searched (reconstructionId : Uuid) (runs : List RuleRetrievalRun) (new : List WorkflowTask)
      (hid : reconstructionIdOf t.inputObjectRefs = some reconstructionId)
      (hruns : ∀ run ∈ runs, run.reconstructionId = reconstructionId)
      (hjudgment : handsOver →
        (∃ row ∈ p.reconstructions, row.id = reconstructionId ∧ row.daysTotal = 0) ∨
          ∃ j ∈ p.tasks ++ new, JudgmentOf t.invoiceId reconstructionId j) :
      Hands handsOver p t runs new

/-- What decides a step besides the state: which task a claim takes over from an
expired lease, whom it serves, whether a completed rule search hands over to
judgment, and whether an access binding may complete. -/
structure Occasion where
  takesOver : WorkflowTask → Prop
  worker : String → Prop
  handsOver : Prop
  binds : Prop

/-- The steps of the machine. -/
inductive Step [Sha256] (o : Occasion) (p : State) : State → Prop
  | same : Step o p p
  | received (n : WorkflowTask)
      (hnew : ∀ u ∈ p.tasks, u.id ≠ n.id ∧ u.invoiceId ≠ n.invoiceId)
      (htype : n.taskType = .extractInvoiceClaims)
      (hn : Unstarted n ∧ n.state = .pending ∧ n.taskVersion = 1) :
      Step o p { p with tasks := p.tasks ++ [n] }
  | started (t t' : WorkflowTask) (key : LeaseKey) (hmem : t ∈ p.tasks) (hactive : active t = true)
      (hstart : t.state = .pending ∨ t.state = .retryWait ∨ o.takesOver t)
      (hworker : o.worker key.workerId)
      (hsame : SameTask t t') (hkey : key.taskId = t.id ∧ key.attempt = t.currentAttempt + 1)
      (hrun : t'.state = .running ∧ t'.currentAttempt = key.attempt ∧
        t'.leaseOwner = some key.workerId) :
      Step o p { p with
        tasks := p.tasks.map (replaceTask t')
        keys := p.keys ++ [key]
        attempts := p.attempts ++ [startedAttempt key] }
  | failed (t t' : WorkflowTask) (key : LeaseKey) (state : TaskState) (hmem : t ∈ p.tasks)
      (hruns : RunsUnder key t) (htype : t.taskType ≠ .bindAccessEvidence)
      (hended : Ended state t t')
      (hstate : (state = .retryWait ∧ key.attempt < maxAutomaticAttempts) ∨
        (t.taskType = .extractInvoiceClaims ∧ state = .failed) ∨
        (t.taskType ≠ .extractInvoiceClaims ∧ state = .blocked)) :
      Step o p { p with
        tasks := p.tasks.map (replaceTask t')
        attempts := p.attempts.map (endAttempt key state) }
  | retried (t n : WorkflowTask) (hmem : t ∈ p.tasks) (hfailed : t.state = .failed)
      (htype : t.taskType = .extractInvoiceClaims)
      (hlatest : ∀ u ∈ p.tasks, u.invoiceId = t.invoiceId → u.taskType = .extractInvoiceClaims →
        u.taskVersion ≤ t.taskVersion)
      (hnew : ∀ u ∈ p.tasks, u.id ≠ n.id) (hunstarted : Unstarted n)
      (hn : n.taskType = .extractInvoiceClaims ∧ n.invoiceId = t.invoiceId ∧
        n.taskVersion = t.taskVersion + 1 ∧ n.state = .pending) :
      Step o p { p with tasks := p.tasks ++ [n] }
  | extracted (t t' : WorkflowTask) (key : LeaseKey) (s : ClaimSet) (new : List WorkflowTask)
      (hmem : t ∈ p.tasks) (hruns : RunsUnder key t) (htype : t.taskType = .extractInvoiceClaims)
      (hended : Ended .completed t t') (hinvoice : s.invoiceId = t.invoiceId)
      (hversion : s.claimSetVersion = nextNumber ((p.claimSets.filter fun s =>
        s.invoiceId = t.invoiceId).map ClaimSet.claimSetVersion))
      (hfresh : ∀ s' ∈ p.claimSets, s'.id ≠ s.id)
      (hnew : Follows p.tasks t .startReconstruction (fun _ => True) new) :
      Step o p { p with
        tasks := p.tasks.map (replaceTask t') ++ new
        attempts := p.attempts.map (endAttempt key .completed)
        completed := p.completed ++ [⟨key, some s.id⟩]
        claimSets := p.claimSets ++ [s] }
  | reconstructed (t t' : WorkflowTask) (key : LeaseKey) (rows : List ReconstructionRow)
      (new : List WorkflowTask) (hmem : t ∈ p.tasks) (hruns : RunsUnder key t)
      (htype : t.taskType = .startReconstruction) (hended : Ended .completed t t')
      (hrows : (rows = [] ∧ new = []) ∨ ∃ row, rows = [row] ∧ NewVersion p t row ∧
        Follows p.tasks t .findApplicableRule
          (fun n => reconstructionIdOf n.inputObjectRefs = some row.id) new) :
      Step o p { p with
        tasks := p.tasks.map (replaceTask t') ++ new
        attempts := p.attempts.map (endAttempt key .completed)
        completed := p.completed ++ [⟨key, none⟩]
        reconstructions := p.reconstructions ++ rows }
  | searched (t t' : WorkflowTask) (key : LeaseKey) (runs : List RuleRetrievalRun)
      (new : List WorkflowTask) (hmem : t ∈ p.tasks)
      (hruns : RunsUnder key t) (htype : t.taskType = .findApplicableRule)
      (hended : Ended .completed t t') (hhands : Hands o.handsOver p t runs new)
      (hnew : Follows p.tasks t .judgeDays (fun n =>
        reconstructionIdOf n.inputObjectRefs = reconstructionIdOf t.inputObjectRefs) new) :
      Step o p { p with
        tasks := p.tasks.map (replaceTask t') ++ new
        attempts := p.attempts.map (endAttempt key .completed)
        completed := p.completed ++ [⟨key, none⟩]
        runs := p.runs ++ runs }
  | judged (t t' : WorkflowTask) (key : LeaseKey) (rows : List RecommendationRow)
      (new : List WorkflowTask) (hmem : t ∈ p.tasks) (hruns : RunsUnder key t)
      (htype : t.taskType = .judgeDays) (hended : Ended .completed t t')
      (hrows : (rows = [] ∧ ∃ r ∈ p.recommendations,
          reconstructionIdOf t.inputObjectRefs = some r.reconstructionId) ∨
        ∃ row, rows = [row] ∧ NewRecommendation p t row)
      (hnew : Follows p.tasks t .bindAccessEvidence
        (fun _ => ∀ row ∈ rows, row.recommendationType = .requestEvidence) new) :
      Step o p { p with
        tasks := p.tasks.map (replaceTask t') ++ new
        attempts := p.attempts.map (endAttempt key .completed)
        completed := p.completed ++ [⟨key, none⟩]
        recommendations := p.recommendations ++ rows }
  | bound (t t' : WorkflowTask) (key : LeaseKey) (new : List WorkflowTask) (hmem : t ∈ p.tasks)
      (hruns : RunsUnder key t) (htype : t.taskType = .bindAccessEvidence) (hbinds : o.binds)
      (hended : Ended .completed t t')
      (hnew : Follows p.tasks t .startReconstruction (fun _ => True) new) :
      Step o p { p with
        tasks := p.tasks.map (replaceTask t') ++ new
        completed := p.completed ++ [⟨key, none⟩] }
  | released (f : WorkflowTask → WorkflowTask) (hf : Moves p.tasks f)
      (hattempt : ∀ t ∈ p.tasks, (f t).currentAttempt = t.currentAttempt ∧
        (f t = t ∨ (t.state = .held ∧ (f t).state = .pending))) :
      Step o p { p with tasks := p.tasks.map f }

end Tally.Analysis.Pipeline
