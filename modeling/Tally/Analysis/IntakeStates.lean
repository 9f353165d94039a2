import Tally.Analysis.EventLog
import Tally.Analysis.Lineage

/-!
# Intake states

The declared transitions of an invoice's intake state are not consulted by the
repositories. Every call nevertheless follows them, with two exceptions by design: a
completed extraction passes through CLAIMS_EXTRACTED within its transaction, and an
operator retry takes a failed invoice back to RECEIVED. The invariant ties the intake
state of an invoice to its tasks.
-/

set_option autoImplicit false

namespace Tally.Analysis.IntakeStates
open Library Library.Calendar Tally.Model IntakeRepository IntakeTasks ReconstructionRepository
  ApplicableRuleRepository JudgmentRepository AccessEvidenceRepository AuthoritySealRepository
  CorrespondenceRepository IntakeEvents Effects Pipeline
open Library.Schema (SameExcept)

/-! ## The states of an invoice and its tasks -/

/-- No extraction of the task's invoice has a higher version. -/
def Latest (tasks : List WorkflowTask) (t : WorkflowTask) : Prop :=
  ∀ u ∈ tasks, u.invoiceId = t.invoiceId → u.taskType = .extractInvoiceClaims →
    u.taskVersion ≤ t.taskVersion

/-- The intake state of an invoice fits one of its tasks. -/
structure Fits (tasks : List WorkflowTask) (t : WorkflowTask) (s : IntakeState) : Prop where
  later : t.taskType ≠ .extractInvoiceClaims → s = .readyForReconstruction
  waiting : t.taskType = .extractInvoiceClaims → t.state = .pending → s = .received
  running : t.taskType = .extractInvoiceClaims →
    t.state = .leased ∨ t.state = .running ∨ t.state = .retryWait → s = .initialProcessing
  failed : t.taskType = .extractInvoiceClaims → t.state = .failed → Latest tasks t →
    s = .extractionFailed ∨ s = .blockedSourceVersionUnavailable

/-- The intake state of every invoice fits its tasks. -/
def Staged (db : Db) : Prop :=
  ∀ t ∈ db .workflowTasks, ∀ i ∈ db .invoices, i.id = t.invoiceId →
    Fits (db .workflowTasks) t i.intakeState

/-- What a change of an intake state by a call may be. -/
def Conforms (c : Call) (current target : IntakeState) : Prop :=
  target = current ∨ requireTransition current target = .ok () ∨
    match c with
    | .completeExtraction _ _ => requireTransition current .claimsExtracted = .ok () ∧
        requireTransition .claimsExtracted target = .ok ()
    | .retryExtraction _ _ _ _ _ =>
      (current = .extractionFailed ∨ current = .blockedSourceVersionUnavailable) ∧
        target = .received
    | _ => False

/-! ## Calls that leave the states alone -/

/-- Every invoice has the intake state it had. -/
def SameStates (db db' : Db) : Prop :=
  ∀ i' ∈ db' .invoices, ∃ i ∈ db .invoices, i.id = i'.id ∧ i.intakeState = i'.intakeState

/-- The intake states and the extractions stay, and tasks change only for invoices past
their extraction. -/
structure KeepsStages (db db' : Db) : Prop where
  states : SameStates db db'
  extractions : ∀ t, t.taskType = .extractInvoiceClaims →
    (t ∈ db' .workflowTasks ↔ t ∈ db .workflowTasks)
  later : ∀ t ∈ db' .workflowTasks, t.taskType ≠ .extractInvoiceClaims →
    PastExtraction (db .workflowTasks) t.invoiceId

theorem Staged.ready {db : Db} (h : Staged db) {invoiceId : Uuid}
    (hpast : PastExtraction (db .workflowTasks) invoiceId) {i : Invoice} (hi : i ∈ db .invoices)
    (hid : i.id = invoiceId) : i.intakeState = .readyForReconstruction := by
  obtain ⟨t, ht, hinvoice, htype⟩ := hpast
  exact (h t ht i hi (hid.trans hinvoice.symm)).later htype

theorem Staged.keeps {db db' : Db} (h : Staged db) (hkeeps : KeepsStages db db') : Staged db' := by
  intro t ht i' hi' hid
  obtain ⟨i, hi, hii, hstate⟩ := hkeeps.states i' hi'
  rw [← hstate]
  have hinvoice : i.id = t.invoiceId := hii.trans hid
  by_cases htype : t.taskType = .extractInvoiceClaims
  · have hfits := h t ((hkeeps.extractions t htype).mp ht) i hi hinvoice
    refine ⟨hfits.later, hfits.waiting, hfits.running, fun _ hfailed hlatest => ?_⟩
    refine hfits.failed htype hfailed fun u hu huinvoice hutype => ?_
    exact hlatest u ((hkeeps.extractions u hutype).mpr hu) huinvoice hutype
  · refine ⟨fun _ => h.ready (hkeeps.later t ht htype) hi hinvoice, ?_, ?_, ?_⟩
    all_goals exact fun heq => absurd heq htype

theorem sameStates_of_same {tables : List Table} {db db' : Db} (h : SameExcept tables db db')
    (ht : Table.invoices ∉ tables) : SameStates db db' := by
  intro i hi
  rw [h _ ht] at hi
  exact ⟨i, hi, rfl, rfl⟩

/-- An advance of an invoice past its extraction leaves its state alone. -/
theorem sameStates_of_emits {env : TxnEnv} {invoiceId : Uuid} {a : Advance}
    {events : List InvoiceEvent} {db db' : Db} (h : Staged db)
    (hpast : PastExtraction (db .workflowTasks) invoiceId)
    (hemits : Emits env invoiceId a events db db') (ha : a.intakeState = .readyForReconstruction) :
    SameStates db db' := by
  intro i' hi'
  rw [hemits.invoices] at hi'
  obtain ⟨i, hi, rfl⟩ := List.mem_map.mp hi'
  refine ⟨i, hi, (advanceInvoice_id _ _ _ i).symm, ?_⟩
  unfold advanceInvoice
  split
  · rename_i hid
    exact (h.ready hpast hi hid).trans ha.symm
  · rfl

theorem keeps_of_same {tables : List Table} {db db' : Db} (h : SameExcept tables db db')
    (hinvoices : Table.invoices ∉ tables) (htasks : Table.workflowTasks ∉ tables) :
    KeepsStages db db' := by
  refine ⟨sameStates_of_same h hinvoices, ?_, ?_⟩
  · intro t _
    rw [h _ htasks]
  · intro t ht htype
    rw [h _ htasks] at ht
    exact ⟨t, ht, rfl, htype⟩

/-- A change of one task after the extraction, with what it hands over to. -/
theorem keeps_of_replaced {db db' : Db} {t t' : WorkflowTask} {new : List WorkflowTask}
    (htasks : TasksInv (db .workflowTasks)) (hmem : t ∈ db .workflowTasks)
    (htype : t.taskType ≠ .extractInvoiceClaims) (hsame : SameTask t t')
    (hrows : db' .workflowTasks = (db .workflowTasks).map (replaceTask t') ++ new)
    (hnew : ∀ n ∈ new, n.taskType ≠ .extractInvoiceClaims ∧ n.invoiceId = t.invoiceId)
    (hstates : SameStates db db') : KeepsStages db db' := by
  have htype' : t'.taskType ≠ .extractInvoiceClaims := by rwa [hsame.taskType]
  refine ⟨hstates, ?_, ?_⟩
  · intro u hu
    rw [hrows, List.mem_append, List.mem_map]
    constructor
    · rintro (⟨v, hv, rfl⟩ | hn)
      · unfold replaceTask at hu ⊢
        by_cases hid : v.id = t'.id
        · rw [if_pos hid] at hu
          exact absurd hu htype'
        · rwa [if_neg hid]
      · exact absurd hu (hnew u hn).1
    · intro hold
      refine Or.inl ⟨u, hold, ?_⟩
      unfold replaceTask
      refine if_neg fun hid => htype ?_
      rwa [← htasks.eq_of_id hold hmem (hid.trans hsame.id)]
  · intro u hu hutype
    rw [hrows] at hu
    rcases List.mem_append.mp hu with hu | hu
    · obtain ⟨v, hv, rfl⟩ := List.mem_map.mp hu
      unfold replaceTask at hutype ⊢
      by_cases hid : v.id = t'.id
      · rw [if_pos hid]
        exact ⟨t, hmem, hsame.invoiceId.symm, htype⟩
      · rw [if_neg hid] at hutype ⊢
        exact ⟨v, hv, rfl, hutype⟩
    · exact ⟨t, hmem, (hnew u hu).2.symm, htype⟩

/-! ## Calls that move an invoice -/

/-- The tasks and the intake state of one invoice change, and fit again. -/
structure Restages (c : Call) (invoiceId : Uuid) (s : IntakeState) (db db' : Db) : Prop where
  others : ∀ t, t.invoiceId ≠ invoiceId → (t ∈ db' .workflowTasks ↔ t ∈ db .workflowTasks)
  own : ∀ t ∈ db' .workflowTasks, t.invoiceId = invoiceId → Fits (db' .workflowTasks) t s
  states : ∀ i' ∈ db' .invoices, (i'.id = invoiceId ∧ i'.intakeState = s) ∨
    (i'.id ≠ invoiceId ∧
      ∃ i ∈ db .invoices, i.id = i'.id ∧ i.intakeState = i'.intakeState)
  conforms : ∀ i ∈ db .invoices, i.id = invoiceId → Conforms c i.intakeState s

theorem Staged.restages {c : Call} {invoiceId : Uuid} {s : IntakeState} {db db' : Db}
    (h : Staged db) (hrestages : Restages c invoiceId s db db') : Staged db' := by
  intro t ht i' hi' hid
  rcases hrestages.states i' hi' with ⟨hown, hstate⟩ | ⟨hother, i, hi, hii, hstate⟩
  · rw [hstate]
    exact hrestages.own t ht (hid.symm.trans hown)
  · have hne : t.invoiceId ≠ invoiceId := fun heq => hother (hid.trans heq)
    have hfits := h t ((hrestages.others t hne).mp ht) i hi (hii.trans hid)
    rw [← hstate]
    refine ⟨hfits.later, hfits.waiting, hfits.running, fun htype hfailed hlatest => ?_⟩
    refine hfits.failed htype hfailed fun u hu huinvoice hutype => ?_
    have hune : u.invoiceId ≠ invoiceId := fun heq => hne (huinvoice.symm.trans heq)
    exact hlatest u ((hrestages.others u hune).mpr hu) huinvoice hutype

theorem states_of_emits {env : TxnEnv} {invoiceId : Uuid} {a : Advance}
    {events : List InvoiceEvent} {db db' : Db} (hemits : Emits env invoiceId a events db db') :
    ∀ i' ∈ db' .invoices, (i'.id = invoiceId ∧ i'.intakeState = a.intakeState) ∨
      (i'.id ≠ invoiceId ∧
        ∃ i ∈ db .invoices, i.id = i'.id ∧ i.intakeState = i'.intakeState) := by
  intro i' hi'
  rw [hemits.invoices] at hi'
  obtain ⟨i, hi, rfl⟩ := List.mem_map.mp hi'
  unfold advanceInvoice
  by_cases hid : i.id = invoiceId
  · rw [if_pos hid]
    exact Or.inl ⟨hid, rfl⟩
  · rw [if_neg hid]
    exact Or.inr ⟨hid, i, hi, rfl, rfl⟩

/-- A failed extraction that a later one follows fits any state. -/
theorem fits_superseded {tasks : List WorkflowTask} {t u : WorkflowTask} (s : IntakeState)
    (htype : t.taskType = .extractInvoiceClaims) (hfailed : t.state = .failed) (hu : u ∈ tasks)
    (hinvoice : u.invoiceId = t.invoiceId) (hutype : u.taskType = .extractInvoiceClaims)
    (hlt : t.taskVersion < u.taskVersion) : Fits tasks t s := by
  refine ⟨fun hne => absurd htype hne, ?_, ?_, ?_⟩
  · intro _ hstate
    rw [hfailed] at hstate
    exact nomatch hstate
  · intro _ hstate
    rw [hfailed] at hstate
    exact (hstate.elim nofun (Or.rec nofun nofun))
  · intro _ _ hlatest
    exact absurd (hlatest u hu hinvoice hutype) (Nat.not_le_of_lt hlt)

/-- The other tasks of an invoice whose extraction is under way are failed extractions
before it. -/
theorem superseded {tasks : List WorkflowTask} (h : TasksInv tasks) {t : WorkflowTask}
    (ht : t ∈ tasks) (htype : t.taskType = .extractInvoiceClaims) (hactive : active t = true) :
    ∀ u ∈ tasks, u.invoiceId = t.invoiceId → u.id ≠ t.id →
      u.taskType = .extractInvoiceClaims ∧ u.state = .failed ∧ u.taskVersion < t.taskVersion := by
  have hunfinished : t.state ≠ .completed ∧ t.state ≠ .failed := by
    unfold active at hactive
    constructor
    · intro hstate
      rw [hstate] at hactive
      exact nomatch hactive
    · intro hstate
      rw [hstate] at hactive
      exact nomatch hactive
  -- an extraction of the invoice besides `t` has failed
  have hbefore : ∀ u ∈ tasks, u.invoiceId = t.invoiceId → u.id ≠ t.id →
      u.taskType = .extractInvoiceClaims → u.state = .failed ∧ u.taskVersion < t.taskVersion := by
    intro u hu hinvoice hne hutype
    rcases h.extractions u hu t ht hutype htype hinvoice with hid | hfailed | ⟨hfailed, _⟩
    · exact absurd hid hne
    · exact hfailed
    · exact absurd hfailed hunfinished.2
  intro u hu hinvoice hne
  by_cases hutype : u.taskType = .extractInvoiceClaims
  · exact ⟨hutype, hbefore u hu hinvoice hne hutype⟩
  · obtain ⟨e, he, hetype, heinvoice, hestate⟩ := h.extracted u hu hutype
    have hne' : e.id ≠ t.id := by
      intro hid
      rw [h.eq_of_id he ht hid] at hestate
      exact hunfinished.1 hestate
    have hfailed := (hbefore e he (heinvoice.trans hinvoice) hne' hetype).1
    rw [hestate] at hfailed
    exact nomatch hfailed

/-- A change of the extraction under way, with what it hands over to. -/
theorem restages_of_replaced {c : Call} {env : TxnEnv} {a : Advance} {events : List InvoiceEvent}
    {db db' : Db} {t t' : WorkflowTask} {new : List WorkflowTask}
    (htasks : TasksInv (db .workflowTasks)) (hmem : t ∈ db .workflowTasks)
    (htype : t.taskType = .extractInvoiceClaims) (hactive : active t = true)
    (hsame : SameTask t t')
    (hrows : db' .workflowTasks = (db .workflowTasks).map (replaceTask t') ++ new)
    (hfits : Fits (db' .workflowTasks) t' a.intakeState)
    (hnew : ∀ n ∈ new, n.invoiceId = t.invoiceId ∧ Fits (db' .workflowTasks) n a.intakeState)
    (hemits : Emits env t.invoiceId a events db db')
    (hconforms : ∀ i ∈ db .invoices, i.id = t.invoiceId → Conforms c i.intakeState a.intakeState) :
    Restages c t.invoiceId a.intakeState db db' := by
  have hmem' : t' ∈ db' .workflowTasks := by
    rw [hrows]
    exact List.mem_append_left _ (List.mem_map.mpr ⟨t, hmem, if_pos hsame.id.symm⟩)
  refine ⟨?_, ?_, states_of_emits hemits, hconforms⟩
  · intro u hne
    rw [hrows, List.mem_append, List.mem_map]
    constructor
    · rintro (⟨v, hv, rfl⟩ | hn)
      · unfold replaceTask at hne ⊢
        by_cases hid : v.id = t'.id
        · rw [if_pos hid] at hne
          exact absurd hsame.invoiceId hne
        · rwa [if_neg hid]
      · exact absurd (hnew u hn).1 hne
    · intro hold
      refine Or.inl ⟨u, hold, ?_⟩
      unfold replaceTask
      refine if_neg fun hid => hne ?_
      rw [htasks.eq_of_id hold hmem (hid.trans hsame.id)]
  · intro u hu hinvoice
    rw [hrows] at hu
    rcases List.mem_append.mp hu with hu | hu
    · obtain ⟨v, hv, rfl⟩ := List.mem_map.mp hu
      unfold replaceTask at hinvoice ⊢
      by_cases hid : v.id = t'.id
      · rw [if_pos hid]
        exact hfits
      · rw [if_neg hid] at hinvoice ⊢
        have hne : v.id ≠ t.id := fun heq => hid (heq.trans hsame.id.symm)
        obtain ⟨hvtype, hvfailed, hlt⟩ := superseded htasks hmem htype hactive v hv hinvoice hne
        refine fits_superseded _ hvtype hvfailed hmem' (hsame.invoiceId.trans hinvoice.symm)
          (hsame.taskType.trans htype) ?_
        rw [hsame.taskVersion]
        exact hlt
    · exact (hnew u hu).2

/-! ## Every call -/

theorem fits_completed {tasks : List WorkflowTask} {t : WorkflowTask} (s : IntakeState)
    (htype : t.taskType = .extractInvoiceClaims) (hstate : t.state = .completed) :
    Fits tasks t s := by
  refine ⟨fun hne => absurd htype hne, ?_, ?_, ?_⟩
  · intro _ h
    exact nomatch hstate.symm.trans h
  · intro _ h
    rcases h with h | h | h
    all_goals exact nomatch hstate.symm.trans h
  · intro _ h
    exact nomatch hstate.symm.trans h

theorem fits_running {tasks : List WorkflowTask} {t : WorkflowTask}
    (htype : t.taskType = .extractInvoiceClaims)
    (hstate : t.state = .running ∨ t.state = .retryWait) : Fits tasks t .initialProcessing := by
  refine ⟨fun hne => absurd htype hne, ?_, fun _ _ => rfl, ?_⟩
  · intro _ h
    rcases hstate with hstate | hstate
    all_goals exact nomatch hstate.symm.trans h
  · intro _ h
    rcases hstate with hstate | hstate
    all_goals exact nomatch hstate.symm.trans h

theorem fits_pending {tasks : List WorkflowTask} {t : WorkflowTask}
    (htype : t.taskType = .extractInvoiceClaims) (hstate : t.state = .pending) :
    Fits tasks t .received := by
  refine ⟨fun hne => absurd htype hne, fun _ _ => rfl, ?_, ?_⟩
  · intro _ h
    rcases h with h | h | h
    all_goals exact nomatch hstate.symm.trans h
  · intro _ h
    exact nomatch hstate.symm.trans h

theorem fits_failed {tasks : List WorkflowTask} {t : WorkflowTask} {s : IntakeState}
    (htype : t.taskType = .extractInvoiceClaims) (hstate : t.state = .failed)
    (hs : s = .extractionFailed ∨ s = .blockedSourceVersionUnavailable) : Fits tasks t s := by
  refine ⟨fun hne => absurd htype hne, ?_, ?_, fun _ _ _ => hs⟩
  · intro _ h
    exact nomatch hstate.symm.trans h
  · intro _ h
    rcases h with h | h | h
    all_goals exact nomatch hstate.symm.trans h

/-- Once the latest extraction of an invoice has failed, all its tasks are failed
extractions. -/
theorem all_failed {tasks : List WorkflowTask} (h : TasksInv tasks) {t : WorkflowTask}
    (ht : t ∈ tasks) (htype : t.taskType = .extractInvoiceClaims) (hfailed : t.state = .failed)
    (hlatest : Latest tasks t) : ∀ u ∈ tasks, u.invoiceId = t.invoiceId →
      u.taskType = .extractInvoiceClaims ∧ u.state = .failed ∧ u.taskVersion ≤ t.taskVersion := by
  have hextraction : ∀ u ∈ tasks, u.invoiceId = t.invoiceId →
      u.taskType = .extractInvoiceClaims → u.state = .failed := by
    intro u hu hinvoice hutype
    rcases h.extractions u hu t ht hutype htype hinvoice with hid | ⟨hstate, _⟩ | ⟨_, hlt⟩
    · rw [h.eq_of_id hu ht hid]
      exact hfailed
    · exact hstate
    · exact absurd (hlatest u hu hinvoice hutype) (Nat.not_le_of_lt hlt)
  intro u hu hinvoice
  by_cases hutype : u.taskType = .extractInvoiceClaims
  · exact ⟨hutype, hextraction u hu hinvoice hutype, hlatest u hu hinvoice hutype⟩
  · obtain ⟨e, he, hetype, heinvoice, hestate⟩ := h.extracted u hu hutype
    have hefailed := hextraction e he (heinvoice.trans hinvoice) hetype
    exact nomatch hestate.symm.trans hefailed

section Transitions

variable {w w' : World} {env : TxnEnv} {c : Call}

/-- A claim of a task after the extraction. -/
theorem keeps_of_claims {taskType : TaskType} {t : WorkflowTask} {key : LeaseKey} {db db' : Db}
    (htasks : TasksInv (db .workflowTasks)) (hclaims : Claims env taskType t key db db')
    (htype : taskType ≠ .extractInvoiceClaims) (hstates : SameStates db db') :
    KeepsStages db db' := by
  obtain ⟨hmem, _, _, t', hsame, _, hrows⟩ := claims_replace htasks hclaims
  rw [← hclaims.type] at htype
  exact keeps_of_replaced htasks hmem htype hsame (hrows.trans (List.append_nil _).symm)
    (fun _ hn => absurd hn List.not_mem_nil) hstates

/-- The end of an attempt after the extraction. -/
theorem keeps_of_ends {l : Lease} {t : WorkflowTask} {state : TaskState}
    {new : List WorkflowTask} {db : Db} (hlinked : Linked w)
    (htasks : TasksInv (w.db .workflowTasks)) (hl : l ∈ w.leases)
    (hends : Ends l.key t state new w.db db) (hnot : ∀ a, l ≠ .access a)
    (htype : ∀ u, Agrees u l → u.taskType ≠ .extractInvoiceClaims)
    (hnew : ∀ n ∈ new, n.taskType ≠ .extractInvoiceClaims ∧ ∀ u, Agrees u l →
      n.invoiceId = u.invoiceId)
    (hstates : SameStates w.db db) : KeepsStages w.db db := by
  obtain ⟨hmem, _, hagrees, t', hended, hrows⟩ := ends_replace hlinked htasks hl hends hnot
  exact keeps_of_replaced htasks hmem (htype t hagrees) hended.toSameTask hrows
    (fun n hn => ⟨(hnew n hn).1, (hnew n hn).2 t hagrees⟩) hstates

theorem restages_of_receipt {invoice : Invoice} {task : WorkflowTask} {event : InvoiceEvent}
    {db : Db} (hlinked : Linked w) (hreceives : Receives env invoice task event w.db db)
    (hinvoice : invoice.intakeState = .received)
    (htask : task.invoiceId = invoice.id ∧ task.taskType = .extractInvoiceClaims ∧
      task.state = .pending) : Restages c invoice.id .received w.db db := by
  refine ⟨?_, ?_, ?_, fun i hi hid => absurd hid (hreceives.newInvoice i hi)⟩
  · intro u hne
    rw [hreceives.tasks, List.mem_append, List.mem_singleton]
    constructor
    · rintro (hold | rfl)
      · exact hold
      · exact absurd htask.1 hne
    · exact Or.inl
  · intro u hu huinvoice
    rw [hreceives.tasks, List.mem_append, List.mem_singleton] at hu
    rcases hu with hold | rfl
    · obtain ⟨i, hi, hid⟩ := hlinked.invoices u hold
      exact absurd (hid.trans huinvoice) (hreceives.newInvoice i hi)
    · exact fits_pending htask.2.1 htask.2.2
  · intro i' hi'
    rw [hreceives.invoices, List.mem_append, List.mem_singleton] at hi'
    rcases hi' with hold | rfl
    · exact Or.inr ⟨hreceives.newInvoice i' hold, i', hold, rfl, rfl⟩
    · exact Or.inl ⟨rfl, hinvoice⟩

/-- A claimed extraction starts, or goes on with, the processing of its invoice. -/
theorem restages_of_claim {t : WorkflowTask} {key : LeaseKey} {events : List InvoiceEvent}
    {workerId : String} {leaseSeconds : Nat} {db : Db} (hstaged : Staged w.db)
    (htasks : TasksInv (w.db .workflowTasks))
    (hclaims : Claims env .extractInvoiceClaims t key w.db db)
    (hemits : Emits env t.invoiceId ⟨.initialProcessing, none, 1⟩ events w.db db) :
    Restages (.claimExtraction workerId leaseSeconds) t.invoiceId .initialProcessing w.db db := by
  obtain ⟨hmem, hactive, hstart, t', hsame, hrun, hrows⟩ := claims_replace htasks hclaims
  refine restages_of_replaced htasks hmem hclaims.type hactive hsame
    (hrows.trans (List.append_nil _).symm)
    (fits_running (hsame.taskType.trans hclaims.type) (Or.inl hrun.1))
    (fun _ hn => absurd hn List.not_mem_nil) hemits ?_
  intro i hi hid
  have hfits := hstaged t hmem i hi hid
  rcases hstart with hpending | hretry | hexpired
  · rw [hfits.waiting hclaims.type hpending]
    exact Or.inr (Or.inl rfl)
  · rw [hfits.running hclaims.type (Or.inr (Or.inr hretry))]
    exact Or.inl rfl
  · have hunder : t.state = .leased ∨ t.state = .running ∨ t.state = .retryWait :=
      hexpired.1.imp_right Or.inl
    rw [hfits.running hclaims.type hunder]
    exact Or.inl rfl

/-- A failed extraction will be retried, or leaves its invoice failed or blocked. -/
theorem restages_of_failure {lease : ExtractionTaskLease} {errorCode : String} {retryable : Bool}
    {r : TaskState} {db : Db} (hstaged : Staged w.db) (hlinked : Linked w)
    (htasks : TasksInv (w.db .workflowTasks)) (hlease : .extraction lease ∈ w.leases)
    (hok : failExtraction env lease errorCode retryable w.db = .ok (r, db)) :
    Restages (.failExtraction lease errorCode retryable) lease.invoiceId
      (failedState lease.toLeaseKey errorCode retryable) w.db db := by
  obtain ⟨_, t, sequence, hends, _, hemits⟩ := failExtraction_ok hok
  have hr := failExtraction_state hok
  obtain ⟨hmem, hruns, ⟨htype, hinvoice⟩, t', hended, hrows⟩ :=
    ends_replace hlinked htasks hlease hends (fun _ => nofun)
  have htype' : t'.taskType = .extractInvoiceClaims := hended.taskType.trans htype
  rw [← hinvoice] at hemits ⊢
  refine restages_of_replaced htasks hmem htype (running_active hruns.state) hended.toSameTask hrows
    ?_ (fun _ hn => absurd hn List.not_mem_nil) hemits ?_
  · unfold failedState
    dsimp only
    by_cases hretry : willRetry lease.toLeaseKey retryable = true
    · rw [if_pos hretry] at hr ⊢
      exact fits_running htype' (Or.inr (hended.state.trans hr))
    · rw [if_neg hretry] at hr ⊢
      refine fits_failed htype' (hended.state.trans hr) ?_
      split
      · exact Or.inr rfl
      · exact Or.inl rfl
  · intro i hi hid
    have hprocessing := (hstaged t hmem i hi hid).running htype (Or.inr (Or.inl hruns.state))
    rw [hprocessing]
    unfold failedState
    dsimp only
    split
    · exact Or.inl rfl
    · split
      · exact Or.inr (Or.inl rfl)
      · exact Or.inr (Or.inl rfl)

/-- A retry takes a failed or blocked invoice back to RECEIVED. -/
theorem restages_of_retry {invoiceId : Uuid} {idempotencyKey : String} {expectedRowVersion : Nat}
    {initiatedBy : Option Uuid} {actorDisplay : String} {previous task : WorkflowTask}
    {sequence : Nat} {db : Db} (hstaged : Staged w.db) (htasks : TasksInv (w.db .workflowTasks))
    (hretries : Retries env previous task sequence w.db db) :
    Restages (.retryExtraction invoiceId idempotencyKey expectedRowVersion initiatedBy actorDisplay)
      previous.invoiceId .received w.db db := by
  obtain ⟨hmem, _, htype, hmax⟩ := latestExtractionTask_max hretries.latest
  obtain ⟨by', display, hmade⟩ := hretries.version
  have hlatest : Latest (w.db .workflowTasks) previous := hmax
  have htask : task.invoiceId = previous.invoiceId ∧ task.taskType = .extractInvoiceClaims ∧
      task.state = .pending ∧ task.taskVersion = previous.taskVersion + 1 := by
    rw [hmade]
    exact ⟨rfl, rfl, rfl, rfl⟩
  have hnew : task ∈ db .workflowTasks := by
    rw [hretries.tasks]
    exact List.mem_append_right _ (List.mem_singleton_self _)
  refine ⟨?_, ?_, states_of_emits hretries.emits, ?_⟩
  · intro u hne
    rw [hretries.tasks, List.mem_append, List.mem_singleton]
    constructor
    · rintro (hold | rfl)
      · exact hold
      · exact absurd htask.1 hne
    · exact Or.inl
  · intro u hu hinvoice
    have hcase : u ∈ w.db .workflowTasks ∨ u = task := by
      rwa [hretries.tasks, List.mem_append, List.mem_singleton] at hu
    rcases hcase with hold | rfl
    · obtain ⟨hutype, hufailed, hle⟩ :=
        all_failed htasks hmem htype hretries.failed hlatest u hold hinvoice
      refine fits_superseded _ hutype hufailed hnew (htask.1.trans hinvoice.symm) htask.2.1 ?_
      rw [htask.2.2.2]
      exact Nat.lt_succ_of_le hle
    · exact fits_pending htask.2.1 htask.2.2.1
  · intro i hi hid
    exact Or.inr (Or.inr ⟨(hstaged previous hmem i hi hid).failed htype hretries.failed hlatest, rfl⟩)

variable [Sha256]

theorem keeps_of_send
    (hpast : ∀ d ∈ w.db .correspondenceDrafts, PastExtraction (w.db .workflowTasks) d.invoiceId)
    (hstaged : Staged w.db) (request : SendRequest) (gateChecks : List (Gate × GateCheck))
    (fail : Bool) (fate : Fate) :
    KeepsStages w.db (w.send env request gateChecks fail fate).1.db := by
  have hnothing : KeepsStages w.db w.db := keeps_of_same (untouched _) (by decide) (by decide)
  have hsent {draft : CorrespondenceDraft} {row : SendAttempt} {e : InvoiceEvent} {db : Db}
      (hattempts : Attempts env request gateChecks draft row w.db db)
      (hsame : SameExcept sendTables w.db db)
      (hemits : Emits env draft.invoiceId ⟨.readyForReconstruction, none, 1⟩ [e] w.db db) :
      KeepsStages w.db db := by
    have htasks := hsame .workflowTasks (by decide)
    have hdraft := hpast draft (List.mem_of_find?_eq_some hattempts.found)
    refine ⟨sameStates_of_emits hstaged hdraft hemits rfl, ?_, ?_⟩
    · intro t _
      rw [htasks]
    · intro t ht htype
      rw [htasks] at ht
      exact ⟨t, ht, rfl, htype⟩
  rcases send_cases w env request gateChecks fail fate with heq | ⟨r, db, _, _, hsends, heq⟩
  · rw [heq]
    exact hnothing
  · rw [heq]
    cases hsends with
    | replayed => exact hnothing
    | blocked _ draft _ _ hattempts hsame hemits =>
        obtain ⟨_, _, hemits⟩ := hemits
        exact hsent hattempts hsame hemits
    | replied _ draft _ _ _ hattempts hsame hemits =>
        obtain ⟨_, _, hemits⟩ := hemits
        exact hsent hattempts hsame hemits

/-- A completed extraction passes through CLAIMS_EXTRACTED. -/
theorem restages_of_extraction {lease : ExtractionTaskLease} {validation : ClaimValidation}
    {r : ExtractionCompletion} {db : Db} (hstaged : Staged w.db) (hlinked : Linked w)
    (htasks : TasksInv (w.db .workflowTasks)) (hlease : .extraction lease ∈ w.leases)
    (hok : completeExtraction env lease validation w.db = .ok (r, db)) :
    Restages (.completeExtraction lease validation) lease.invoiceId (extractedState validation)
      w.db db := by
  obtain ⟨_, t, new, s, rows, sequence, hends, hadded, _, _, _, _, _, _, _, hemits⟩ :=
    completeExtraction_ok hok
  obtain ⟨hmem, hruns, ⟨htype, hinvoice⟩, t', hended, hrows⟩ :=
    ends_replace hlinked htasks hlease hends (fun _ => nofun)
  rw [← hinvoice] at hemits ⊢
  refine restages_of_replaced htasks hmem htype (running_active hruns.state) hended.toSameTask hrows
    (fits_completed _ (hended.taskType.trans htype) hended.state) ?_ hemits ?_
  · intro n hn
    rcases hadded with rfl | ⟨hpassed, hadded⟩
    · exact absurd hn List.not_mem_nil
    · rw [(added_mem hadded n hn).1]
      refine ⟨hinvoice.symm, fun _ => ?_, nofun, nofun, nofun⟩
      unfold extractedState
      exact if_pos hpassed
  · intro i hi hid
    have hprocessing := (hstaged t hmem i hi hid).running htype (Or.inr (Or.inl hruns.state))
    rw [hprocessing]
    refine Or.inr (Or.inr ⟨rfl, ?_⟩)
    unfold extractedState
    dsimp only
    split <;> rfl

variable [TzDatabase] [CharacterTables]

/-- Every call leaves the stages alone or moves one invoice on. -/
theorem stage_of_transition {allowed : World → TxnEnv → Call → Prop} (hrun : Run allowed w)
    (hstaged : Staged w.db) (hstep : Transition w env c w') :
    KeepsStages w.db w'.db ∨ ∃ invoiceId s, Restages c invoiceId s w.db w'.db := by
  obtain ⟨hhealthy, hlinked⟩ := healthy_of_run hrun
  have htasks : TasksInv (w.db .workflowTasks) := hhealthy.tasks
  have hnothing : KeepsStages w.db w.db := keeps_of_same (untouched _) (by decide) (by decide)
  have hclaimed {taskType : TaskType} {t : WorkflowTask} {key : LeaseKey} {e : InvoiceEvent}
      {db : Db} (hclaims : Claims env taskType t key w.db db)
      (htype : taskType ≠ .extractInvoiceClaims)
      (hemits : Emits env t.invoiceId ⟨.readyForReconstruction, none, 1⟩ [e] w.db db) :
      KeepsStages w.db db :=
    keeps_of_claims htasks hclaims htype (sameStates_of_emits hstaged
      ⟨t, hclaims.mem, rfl, hclaims.type ▸ htype⟩ hemits rfl)
  have hended {l : Lease} {t : WorkflowTask} {state : TaskState} {new : List WorkflowTask}
      {db : Db} (hl : l ∈ w.leases) (hends : Ends l.key t state new w.db db)
      (hnot : ∀ a, l ≠ .access a) (htype : ∀ u, Agrees u l → u.taskType ≠ .extractInvoiceClaims) :
      ∀ invoiceId, (∀ u, Agrees u l → u.invoiceId = invoiceId) →
        (∀ n ∈ new, n.taskType ≠ .extractInvoiceClaims ∧ n.invoiceId = invoiceId) →
        (PastExtraction (w.db .workflowTasks) invoiceId → SameStates w.db db) →
        KeepsStages w.db db := by
    intro invoiceId hinvoice hnew hstates
    obtain ⟨hmem, _, hagrees, _⟩ := ends_replace hlinked htasks hl hends hnot
    refine keeps_of_ends hlinked htasks hl hends hnot htype
      (fun n hn => ⟨(hnew n hn).1, fun u hu => (hnew n hn).2.trans (hinvoice u hu).symm⟩) ?_
    exact hstates ⟨t, hmem, hinvoice t hagrees, htype t hagrees⟩
  cases hstep with
  | refused => exact Or.inl hnothing
  | peripheral _ db hsame => exact Or.inl (keeps_of_same hsame (by decide) (by decide))
  | finalized command r db hok =>
      rcases (finalizeReceivedInvoice_ok hok).2 with rfl | ⟨invoiceId, sourceId, hreceives⟩
      · exact Or.inl hnothing
      · exact Or.inr ⟨_, _, restages_of_receipt hlinked hreceives rfl ⟨rfl, rfl, rfl⟩⟩
  | claimedExtraction _ _ r db hok =>
      obtain ⟨_, ⟨rfl, rfl⟩ | ⟨lease, t, _, rfl, _, _, hclaims, hemits⟩⟩ :=
        claimNextExtractionTask_ok hok
      · exact Or.inl hnothing
      · exact Or.inr ⟨_, _, restages_of_claim hstaged htasks hclaims hemits⟩
  | completedExtraction _ _ r db hlease hok =>
      exact Or.inr ⟨_, _, restages_of_extraction hstaged hlinked htasks hlease hok⟩
  | failedExtraction _ _ _ r db hlease hok =>
      exact Or.inr ⟨_, _, restages_of_failure hstaged hlinked htasks hlease hok⟩
  | retried _ _ _ _ _ r db hok =>
      rcases (retryExtractionTask_ok hok).2 with ⟨rfl, _⟩ | ⟨_, previous, task, _, hretries⟩
      · exact Or.inl hnothing
      · exact Or.inr ⟨_, _, restages_of_retry hstaged htasks hretries.toRetries⟩
  | claimedReconstruction _ _ r db hok =>
      obtain ⟨_, ⟨rfl, rfl⟩ | ⟨lease, t, _, rfl, _, _, _, _, hclaims, hemits⟩⟩ :=
        claimNextReconstructionTask_ok hok
      · exact Or.inl hnothing
      · exact Or.inl (hclaimed hclaims nofun hemits)
  | completedReconstruction lease _ work r db hlease _ hok =>
      obtain ⟨_, t, new, hends, hcase⟩ := completeReconstruction_ok hok
      refine Or.inl (hended hlease hends (fun _ => nofun) (fun u hu => by rw [hu.1]; nofun)
        lease.invoiceId (fun u hu => hu.2) ?_ ?_)
      · intro n hn
        rcases hcase with ⟨rfl, _⟩ | ⟨_, hreconstructs⟩
        · exact absurd hn List.not_mem_nil
        · rcases hreconstructs.added with rfl | hadded
          · exact absurd hn List.not_mem_nil
          · rw [(added_mem hadded n hn).1]
            exact ⟨nofun, rfl⟩
      · intro hpast
        rcases hcase with ⟨_, hsame⟩ | ⟨_, hreconstructs⟩
        · exact sameStates_of_same hsame (by decide)
        · obtain ⟨_, _, hemits⟩ := hreconstructs.emits
          exact sameStates_of_emits hstaged hpast hemits rfl
  | failedReconstruction lease _ _ r db hlease hok =>
      obtain ⟨_, t, _, hends, _, hemits⟩ := failReconstruction_ok hok
      exact Or.inl (hended hlease hends (fun _ => nofun) (fun u hu => by rw [hu.1]; nofun)
        lease.invoiceId (fun u hu => hu.2) (fun _ hn => absurd hn List.not_mem_nil)
        fun hpast => sameStates_of_emits hstaged hpast hemits rfl)
  | claimedRule _ _ r db hok =>
      obtain ⟨_, ⟨rfl, rfl⟩ | ⟨lease, t, _, rfl, _, _, _, hclaims, hemits⟩⟩ :=
        claimNextRuleTask_ok hok
      · exact Or.inl hnothing
      · exact Or.inl (hclaimed hclaims nofun hemits)
  | completedRule lease _ _ _ r db hlease hok =>
      obtain ⟨_, t, new, hends, hcase⟩ := completeRule_ok hok
      refine Or.inl (hended hlease hends (fun _ => nofun) (fun u hu => by rw [hu.1]; nofun)
        lease.invoiceId (fun u hu => hu.2.1) ?_ ?_)
      · intro n hn
        rcases hcase with ⟨rfl, _⟩ | hsearch
        · exact absurd hn List.not_mem_nil
        · rcases hsearch.added with ⟨_, _, rfl⟩ | hadded
          · exact absurd hn List.not_mem_nil
          · rw [(added_mem hadded n hn).1]
            exact ⟨nofun, rfl⟩
      · intro hpast
        rcases hcase with ⟨_, hsame, _⟩ | hsearch
        · exact sameStates_of_same hsame (by decide)
        · obtain ⟨_, _, _, hemits⟩ := hsearch.emits
          exact sameStates_of_emits hstaged hpast hemits rfl
  | failedRule lease _ _ r db hlease hok =>
      obtain ⟨_, t, _, hends, _, hemits⟩ := failRule_ok hok
      exact Or.inl (hended hlease hends (fun _ => nofun) (fun u hu => by rw [hu.1]; nofun)
        lease.invoiceId (fun u hu => hu.2.1) (fun _ hn => absurd hn List.not_mem_nil)
        fun hpast => sameStates_of_emits hstaged hpast hemits rfl)
  | claimedJudgment _ _ r db hok =>
      obtain ⟨hsame, ⟨rfl, rfl⟩ | ⟨lease, t, rfl, _, _, _, hclaims⟩⟩ :=
        claimNextJudgmentTask_ok hok
      · exact Or.inl hnothing
      · exact Or.inl (keeps_of_claims htasks hclaims nofun (sameStates_of_same hsame (by decide)))
  | loadedDayInputs => exact Or.inl hnothing
  | completedJudgment lease _ r db hlease _ hok =>
      obtain ⟨_, t, new, hends, hcase⟩ := completeJudgment_ok hok
      refine Or.inl (hended hlease hends (fun _ => nofun) (fun u hu => by rw [hu.1]; nofun)
        lease.invoiceId (fun u hu => hu.2.1) ?_ ?_)
      · intro n hn
        rcases hcase with ⟨rfl, _⟩ | ⟨_, _, hjudges⟩
        · exact absurd hn List.not_mem_nil
        · rcases hjudges.added with rfl | ⟨_, _, _, hadded⟩
          · exact absurd hn List.not_mem_nil
          · rw [(added_mem hadded n hn).1]
            exact ⟨nofun, rfl⟩
      · intro hpast
        rcases hcase with ⟨_, hsame, _⟩ | ⟨_, _, hjudges⟩
        · exact sameStates_of_same hsame (by decide)
        · obtain ⟨_, hemits⟩ := hjudges.emits
          exact sameStates_of_emits hstaged hpast hemits rfl
  | failedJudgment lease r db hlease hok =>
      obtain ⟨hsame, t, hends, _⟩ := failJudgment_ok hok
      exact Or.inl (hended hlease hends (fun _ => nofun) (fun u hu => by rw [hu.1]; nofun)
        lease.invoiceId (fun u hu => hu.2.1) (fun _ hn => absurd hn List.not_mem_nil)
        fun _ => sameStates_of_same hsame (by decide))
  | claimedAccessEvidence _ _ r db hok =>
      obtain ⟨hsame, ⟨rfl, rfl⟩ | ⟨lease, t, rfl, _, _, _, hclaims⟩⟩ :=
        claimNextAccessEvidenceTask_ok hok
      · exact Or.inl hnothing
      · exact Or.inl (keeps_of_claims htasks hclaims nofun (sameStates_of_same hsame (by decide)))
  | completedAccessBinding lease r db hlease hok =>
      obtain ⟨_, t, new, hbinds, _, hcase⟩ := completeAccessBinding_ok hok
      have hnew : ∀ n ∈ new, (n.taskType ≠ .extractInvoiceClaims ∧ n.invoiceId = lease.invoiceId) ∧
          ∀ u ∈ w.db .workflowTasks, u.id ≠ n.id := by
        intro n hn
        rcases hcase with ⟨_, rfl, _⟩ | ⟨_, hresumes⟩
        · exact absurd hn List.not_mem_nil
        · obtain ⟨rfl, hfresh⟩ := added_mem hresumes.added n hn
          exact ⟨⟨nofun, rfl⟩, hfresh⟩
      obtain ⟨hmem, hruns, hagrees, hrows⟩ :=
        binds_replace hlinked htasks hlease hbinds fun n hn => (hnew n hn).2
      have htype : t.taskType ≠ .extractInvoiceClaims := by
        rw [hagrees.1]
        nofun
      refine Or.inl (keeps_of_replaced htasks hmem htype (endBinding_ended hruns).toSameTask hrows
        (fun n hn => ⟨(hnew n hn).1.1, (hnew n hn).1.2.trans hagrees.2.symm⟩) ?_)
      rcases hcase with ⟨_, _, hsame, _⟩ | ⟨_, hresumes⟩
      · exact sameStates_of_same hsame (by decide)
      · obtain ⟨_, hemits⟩ := hresumes.emits
        exact sameStates_of_emits hstaged ⟨t, hmem, hagrees.2, htype⟩ hemits rfl
  | releasedAccessEvidence invoiceId r db hok =>
      obtain ⟨hrows, hsame⟩ := releaseAccessEvidence_ok hok
      have hrelease (t : WorkflowTask) : (releaseTask invoiceId t).taskType = t.taskType ∧
          (releaseTask invoiceId t).invoiceId = t.invoiceId ∧
          (t.taskType = .extractInvoiceClaims → releaseTask invoiceId t = t) := by
        unfold releaseTask
        split
        · rename_i hheld
          exact ⟨rfl, rfl, fun htype => nomatch hheld.2.1.symm.trans htype⟩
        · exact ⟨rfl, rfl, fun _ => rfl⟩
      refine Or.inl ⟨sameStates_of_same hsame (by decide), ?_, ?_⟩
      · intro u hutype
        show u ∈ db .workflowTasks ↔ _
        rw [hrows, List.mem_map]
        constructor
        · rintro ⟨v, hv, rfl⟩
          rw [(hrelease v).1] at hutype
          rwa [(hrelease v).2.2 hutype]
        · exact fun hold => ⟨u, hold, (hrelease u).2.2 hutype⟩
      · intro u hu hutype
        have hu' : u ∈ db .workflowTasks := hu
        rw [hrows] at hu'
        obtain ⟨v, hv, rfl⟩ := List.mem_map.mp hu'
        rw [(hrelease v).1] at hutype
        exact ⟨v, hv, (hrelease v).2.1.symm, hutype⟩
  | approvedAndSealed _ r db hok =>
      obtain ⟨hsame, rec, _, hfind, ⟨rfl, _⟩ | ⟨_, _, _, hseals, _⟩⟩ := approveAndSeal_ok hok
      · exact Or.inl hnothing
      · obtain ⟨_, hemits⟩ := hseals.emits
        have hpast := recommended_past hrun (List.mem_of_find?_eq_some hfind)
        have hrows := hsame .workflowTasks (by decide)
        refine Or.inl ⟨sameStates_of_emits hstaged hpast hemits rfl, ?_, ?_⟩
        · intro u _
          show u ∈ db .workflowTasks ↔ _
          rw [hrows]
        · intro u hu hutype
          have hu' : u ∈ db .workflowTasks := hu
          rw [hrows] at hu'
          exact ⟨u, hu', rfl, hutype⟩
  | loadedPack _ pack db hok =>
      obtain ⟨rfl, _⟩ := loadSealedFactPack_ok hok
      exact Or.inl hnothing
  | drafted _ _ r db _ hok =>
      rcases draftFromSealed_ok hok with ⟨rfl, _⟩ | ⟨d, _, _, _, _, rfl⟩
      · exact Or.inl hnothing
      · have hsame : SameExcept [.correspondenceDrafts] w.db _ :=
          Schema.sameExcept_modify w.db (by simp) (· ++ [d])
        exact Or.inl (keeps_of_same hsame (by decide) (by decide))
  | selectedSend => exact Or.inl hnothing
  | sentSelected => exact Or.inl (keeps_of_send (fun _ hd => drafted_past hrun hd) hstaged _ _ _ _)
  | approvedAndSent =>
      exact Or.inl (keeps_of_send (fun _ hd => drafted_past hrun hd) hstaged _ _ _ _)
  | relayed _ n db hok =>
      exact Or.inl (keeps_of_same (relayOutboxBatch_ok hok).2 (by decide) (by decide))
  | connected => exact Or.inl hnothing
  | reconnected => exact Or.inl hnothing
  | polled => exact Or.inl hnothing

end Transitions

/-! ## Runs -/

section Runs

variable [Sha256] [TzDatabase] [CharacterTables]

theorem staged_of_run {allowed : World → TxnEnv → Call → Prop} {w : World} (h : Run allowed w) :
    Staged w.db := by
  induction h with
  | start => exact fun _ ht => absurd ht List.not_mem_nil
  | step env c hrun _ ih =>
      rcases stage_of_transition hrun ih (step_transition _ env c) with hkeeps | ⟨_, _, hrestages⟩
      · exact ih.keeps hkeeps
      · exact ih.restages hrestages

end Runs

section Case

open Sample

local instance : Sha256 := Sha256.standard
local instance : TzDatabase := zone
local instance : CharacterTables := ascii

/-- Every change of an intake state between two worlds is a declared transition. -/
def Declared (w w' : World) : Prop :=
  ∀ i ∈ w.db .invoices, ∀ i' ∈ w'.db .invoices, i'.id = i.id →
    i'.intakeState = i.intakeState ∨ requireTransition i.intakeState i'.intakeState = .ok ()

instance (w w' : World) : Decidable (Declared w w') :=
  inferInstanceAs (Decidable (∀ i ∈ w.db .invoices, ∀ i' ∈ w'.db .invoices, _))

end Case

end Tally.Analysis.IntakeStates
