import Tally.Analysis.RuleSteps
import Tally.Model.AccessEvidenceRepository

/-!
# What a judgment and an access binding do

One lemma per operation of `judgment_repository.py` and
`access_evidence_repository.py`. The binding checks the worker of its lease and
not the attempt, so its end has its own shape.
-/

set_option autoImplicit false

namespace Tally.Analysis.Effects
open Library Library.Calendar Tally.Model ReconstructionRepository ApplicableRuleRepository
  JudgmentRepository AccessEvidenceRepository
open Library.Schema (SameExcept sameExcept_refl sameExcept_trans sameExcept_modify)

/-! ## Judgment -/

theorem claimNextJudgmentTask_ok {env : TxnEnv} {workerId : String} {leaseSeconds : Nat}
    {r : Option JudgmentTaskLease} {db db' : Db}
    (h : claimNextJudgmentTask env workerId leaseSeconds db = .ok (r, db')) :
    SameExcept taskTables db db' ∧
      ((r = none ∧ db' = db) ∨ ∃ lease w, r = some lease ∧ lease.workerId = workerId ∧
        lease.invoiceId = w.invoiceId ∧
        reconstructionIdOf w.inputObjectRefs = some lease.reconstructionId ∧
        Claims env .judgeDays w lease.toLeaseKey db db') := by
  unfold claimNextJudgmentTask at h
  rw [Txn.bind_ok] at h
  obtain ⟨task, db₁, hread, h⟩ := h
  obtain ⟨hnext, rfl⟩ := Txn.read_ok.mp hread
  cases task with
  | none =>
      obtain ⟨rfl, rfl⟩ := Txn.pure_ok.mp h
      exact ⟨sameExcept_refl _, Or.inl ⟨rfl, rfl⟩⟩
  | some w =>
      rw [Txn.bind_ok] at h
      obtain ⟨reconstructionId, db₁, hraise, h⟩ := h
      obtain ⟨hid, rfl⟩ := Txn.orRaise_ok.mp hraise
      rw [Txn.bind_ok] at h
      obtain ⟨_, db₂, hstart, h⟩ := h
      obtain ⟨rfl, rfl⟩ := Txn.pure_ok.mp h
      exact ⟨(startAttempt_ok hstart).2.2,
        Or.inr ⟨_, w, rfl, rfl, rfl, hid, claims_of_start hnext hstart⟩⟩

theorem insertJudgments_writes (env : TxnEnv) (k : Nat) (lease : JudgmentTaskLease)
    (recommendationId : Uuid) (judgments : List DayJudgment) :
    Schema.Writes [.chargedDayJudgments] (insertJudgments env k lease recommendationId judgments) := by
  unfold insertJudgments
  refine Txn.keeps_forEach sameExcept_refl sameExcept_trans _ _ fun i j _ => ?_
  refine Txn.keeps_bind sameExcept_trans (Txn.keeps_read sameExcept_refl _) fun days => ?_
  exact Txn.keeps_forEach sameExcept_refl sameExcept_trans _ _
    fun _ _ _ => Schema.writes_insert (by simp)

/-- What a held task is added for: a decision withheld for missing access evidence, with the
request of a pending snapshot. -/
structure Withholds (db : Db) (lease : JudgmentTaskLease) (rec : Recommendation)
    (request : ObjectRef) : Prop where
  withheld : rec.recommendationType = .requestEvidence ∧
    .missingDayAccessEvidence ∈ rec.reasonCodes
  pending : ∃ m ∈ pendingSnapshots db lease.invoiceId, ∃ date, m.effectiveFrom = some date ∧
    request = .accessBindingRequest m.publicRef m.containerRef date

theorem Withholds.of_same {db db' : Db} {lease : JudgmentTaskLease} {rec : Recommendation}
    {request : ObjectRef} (h : Withholds db' lease rec request)
    (hmemory : db' .shipmentEventMemory = db .shipmentEventMemory)
    (hsets : db' .claimSets = db .claimSets) : Withholds db lease rec request := by
  refine ⟨h.withheld, ?_⟩
  have hpending := h.pending
  unfold pendingSnapshots at hpending ⊢
  rwa [hmemory, hsets] at hpending

/-- A withheld decision may add one held task. -/
theorem holdAccessBinding_ok [Sha256] {env : TxnEnv} {k : Nat} {lease : JudgmentTaskLease}
    {rec : Recommendation} {a : Unit} {db db' : Db}
    (h : holdAccessBinding env k lease rec db = .ok (a, db')) :
    db' = db ∨ ∃ receivedAt request, Withholds db lease rec request ∧
      emitTask (heldBindingTask env k lease receivedAt request) db = .ok ((), db') := by
  unfold holdAccessBinding at h
  rcases Txn.onlyIf_ok.mp h with ⟨hwithheld, h⟩ | ⟨_, rfl⟩
  · unfold enqueueHeldAccessBinding at h
    rw [Txn.bind_ok] at h
    obtain ⟨rows, db₁, hrows, h⟩ := h
    obtain ⟨rfl, rfl⟩ := Txn.read_ok.mp hrows
    cases hrow : fetchOne env (pendingSnapshots _ lease.invoiceId) with
    | none =>
        rw [hrow] at h
        exact Or.inl (Txn.pure_ok.mp h).2.symm
    | some row =>
        rw [hrow] at h
        dsimp only at h
        rw [Txn.bind_ok] at h
        obtain ⟨snapshotDate, db₁, hdate, h⟩ := h
        obtain ⟨heffective, rfl⟩ := Txn.orRaise_ok.mp hdate
        rw [Txn.bind_ok] at h
        obtain ⟨invoice, db₁, hinvoice, h⟩ := h
        obtain ⟨_, rfl⟩ := selectRow_ok.mp hinvoice
        cases invoice with
        | none => exact Or.inl (Txn.pure_ok.mp h).2.symm
        | some invoice =>
            exact Or.inr ⟨_, _, ⟨hwithheld, row, List.mem_of_getElem? hrow,
              snapshotDate, heffective, rfl⟩, h⟩
  · exact Or.inl rfl

def completeJudgmentTables : List Table :=
  [.recommendations, .chargedDayJudgments] ++ claimTables

/-- The verified rule of a reconstruction, as a judgment reads it. -/
def verifiedRuleOf (db : Db) (reconstructionId : Uuid) : Option Uuid :=
  ((db .applicableRules).find? fun r =>
    r.reconstructionId = reconstructionId ∧ r.validationState = "VERIFIED").map ApplicableRule.id

/-- A frozen recommendation: its row, the held task it adds and its event. -/
structure Judges [Sha256] (env : TxnEnv) (lease : JudgmentTaskLease) (days : List DayInput)
    (rec : Recommendation) (row : RecommendationRow) (new : List WorkflowTask) (db db' : Db) :
    Prop where
  resolved : resolveRecommendation days = .ok rec
  made : row = recommendationRow lease (env.uuid 0)
    (nextNumber (((db .recommendations).filter fun r =>
      r.reconstructionId = lease.reconstructionId).map RecommendationRow.version))
    (verifiedRuleOf db lease.reconstructionId) (recommendationFingerprint days) rec
  fresh : ∀ r ∈ db .recommendations, r.id ≠ row.id
  rows : db' .recommendations = db .recommendations ++ [row]
  added : new = [] ∨ ∃ receivedAt request, Withholds db lease rec request ∧
    Added (heldBindingTask env 3 lease receivedAt request) (db .workflowTasks) new
  emits : ∃ sequence, Emits env lease.invoiceId ⟨.readyForReconstruction, none, 1⟩
    [ruleEvent env 1 (recommendationFrozen lease row.id row.version rec sequence)] db db'

theorem completeJudgment_ok [Sha256] {env : TxnEnv} {lease : JudgmentTaskLease}
    {days : List DayInput} {r : JudgmentCompletion} {db db' : Db}
    (h : completeJudgment env lease days db = .ok (r, db')) :
    SameExcept completeJudgmentTables db db' ∧ ∃ w new,
      Ends lease.toLeaseKey w .completed new db db' ∧
      ((new = [] ∧ SameExcept taskTables db db' ∧
          ∃ r ∈ db .recommendations, r.reconstructionId = lease.reconstructionId) ∨
        ∃ rec row, Judges env lease days rec row new db db') := by
  unfold completeJudgment at h
  cases hresolved : resolveRecommendation days with
  | error e =>
      rw [hresolved] at h
      exact (Txn.raise_ok.mp h).elim
  | ok rec =>
      rw [hresolved] at h
      dsimp only at h
      rw [Txn.bind_ok] at h
      obtain ⟨_, db₁, hassert, h⟩ := h
      obtain ⟨rfl, w, hholds⟩ := assertCurrentLease_ok.mp hassert
      rw [Txn.bind_ok] at h
      obtain ⟨existing, db₁, hselect, h⟩ := h
      obtain ⟨hfind, rfl⟩ := selectRow_ok.mp hselect
      cases existing with
      | some found =>
          dsimp only at h
          rw [Txn.bind_ok] at h
          obtain ⟨_, db₁, hfinish, h⟩ := h
          obtain ⟨_, rfl⟩ := Txn.pure_ok.mp h
          have hsame := (closeTask_ok hfinish).2.2
          have hfound := List.find?_some hfind
          simp only [decide_eq_true_eq] at hfound
          refine ⟨fun t ht => hsame t ?_, w, [], ends_of_close hholds
            (untouched _) hfinish (untouched _)
            (by decide) (by decide),
            Or.inl ⟨rfl, hsame, found, List.mem_of_find?_eq_some hfind, hfound.1⟩⟩
          simp only [completeJudgmentTables, claimTables, List.mem_append, not_or] at ht
          exact ht.2.1
      | none =>
          dsimp only at h
          rw [Txn.bind_ok] at h
          obtain ⟨versions, db₁, hversions, h⟩ := h
          obtain ⟨rfl, rfl⟩ := selectRows_ok.mp hversions
          rw [Txn.bind_ok] at h
          obtain ⟨rule, db₁, hrule, h⟩ := h
          obtain ⟨rfl, rfl⟩ := selectRow_ok.mp hrule
          rw [Txn.bind_ok] at h
          obtain ⟨_, db₁, hinsert, h⟩ := h
          rw [Txn.bind_ok] at h
          obtain ⟨_, db₂, hjudgments, h⟩ := h
          rw [Txn.bind_ok] at h
          obtain ⟨_, db₃, hfinish, h⟩ := h
          rw [Txn.bind_ok] at h
          obtain ⟨sequence, db₄, hlock, h⟩ := h
          rw [Txn.bind_ok] at h
          obtain ⟨_, db₅, hevent, h⟩ := h
          rw [Txn.bind_ok] at h
          obtain ⟨_, db₆, hhold, h⟩ := h
          obtain ⟨_, rfl⟩ := Txn.pure_ok.mp h
          unfold insertRecommendation at hinsert
          obtain ⟨hemits, hsame₄⟩ := emits_one env hlock hevent ⟨rfl, rfl, rfl, rfl⟩
          have hsame₁ : SameExcept [.recommendations] db db₁ :=
            Schema.writes_insertOrIgnore (by simp) _ _ _ hinsert
          have hsame₂ := insertJudgments_writes _ _ _ _ _ _ _ _ hjudgments
          have hsame₃ := (closeTask_ok hfinish).2.2
          have hsame₅ : SameExcept [.workflowTasks] db₅ db₆ := by
            rcases holdAccessBinding_ok hhold with rfl | ⟨_, _, _, hemit⟩
            · exact sameExcept_refl _
            · exact (emitTask_ok hemit).2
          have hbefore : SameExcept [.recommendations, .chargedDayJudgments] db db₂ := by
            intro t ht
            simp only [List.mem_cons, List.not_mem_nil, or_false, not_or] at ht
            rw [hsame₂ t (by simp [ht]), hsame₁ t (by simp [ht])]
          have hclosed : SameExcept ([.recommendations, .chargedDayJudgments] ++ taskTables) db
              db₃ := by
            intro t ht
            simp only [List.mem_append, not_or] at ht
            rw [hsame₃ t ht.2, hbefore t ht.1]
          have hends : ∃ new, Ends lease.toLeaseKey w .completed new db db₆ ∧
              (new = [] ∨ ∃ receivedAt request, Withholds db lease rec request ∧
                Added (heldBindingTask env 3 lease receivedAt request) (db .workflowTasks) new) := by
            rcases holdAccessBinding_ok hhold with rfl | ⟨receivedAt, request, hwithholds, hemit⟩
            · exact ⟨[], ends_of_close hholds hbefore hfinish hsame₄ (by decide) (by decide),
                Or.inl rfl⟩
            · obtain ⟨new, hends, hadded⟩ := ends_of_emit hholds hbefore hfinish hsame₄ hemit
                (untouched _) (by decide) (by decide) (by decide)
              refine ⟨new, hends, Or.inr ⟨receivedAt, request, hwithholds.of_same ?_ ?_, hadded⟩⟩
              · rw [hsame₄ .shipmentEventMemory (by decide), hclosed .shipmentEventMemory (by decide)]
              · rw [hsame₄ .claimSets (by decide), hclosed .claimSets (by decide)]
          obtain ⟨new, hends, hadded⟩ := hends
          rcases insertOrIgnoreRow_ok.mp hinsert with ⟨hany, _⟩ | ⟨_, hfresh, _, rfl⟩
          · obtain ⟨r, hr, hany⟩ := List.any_eq_true.mp hany
            have hsame := of_decide_eq_true hany
            have hnone := List.find?_eq_none.mp hfind r hr
            exact absurd (decide_eq_true ⟨hsame.1.symm, hsame.2.symm⟩) hnone
          refine ⟨?_, w, new, hends, Or.inr ⟨rec, _, hresolved,
            rfl, ?_, ?_, hadded,
            sequence, hemits.within hclosed hsame₅ (by decide) (by decide)⟩⟩
          · intro t ht
            simp only [completeJudgmentTables, claimTables, List.mem_append, not_or] at ht
            rw [hsame₅ t (by simp_all [taskTables]), hsame₄ t ht.2.2,
              hclosed t (List.mem_append.not.mpr (not_or.mpr ⟨ht.1, ht.2.1⟩))]
          · intro r hr
            have hconflict := hfresh r hr
            simp only [conflicts, decide_eq_false_iff_not, not_or] at hconflict
            exact fun heq => hconflict.1 heq.symm
          · rw [hsame₅ .recommendations (by decide), hsame₄ .recommendations (by decide),
              hsame₃ .recommendations (by decide), hsame₂ .recommendations (by decide),
              Store.modify_same]
            rfl

/-- A failed judgment publishes nothing. -/
theorem failJudgment_ok {env : TxnEnv} {lease : JudgmentTaskLease} {r : TaskState} {db db' : Db}
    (h : failJudgment env lease db = .ok (r, db')) :
    SameExcept taskTables db db' ∧ ∃ w, Ends lease.toLeaseKey w r [] db db' ∧
      ((r = .retryWait ∧ lease.attempt < maxAutomaticAttempts) ∨ r = .blocked) := by
  unfold failJudgment at h
  rw [Txn.bind_ok] at h
  obtain ⟨_, db₁, hassert, h⟩ := h
  obtain ⟨rfl, w, hholds⟩ := assertCurrentLease_ok.mp hassert
  obtain ⟨hstate, notBefore, _, hclose⟩ := failTask_ok h
  refine ⟨(closeTask_ok hclose).2.2, w, ends_of_close hholds (untouched _)
    hclose (untouched _) (by decide) (by decide), ?_⟩
  exact failTask_state hstate

/-! ## Access binding -/

theorem claimNextAccessEvidenceTask_ok {env : TxnEnv} {workerId : String} {leaseSeconds : Nat}
    {r : Option AccessEvidenceLease} {db db' : Db}
    (h : claimNextAccessEvidenceTask env workerId leaseSeconds db = .ok (r, db')) :
    SameExcept taskTables db db' ∧
      ((r = none ∧ db' = db) ∨ ∃ lease w, r = some lease ∧ lease.workerId = workerId ∧
        lease.invoiceId = w.invoiceId ∧
        (lease.snapshotPublicRef, lease.expectedContainerRef, lease.expectedDate) =
          (bindingRequestOf w.inputObjectRefs).getD ("", "", Date.min) ∧
        Claims env .bindAccessEvidence w lease.toLeaseKey db db') := by
  unfold claimNextAccessEvidenceTask at h
  rw [Txn.bind_ok] at h
  obtain ⟨task, db₁, hread, h⟩ := h
  obtain ⟨hnext, rfl⟩ := Txn.read_ok.mp hread
  cases task with
  | none =>
      obtain ⟨rfl, rfl⟩ := Txn.pure_ok.mp h
      exact ⟨sameExcept_refl _, Or.inl ⟨rfl, rfl⟩⟩
  | some w =>
      dsimp only at h
      rw [Txn.bind_ok] at h
      obtain ⟨_, db₂, hstart, h⟩ := h
      obtain ⟨rfl, rfl⟩ := Txn.pure_ok.mp h
      exact ⟨(startAttempt_ok hstart).2.2,
        Or.inr ⟨_, w, rfl, rfl, rfl, rfl, claims_of_start hnext hstart⟩⟩

/-- RUNNING under the worker of the key, whatever the attempt. -/
def holdsWorker (key : LeaseKey) (w : WorkflowTask) : Bool :=
  w.state = .running ∧ w.leaseOwner = some key.workerId

/-- A row after the end of a binding. -/
def endBinding (key : LeaseKey) (w : WorkflowTask) : WorkflowTask :=
  if w.id = key.taskId ∧ w.leaseOwner = some key.workerId then
    { w with state := .completed, leaseOwner := none, leaseExpiresAt := none }
  else w

@[simp] theorem endBinding_id (key : LeaseKey) (w : WorkflowTask) : (endBinding key w).id = w.id := by
  unfold endBinding
  split <;> rfl

theorem finishBindingTask_ok {key : LeaseKey} {a : Unit} {db db' : Db}
    (h : finishBindingTask key db = .ok (a, db')) :
    db' .workflowTasks = (db .workflowTasks).map (endBinding key) ∧
      SameExcept [.workflowTasks] db db' := by
  refine ⟨?_, Schema.writes_update (by simp) _ _ _ h⟩
  rw [← updateRows_ok.mp h, Store.modify_same]
  simp [endBinding]

/-- The end of a binding: the row it holds by its worker, completed, and the task
it adds. -/
structure Binds (key : LeaseKey) (w : WorkflowTask) (new : List WorkflowTask) (db db' : Db) :
    Prop where
  holds : Passes key.taskId (holdsWorker key) w db
  tasks : db' .workflowTasks = (db .workflowTasks ++ new).map (endBinding key)

/-- The event row of a bound snapshot. -/
abbrev bindingEvent (env : TxnEnv) (fields : EventFields) : InvoiceEvent :=
  fields.toRow env 1 "INTAKE_AGENT" "BIND_ACCESS_EVIDENCE" (some "CockroachDB Managed MCP")

/-- A snapshot after the binding of a reference. -/
def bindMemory (publicRef : String) (m : ShipmentEventMemory) : ShipmentEventMemory :=
  if m.publicRef = publicRef ∧ m.sourceVersionState = .pending then
    { m with sourceVersionState := .verified }
  else m

theorem bindSnapshot_ok [Sha256] {env : TxnEnv} {lease : AccessEvidenceLease} {a : Unit}
    {db db' : Db} (h : bindSnapshot env lease db = .ok (a, db')) :
    SameExcept (.shipmentEventMemory :: .workflowTasks :: emitTables) db db' ∧
      db' .shipmentEventMemory =
        (db .shipmentEventMemory).map (bindMemory lease.snapshotPublicRef) ∧
      (∃ new, db' .workflowTasks = db .workflowTasks ++ new ∧
        Added (resumedTask env 3 lease (baseRefs lease.invoiceId (db .workflowTasks)))
          (db .workflowTasks) new) ∧
      ∃ sequence, Emits env lease.invoiceId ⟨.readyForReconstruction, none, 1⟩
        [bindingEvent env (sourceBound lease sequence)]
        db db' := by
  unfold bindSnapshot at h
  rw [Txn.bind_ok] at h
  obtain ⟨_, db₁, hupdate, h⟩ := h
  rw [Txn.bind_ok] at h
  obtain ⟨sequence, db₂, hlock, h⟩ := h
  rw [Txn.bind_ok] at h
  obtain ⟨_, db₃, hevent, h⟩ := h
  unfold emitReconstructionTask at h
  rw [Txn.bind_ok] at h
  obtain ⟨base, db₄, hread, hemit⟩ := h
  obtain ⟨rfl, rfl⟩ := Txn.read_ok.mp hread
  obtain ⟨hemits, hsame₂⟩ := emits_one env hlock hevent ⟨rfl, rfl, rfl, rfl⟩
  have hsame₁ : SameExcept [.shipmentEventMemory] db db₁ :=
    Schema.writes_update (by simp) _ _ _ hupdate
  obtain ⟨⟨new, hadded, htasks⟩, hsame₃⟩ := emitTask_ok hemit
  have htasks₃ : db₃ .workflowTasks = db .workflowTasks := by
    rw [hsame₂ .workflowTasks (by decide), hsame₁ .workflowTasks (by decide)]
  rw [htasks₃] at hadded htasks
  refine ⟨?_, ?_, ⟨new, htasks, hadded⟩, sequence,
    hemits.within hsame₁ hsame₃ (by decide) (by decide)⟩
  · intro t ht
    simp only [List.mem_cons, not_or] at ht
    rw [hsame₃ t (by simp [ht]), hsame₂ t ht.2.2, hsame₁ t (by simp [ht])]
  · rw [hsame₃ .shipmentEventMemory (by decide), hsame₂ .shipmentEventMemory (by decide),
      ← updateRows_ok.mp hupdate, Store.modify_same]
    simp [bindMemory]

def bindingTables : List Table :=
  .accessEvidenceVerifications :: .shipmentEventMemory :: .workflowTasks :: emitTables

/-- The verdict on a snapshot that passed. -/
def passedVerification (env : TxnEnv) (lease : AccessEvidenceLease) (m : ShipmentEventMemory) :
    AccessEvidenceVerification :=
  { id := env.uuid 0
    invoiceId := lease.invoiceId
    taskId := lease.taskId
    snapshotPublicRef := lease.snapshotPublicRef
    containerRef := m.containerRef
    snapshotDate := m.effectiveFrom
    outcome := .verified
    reasonCode := none }

/-- A binding freshly verified: the verdict, the bound snapshot, the new reconstruction task and
its event. -/
structure Resumes [Sha256] (env : TxnEnv) (lease : AccessEvidenceLease) (new : List WorkflowTask)
    (db db' : Db) : Prop where
  verified : ∃ m ∈ db .shipmentEventMemory, m.publicRef = lease.snapshotPublicRef ∧
    m.containerRef = lease.expectedContainerRef ∧ m.effectiveFrom = some lease.expectedDate ∧
    db' .accessEvidenceVerifications =
      db .accessEvidenceVerifications ++ [passedVerification env lease m]
  memory : db' .shipmentEventMemory =
    (db .shipmentEventMemory).map (bindMemory lease.snapshotPublicRef)
  added : Added (resumedTask env 3 lease (baseRefs lease.invoiceId (db .workflowTasks)))
    (db .workflowTasks) new
  emits : ∃ sequence, Emits env lease.invoiceId ⟨.readyForReconstruction, none, 1⟩
    [bindingEvent env (sourceBound lease sequence)] db db'

theorem loadSnapshotFacts_ok {publicRef : String} {facts : AccessSnapshotFacts} {db db' : Db}
    (h : loadSnapshotFacts publicRef db = .ok (facts, db')) :
    db' = db ∧ ∃ m ∈ db .shipmentEventMemory, m.publicRef = publicRef ∧
      facts.containerRef = m.containerRef ∧ facts.snapshotDate = m.effectiveFrom := by
  unfold loadSnapshotFacts at h
  rw [Txn.bind_ok] at h
  obtain ⟨found, db₁, hselect, h⟩ := h
  obtain ⟨hfind, rfl⟩ := selectRow_ok.mp hselect
  cases found with
  | none => exact (Txn.raise_ok.mp h).elim
  | some m =>
      rw [Txn.bind_ok] at h
      obtain ⟨artifact, db₁, hartifact, h⟩ := h
      obtain ⟨_, rfl⟩ := selectRow_ok.mp hartifact
      obtain ⟨rfl, rfl⟩ := Txn.pure_ok.mp h
      exact ⟨rfl, m, List.mem_of_find?_eq_some hfind, by simpa using List.find?_some hfind, rfl,
        rfl⟩

/-- The snapshot of a binding was verified before, or it is retained. -/
def SnapshotKnown (db : Db) (lease : AccessEvidenceLease) : Prop :=
  (∃ v ∈ db .accessEvidenceVerifications, v.taskId = lease.taskId ∧
    v.snapshotPublicRef = lease.snapshotPublicRef) ∨
  ∃ m ∈ db .shipmentEventMemory, m.publicRef = lease.snapshotPublicRef

instance (db : Db) (lease : AccessEvidenceLease) : Decidable (SnapshotKnown db lease) :=
  inferInstanceAs (Decidable (_ ∨ _))

/-- A snapshot that passes is of the expected container and date. -/
theorem verifyAccessSnapshot_passed {facts : AccessSnapshotFacts} {containerRef : String}
    {date : Date} (h : verifyAccessSnapshot facts containerRef date = none) :
    facts.containerRef = containerRef ∧ facts.snapshotDate = some date := by
  unfold verifyAccessSnapshot at h
  by_cases hcontainer : facts.containerRef = containerRef
  · rw [if_neg (not_not.mpr hcontainer)] at h
    by_cases hdate : facts.snapshotDate = some date
    · exact ⟨hcontainer, hdate⟩
    · rw [if_pos hdate] at h
      exact nomatch h
  · rw [if_pos hcontainer] at h
    exact nomatch h

/-- No verification is new but one that refuses. -/
def OnlyRefuses (db db' : Db) : Prop :=
  ∀ v ∈ db' .accessEvidenceVerifications, v ∈ db .accessEvidenceVerifications ∨
    v.outcome = .refused

theorem completeAccessBinding_ok [Sha256] {env : TxnEnv} {lease : AccessEvidenceLease}
    {r : AccessBindingResult} {db db' : Db}
    (h : completeAccessBinding env lease db = .ok (r, db')) :
    SameExcept bindingTables db db' ∧ ∃ w new, Binds lease.toLeaseKey w new db db' ∧
      SnapshotKnown db lease ∧
      ((r.reconstructionRequeued = false ∧ new = [] ∧
        SameExcept [.accessEvidenceVerifications, .workflowTasks] db db' ∧ OnlyRefuses db db') ∨
        (r.reconstructionRequeued = true ∧ Resumes env lease new db db')) := by
  unfold completeAccessBinding at h
  rw [Txn.bind_ok] at h
  obtain ⟨_, db₁, hassert, h⟩ := h
  obtain ⟨rfl, w, hholds⟩ := assertLease_ok.mp hassert
  rw [Txn.bind_ok] at h
  obtain ⟨prior, db₁, hselect, h⟩ := h
  obtain ⟨hprior, rfl⟩ := selectRow_ok.mp hselect
  cases prior with
  | some v =>
      dsimp only at h
      rw [Txn.bind_ok] at h
      obtain ⟨_, db₁, hfinish, h⟩ := h
      obtain ⟨rfl, rfl⟩ := Txn.pure_ok.mp h
      obtain ⟨htasks, hsame⟩ := finishBindingTask_ok hfinish
      have hknown : SnapshotKnown _ lease :=
        Or.inl ⟨v, List.mem_of_find?_eq_some hprior, by simpa using List.find?_some hprior⟩
      refine ⟨fun t ht => hsame t ?_, w, [], ⟨hholds, ?_⟩, hknown,
        Or.inl ⟨rfl, rfl, fun t ht => hsame t ?_, fun v hv => Or.inl ?_⟩⟩
      · simp only [bindingTables, List.mem_cons, not_or] at ht
        simp [ht]
      · rw [htasks, List.append_nil]
      · simp only [List.mem_cons, not_or] at ht
        simp [ht]
      · rwa [hsame .accessEvidenceVerifications (by decide)] at hv
  | none =>
      dsimp only at h
      rw [Txn.bind_ok] at h
      obtain ⟨facts, db₁, hfacts, h⟩ := h
      obtain ⟨rfl, m, hm, href, hcontainer, hdate⟩ := loadSnapshotFacts_ok hfacts
      have hsnapshot : ∃ m ∈ db₁ .shipmentEventMemory, m.publicRef = lease.snapshotPublicRef :=
        ⟨m, hm, href⟩
      rw [Txn.bind_ok] at h
      obtain ⟨_, db₂, hinsert, h⟩ := h
      have hsame₁ : SameExcept [.accessEvidenceVerifications] db₁ db₂ :=
        Schema.writes_insert (by simp) _ _ _ hinsert
      have htasks₁ := hsame₁ .workflowTasks (by decide)
      obtain ⟨_, _, rfl⟩ := insertRow_ok.mp hinsert
      rcases Txn.ite_ok.mp h with ⟨hrefused, h⟩ | ⟨hpassed, h⟩
      · rw [Txn.bind_ok] at h
        obtain ⟨_, db₃, hfinish, h⟩ := h
        obtain ⟨rfl, rfl⟩ := Txn.pure_ok.mp h
        obtain ⟨htasks, hsame⟩ := finishBindingTask_ok hfinish
        have hwritten : SameExcept [.accessEvidenceVerifications, .workflowTasks] db₁ db₃ := by
          intro t ht
          simp only [List.mem_cons, List.not_mem_nil, or_false, not_or] at ht
          rw [hsame t (by simp [ht]), hsame₁ t (by simp [ht])]
        refine ⟨fun t ht => hwritten t ?_, w, [], ⟨hholds, ?_⟩, Or.inr hsnapshot,
          Or.inl ⟨rfl, rfl, hwritten, fun v hv => ?_⟩⟩
        · simp only [bindingTables, List.mem_cons, not_or] at ht
          simp [ht]
        · rw [htasks, htasks₁, List.append_nil]
        · rw [hsame .accessEvidenceVerifications (by decide), Store.modify_same] at hv
          refine (List.mem_append.mp hv).imp_right fun hnew => ?_
          rw [List.mem_singleton.mp hnew]
          exact if_neg fun hnone => by simp [Option.isNone_iff_eq_none.mp hnone] at hrefused
      · rw [Txn.bind_ok] at h
        obtain ⟨_, db₃, hbind, h⟩ := h
        rw [Txn.bind_ok] at h
        obtain ⟨_, db₄, hfinish, h⟩ := h
        obtain ⟨rfl, rfl⟩ := Txn.pure_ok.mp h
        obtain ⟨hsame₂, hmemory, ⟨new, htasks₂, hadded⟩, sequence, hemits⟩ := bindSnapshot_ok hbind
        obtain ⟨htasks, hsame₃⟩ := finishBindingTask_ok hfinish
        rw [htasks₁] at htasks₂ hadded
        have hverdict := Option.not_isSome_iff_eq_none.mp hpassed
        obtain ⟨hexpected, hexpectedDate⟩ := verifyAccessSnapshot_passed hverdict
        refine ⟨?_, w, new, ⟨hholds, ?_⟩, Or.inr hsnapshot, Or.inr ⟨rfl,
          ⟨m, hm, href, hcontainer.symm.trans hexpected, hdate.symm.trans hexpectedDate, ?_⟩, ?_,
          hadded, sequence, hemits.within hsame₁ hsame₃ (by decide) (by decide)⟩⟩
        · intro t ht
          simp only [bindingTables, List.mem_cons, not_or] at ht
          rw [hsame₃ t (by simp [ht]), hsame₂ t (by simpa using ht.2), hsame₁ t (by simp [ht])]
        · rw [htasks, htasks₂]
        · rw [hsame₃ .accessEvidenceVerifications (by decide),
            hsame₂ .accessEvidenceVerifications (by decide), Store.modify_same]
          simp only [passedVerification, hverdict, hcontainer, hdate, Option.isNone_none, if_true]
        · rw [hsame₃ .shipmentEventMemory (by decide), hmemory, hsame₁ .shipmentEventMemory (by decide)]

/-- A row after the release of an invoice's held bindings. -/
def releaseTask (invoiceId : Uuid) (w : WorkflowTask) : WorkflowTask :=
  if w.invoiceId = invoiceId ∧ w.taskType = .bindAccessEvidence ∧ w.state = .held then
    { w with state := .pending }
  else w

theorem releaseAccessEvidence_ok {invoiceId : Uuid} {r : Bool} {db db' : Db}
    (h : releaseAccessEvidence invoiceId db = .ok (r, db')) :
    db' .workflowTasks = (db .workflowTasks).map (releaseTask invoiceId) ∧
      SameExcept [.workflowTasks] db db' := by
  unfold releaseAccessEvidence at h
  rw [Txn.bind_ok] at h
  obtain ⟨held, db₁, hselect, h⟩ := h
  obtain ⟨_, rfl⟩ := selectRows_ok.mp hselect
  rw [Txn.bind_ok] at h
  obtain ⟨_, db₁, hupdate, h⟩ := h
  obtain ⟨_, rfl⟩ := Txn.pure_ok.mp h
  refine ⟨?_, Schema.writes_update (by simp) _ _ _ hupdate⟩
  rw [← updateRows_ok.mp hupdate, Store.modify_same]
  simp [releaseTask]

end Tally.Analysis.Effects
