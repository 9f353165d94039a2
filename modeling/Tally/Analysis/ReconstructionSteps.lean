import Tally.Analysis.IntakeSteps
import Tally.Model.ReconstructionRepository

/-!
# What a reconstruction does

One lemma per operation of `reconstruction_repository.py`, and the one fact about
the work of an attempt that outlives it: every charged day is in the currency of
the lease.
-/

set_option autoImplicit false

namespace Tally.Analysis.Effects
open Library Library.Calendar Tally.Model ReconstructionRepository
open Library.Schema (SameExcept sameExcept_refl sameExcept_trans sameExcept_modify Appends
  appends_refl appends_trans appends_insert)

/-- The event row of a reconstruction. -/
abbrev reconEvent (env : TxnEnv) (k : Nat) (fields : EventFields) : InvoiceEvent :=
  fields.toRow env k "RECONSTRUCTION_AGENT" "ASSEMBLE_RECONSTRUCTION"
    (some "CockroachDB Managed MCP")

/-! ## The claim -/

/-- Claims of the only validated currency are read back in it. -/
theorem claimInputs_currency {claims : List ExtractedClaim} {inputs : ClaimInputs}
    (h : claimInputs claims = .ok inputs) (husd : ∀ c ∈ claims, c.currency.getD "USD" = "USD") :
    inputs.currency = "USD" := by
  unfold claimInputs at h
  cases hdates : expandChargeDates claims with
  | error e =>
      rw [hdates] at h
      exact nomatch h
  | ok dates =>
      rw [hdates] at h
      obtain rfl : _ = inputs := Except.ok.inj h
      cases hdaily : byField claims "daily_rate" with
      | none => simp
      | some c =>
          have hmem : c ∈ claims := List.mem_reverse.mp (List.mem_of_find?_eq_some hdaily)
          have hc := husd c hmem
          cases hcurrency : c.currency with
          | none => simp [hcurrency]
          | some currency =>
              rw [hcurrency] at hc
              obtain rfl : currency = "USD" := hc
              simp [hcurrency]

theorem claimNextReconstructionTask_ok {env : TxnEnv} {workerId : String} {leaseSeconds : Nat}
    {r : Option ReconstructionTaskLease} {db db' : Db}
    (h : claimNextReconstructionTask env workerId leaseSeconds db = .ok (r, db')) :
    SameExcept claimTables db db' ∧
      ((r = none ∧ db' = db) ∨ ∃ lease w sequence, r = some lease ∧
        lease.workerId = workerId ∧ lease.invoiceId = w.invoiceId ∧
        lease.inputFingerprint = w.inputFingerprint ∧
        ((∀ c ∈ db .extractedClaims, c.currency.getD "USD" = "USD") → lease.currency = "USD") ∧
        Claims env .startReconstruction w lease.toLeaseKey db db' ∧
        Emits env w.invoiceId ⟨.readyForReconstruction, none, 1⟩
          [reconEvent env 0 (retrievalStarted w sequence)] db db') := by
  unfold claimNextReconstructionTask at h
  rw [Txn.bind_ok] at h
  obtain ⟨task, db₁, hread, h⟩ := h
  obtain ⟨hnext, rfl⟩ := Txn.read_ok.mp hread
  cases task with
  | none =>
      obtain ⟨rfl, rfl⟩ := Txn.pure_ok.mp h
      exact ⟨sameExcept_refl _, Or.inl ⟨rfl, rfl⟩⟩
  | some w =>
      rw [Txn.bind_ok] at h
      obtain ⟨claims, db₁, hclaims, h⟩ := h
      obtain ⟨rfl, rfl⟩ := Txn.read_ok.mp hclaims
      cases hinputs : claimInputs (claimsOf db w.invoiceId (claimSetVersionOf w.inputObjectRefs)) with
      | error e =>
          rw [hinputs] at h
          exact (Txn.raise_ok.mp h).elim
      | ok inputs =>
          rw [hinputs] at h
          dsimp only at h
          rw [Txn.bind_ok] at h
          obtain ⟨_, db₂, hstart, h⟩ := h
          rw [Txn.bind_ok] at h
          obtain ⟨sequence, db₃, hlock, h⟩ := h
          rw [Txn.bind_ok] at h
          obtain ⟨_, db₄, hinsert, h⟩ := h
          obtain ⟨rfl, rfl⟩ := Txn.pure_ok.mp h
          obtain ⟨hsame, hclaims, hemits⟩ :=
            claims_published env hnext hstart hlock hinsert ⟨rfl, rfl, rfl, rfl⟩
          refine ⟨hsame, Or.inr ⟨_, w, sequence, rfl, rfl, rfl, rfl, ?_, hclaims, hemits⟩⟩
          intro husd
          exact claimInputs_currency hinputs fun c hc => husd c (List.mem_of_mem_filter hc)

/-! ## The work -/

theorem adjudicateChargedDay_currency (invoiceRateMinor : Int) (currency : String)
    (events : List NormalizedEvent) (boundary : Option ChargeBoundary) (date : Date) :
    (adjudicateChargedDay invoiceRateMinor currency events boundary date).currency = currency := by
  unfold adjudicateChargedDay
  grind

/-- The adjudicated days are in the given currency. -/
theorem reconstructionWork_currency [TzDatabase] {lease : ReconstructionTaskLease}
    {rows : List RawEventRow} {work : ReconstructionWork}
    (h : reconstructionWork lease rows = .ok work) : ∀ d ∈ work.days, d.currency = lease.currency := by
  unfold reconstructionWork at h
  dsimp only at h
  cases hboundary : resolveChargeBoundary (validateEvents rows lease.knowledgeCutoffAt
      lease.shipmentRef lease.containerRef).accepted effectiveTimezone with
  | error e =>
      rw [hboundary] at h
      exact nomatch h
  | ok boundary =>
      rw [hboundary] at h
      obtain rfl : _ = work := Except.ok.inj h
      intro d hd
      obtain ⟨date, _, rfl⟩ := List.mem_map.mp hd
      exact adjudicateChargedDay_currency _ _ _ _ _

/-! ## Completion -/

def detailTables : List Table :=
  [.reconstructionEvents, .chargedDays, .dayEventBindings, .reconstructionCoverage]

theorem insertReconstructionEvent_writes (env : TxnEnv) (k : Nat) (reconstructionId : Uuid)
    (index : Nat) (event : NormalizedEvent) :
    Schema.Writes [.reconstructionEvents]
      (insertReconstructionEvent env k reconstructionId index event) := by
  unfold insertReconstructionEvent
  refine Txn.keeps_bind sameExcept_trans (Txn.keeps_read sameExcept_refl _) fun artifact => ?_
  cases artifact with
  | none => exact Txn.keeps_raise _
  | some artifact => exact Schema.writes_insert (by simp)

theorem insertChargedDay_appends (env : TxnEnv) (k : Nat) (reconstructionId invoiceId : Uuid)
    (rowIds : List (String × Uuid)) (roles : List (Date × List (EventRole × List String)))
    (index : Nat) (day : ChargedDayResult) :
    Txn.Keeps (Appends .chargedDays fun d => d.reconstructionId = reconstructionId ∧
      d.currency = day.currency ∧ d.applicableRateMinor = none)
      (insertChargedDay env k reconstructionId invoiceId rowIds roles index day) ∧
    Schema.Writes [.chargedDays, .dayEventBindings]
      (insertChargedDay env k reconstructionId invoiceId rowIds roles index day) := by
  unfold insertChargedDay
  constructor
  · refine Txn.keeps_bind appends_trans (appends_insert ⟨rfl, rfl, rfl⟩) fun _ => ?_
    refine Txn.keeps_forEach appends_refl appends_trans _ _ fun _ binding _ => ?_
    have hwrites : Schema.Writes [.dayEventBindings]
        (insertOrIgnoreRow .dayEventBindings (· = ·) binding) :=
      Schema.writes_insertOrIgnore (by simp)
    exact hwrites.appends (by decide)
  · refine Txn.keeps_bind sameExcept_trans (Schema.writes_insert (by simp)) fun _ => ?_
    refine Txn.keeps_forEach sameExcept_refl sameExcept_trans _ _ fun _ binding _ => ?_
    exact Schema.writes_insertOrIgnore (by simp)

theorem insertReconstructionDetail_writes (env : TxnEnv) (lease : ReconstructionTaskLease)
    (work : ReconstructionWork) (reconstructionId : Uuid) :
    Schema.Writes detailTables (insertReconstructionDetail env lease work reconstructionId) := by
  unfold insertReconstructionDetail
  refine Txn.keeps_bind sameExcept_trans (Txn.keeps_forEach sameExcept_refl sameExcept_trans _ _
    fun i e _ => ?_) fun _ => ?_
  · intro db a db' h t ht
    exact insertReconstructionEvent_writes env 10 reconstructionId i e _ _ _ h t
      (by simp_all [detailTables])
  refine Txn.keeps_bind sameExcept_trans (Txn.keeps_forEach sameExcept_refl sameExcept_trans _ _
    fun i d _ => ?_) fun _ => ?_
  · intro db a db' h t ht
    exact (insertChargedDay_appends env _ reconstructionId lease.invoiceId _ _ i d).2 _ _ _ h t
      (by simp_all [detailTables])
  · exact Txn.keeps_forEach sameExcept_refl sameExcept_trans _ _
      fun _ _ _ => Schema.writes_insert (by simp [detailTables])

/-- The days of a version are in the currency of the work and have no rate yet. -/
theorem insertReconstructionDetail_appends (env : TxnEnv) (lease : ReconstructionTaskLease)
    {work : ReconstructionWork} (reconstructionId : Uuid) {currency : String}
    (hcurrency : ∀ d ∈ work.days, d.currency = currency) :
    Txn.Keeps (Appends .chargedDays fun d => d.reconstructionId = reconstructionId ∧
      d.currency = currency ∧ d.applicableRateMinor = none)
      (insertReconstructionDetail env lease work reconstructionId) := by
  unfold insertReconstructionDetail
  refine Txn.keeps_bind appends_trans (Txn.keeps_forEach appends_refl appends_trans _ _
    fun i e _ => ?_) fun _ => ?_
  · exact (insertReconstructionEvent_writes env 10 reconstructionId i e).appends (by decide)
  refine Txn.keeps_bind appends_trans (Txn.keeps_forEach appends_refl appends_trans _ _
    fun i d hd => ?_) fun _ => ?_
  · rw [← hcurrency d hd]
    exact (insertChargedDay_appends env _ reconstructionId lease.invoiceId _ _ i d).1
  · refine Txn.keeps_forEach appends_refl appends_trans _ _ fun _ p _ => ?_
    have hwrites : Schema.Writes [.reconstructionCoverage] (insertRow .reconstructionCoverage
        ⟨reconstructionId, p.1, p.2⟩) :=
      Schema.writes_insert (by simp)
    exact hwrites.appends (by decide)

/-- The completion event and the coverage event. -/
theorem emitReconstructionEvents_ok {env : TxnEnv} {lease : ReconstructionTaskLease}
    {work : ReconstructionWork} {ref : ObjectRef} {daysComplete : Nat} {a : Unit} {db db' : Db}
    (h : emitReconstructionEvents env lease work ref daysComplete db = .ok (a, db')) :
    (∃ n m, Emits env lease.invoiceId ⟨.readyForReconstruction, none, 2⟩
      [reconEvent env 2 (reconstructionFinished lease work ref daysComplete n),
       reconEvent env 4 (coverageUpdated lease work ref daysComplete m)] db db') ∧
      SameExcept emitTables db db' := by
  unfold emitReconstructionEvents at h
  rw [Txn.bind_ok] at h
  obtain ⟨n, db₁, hlock₁, h⟩ := h
  rw [Txn.bind_ok] at h
  obtain ⟨_, db₂, hinsert₁, h⟩ := h
  rw [Txn.bind_ok] at h
  obtain ⟨m, db₃, hlock₂, hinsert₂⟩ := h
  obtain ⟨hemits₁, hsame₁⟩ := emits_one env hlock₁ hinsert₁ ⟨rfl, rfl, rfl, rfl⟩
  obtain ⟨hemits₂, hsame₂⟩ := emits_one env hlock₂ hinsert₂ ⟨rfl, rfl, rfl, rfl⟩
  exact ⟨⟨n, m, hemits₁.trans hemits₂⟩, sameExcept_trans _ _ _ hsame₁ hsame₂⟩

def completeReconstructionTables : List Table := .reconstructions :: detailTables ++ claimTables

/-- The number of an invoice's next version. -/
abbrev nextVersion (invoiceId : Uuid) (db : Db) : Nat :=
  nextNumber (((db .reconstructions).filter fun r => r.invoiceId = invoiceId).map
    ReconstructionRow.version)

/-- A new version of an invoice: the row, its days, the rule task it adds and its
two events. -/
structure Reconstructs [Sha256] (env : TxnEnv) (lease : ReconstructionTaskLease)
    (work : ReconstructionWork) (row : ReconstructionRow) (new : List WorkflowTask)
    (db db' : Db) : Prop where
  made : row = reconstructionRow env lease work (nextVersion lease.invoiceId db)
  fresh : ∀ r ∈ db .reconstructions, r.id ≠ row.id ∧
    ¬(r.invoiceId = lease.invoiceId ∧ r.inputFingerprint = lease.inputFingerprint)
  rows : db' .reconstructions = db .reconstructions ++ [row]
  days : ∀ currency, (∀ d ∈ work.days, d.currency = currency) →
    Appends .chargedDays (fun d => d.reconstructionId = row.id ∧ d.currency = currency ∧
      d.applicableRateMinor = none) db db'
  added : new = [] ∨ Added (ruleTask env 1 lease row.id row.version) (db .workflowTasks) new
  emits : ∃ n m, Emits env lease.invoiceId ⟨.readyForReconstruction, none, 2⟩
    [reconEvent env 2 (reconstructionFinished lease work (reconstructionRef row.id row.version)
      work.daysComplete n),
     reconEvent env 4 (coverageUpdated lease work (reconstructionRef row.id row.version)
      work.daysComplete m)] db db'

theorem completeReconstruction_ok [Sha256] {env : TxnEnv} {lease : ReconstructionTaskLease}
    {work : ReconstructionWork} {r : ReconstructionCompletion} {db db' : Db}
    (h : completeReconstruction env lease work db = .ok (r, db')) :
    SameExcept completeReconstructionTables db db' ∧ ∃ w new,
      Ends lease.toLeaseKey w .completed new db db' ∧
      ((new = [] ∧ SameExcept [.workflowTasks, .workflowTaskAttempts] db db') ∨
        ∃ row, Reconstructs env lease work row new db db') := by
  unfold completeReconstruction at h
  rw [Txn.bind_ok] at h
  obtain ⟨_, db₁, hassert, h⟩ := h
  obtain ⟨rfl, w, hholds⟩ := assertCurrentLease_ok.mp hassert
  rw [Txn.bind_ok] at h
  obtain ⟨existing, db₁, hselect, h⟩ := h
  obtain ⟨hfind, rfl⟩ := selectRow_ok.mp hselect
  cases existing with
  | some found =>
      rw [Txn.bind_ok] at h
      obtain ⟨_, db₁, hfinish, h⟩ := h
      obtain ⟨rfl, rfl⟩ := Txn.pure_ok.mp h
      have hsame := (closeTask_ok hfinish).2.2
      refine ⟨fun t ht => hsame t ?_, w, [], ends_of_close hholds (untouched _)
        hfinish (untouched _) (by decide) (by decide), Or.inl ⟨rfl, hsame⟩⟩
      simp only [completeReconstructionTables, claimTables, List.mem_append, not_or] at ht
      exact ht.2.1
  | none =>
      rw [Txn.bind_ok] at h
      obtain ⟨versions, db₁, hversions, h⟩ := h
      obtain ⟨rfl, rfl⟩ := selectRows_ok.mp hversions
      rw [Txn.bind_ok] at h
      obtain ⟨_, db₁, hinsert, h⟩ := h
      obtain ⟨hfresh, _, rfl⟩ := insertRow_ok.mp hinsert
      rw [Txn.bind_ok] at h
      obtain ⟨_, db₂, hdetail, h⟩ := h
      rw [Txn.bind_ok] at h
      obtain ⟨_, db₃, hfinish, h⟩ := h
      rw [Txn.bind_ok] at h
      obtain ⟨_, db₄, hemit, h⟩ := h
      rw [Txn.bind_ok] at h
      obtain ⟨_, db₅, hevents, h⟩ := h
      obtain ⟨_, rfl⟩ := Txn.pure_ok.mp h
      obtain ⟨⟨n, m, hemits⟩, hsame₅⟩ := emitReconstructionEvents_ok hevents
      have hsame₁ : SameExcept [.reconstructions] db _ :=
        Schema.writes_insert (by simp) _ _ _ hinsert
      have hsame₂ := insertReconstructionDetail_writes _ _ _ _ _ _ _ hdetail
      have hsame₃ := (closeTask_ok hfinish).2.2
      have hsame₄ : SameExcept [.workflowTasks] db₃ db₄ := by
        rcases Txn.onlyIf_ok.mp hemit with ⟨_, hemit⟩ | ⟨_, rfl⟩
        · exact (emitTask_ok hemit).2
        · exact sameExcept_refl _
      have hsame : SameExcept (.reconstructions :: detailTables ++
          [.workflowTasks, .workflowTaskAttempts]) db db₄ := by
        intro t ht
        simp only [List.cons_append, List.mem_cons, List.mem_append, not_or] at ht
        rw [hsame₄ t (by simp [ht]), hsame₃ t (by simp [ht]), hsame₂ t ht.2.1,
          hsame₁ t (by simp [ht])]
      have hbefore : SameExcept (.reconstructions :: detailTables) db db₂ := by
        intro t ht
        simp only [List.mem_cons, not_or] at ht
        rw [hsame₂ t ht.2, hsame₁ t (by simp [ht])]
      have hends : ∃ new, Ends lease.toLeaseKey w .completed new db db₅ ∧
          (new = [] ∨ Added (ruleTask env 1 lease (env.uuid 0) (nextVersion lease.invoiceId db))
            (db .workflowTasks) new) := by
        rcases Txn.onlyIf_ok.mp hemit with ⟨_, hemit⟩ | ⟨_, rfl⟩
        · obtain ⟨new, hends, hadded⟩ := ends_of_emit hholds hbefore hfinish
            (untouched _) hemit hsame₅ (by decide) (by decide) (by decide)
          exact ⟨new, hends, Or.inr hadded⟩
        · exact ⟨[], ends_of_close hholds hbefore hfinish hsame₅ (by decide) (by decide),
            Or.inl rfl⟩
      obtain ⟨new, hends, hadded⟩ := hends
      refine ⟨?_, w, new, hends, Or.inr ⟨reconstructionRow env lease work
        (nextVersion lease.invoiceId db), ?_⟩⟩
      · intro t ht
        simp only [completeReconstructionTables, claimTables, List.mem_append, not_or] at ht
        rw [hsame₅ t ht.2.2, hsame t (List.mem_append.not.mpr (not_or.mpr ⟨ht.1, ht.2.1⟩))]
      refine ⟨rfl, ?_, ?_, ?_, hadded, ⟨n, m, hemits.within hsame
        (untouched _) (by decide) (by decide)⟩⟩
      · intro r hr
        have hconflict := hfresh r hr
        simp only [conflicts, decide_eq_false_iff_not, not_or] at hconflict
        have hnone := List.find?_eq_none.mp hfind r hr
        simp only [decide_eq_true_eq] at hnone
        exact ⟨fun heq => hconflict.1 heq.symm, hnone⟩
      · rw [hsame₅ .reconstructions (by decide), hsame₄ .reconstructions (by decide),
          hsame₃ .reconstructions (by decide), hsame₂ .reconstructions (by decide),
          Store.modify_same]
      · intro currency hcurrency
        obtain ⟨rows, hrows, hday⟩ :=
          insertReconstructionDetail_appends _ _ _ hcurrency _ _ _ hdetail
        refine ⟨rows, ?_, hday⟩
        rw [hsame₅ .chargedDays (by decide), hsame₄ .chargedDays (by decide),
          hsame₃ .chargedDays (by decide), hrows, Store.modify_of_ne _ _ (by decide)]

/-! ## Failure -/

theorem failReconstruction_ok {env : TxnEnv} {lease : ReconstructionTaskLease}
    {errorCode : String} {retryable : Bool} {r : TaskState} {db db' : Db}
    (h : failReconstruction env lease errorCode retryable db = .ok (r, db')) :
    SameExcept claimTables db db' ∧ ∃ w sequence, Ends lease.toLeaseKey w r [] db db' ∧
      ((r = .retryWait ∧ lease.attempt < maxAutomaticAttempts) ∨ r = .blocked) ∧
      Emits env lease.invoiceId ⟨.readyForReconstruction, none, 1⟩
        [reconEvent env 0 (retrievalFailed lease errorCode
        (willRetry lease.toLeaseKey retryable) r sequence)] db db' := by
  unfold failReconstruction at h
  rw [Txn.bind_ok] at h
  obtain ⟨_, db₁, hassert, h⟩ := h
  obtain ⟨rfl, w, hholds⟩ := assertCurrentLease_ok.mp hassert
  rw [Txn.bind_ok] at h
  obtain ⟨state, db₁, hfail, h⟩ := h
  obtain ⟨hstate, notBefore, _, hclose⟩ := failTask_ok hfail
  rw [Txn.bind_ok] at h
  obtain ⟨sequence, db₂, hlock, h⟩ := h
  rw [Txn.bind_ok] at h
  obtain ⟨_, db₃, hevent, h⟩ := h
  obtain ⟨rfl, rfl⟩ := Txn.pure_ok.mp h
  obtain ⟨hsame, hends, hemits⟩ :=
    ends_published env hholds hclose hlock hevent ⟨rfl, rfl, rfl, rfl⟩
  refine ⟨hsame, w, sequence, hends, ?_, hemits⟩
  exact failTask_state hstate

end Tally.Analysis.Effects
