import Tally.Analysis.ReconstructionSteps
import Tally.Model.ApplicableRuleRepository

/-!
# What a rule search does

One lemma per operation of `applicable_rule_repository.py`.
-/

set_option autoImplicit false

namespace Tally.Analysis.Effects
open Library Library.Calendar Tally.Model ReconstructionRepository ApplicableRuleRepository
open Library.Schema (SameExcept sameExcept_refl sameExcept_trans sameExcept_modify Appends
  appends_refl appends_trans appends_insert)

/-- The event row of a rule search or a judgment. -/
abbrev ruleEvent (env : TxnEnv) (k : Nat) (fields : EventFields) : InvoiceEvent :=
  fields.toRow env k "EVIDENCE_AGENT" "FIND_APPLICABLE_RULE"
    (some "CockroachDB Distributed Vector Indexing")

theorem claimNextRuleTask_ok {env : TxnEnv} {workerId : String} {leaseSeconds : Nat}
    {r : Option RuleTaskLease} {db db' : Db}
    (h : claimNextRuleTask env workerId leaseSeconds db = .ok (r, db')) :
    SameExcept claimTables db db' ∧
      ((r = none ∧ db' = db) ∨ ∃ lease w sequence, r = some lease ∧
        lease.workerId = workerId ∧ lease.invoiceId = w.invoiceId ∧
        reconstructionIdOf w.inputObjectRefs = some lease.reconstructionId ∧
        Claims env .findApplicableRule w lease.toLeaseKey db db' ∧
        Emits env w.invoiceId ⟨.readyForReconstruction, none, 1⟩
          [ruleEvent env 0 (ruleSearchStarted w sequence)] db db') := by
  unfold claimNextRuleTask at h
  rw [Txn.bind_ok] at h
  obtain ⟨task, db₁, hread, h⟩ := h
  obtain ⟨hnext, rfl⟩ := Txn.read_ok.mp hread
  cases task with
  | none =>
      obtain ⟨rfl, rfl⟩ := Txn.pure_ok.mp h
      exact ⟨sameExcept_refl _, Or.inl ⟨rfl, rfl⟩⟩
  | some w =>
      rw [Txn.bind_ok] at h
      obtain ⟨reconstructionId, db₁, hraise, h⟩ := h
      obtain ⟨hid, rfl⟩ := Txn.orRaise_ok.mp hraise
      rw [Txn.bind_ok] at h
      obtain ⟨days, db₁, hdays, h⟩ := h
      obtain ⟨_, rfl⟩ := Txn.read_ok.mp hdays
      rw [Txn.bind_ok] at h
      obtain ⟨invoice, db₁, hinvoice, h⟩ := h
      obtain ⟨_, rfl⟩ := selectRow_ok.mp hinvoice
      rw [Txn.bind_ok] at h
      obtain ⟨_, db₂, hstart, h⟩ := h
      rw [Txn.bind_ok] at h
      obtain ⟨sequence, db₃, hlock, h⟩ := h
      rw [Txn.bind_ok] at h
      obtain ⟨_, db₄, hinsert, h⟩ := h
      obtain ⟨rfl, rfl⟩ := Txn.pure_ok.mp h
      obtain ⟨hsame, hclaims, hemits⟩ :=
        claims_published env hnext hstart hlock hinsert ⟨rfl, rfl, rfl, rfl⟩
      exact ⟨hsame, Or.inr ⟨_, w, sequence, rfl, rfl, rfl, hid, hclaims, hemits⟩⟩

/-! ## Completion -/

theorem insertCandidates_writes (env : TxnEnv) (k : Nat) (runId : Uuid)
    (candidates : List RuleCandidate) (validations : List CandidateValidation) :
    Schema.Writes [.ruleCandidates] (insertCandidates env k runId candidates validations) :=
  Txn.keeps_forEach sameExcept_refl sameExcept_trans _ _
    fun _ _ _ => Schema.writes_insert (by simp)

/-- A decision adds no rule, or the first one of the lease's reconstruction. -/
def AddsRule (lease : RuleTaskLease) (rules rules' : List ApplicableRule) : Prop :=
  rules' = rules ∨ ∃ r : ApplicableRule, r.invoiceId = lease.invoiceId ∧
    r.reconstructionId = lease.reconstructionId ∧ r.validationState = "VERIFIED" ∧
    (∀ r' ∈ rules, r'.reconstructionId ≠ lease.reconstructionId) ∧ rules' = rules ++ [r]

/-- A decision leaves a day alone, or stamps a rate on a day of the lease's reconstruction, which
then has a rule. -/
def RatesDay (lease : RuleTaskLease) (rules' : List ApplicableRule)
    (d d' : ReconstructionChargedDay) : Prop :=
  d' = d ∨ d.reconstructionId = lease.reconstructionId ∧
    (∃ r ∈ rules', r.reconstructionId = lease.reconstructionId) ∧
    ∃ rate, d' = { d with applicableRateMinor := rate }

theorem RatesDay.same {lease : RuleTaskLease} {rules' : List ApplicableRule}
    {d d' : ReconstructionChargedDay} (h : RatesDay lease rules' d d') :
    ∃ rate, d' = { d with applicableRateMinor := rate } := by
  rcases h with rfl | ⟨_, _, hrate⟩
  · exact ⟨d'.applicableRateMinor, rfl⟩
  · exact hrate

/-- The rules and the days after a decision. -/
structure Decides (lease : RuleTaskLease) (db db' : Db) : Prop where
  rules : AddsRule lease (db .applicableRules) (db' .applicableRules)
  days : ∃ f : ReconstructionChargedDay → ReconstructionChargedDay,
    db' .chargedDays = (db .chargedDays).map f ∧
      ∀ d, RatesDay lease (db' .applicableRules) d (f d)

def decisionTables : List Table := [.applicableRules, .chargedDays, .chargedDayRuleBindings]

theorem insertApplicableRule_ok {env : TxnEnv} {k : Nat} {lease : RuleTaskLease} {runId : Uuid}
    {accepted : CandidateValidation} {r : Uuid × Int} {db db' : Db}
    (h : insertApplicableRule env k lease runId accepted db = .ok (r, db')) :
    Decides lease db db' ∧ SameExcept decisionTables db db' := by
  unfold insertApplicableRule at h
  rw [Txn.bind_ok] at h
  obtain ⟨rateMinor, db₁, hrate, h⟩ := h
  obtain ⟨_, rfl⟩ := Txn.orRaise_ok.mp hrate
  rw [Txn.bind_ok] at h
  obtain ⟨effectiveFrom, db₁, hfrom, h⟩ := h
  obtain ⟨_, rfl⟩ := Txn.orRaise_ok.mp hfrom
  rw [Txn.bind_ok] at h
  obtain ⟨_, db₁, hinsert, h⟩ := h
  rw [Txn.bind_ok] at h
  obtain ⟨_, db₂, hupdate, h⟩ := h
  rw [Txn.bind_ok] at h
  obtain ⟨days, db₃, hdays, h⟩ := h
  obtain ⟨_, rfl⟩ := selectRows_ok.mp hdays
  rw [Txn.bind_ok] at h
  obtain ⟨_, db₃, hbindings, h⟩ := h
  obtain ⟨_, rfl⟩ := Txn.pure_ok.mp h
  have hsame₁ : SameExcept [.applicableRules] db db₁ :=
    Schema.writes_insertOrIgnore (by simp) _ _ _ hinsert
  have hsame₂ : SameExcept [.chargedDays] db₁ db₂ := Schema.writes_update (by simp) _ _ _ hupdate
  have hsame₃ : SameExcept [.chargedDayRuleBindings] db₂ db₃ :=
    Txn.keeps_forEach sameExcept_refl sameExcept_trans _ _
      (fun _ _ _ => Schema.writes_insertOrIgnore (by simp)) _ _ _ hbindings
  have hrules : db₃ .applicableRules = db₁ .applicableRules := by
    rw [hsame₃ .applicableRules (by decide), hsame₂ .applicableRules (by decide)]
  have hadds : AddsRule lease (db .applicableRules) (db₃ .applicableRules) ∧
      ∃ r ∈ db₃ .applicableRules, r.reconstructionId = lease.reconstructionId := by
    rw [hrules]
    rcases insertOrIgnoreRow_ok.mp hinsert with ⟨hany, rfl⟩ | ⟨hany, _, _, rfl⟩
    · obtain ⟨r, hr, hsame⟩ := List.any_eq_true.mp hany
      exact ⟨Or.inl rfl, r, hr, (of_decide_eq_true hsame).symm⟩
    · rw [Store.modify_same]
      refine ⟨Or.inr ⟨_, rfl, rfl, rfl, fun r' hr' heq => ?_, rfl⟩, _,
        List.mem_append_right _ (List.mem_singleton_self _), rfl⟩
      exact List.any_eq_false.mp hany r' hr' (decide_eq_true heq.symm)
  refine ⟨⟨hadds.1, ?_⟩, ?_⟩
  · refine ⟨fun d => if decide (d.reconstructionId = lease.reconstructionId) = true then
      { d with applicableRateMinor := some rateMinor } else d, ?_, ?_⟩
    · rw [hsame₃ .chargedDays (by decide), ← updateRows_ok.mp hupdate, Store.modify_same,
        hsame₁ .chargedDays (by decide)]
    · intro d
      dsimp only
      split
      case isTrue hmine => exact Or.inr ⟨of_decide_eq_true hmine, hadds.2, _, rfl⟩
      case isFalse => exact Or.inl rfl
  · intro t ht
    simp only [decisionTables, List.mem_cons, List.not_mem_nil, or_false, not_or] at ht
    rw [hsame₃ t (by simp [ht]), hsame₂ t (by simp [ht]), hsame₁ t (by simp [ht])]

theorem insertDecision_ok {env : TxnEnv} {k : Nat} {lease : RuleTaskLease} {runId : Uuid}
    {decision : ApplicabilityDecision} {r : Option (Uuid × Int)} {db db' : Db}
    (h : insertDecision env k lease runId decision db = .ok (r, db')) :
    (r = none → decision.accepted = none) ∧ Decides lease db db' ∧
      SameExcept decisionTables db db' := by
  unfold insertDecision at h
  cases haccepted : decision.accepted with
  | none =>
      rw [haccepted] at h
      obtain ⟨rfl, rfl⟩ := Txn.pure_ok.mp h
      exact ⟨fun _ => rfl, ⟨Or.inl rfl, id, (List.map_id _).symm, fun _ => Or.inl rfl⟩,
        sameExcept_refl _⟩
  | some accepted =>
      rw [haccepted] at h
      dsimp only at h
      rw [Txn.bind_ok] at h
      obtain ⟨inserted, db₁, hrule, h⟩ := h
      obtain ⟨rfl, rfl⟩ := Txn.pure_ok.mp h
      exact ⟨nofun, insertApplicableRule_ok hrule⟩

def searchTables : List Table := .ruleRetrievalRuns :: .ruleCandidates :: decisionTables

def completeRuleTables : List Table := searchTables ++ claimTables

/-- A completed search: its decision, the judgment task it adds and its event. -/
structure Searches [Sha256] (env : TxnEnv) (lease : RuleTaskLease)
    (decision : ApplicabilityDecision) (new : List WorkflowTask) (db db' : Db) : Prop where
  decides : Decides lease db db'
  runs : Appends .ruleRetrievalRuns (fun r => r.reconstructionId = lease.reconstructionId) db db'
  added : (decision.accepted = none ∧ coverageComplete db lease.reconstructionId = false ∧
    new = []) ∨ Added (judgmentTask env 2 lease) (db .workflowTasks) new
  emits : ∃ ruleId sequence, (ruleId = none → decision.accepted = none) ∧
    Emits env lease.invoiceId ⟨.readyForReconstruction, none, 1⟩
      [ruleEvent env 3 (ruleEvaluated lease (env.uuid 0) decision ruleId sequence)] db db'

/-- The run under which a search is stored already. -/
def storedRun (lease : RuleTaskLease) (queryFingerprint : String) (db : Db) :
    Option RuleRetrievalRun :=
  (db .ruleRetrievalRuns).find? fun r =>
    r.reconstructionId = lease.reconstructionId ∧ r.queryFingerprint = queryFingerprint

section Searches

variable [Sha256] {env : TxnEnv} {lease : RuleTaskLease} {queryFingerprint : String}
  {candidates : List RuleCandidate} {decision : ApplicabilityDecision} {r : RuleCompletion}
  {db db' : Db}

/-- A search that is stored already only finishes its task. -/
theorem completeRule_found {run : RuleRetrievalRun}
    (hfind : storedRun lease queryFingerprint db = some run)
    (h : completeRule env lease queryFingerprint candidates decision db = .ok (r, db')) :
    ∃ w, Passes lease.taskId (holdsLease lease.toLeaseKey) w db ∧
      finishTask lease.toLeaseKey db = .ok ((), db') := by
  unfold completeRule at h
  rw [Txn.bind_ok] at h
  obtain ⟨_, db₁, hassert, h⟩ := h
  obtain ⟨rfl, w, hholds⟩ := assertCurrentLease_ok.mp hassert
  rw [Txn.bind_ok] at h
  obtain ⟨existing, db₁, hselect, h⟩ := h
  obtain ⟨hexisting, rfl⟩ := selectRow_ok.mp hselect
  obtain rfl : some run = existing := hfind.symm.trans hexisting
  dsimp only at h
  rw [Txn.bind_ok] at h
  obtain ⟨_, db₁, hfinish, hload⟩ := h
  have hread : db' = db₁ := by
    unfold loadCompletion at hload
    rw [Txn.bind_ok] at hload
    obtain ⟨found, db₂, hrun, hload⟩ := hload
    obtain ⟨_, rfl⟩ := selectRow_ok.mp hrun
    cases found with
    | none => exact (Txn.raise_ok.mp hload).elim
    | some found =>
        rw [Txn.bind_ok] at hload
        obtain ⟨rule, db₂, hrule, hload⟩ := hload
        obtain ⟨_, rfl⟩ := selectRow_ok.mp hrule
        exact (Txn.pure_ok.mp hload).2.symm
  rw [hread]
  exact ⟨w, hholds, hfinish⟩

/-- The steps of a search that is not stored yet. -/
theorem completeRule_new (hfind : storedRun lease queryFingerprint db = none)
    (h : completeRule env lease queryFingerprint candidates decision db = .ok (r, db')) :
    ∃ w rule sequence db₁ db₂ db₃ db₄ db₅ db₆,
      Passes lease.taskId (holdsLease lease.toLeaseKey) w db ∧
      insertRow .ruleRetrievalRuns
        { id := env.uuid 0, invoiceId := lease.invoiceId, reconstructionId := lease.reconstructionId,
          queryFingerprint, candidateCount := candidates.length } db = .ok ((), db₁) ∧
      insertCandidates env 5 (env.uuid 0) candidates decision.candidateValidations db₁ =
        .ok ((), db₂) ∧
      insertDecision env 1 lease (env.uuid 0) decision db₂ = .ok (rule, db₃) ∧
      finishTask lease.toLeaseKey db₃ = .ok ((), db₄) ∧
      Txn.onlyIf (rule.isSome ∨ coverageComplete db₄ lease.reconstructionId)
        (emitTask (judgmentTask env 2 lease)) db₄ = .ok ((), db₅) ∧
      lockInvoiceAndAdvance lease.invoiceId .readyForReconstruction (ruleOutcome decision).1 1 none
        db₅ = .ok (sequence, db₆) ∧
      insertRuleEvent env 3
        (ruleEvaluated lease (env.uuid 0) decision (rule.map Prod.fst) sequence) db₆ =
          .ok ((), db') := by
  unfold completeRule at h
  rw [Txn.bind_ok] at h
  obtain ⟨_, db₁, hassert, h⟩ := h
  obtain ⟨rfl, w, hholds⟩ := assertCurrentLease_ok.mp hassert
  rw [Txn.bind_ok] at h
  obtain ⟨existing, db₁, hselect, h⟩ := h
  obtain ⟨hexisting, rfl⟩ := selectRow_ok.mp hselect
  obtain rfl : none = existing := hfind.symm.trans hexisting
  dsimp only at h
  rw [Txn.bind_ok] at h
  obtain ⟨_, db₁, hrun, h⟩ := h
  rw [Txn.bind_ok] at h
  obtain ⟨_, db₂, hcandidates, h⟩ := h
  rw [Txn.bind_ok] at h
  obtain ⟨rule, db₃, hdecision, h⟩ := h
  rw [Txn.bind_ok] at h
  obtain ⟨_, db₄, hfinish, h⟩ := h
  rw [Txn.bind_ok] at h
  obtain ⟨covered, db₅, hcovered, h⟩ := h
  obtain ⟨rfl, rfl⟩ := Txn.read_ok.mp hcovered
  rw [Txn.bind_ok] at h
  obtain ⟨_, db₅, hemit, h⟩ := h
  rw [Txn.bind_ok] at h
  obtain ⟨sequence, db₆, hlock, h⟩ := h
  rw [Txn.bind_ok] at h
  obtain ⟨_, db₇, hevent, h⟩ := h
  obtain ⟨_, rfl⟩ := Txn.pure_ok.mp h
  exact ⟨w, rule, sequence, db₁, db₂, db₃, db₄, db₅, db₆, hholds, hrun, hcandidates, hdecision,
    hfinish, hemit, hlock, hevent⟩

end Searches

theorem completeRule_ok [Sha256] {env : TxnEnv} {lease : RuleTaskLease} {queryFingerprint : String}
    {candidates : List RuleCandidate} {decision : ApplicabilityDecision} {r : RuleCompletion}
    {db db' : Db}
    (h : completeRule env lease queryFingerprint candidates decision db = .ok (r, db')) :
    SameExcept completeRuleTables db db' ∧ ∃ w new,
      Ends lease.toLeaseKey w .completed new db db' ∧
      ((new = [] ∧ SameExcept taskTables db db' ∧
          ∃ run ∈ db .ruleRetrievalRuns, run.reconstructionId = lease.reconstructionId) ∨
        Searches env lease decision new db db') := by
  cases hfind : storedRun lease queryFingerprint db with
  | some run =>
      obtain ⟨w, hholds, hfinish⟩ := completeRule_found hfind h
      have hsame := (closeTask_ok hfinish).2.2
      have hfound : run.reconstructionId = lease.reconstructionId := by
        have hp := List.find?_some hfind
        simp only [decide_eq_true_eq] at hp
        exact hp.1
      refine ⟨fun t ht => hsame t ?_, w, [], ends_of_close hholds (untouched _)
        hfinish (untouched _) (by decide) (by decide),
        Or.inl ⟨rfl, hsame, run, List.mem_of_find?_eq_some hfind, hfound⟩⟩
      simp only [completeRuleTables, claimTables, List.mem_append, not_or] at ht
      exact ht.2.1
  | none =>
      obtain ⟨w, rule, sequence, db₁, db₂, db₃, db₄, db₅, db₆, hholds, hrun, hcandidates,
        hdecision, hfinish, hemit, hlock, hevent⟩ := completeRule_new hfind h
      obtain ⟨hemits, hsame₆⟩ := emits_one env hlock hevent ⟨rfl, rfl, rfl, rfl⟩
      have hsame₁ : SameExcept [.ruleRetrievalRuns] db db₁ :=
        Schema.writes_insert (by simp) _ _ _ hrun
      have hsame₂ := insertCandidates_writes _ _ _ _ _ _ _ _ hcandidates
      obtain ⟨haccepted, hdecides, hsame₃⟩ := insertDecision_ok hdecision
      have hsame₄ := (closeTask_ok hfinish).2.2
      have hsame₅ : SameExcept [.workflowTasks] db₄ db₅ := by
        rcases Txn.onlyIf_ok.mp hemit with ⟨_, hemit⟩ | ⟨_, rfl⟩
        · exact (emitTask_ok hemit).2
        · exact sameExcept_refl _
      have hbefore : SameExcept searchTables db db₃ := by
        intro t ht
        simp only [searchTables, List.mem_cons, not_or] at ht
        rw [hsame₃ t ht.2.2, hsame₂ t (by simp [ht]), hsame₁ t (by simp [ht])]
      have hsame : SameExcept (searchTables ++ [.workflowTasks, .workflowTaskAttempts]) db db₅ := by
        intro t ht
        simp only [List.mem_append, not_or] at ht
        rw [hsame₅ t (by simp_all), hsame₄ t ht.2, hbefore t ht.1]
      have hcoverage : coverageComplete db₄ lease.reconstructionId =
          coverageComplete db lease.reconstructionId := by
        unfold coverageComplete
        rw [hsame₄ .reconstructions (by decide), hbefore .reconstructions (by decide)]
      have hends : ∃ new, Ends lease.toLeaseKey w .completed new db db' ∧
          ((decision.accepted = none ∧ coverageComplete db lease.reconstructionId = false ∧
            new = []) ∨ Added (judgmentTask env 2 lease) (db .workflowTasks) new) := by
        rcases Txn.onlyIf_ok.mp hemit with ⟨_, hemit⟩ | ⟨hskipped, rfl⟩
        · obtain ⟨new, hends, hadded⟩ := ends_of_emit hholds hbefore hfinish
            (untouched _) hemit hsame₆ (by decide) (by decide) (by decide)
          exact ⟨new, hends, Or.inr hadded⟩
        · rw [not_or, Option.not_isSome_iff_eq_none, Bool.not_eq_true, hcoverage] at hskipped
          exact ⟨[], ends_of_close hholds hbefore hfinish hsame₆ (by decide) (by decide),
            Or.inl ⟨haccepted hskipped.1, hskipped.2, rfl⟩⟩
      obtain ⟨new, hends, hadded⟩ := hends
      have hrules : db' .applicableRules = db₃ .applicableRules := by
        rw [hsame₆ .applicableRules (by decide), hsame₅ .applicableRules (by decide),
          hsame₄ .applicableRules (by decide)]
      refine ⟨?_, w, new, hends,
        Or.inr ⟨⟨?_, ?_⟩, ?_, hadded, rule.map Prod.fst, sequence, ?_, ?_⟩⟩
      · intro t ht
        simp only [completeRuleTables, claimTables, List.mem_append, not_or] at ht
        rw [hsame₆ t ht.2.2, hsame t (List.mem_append.not.mpr (not_or.mpr ⟨ht.1, ht.2.1⟩))]
      · have hadds := hdecides.rules
        rwa [hsame₂ .applicableRules (by decide), hsame₁ .applicableRules (by decide),
          ← hrules] at hadds
      · obtain ⟨f, hdays, hf⟩ := hdecides.days
        rw [← hrules] at hf
        refine ⟨f, ?_, hf⟩
        rw [hsame₆ .chargedDays (by decide), hsame₅ .chargedDays (by decide),
          hsame₄ .chargedDays (by decide), hdays, hsame₂ .chargedDays (by decide),
          hsame₁ .chargedDays (by decide)]
      · have hruns : Appends .ruleRetrievalRuns
            (fun r => r.reconstructionId = lease.reconstructionId) db db₁ :=
          appends_insert (P := fun r => r.reconstructionId = lease.reconstructionId) rfl _ _ _ hrun
        obtain ⟨rows, hrows, hreconstruction⟩ := hruns
        refine ⟨rows, ?_, hreconstruction⟩
        rw [hsame₆ .ruleRetrievalRuns (by decide), hsame₅ .ruleRetrievalRuns (by decide),
          hsame₄ .ruleRetrievalRuns (by decide), hsame₃ .ruleRetrievalRuns (by decide),
          hsame₂ .ruleRetrievalRuns (by decide), hrows]
      · intro hnone
        exact haccepted (Option.map_eq_none_iff.mp hnone)
      · exact hemits.within hsame (untouched _) (by decide) (by decide)

theorem failRule_ok {env : TxnEnv} {lease : RuleTaskLease} {errorCode : String}
    {retryable : Bool} {r : TaskState} {db db' : Db}
    (h : failRule env lease errorCode retryable db = .ok (r, db')) :
    SameExcept claimTables db db' ∧ ∃ w sequence, Ends lease.toLeaseKey w r [] db db' ∧
      ((r = .retryWait ∧ lease.attempt < maxAutomaticAttempts) ∨ r = .blocked) ∧
      Emits env lease.invoiceId ⟨.readyForReconstruction, none, 1⟩
        [ruleEvent env 0 (ruleSearchFailed lease errorCode (willRetry lease.toLeaseKey retryable)
          r sequence)] db db' := by
  unfold failRule at h
  rw [Txn.bind_ok] at h
  obtain ⟨_, db₁, hassert, h⟩ := h
  obtain ⟨rfl, w, hholds⟩ := assertCurrentLease_ok.mp hassert
  rw [Txn.bind_ok] at h
  obtain ⟨state, db₁, hfail, h⟩ := h
  obtain ⟨hstate, notBefore, _, hclose⟩ := failTask_ok hfail
  rw [Txn.bind_ok] at h
  obtain ⟨sequence, db₂, hlock, h⟩ := h
  rw [Txn.bind_ok] at h
  obtain ⟨_, db₃, hevent, h⟩ := h
  obtain ⟨rfl, rfl⟩ := Txn.pure_ok.mp h
  obtain ⟨hsame, hends, hemits⟩ :=
    ends_published env hholds hclose hlock hevent ⟨rfl, rfl, rfl, rfl⟩
  refine ⟨hsame, w, sequence, hends, ?_, hemits⟩
  exact failTask_state hstate

end Tally.Analysis.Effects
